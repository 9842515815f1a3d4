import Mathlib.Data.List.Induction
import ChartScript.Artifact.Stage
import ChartScript.Message.Call
import ChartScript.Proofs.Data.Assoc
/-!
# Drafts

A plot as a run asks for it, before an instance keeps it. A list of drafts says which
content every key ends with, namely that of the last draft under the key. Staging the
drafts one by one keeps exactly these contents, in the order of the last drafts, and
leaves a stage whose keys are distinct and belong to its instance.
-/

namespace ChartScript.Artifact

/-- A plot under the id that the script names. -/
structure Draft where
  /-- The kind of the plot. -/
  kind : Plot.Kind
  /-- The id as the script names it. -/
  id : String
  /-- What is drawn, with its options. -/
  content : Content

namespace Draft

/-- The draft of a decoded call, if it is a plot. -/
def ofCall? : Message.Call → Option Draft
  | .plot id options drawing => some ⟨drawing.kind, id, ⟨drawing.payload, options⟩⟩
  | _ => none

/-- The draft that a method and its parameters ask for, if they decode to a plot. -/
def decode? (method : String) (params : List (String × Wire)) : Option Draft :=
  match Message.Call.decode method params with
  | .ok call => ofCall? call
  | .error _ => none

/-- The key under which an instance keeps a draft. -/
def key (instanceId : String) (d : Draft) : Key := ⟨d.kind, qualify instanceId d.id⟩

/-- The content of the last draft under a key. -/
def last? (instanceId : String) (drafts : List Draft) (k : Key) : Option Content :=
  (drafts.reverse.find? fun d => decide (d.key instanceId = k)).map Draft.content

/-- The keys of some drafts, each once, in the order of the last drafts under them. -/
def keys (instanceId : String) (drafts : List Draft) : List Key :=
  (drafts.map (key instanceId)).dedup

/-- The writes of a stage that drafts were put into one by one. -/
def staged (instanceId : String) (drafts : List Draft) : List (Key × Content) :=
  drafts.foldl (fun writes d => Assoc.putLast writes (d.key instanceId) d.content) []

variable (instanceId : String)

/-- The keys of an instance begin with its prefix. -/
theorem startsWith_key (d : Draft) :
    startsWith (ownPrefix instanceId) (d.key instanceId).id = true :=
  startsWith_qualify instanceId d.id

/-- One more draft is put last. -/
theorem staged_concat (drafts : List Draft) (d : Draft) :
    staged instanceId (drafts ++ [d]) =
      Assoc.putLast (staged instanceId drafts) (d.key instanceId) d.content := by
  simp [staged]

/-- One more draft decides the content of its key. -/
theorem last?_concat (drafts : List Draft) (d : Draft) (k : Key) :
    last? instanceId (drafts ++ [d]) k =
      if k = d.key instanceId then some d.content else last? instanceId drafts k := by
  unfold last?
  rw [List.reverse_concat, List.find?_cons]
  by_cases h : d.key instanceId = k
  · simp [h]
  · have hk : ¬k = d.key instanceId := fun he => h he.symm
    simp [h, hk]

/-- Staging keeps the content of the last draft under every key. -/
theorem get?_staged (drafts : List Draft) (k : Key) :
    Assoc.get? (staged instanceId drafts) k = last? instanceId drafts k := by
  induction drafts using List.reverseRecOn with
  | nil => rfl
  | append_singleton drafts d ih => rw [staged_concat, Assoc.get?_putLast, last?_concat, ih]

/-- One more element takes the place of its earlier occurrences. -/
theorem dedup_concat {α : Type} [DecidableEq α] (l : List α) (a : α) :
    (l ++ [a]).dedup = l.dedup.filter (fun x => decide (x ≠ a)) ++ [a] := by
  induction l with
  | nil => simp
  | cons b l ih =>
    rw [List.cons_append]
    by_cases hb : b ∈ l ++ [a]
    · rw [List.dedup_cons_of_mem hb, ih]
      by_cases hl : b ∈ l
      · rw [List.dedup_cons_of_mem hl]
      · have hba : b = a := by simpa [hl] using hb
        rw [List.dedup_cons_of_notMem hl, List.filter_cons]
        simp [hba]
    · have hl : b ∉ l := fun h => hb (List.mem_append_left _ h)
      have hba : b ≠ a := fun h => hb (List.mem_append_right _ (List.mem_singleton.mpr h))
      rw [List.dedup_cons_of_notMem hb, List.dedup_cons_of_notMem hl, ih, List.filter_cons]
      simp [hba]

/-- Staging lists the keys in the order of the last drafts under them. -/
theorem keys_staged (drafts : List Draft) :
    Assoc.keys (staged instanceId drafts) = keys instanceId drafts := by
  induction drafts using List.reverseRecOn with
  | nil => rfl
  | append_singleton drafts d ih =>
    rw [staged_concat, Assoc.keys_putLast, ih, keys, keys, List.map_append, List.map_singleton,
      dedup_concat]

/-- No key of a stage occurs twice. -/
theorem keys_nodup (drafts : List Draft) : (keys instanceId drafts).Nodup := List.nodup_dedup _

/-- Every key of a stage is that of a draft. -/
theorem mem_keys_iff (drafts : List Draft) (k : Key) :
    k ∈ keys instanceId drafts ↔ ∃ d ∈ drafts, d.key instanceId = k := by
  simp [keys]

/-- A key has a content exactly when some draft has it. -/
theorem isSome_last?_iff (drafts : List Draft) (k : Key) :
    (last? instanceId drafts k).isSome = true ↔ k ∈ keys instanceId drafts := by
  rw [← get?_staged, Assoc.isSome_get?_iff, keys_staged]

/-- An id outside the prefix of the instance has no content. -/
theorem last?_of_not_startsWith {drafts : List Draft} {k : Key}
    (h : startsWith (ownPrefix instanceId) k.id = false) : last? instanceId drafts k = none := by
  rw [← Option.not_isSome_iff_eq_none, isSome_last?_iff, mem_keys_iff]
  rintro ⟨d, -, rfl⟩
  rw [startsWith_key] at h
  cases h

/-- A request to draw an empty line under an id. -/
def lineRequest (id : String) : Message.Request :=
  ⟨"1", "plot:line", Message.plotParams .line (.text id) (.list []) (.object [])⟩

/-- Parameters that pass the check of their capability decode to what it makes of them. -/
theorem decode_of_check {method : String} {params : List (String × Wire)}
    {capability : Message.Capability} {call : Message.Call}
    (hm : Message.Capability.ofMethod? method = some capability)
    (hc : capability.check ⟨Assoc.put params "method" (.text method)⟩ = .valid call) :
    Message.Call.decode method params = .ok call := by
  unfold Message.Call.decode
  rw [hm]
  dsimp only
  rw [hc]

/-- The request for a line under an id that is not empty decodes to the line. -/
theorem decode_lineRequest {id : String} (hid : id.isEmpty = false) :
    Message.Call.decode (lineRequest id).method (lineRequest id).params =
      .ok (.plot id [] (.line [])) := by
  have htext : Schema.ensuring Schema.text (fun s => !s.isEmpty) (.tooShort 1) (.text id) =
      .valid id := by
    simp [Schema.ensuring, Schema.text, Schema.Checked.ensure, hid]
  have hcheck : Message.Capability.check (.plot .line)
      ⟨Assoc.put (lineRequest id).params "method" (.text "plot:line")⟩ =
        ((((Schema.ensuring Schema.text (fun s => !s.isEmpty) (.tooShort 1) (.text id)).under
          (.field "id")).map Message.Call.plot).ap (.valid [])).ap (.valid (.line [])) := rfl
  rw [htext] at hcheck
  have hmethod : Message.Capability.ofMethod? "plot:line" = some (.plot .line) := by decide
  exact decode_of_check hmethod hcheck

end Draft

/-- A stage of an instance as puts leave it. -/
structure Stage.IsOf (instanceId : String) (stage : Stage) : Prop where
  /-- It belongs to the instance. -/
  instanceId_eq : stage.instanceId = instanceId
  /-- Its ids begin with the prefix of the instance. -/
  owned : ∀ k ∈ Assoc.keys stage.writes, startsWith (ownPrefix instanceId) k.id = true
  /-- No key occurs twice. -/
  distinct : (Assoc.keys stage.writes).Nodup

namespace Stage

variable {i : String} {stage : Stage}

/-- A new stage has no writes. -/
theorem isOf_forInstance (i : String) : (forInstance i).IsOf i :=
  ⟨rfl, fun _ h => absurd h List.not_mem_nil, List.nodup_nil⟩

/-- A closed stage has no writes. -/
theorem IsOf.discard (h : stage.IsOf i) : stage.discard.IsOf i :=
  ⟨h.instanceId_eq, fun _ hk => absurd hk List.not_mem_nil, List.nodup_nil⟩

/-- The stage with one more draft. -/
def add (stage : Stage) (d : Draft) : Stage :=
  { stage with writes := Assoc.putLast stage.writes (d.key stage.instanceId) d.content }

/-- A put to an open stage adds a draft. -/
theorem put_of_isOpen (stage : Stage) (ho : stage.isOpen = true) (d : Draft) :
    stage.put d.kind d.id d.content = .ok (stage.add d, (d.key stage.instanceId).id) := by
  unfold put
  rw [if_pos ho]
  rfl

/-- A put to a closed stage is refused. -/
theorem put_of_closed (stage : Stage) (hc : stage.isOpen = false) (kind : Plot.Kind) (id : String)
    (content : Content) : stage.put kind id content = .error closedFailure := by
  unfold put
  rw [hc]
  rfl

/-- One more draft leaves a stage of the instance. -/
theorem IsOf.add (h : stage.IsOf i) (d : Draft) : (stage.add d).IsOf i := by
  have hk : Assoc.keys (stage.add d).writes =
      (Assoc.keys stage.writes).filter (fun k => decide (k ≠ d.key stage.instanceId)) ++
        [d.key stage.instanceId] := Assoc.keys_putLast _ _ _
  refine ⟨h.instanceId_eq, ?_, ?_⟩
  · rw [hk]
    intro k hm
    rcases List.mem_append.mp hm with hm | hm
    · exact h.owned k (List.mem_of_mem_filter hm)
    · rw [List.mem_singleton.mp hm, h.instanceId_eq]
      exact Draft.startsWith_key i d
  · rw [hk, List.nodup_append]
    refine ⟨h.distinct.filter _, List.nodup_singleton _, ?_⟩
    rintro k hm l hl rfl
    rw [List.mem_singleton.mp hl] at hm
    simp at hm

/-- The stage after a draft, if there is one, is put: only an open stage takes it. -/
def offered (stage : Stage) (draft : Option Draft) : Stage :=
  match draft with
  | some d => if stage.isOpen then stage.add d else stage
  | none => stage

@[simp] theorem offered_none (stage : Stage) : stage.offered none = stage := rfl

/-- A closed stage takes nothing. -/
theorem offered_of_closed (hc : stage.isOpen = false) (draft : Option Draft) :
    stage.offered draft = stage := by
  cases draft with
  | none => rfl
  | some d => simp [offered, hc]

@[simp] theorem isOpen_offered (stage : Stage) (draft : Option Draft) :
    (stage.offered draft).isOpen = stage.isOpen := by
  cases draft with
  | none => rfl
  | some d =>
    unfold offered
    dsimp only
    split <;> rfl

/-- An offer leaves a stage of the instance. -/
theorem IsOf.offered (h : stage.IsOf i) (draft : Option Draft) : (stage.offered draft).IsOf i := by
  cases draft with
  | none => exact h
  | some d =>
    unfold Stage.offered
    dsimp only
    split
    · exact h.add d
    · exact h

/-- The ids of a stage begin with the prefix of its instance. -/
theorem IsOf.startsWith_of_mem_ids (h : stage.IsOf i) {id : String} (hm : id ∈ stage.ids) :
    startsWith (ownPrefix i) id = true := by
  obtain ⟨w, hw, rfl⟩ := List.mem_map.mp hm
  exact h.owned w.1 (List.mem_map_of_mem hw)

end Stage

end ChartScript.Artifact
