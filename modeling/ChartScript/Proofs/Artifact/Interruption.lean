import ChartScript.Proofs.Artifact.Commit
import ChartScript.Proofs.Artifact.Draft
/-!
# Commits that a sink interrupts

A sink may refuse an operation of a commit. What was done before stays done, and the rest is not
tried: after a refused removal the kinds before it are cleared, and after a refused write the
instance has lost all its old artifacts, and shows those of the new ones that came before. In the
second case its record is empty as well. So the chart is as it was only if nothing was there to
be lost and nothing new was drawn, or if what was drawn happens to be what was there.
-/

namespace ChartScript.Artifact

variable {κ σ : Type}

/-- What is shown by a sink of any kind: its operations do what they say, or are refused and
change nothing. -/
structure Backs (ops : SinkOps σ) (shown : σ → Key → Option Content) : Prop where
  /-- The artifacts of a kind under a prefix are removed, and no others. -/
  clears : ∀ kind start s t n, ops.clearPrefix kind start s = .ok (t, n) → ∀ k,
    shown t k = if k.kind = kind ∧ startsWith start k.id = true then none else shown s k
  /-- An artifact is written in place of an earlier one under its key, and no other. -/
  writes : ∀ key content s t, ops.write key content s = .ok t → ∀ k,
    shown t k = if k = key then some content else shown s k

/-- The sink in memory shows what is found in it. -/
theorem backs_memory : Backs Sink.ops Sink.get? := by
  constructor
  · intro kind start s t n h k
    cases h
    exact Sink.get?_clearPrefix s kind start k
  · intro key content s t h k
    cases h
    exact Sink.get?_write s key k content

/-- Whether an instance shows the artifacts that it showed before, and has the same ids on record. -/
structure AsBefore (shown : σ → Key → Option Content) (i : String) (g after : Gallery κ σ) : Prop where
  /-- The same artifacts are shown under its prefix. -/
  sink : ∀ k, startsWith (ownPrefix i) k.id = true → shown after.sink k = shown g.sink k
  /-- The same ids are on record. -/
  registry : (after.registry.get? i).map Record.artifacts = (g.registry.get? i).map Record.artifacts

section AsBefore

variable {shown : σ → Key → Option Content} {i : String} {g after : Gallery κ σ}

/-- A refused removal leaves everything as before exactly if nothing was there of the kinds that
come first. -/
theorem asBefore_clearing_iff {done : List Plot.Kind}
    (hsink : ∀ k, shown after.sink k =
      if k.kind ∈ done ∧ startsWith (ownPrefix i) k.id = true then none else shown g.sink k)
    (hregistry : after.registry = g.registry) :
    AsBefore shown i g after ↔
      ∀ k, k.kind ∈ done → startsWith (ownPrefix i) k.id = true → shown g.sink k = none := by
  constructor
  · intro h k hk hs
    rw [← h.sink k hs, hsink, if_pos ⟨hk, hs⟩]
  · intro h
    refine ⟨fun k hs => ?_, by rw [hregistry]⟩
    rw [hsink]
    split
    · rename_i hcleared
      exact (h k hcleared.1 hs).symm
    · rfl

/-- A refused write leaves everything as before exactly if what was drawn until then is all that was
there, and no ids were on record. -/
theorem asBefore_drawing_iff {drawn : List (Key × Content)}
    (hsink : ∀ k, shown after.sink k =
      if startsWith (ownPrefix i) k.id = true then Assoc.get? drawn k else shown g.sink k)
    (hregistry : ∀ j, after.registry.get? j =
      if j = i then (g.registry.get? j).map fun r => { r with artifacts := [] }
      else g.registry.get? j) :
    AsBefore shown i g after ↔
      (∀ k, startsWith (ownPrefix i) k.id = true → Assoc.get? drawn k = shown g.sink k) ∧
        ∀ r, g.registry.get? i = some r → r.artifacts = [] := by
  have hrecord : (after.registry.get? i).map Record.artifacts =
      (g.registry.get? i).map fun _ => [] := by
    rw [hregistry i, if_pos rfl, Option.map_map]
    rfl
  constructor
  · intro h
    refine ⟨fun k hs => ?_, fun r hr => ?_⟩
    · rw [← h.sink k hs, hsink, if_pos hs]
    · have hsame := h.registry
      rw [hrecord, hr] at hsame
      exact (Option.some.inj hsame).symm
  · rintro ⟨hdrawn, hempty⟩
    refine ⟨fun k hs => ?_, ?_⟩
    · rw [hsink, if_pos hs, hdrawn k hs]
    · rw [hrecord]
      cases hr : g.registry.get? i with
      | none => rfl
      | some r => exact congrArg some (hempty r hr).symm

end AsBefore

/-- What a commit that was refused by the sink leaves, and when this is what was there before. -/
inductive Interrupted (ops : SinkOps σ) (shown : σ → Key → Option Content) (stage : Stage) (f : Failure)
    (g after : Gallery κ σ) : Prop where
  /-- The removal of a kind was refused: the kinds before it have lost their artifacts, and the
  record is as it was. -/
  | clearing (done : List Plot.Kind) (kind : Plot.Kind) (rest : List Plot.Kind)
      (split : Plot.Kind.all = done ++ kind :: rest)
      (refused : ops.clearPrefix kind (ownPrefix stage.instanceId) after.sink = .error f)
      (sink : ∀ k, shown after.sink k =
        if k.kind ∈ done ∧ startsWith (ownPrefix stage.instanceId) k.id = true then none
        else shown g.sink k)
      (registry : after.registry = g.registry)
      (asBefore : AsBefore shown stage.instanceId g after ↔ ∀ k, k.kind ∈ done →
        startsWith (ownPrefix stage.instanceId) k.id = true → shown g.sink k = none)
  /-- A write was refused: the writes before it are all that the instance has left, and its record
  is empty. -/
  | drawing (drawn : List (Key × Content)) (write : Key × Content) (rest : List (Key × Content))
      (split : stage.writes = drawn ++ write :: rest)
      (refused : ops.write write.1 write.2 after.sink = .error f)
      (sink : ∀ k, shown after.sink k =
        if startsWith (ownPrefix stage.instanceId) k.id = true then Assoc.get? drawn k
        else shown g.sink k)
      (registry : ∀ j, after.registry.get? j =
        if j = stage.instanceId then (g.registry.get? j).map fun r => { r with artifacts := [] }
        else g.registry.get? j)
      (asBefore : AsBefore shown stage.instanceId g after ↔
        (∀ k, startsWith (ownPrefix stage.instanceId) k.id = true →
          Assoc.get? drawn k = shown g.sink k) ∧
          ∀ r, g.registry.get? stage.instanceId = some r → r.artifacts = [])

section Parts

variable {ops : SinkOps σ} {shown : σ → Key → Option Content}

/-- Removals go through the kinds in order: those that were done have cleared their kinds, and one
that was refused was the last to be tried. -/
theorem Backs.clearKinds (hb : Backs ops shown) {start : String} {kinds : List Plot.Kind} {s t : σ}
    {count : Nat} {result : Except Failure Nat}
    (h : Gallery.clearKinds ops start kinds s count = (t, result)) :
    ∃ done rest, kinds = done ++ rest ∧
      (∀ k, shown t k = if k.kind ∈ done ∧ startsWith start k.id = true then none else shown s k) ∧
        (∀ n, result = .ok n → rest = []) ∧
          ∀ f, result = .error f →
            ∃ kind more, rest = kind :: more ∧ ops.clearPrefix kind start t = .error f := by
  induction kinds generalizing s count with
  | nil =>
    cases h
    exact ⟨[], [], rfl, fun k => by simp, fun _ _ => rfl, nofun⟩
  | cons kind kinds ih =>
    unfold Gallery.clearKinds at h
    cases hclear : ops.clearPrefix kind start s with
    | error f =>
      rw [hclear] at h
      cases h
      refine ⟨[], kind :: kinds, rfl, fun k => by simp, nofun, fun g hg => ?_⟩
      cases hg
      exact ⟨kind, kinds, rfl, hclear⟩
    | ok cleared =>
      obtain ⟨next, removed⟩ := cleared
      rw [hclear] at h
      obtain ⟨done, rest, hsplit, hshown, hresult⟩ := ih h
      refine ⟨kind :: done, rest, by rw [hsplit]; rfl, fun k => ?_, hresult⟩
      rw [hshown, hb.clears _ _ _ _ _ hclear]
      by_cases hs : startsWith start k.id = true
      · by_cases hk : k.kind = kind <;> by_cases hd : k.kind ∈ done <;> simp [hs, hk, hd]
      · simp [hs]

/-- Writes that were refused stopped at one of them, with those before it drawn. -/
theorem Backs.writeAll_error (hb : Backs ops shown) {writes : List (Key × Content)}
    (hn : (Assoc.keys writes).Nodup) {s t : σ} {f : Failure}
    (h : Gallery.writeAll ops writes s = (t, .error f)) :
    ∃ drawn write rest, writes = drawn ++ write :: rest ∧ ops.write write.1 write.2 t = .error f ∧
      ∀ k, shown t k = (Assoc.get? drawn k).or (shown s k) := by
  induction writes generalizing s with
  | nil => cases h
  | cons w rest ih =>
    unfold Gallery.writeAll at h
    cases hwrite : ops.write w.1 w.2 s with
    | error g =>
      rw [hwrite] at h
      cases h
      exact ⟨[], w, rest, rfl, hwrite, fun k => rfl⟩
    | ok next =>
      rw [hwrite] at h
      obtain ⟨hnew, hrest⟩ := List.nodup_cons.mp hn
      obtain ⟨drawn, write, more, hsplit, hrefused, hshown⟩ := ih hrest h
      refine ⟨w :: drawn, write, more, by rw [hsplit]; rfl, hrefused, fun k => ?_⟩
      rw [hshown, hb.writes _ _ _ _ hwrite, Assoc.get?_cons]
      by_cases hk : k = w.1
      · subst hk
        have hdrawn : Assoc.get? drawn w.1 = none := by
          refine (Assoc.get?_eq_none_iff _ _).mpr fun hmem => hnew ?_
          change w.1 ∈ Assoc.keys rest
          rw [hsplit, Assoc.keys_append]
          exact List.mem_append_left _ hmem
        rw [hdrawn, if_pos rfl, if_pos rfl]
        rfl
      · rw [if_neg hk, if_neg (Ne.symm hk)]

end Parts

/-- A clear that is refused leaves the record as it is. -/
theorem Backs.clear_error {ops : SinkOps σ} {shown : σ → Key → Option Content} (hb : Backs ops shown)
    {g after : Gallery κ σ} {i : String} {f : Failure} (h : g.clear ops i = (after, .error f)) :
    ∃ done kind rest, Plot.Kind.all = done ++ kind :: rest ∧
      ops.clearPrefix kind (ownPrefix i) after.sink = .error f ∧
        (∀ k, shown after.sink k =
          if k.kind ∈ done ∧ startsWith (ownPrefix i) k.id = true then none else shown g.sink k) ∧
          after.registry = g.registry := by
  unfold Gallery.clear at h
  split at h
  · rename_i hclear
    cases h
    obtain ⟨done, left, hsplit, hshown, -, herror⟩ := hb.clearKinds hclear
    obtain ⟨kind, rest, rfl, hrefused⟩ := herror f rfl
    exact ⟨done, kind, rest, hsplit, hrefused, hshown, rfl⟩
  · cases h

/-- A clear that is done takes everything under the prefix, and empties the record. -/
theorem Backs.clear_ok {ops : SinkOps σ} {shown : σ → Key → Option Content} (hb : Backs ops shown)
    {g after : Gallery κ σ} {i : String} {n : Nat} (h : g.clear ops i = (after, .ok n)) :
    (∀ k, shown after.sink k =
      if startsWith (ownPrefix i) k.id = true then none else shown g.sink k) ∧
      after.registry = g.registry.modify i fun r => { r with artifacts := [] } := by
  unfold Gallery.clear at h
  split at h
  · cases h
  · rename_i hclear
    cases h
    obtain ⟨done, left, hsplit, hshown, hok, -⟩ := hb.clearKinds hclear
    rw [hok n rfl, List.append_nil] at hsplit
    subst hsplit
    refine ⟨fun k => ?_, rfl⟩
    rw [hshown]
    simp [Plot.Kind.mem_all]

/-- Writes under a prefix that has nothing left: what is shown there is what was drawn, and outside
of it nothing has changed. -/
theorem shown_drawn {shown : σ → Key → Option Content} {start : String} {drawn : List (Key × Content)}
    (howned : ∀ k ∈ Assoc.keys drawn, startsWith start k.id = true) {s emptied t : σ}
    (hemptied : ∀ k, shown emptied k = if startsWith start k.id = true then none else shown s k)
    (hdrawn : ∀ k, shown t k = (Assoc.get? drawn k).or (shown emptied k)) (k : Key) :
    shown t k = if startsWith start k.id = true then Assoc.get? drawn k else shown s k := by
  rw [hdrawn, hemptied]
  by_cases hk : startsWith start k.id = true
  · rw [if_pos hk, if_pos hk, Option.or_none]
  · have hforeign : Assoc.get? drawn k = none :=
      (Assoc.get?_eq_none_iff _ _).mpr fun hmem => hk (howned k hmem)
    rw [if_neg hk, if_neg hk, hforeign, Option.none_or]

/-- A commit that the sink interrupts leaves the stage as it is, and the chart cleared in part or
drawn in part. -/
theorem interrupted_of_commit [DecidableEq κ] {ops : SinkOps σ} {shown : σ → Key → Option Content}
    (hb : Backs ops shown) {g after : Gallery κ σ} {stage left : Stage} {owner : Option κ} {f : Failure}
    {i : String} (hstage : stage.IsOf i) (h : g.commit ops stage owner = (after, left, .error f)) :
    left = stage ∧ Interrupted ops shown stage f g after := by
  unfold Gallery.commit at h
  split at h
  · split at h
    · rename_i cleared e hclear
      cases h
      obtain ⟨done, kind, rest, hsplit, hrefused, hshown, hregistry⟩ := hb.clear_error hclear
      exact ⟨rfl, .clearing done kind rest hsplit hrefused hshown hregistry
        (asBefore_clearing_iff hshown hregistry)⟩
    · rename_i cleared n hclear
      obtain ⟨hcleared, hregistry⟩ := hb.clear_ok hclear
      split at h
      · rename_i sink e hwrites
        cases h
        obtain ⟨drawn, write, rest, hsplit, hrefused, hshown⟩ := hb.writeAll_error hstage.distinct hwrites
        have howned : ∀ k ∈ Assoc.keys drawn, startsWith (ownPrefix stage.instanceId) k.id = true := by
          intro k hmem
          rw [hstage.instanceId_eq]
          refine hstage.owned k ?_
          rw [hsplit, Assoc.keys_append]
          exact List.mem_append_left _ hmem
        have hsink := shown_drawn howned hcleared hshown
        have hrecords : ∀ j, cleared.registry.get? j =
            if j = stage.instanceId then (g.registry.get? j).map fun r => { r with artifacts := [] }
            else g.registry.get? j := by
          intro j
          rw [hregistry, Registry.get?_modify]
          by_cases hj : j = stage.instanceId
          · rw [if_pos hj, if_pos hj, hj]
          · rw [if_neg hj, if_neg hj]
        exact ⟨rfl, .drawing drawn write rest hsplit hrefused hsink hrecords
          (asBefore_drawing_iff hsink hrecords)⟩
      · cases h
  · cases h

end ChartScript.Artifact
