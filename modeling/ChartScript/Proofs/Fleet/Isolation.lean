import ChartScript.Proofs.Fleet.Chronicle
/-!
# Isolation of instances

What belongs to one instance touches only what lies under its prefix. This isolates two
instances from each other exactly when they are apart: neither removes what the other one
stored, they write no common id, and neither is shown what the other one stored. The name
of an instance may contain the separator, so that distinct instances need not be apart.
-/

namespace ChartScript

open Artifact (Sink SinkOps Stage Draft Key Content Gallery Registry Apart ownPrefix qualify
  startsWith startsWith_iff)
open Context (Scene)

namespace Fleet

variable {σ : Type}

/-- A fleet with the sink in memory that a run leads to. -/
inductive Reachable : Fleet Sink → Prop where
  /-- The fleet before the first context. -/
  | empty (console : Option Console) (defaultTimeoutMs : Int) :
    Reachable (.empty .empty console defaultTimeoutMs)
  /-- The fleet after one more event. -/
  | step {f : Fleet Sink} (h : Reachable f) (hasAttachments : Bool) (now : Nat) (e : Event) :
    Reachable (Fleet.step Sink.ops hasAttachments now f e)

/-- Every fleet that a run leads to is sound. -/
theorem Reachable.sound {f : Fleet Sink} (h : f.Reachable) : f.Sound := by
  induction h with
  | empty console defaultTimeoutMs => exact sound_empty _ console defaultTimeoutMs
  | step _ hasAttachments now e ih => exact ih.step Sink.ops hasAttachments now e

/-- A run goes on from where another one led to. -/
theorem Reachable.run {f : Fleet Sink} (h : f.Reachable) (hasAttachments : Bool)
    (events : List (Nat × Event)) : (Fleet.run Sink.ops hasAttachments f events).Reachable := by
  induction events generalizing f with
  | nil => exact h
  | cons e rest ih => exact ih (h.step hasAttachments e.1 e.2)

/-- Whether an event is one of an instance. -/
def Event.belongsTo (f : Fleet σ) (i : String) : Event → Prop
  | .start j _ => j = i
  | .terminate j _ => j = i
  | .remove j => j = i
  | .shutdown => False
  | .context n _ => ∃ c, f.contexts[n]? = some c ∧ c.instanceId = i

/-- An artifact lies in the sink that a completed run of an instance lists. -/
def Stored (f : Fleet Sink) (i : String) (k : Key) (content : Content) : Prop :=
  f.gallery.sink.get? k = some content ∧ ∃ (n : Nat) (c : Context) (o : Run.Outcome),
    f.contexts[n]? = some c ∧ c.instanceId = i ∧ c.outcome = some o ∧ o.status = .completed ∧
      k.id ∈ o.artifacts

/-- A run of an instance has written under an id: it is staged or listed. -/
def Writes (f : Fleet σ) (i id : String) : Prop :=
  ∃ (n : Nat) (c : Context), f.contexts[n]? = some c ∧ c.instanceId = i ∧
    (id ∈ c.stage.ids ∨ ∃ o, c.outcome = some o ∧ id ∈ o.artifacts)

/-- No event of one instance changes what the completed runs of another one stored. -/
def KeepsOthers (i j : String) : Prop :=
  ∀ f, Reachable f → ∀ (hasAttachments : Bool) (now : Nat) (e : Event), e.belongsTo f i →
    ∀ k content, f.Stored j k content →
      (step Sink.ops hasAttachments now f e).gallery.sink.get? k = some content

/-- No run of one instance writes under an id under which a run of another one does. -/
def NeverCollides (i j : String) : Prop :=
  ∀ f, Reachable f → ∀ id, f.Writes i id → ¬f.Writes j id

/-- The artifacts that are shown of a registered instance are none of those that another one
stored. -/
def NeverShows (i j : String) : Prop :=
  ∀ f, Reachable f → f.registry.has i = true → ∀ kind entries,
    (kind, entries) ∈ f.gallery.sink.snapshot (ownPrefix i) →
      ∀ e ∈ entries, ¬f.Stored j ⟨kind, e.1⟩ e.2

section Frame

variable {f : Fleet Sink} {i : String} {k : Key}

/-- A successful end of a run touches only what lies under the prefix of its instance. -/
theorem Sound.get?_complete (h : f.Sound) (now : Nat) {n : Nat} {c : Context}
    (hc : f.contexts[n]? = some c) (ho : c.outcome = none)
    (hk : startsWith (ownPrefix c.instanceId) k.id = false) :
    (Context.complete Sink.ops (f.scene now n c)).gallery.sink.get? k = f.gallery.sink.get? k := by
  have hs := h.contexts n c hc
  have hout : Assoc.get? c.stage.writes k = none := by
    rw [Assoc.get?_eq_none_iff]
    intro hm
    rw [hs.stage.owned k hm] at hk
    cases hk
  obtain ⟨hsink, -, -⟩ :=
    Context.complete_memory (s := f.scene now n c) hs.begun ho (h.mayCommit hc ho)
  rw [hsink]
  change ((f.gallery.sink.without (ownPrefix c.stage.instanceId) _).withAll c.stage.writes).get? k = _
  rw [Sink.get?_withAll _ hs.stage.distinct, Sink.get?_without_all, hs.stage.instanceId_eq, hout, hk,
    if_neg Bool.false_ne_true, Option.none_or]

/-- Every event of an instance touches only what lies under its prefix. -/
theorem Sound.get?_step (h : f.Sound) (hasAttachments : Bool) (now : Nat) {e : Event}
    (he : e.belongsTo f i) (hk : startsWith (ownPrefix i) k.id = false) :
    (Fleet.step Sink.ops hasAttachments now f e).gallery.sink.get? k = f.gallery.sink.get? k := by
  cases e with
  | start j spec =>
    have hretire : (f.retire now j).gallery = (f.register j).gallery :=
      (h.register j).stop_gallery now j supersededText
    have hsink : ((f.retire now j).enlist j spec).gallery.sink = f.gallery.sink := by
      change (f.retire now j).gallery.sink = f.gallery.sink
      rw [hretire]
      rfl
    unfold Fleet.step
    dsimp only
    rw [start_fst, hsink]
  | terminate j reason =>
    unfold Fleet.step
    dsimp only
    rw [terminate_fst, h.stop_gallery]
  | remove j =>
    cases he
    unfold Fleet.step
    dsimp only
    cases hi : f.registry.has i with
    | true =>
      rw [remove_memory f now hi]
      change ((f.stop now i removedText).gallery.sink.without _ _).get? k = _
      rw [Sink.get?_without_all, hk, if_neg Bool.false_ne_true, h.stop_gallery]
    | false => rw [remove_of_not_has f now hi]
  | shutdown => exact absurd he id
  | context n e =>
    obtain ⟨c, hc, rfl⟩ := he
    have hs : Context.Sound (f.scene now n c).context := h.contexts n c hc
    unfold Fleet.step
    dsimp only
    rw [within_of_some hc]
    unfold Context.happen
    dsimp only
    split
    · rename_i ha
      rcases Context.step_cases hs Sink.ops hasAttachments ha with hq | ⟨raw, rfl, -, ho, hcomplete⟩
      · rw [hq.gallery]
        rfl
      · rw [hcomplete]
        exact h.get?_complete now hc ho hk
    · rfl

end Frame

section Apart

variable {i j : String} {f : Fleet Sink}

/-- What an instance stored lies under its prefix. -/
theorem Stored.startsWith (hf : f.Reachable) {k : Key} {content : Content}
    (h : f.Stored i k content) : startsWith (ownPrefix i) k.id = true := by
  obtain ⟨-, n, c, o, hc, rfl, ho, -, hm⟩ := h
  exact (hf.sound.contexts n c hc).owned o ho k.id hm

/-- What a run of an instance writes lies under its prefix. -/
theorem Writes.startsWith (hf : f.Reachable) {id : String} (h : f.Writes i id) :
    startsWith (ownPrefix i) id = true := by
  obtain ⟨n, c, hc, rfl, hm | ⟨o, ho, hm⟩⟩ := h
  · exact (hf.sound.contexts n c hc).stage.startsWith_of_mem_ids hm
  · exact (hf.sound.contexts n c hc).owned o ho id hm

/-- Instances that are apart keep what the other one stored. -/
theorem keepsOthers_of_apart (h : Apart i j) : KeepsOthers i j := by
  intro f hf hasAttachments now e he k content hs
  have hk := h.symm.not_startsWith (hs.startsWith hf)
  rw [hf.sound.get?_step hasAttachments now he hk]
  exact hs.1

/-- Instances that are apart write no common id. -/
theorem neverCollides_of_apart (h : Apart i j) : NeverCollides i j := by
  intro f hf id hi hj
  have hk := h.not_startsWith (hi.startsWith hf)
  rw [hj.startsWith hf] at hk
  cases hk

/-- Instances that are apart are not shown what the other one stored. -/
theorem neverShows_of_apart (h : Apart i j) : NeverShows i j := by
  intro f hf _ kind entries hm e he hs
  obtain ⟨l, -, hl⟩ := List.mem_map.mp hm
  cases hl
  have hk := h.not_startsWith (List.mem_filter.mp he).2
  have hstored := hs.startsWith hf
  dsimp only at hstored
  rw [hk] at hstored
  cases hstored

end Apart

section Drawing

/-- The fleet in which a context is another one. -/
def withContext (n : Nat) (d : Context) (f : Fleet σ) : Fleet σ :=
  { f with contexts := f.contexts.set n d }

/-- An act that leaves everything but the context alone. -/
theorem within_eq_withContext {f : Fleet σ} {n : Nat} {c d : Context}
    (hc : f.contexts[n]? = some c) {now : Nat} {act : Scene Nat σ → Scene Nat σ}
    (hact : act (f.scene now n c) = f.scene now n d) : f.within now n act = f.withContext n d := by
  rw [within_of_some hc, hact]
  rfl

/-- The context that takes the place of another one. -/
theorem getElem?_withContext {f : Fleet σ} {n : Nat} {c : Context} (hc : f.contexts[n]? = some c)
    (d : Context) : (f.withContext n d).contexts[n]? = some d := by
  have hlt : n < f.contexts.length := (List.getElem?_eq_some_iff.mp hc).1
  simp [withContext, hlt]

/-- Only the last context that takes a place counts. -/
theorem withContext_withContext (f : Fleet σ) (n : Nat) (c d : Context) :
    (f.withContext n c).withContext n d = f.withContext n d := by
  simp [withContext]

/-- The process of a context starts and asks for an empty line, which is put on the stage. -/
def sketch (n : Nat) (id : String) : List (Nat × Event) :=
  [(0, .context n .created), (0, .context n (.message Message.startedView.toWire)),
    (0, .context n (.message (Draft.lineRequest id).view.toWire)), (0, .context n (.serve 0))]

/-- The message of a successful end. -/
def success : Wire := (Message.Done.view ⟨none, none⟩).toWire

/-- A run that draws an empty line and ends well. -/
def drawing (n : Nat) (id : String) : List (Nat × Event) :=
  sketch n id ++ [(0, .context n (.message success))]

variable {f : Fleet Sink} {n : Nat} {j id : String} {spec : Run.Spec}

/-- A sketch leaves the line on the stage of the context and touches nothing else. -/
theorem run_sketch (hc : f.contexts[n]? = some (opening j spec)) (hid : id.isEmpty = false) :
    ∃ d, run Sink.ops false f (sketch n id) = f.withContext n d ∧ d.instanceId = j ∧
      d.outcome = none ∧ d.attached = true ∧
      d.stage = (Stage.forInstance j).add ⟨.line, id, ⟨[], []⟩⟩ := by
  -- the context after each of the four events
  let made := (Context.happen Sink.ops false .created (f.scene 0 n (opening j spec))).context
  let started := (Context.happen Sink.ops false (.message Message.startedView.toWire)
    (f.scene 0 n made)).context
  let asked := (Context.happen Sink.ops false (.message (Draft.lineRequest id).view.toWire)
    (f.scene 0 n started)).context
  let served := (Context.attend false ⟨0, Draft.lineRequest id, none⟩ (f.scene 0 n asked)).context
  have hserve : Context.happen Sink.ops false (.serve 0) (f.scene 0 n asked) =
      Context.attend false ⟨0, Draft.lineRequest id, none⟩ (f.scene 0 n asked) := rfl
  have hattend : Context.attend false ⟨0, Draft.lineRequest id, none⟩ (f.scene 0 n asked) =
      f.scene 0 n served ∧ served.stage = (Stage.forInstance j).add ⟨.line, id, ⟨[], []⟩⟩ ∧
        served.outcome = none ∧ served.attached = true ∧ served.instanceId = j := by
    unfold served Context.attend
    rw [Draft.decode_lineRequest hid]
    exact ⟨rfl, rfl, rfl, rfl, rfl⟩
  obtain ⟨hscene, hstage, hnone, hattached, hinstance⟩ := hattend
  refine ⟨served, ?_, hinstance, hnone, hattached, hstage⟩
  have h1 : f.within 0 n (Context.happen Sink.ops false .created) = f.withContext n made :=
    within_eq_withContext hc rfl
  have h2 : (f.withContext n made).within 0 n
      (Context.happen Sink.ops false (.message Message.startedView.toWire)) =
        (f.withContext n made).withContext n started :=
    within_eq_withContext (getElem?_withContext hc made) rfl
  have h3 : (f.withContext n started).within 0 n
      (Context.happen Sink.ops false (.message (Draft.lineRequest id).view.toWire)) =
        (f.withContext n started).withContext n asked :=
    within_eq_withContext (getElem?_withContext hc started) rfl
  have h4 : (f.withContext n asked).within 0 n (Context.happen Sink.ops false (.serve 0)) =
      (f.withContext n asked).withContext n served :=
    within_eq_withContext (getElem?_withContext hc asked) (hserve.trans hscene)
  rw [withContext_withContext] at h2 h3 h4
  simp only [run, sketch, List.foldl_cons, List.foldl_nil, step, h1, h2, h3, h4]

/-- A run that goes on and reports success is completed. -/
theorem happen_success {ops : SinkOps σ} {hasAttachments : Bool} {s : Scene Nat σ}
    (ha : s.context.attached = true) (ht : ¬s.context.status = .terminated)
    (ho : s.context.outcome = none) :
    Context.happen ops hasAttachments (.message success) s = Context.complete ops s := by
  have hadmits : s.context.admits (.message success) = true := ha
  have hdecode : Message.FromContext.decode? success = some (.done ⟨none, none⟩) := rfl
  unfold Context.happen
  rw [if_pos hadmits]
  unfold Context.step Context.onMessage
  dsimp only
  rw [if_neg ht, hdecode]
  unfold Context.onDone
  dsimp only
  rw [ho]
  rfl

/-- After a drawing the line is stored, and the same instances are registered. -/
theorem Sound.run_drawing (h : f.Sound) (hc : f.contexts[n]? = some (opening j spec))
    (hid : id.isEmpty = false) :
    (Fleet.run Sink.ops false f (drawing n id)).Stored j ⟨.line, qualify j id⟩ ⟨[], []⟩ ∧
      ∀ i, (Fleet.run Sink.ops false f (drawing n id)).registry.has i = f.registry.has i := by
  obtain ⟨d, hrun, hinstance, ho, hattached, hstage⟩ := run_sketch hc hid
  have hs : (f.withContext n d).Sound := hrun ▸ h.run Sink.ops false (sketch n id)
  have hd := getElem?_withContext hc d
  have hsound := hs.contexts n d hd
  have hdraw : Fleet.run Sink.ops false f (drawing n id) =
      (f.withContext n d).within 0 n (Context.complete Sink.ops) := by
    have happ : Fleet.run Sink.ops false f (drawing n id) =
        (Fleet.run Sink.ops false f (sketch n id)).within 0 n
          (Context.happen Sink.ops false (.message success)) := by
      simp [Fleet.run, drawing, Fleet.step]
    have hdone : Context.happen Sink.ops false (.message success) ((f.withContext n d).scene 0 n d) =
        Context.complete Sink.ops ((f.withContext n d).scene 0 n d) :=
      happen_success hattached (hsound.not_terminated ho) ho
    rw [happ, hrun, within_of_some hd, within_of_some hd, hdone]
  obtain ⟨hsink, hregistry, o, hout, hstatus, hlist⟩ :=
    Context.complete_memory (s := (f.withContext n d).scene 0 n d) hsound.begun ho
      (hs.mayCommit hd ho)
  have hwrites : d.stage.writes = [(⟨.line, qualify j id⟩, ⟨[], []⟩)] := by
    rw [hstage]
    rfl
  have hids : d.stage.ids = [qualify j id] := by
    unfold Stage.ids
    rw [hwrites]
    rfl
  rw [hdraw]
  refine ⟨⟨?_, n, _, o, ?_, ?_, hout, hstatus, ?_⟩, ?_⟩
  · rw [within_of_some hd]
    dsimp only
    rw [hsink]
    change ((Sink.without _ _ _).withAll d.stage.writes).get? _ = _
    rw [Sink.get?_withAll _ hsound.stage.distinct, hwrites]
    simp [Assoc.get?_cons]
  · rw [getElem?_within hd, if_pos rfl]
  · exact (Context.lawful_complete (s := (f.withContext n d).scene 0 n d) hsound Sink.ops ho
      hattached).instanceId.trans hinstance
  · rw [hlist]
    change qualify j id ∈ d.stage.ids
    rw [hids]
    exact List.mem_singleton_self _
  · intro i
    rw [within_of_some hd, Registry.has_eq, Registry.has_eq]
    change ((Context.complete _ _).gallery.registry.get? i).isSome = _
    rw [hregistry]
    split
    · exact Option.isSome_map
    · rfl

/-- A started instance is registered, and so are all that were before. -/
theorem Sound.has_start (h : f.Sound) (now : Nat) (spec : Run.Spec) {i : String}
    (hi : i = j ∨ f.registry.has i = true) :
    (f.start now j spec).1.registry.has i = true := by
  have hretire : (f.retire now j).registry = (f.register j).registry :=
    congrArg Gallery.registry ((h.register j).stop_gallery now j supersededText)
  have hregistered : ((f.register j).registry.get? i).isSome = true := by
    change ((f.registry.ensure j).get? i).isSome = true
    rw [Registry.get?_ensure]
    split
    · rfl
    · rw [← Registry.has_eq]
      exact hi.resolve_left ‹_›
  rw [start_fst, Registry.has_eq]
  change ((Registry.modify _ _ _).get? i).isSome = true
  rw [Registry.get?_modify, hretire]
  split
  · rename_i he
    subst he
    rw [Option.isSome_map]
    exact hregistered
  · exact hregistered

/-- An id that begins with the prefixes of two instances can be stored by both of them. -/
theorem exists_stored_by_both {i j id : String} (hid : id.isEmpty = false)
    (hi : startsWith (ownPrefix i) id = true) (hj : startsWith (ownPrefix j) id = true) :
    ∃ f, Reachable f ∧ f.registry.has i = true ∧ f.Stored j ⟨.line, id⟩ ⟨[], []⟩ ∧
      f.Writes i id := by
  let spec : Run.Spec := ⟨"", "", "", 2000⟩
  let first := step Sink.ops false 0 (.empty .empty none 2000) (.start i spec)
  let drawn := run Sink.ops false first (drawing 0 id)
  let second := step Sink.ops false 0 drawn (.start j spec)
  have hfirst : Reachable first := (Reachable.empty none 2000).step false 0 (.start i spec)
  have hdrawn : Reachable drawn := hfirst.run false (drawing 0 id)
  have hsecond : Reachable second := hdrawn.step false 0 (.start j spec)
  obtain ⟨⟨-, n, c, o, hc, hci, ho, -, hm⟩, hhas⟩ :=
    hfirst.sound.run_drawing (getElem?_start _ 0 i spec) hid
  obtain ⟨hstored, hhas'⟩ := hsecond.sound.run_drawing (getElem?_start drawn 0 j spec) hid
  have hkeeps := (hdrawn.sound.keeps_step Sink.ops false 0 (.start j spec)).trans
    (hsecond.sound.keeps_run Sink.ops false (drawing drawn.contexts.length id))
  obtain ⟨d, hd, hdi, hdo⟩ := hkeeps n c hc
  refine ⟨run Sink.ops false second (drawing drawn.contexts.length id), hsecond.run false _, ?_, ?_,
    n, d, hd, hdi.trans hci, .inr ⟨o, ?_, ?_⟩⟩
  · have hregistered : drawn.registry.has i = true :=
      (hhas i).trans (Sound.has_start (sound_empty _ _ _) 0 spec (.inl rfl))
    exact (hhas' i).trans (hdrawn.sound.has_start 0 spec (.inr hregistered))
  · rw [Artifact.qualify_of_startsWith hj] at hstored
    exact hstored
  · rw [hdo (by rw [ho]; rfl), ho]
  · rw [Artifact.qualify_of_startsWith hi] at hm
    exact hm

end Drawing

section Clash

variable {i j : String}

/-- Instances that are not apart share an id. -/
theorem exists_startsWith_of_not_apart (h : ¬Apart i j) : ∃ id : String, id.isEmpty = false ∧
    startsWith (ownPrefix i) id = true ∧ startsWith (ownPrefix j) id = true := by
  have hself : ∀ i, startsWith (ownPrefix i) (ownPrefix i) = true := fun i =>
    (startsWith_iff _ _).mpr (List.prefix_refl _)
  have hne : ∀ i, (ownPrefix i).isEmpty = false := by
    intro i
    simp [ownPrefix, Artifact.separator]
  rcases Artifact.startsWith_or_of_not_apart h with hij | hji
  · exact ⟨ownPrefix j, hne j, hij, hself j⟩
  · exact ⟨ownPrefix i, hne i, hself i, hji⟩

/-- Of instances that are not apart one can store what the removal of the other one deletes,
what the other one writes and what is shown of the other one. -/
theorem clash_of_not_apart (h : ¬Apart i j) :
    ¬KeepsOthers i j ∧ ¬NeverCollides i j ∧ ¬NeverShows i j := by
  obtain ⟨id, hid, hi, hj⟩ := exists_startsWith_of_not_apart h
  obtain ⟨f, hf, hhas, hstored, hwrites⟩ := exists_stored_by_both hid hi hj
  refine ⟨?_, ?_, ?_⟩
  · intro hkeeps
    have hkept := hkeeps f hf false 0 (.remove i) rfl ⟨.line, id⟩ ⟨[], []⟩ hstored
    unfold step at hkept
    dsimp only at hkept
    rw [remove_memory f 0 hhas] at hkept
    change ((Sink.without _ (ownPrefix i) _).get? ⟨.line, id⟩) = _ at hkept
    rw [Sink.get?_without_all, if_pos hi] at hkept
    cases hkept
  · intro hnever
    obtain ⟨-, n, c, o, hc, hci, ho, -, hm⟩ := hstored
    exact hnever f hf id hwrites ⟨n, c, hc, hci, .inr ⟨o, ho, hm⟩⟩
  · intro hnever
    have hmem := Assoc.mem_of_get? hstored.1
    exact hnever f hf hhas .line _ (List.mem_map_of_mem (Plot.Kind.mem_all .line)) (id, ⟨[], []⟩)
      (List.mem_filter.mpr ⟨hmem, hi⟩) hstored

end Clash

/-- Two instances are isolated from each other exactly when they are apart, in each of three
ways: what is stored, what is written and what is shown. -/
theorem isolated_iff_apart (i j : String) :
    (KeepsOthers i j ↔ Apart i j) ∧ (NeverCollides i j ↔ Apart i j) ∧
      (NeverShows i j ↔ Apart i j) := by
  refine ⟨⟨?_, keepsOthers_of_apart⟩, ⟨?_, neverCollides_of_apart⟩, ⟨?_, neverShows_of_apart⟩⟩
  · intro h
    exact Decidable.by_contra fun hn => (clash_of_not_apart hn).1 h
  · intro h
    exact Decidable.by_contra fun hn => (clash_of_not_apart hn).2.1 h
  · intro h
    exact Decidable.by_contra fun hn => (clash_of_not_apart hn).2.2 h

/-- A separator in the name of an instance can make two of them share ids. -/
example : ¬Apart "a" "a::b" ∧ Apart "a" "ab" := by decide

end Fleet

end ChartScript
