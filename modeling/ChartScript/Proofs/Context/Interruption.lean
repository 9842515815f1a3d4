import ChartScript.Proofs.Artifact.Interruption
import ChartScript.Proofs.Context.Demise
/-!
# Runs whose commit is interrupted

A script reports that it ended well, and the sink refuses an operation of the commit. Nothing is
settled then: the context is as it was, with its writes, and the chart stays as the commit left
it. Whatever happens later leaves it so, and the run settles like one that never reported its
end, at the latest when the end of its messages is read. It has not completed then.
-/

namespace ChartScript.Context

open Artifact (Backs Content Draft Gallery Interrupted Key Sink SinkOps)
open Message (IsSuccess)

variable {κ σ : Type} [DecidableEq κ]

/-- Whether no script reports at a moment that it ended well. -/
def Moment.Unsuccessful (m : Moment κ σ) : Prop := ∀ raw, m.event = .message raw → ¬IsSuccess raw

section Life

variable {ops : SinkOps σ} (hasAttachments : Bool) {c : Context}

/-- A successful end completes a run that goes on. -/
theorem meet_success (h : Sound c) {m : Moment κ σ} {raw : Wire} (hm : m.event = .message raw)
    (hsuccess : IsSuccess raw) (ha : c.attached = true) (ho : c.outcome = none) :
    meet ops hasAttachments c m = complete ops (m.scene c) := by
  obtain ⟨report, hdecode, hintime, hclean⟩ := hsuccess
  have hadmits : (m.scene c).context.admits (.message raw) = true := ha
  have hliving : ¬(m.scene c).context.status = .terminated := h.not_terminated ho
  have hgoing : ¬(m.scene c).context.outcome.isSome = true := by
    change ¬c.outcome.isSome = true
    rw [ho]
    exact Bool.false_ne_true
  unfold meet happen
  rw [hm, if_pos hadmits]
  unfold step onMessage
  dsimp only
  rw [if_neg hliving, hdecode]
  dsimp only
  unfold onDone
  rw [if_neg hgoing, if_neg hintime, hclean]

/-- A commit that the sink interrupts settles nothing. -/
theorem meet_interrupted {shown : σ → Key → Option Content} (hb : Backs ops shown) (h : Sound c)
    {m : Moment κ σ} {raw : Wire} (hm : m.event = .message raw) (hsuccess : IsSuccess raw)
    (ha : c.attached = true) (ho : c.outcome = none) {f : Failure}
    (hrefused : (m.gallery.commit ops c.stage (some m.self)).2.2 = .error f) :
    (meet ops hasAttachments c m).context = c ∧ (meet ops hasAttachments c m).console = m.console ∧
      Interrupted ops shown c.stage f m.gallery (meet ops hasAttachments c m).gallery := by
  rw [meet_success hasAttachments h hm hsuccess ha ho]
  unfold complete
  generalize hcommit : (m.scene c).gallery.commit ops (m.scene c).context.stage
    (some (m.scene c).self) = result
  obtain ⟨after, left, committed⟩ := result
  have hresult : m.gallery.commit ops c.stage (some m.self) = (after, left, committed) := hcommit
  rw [hresult] at hrefused
  change committed = .error f at hrefused
  subst hrefused
  obtain ⟨rfl, hinterrupted⟩ := Artifact.interrupted_of_commit hb h.stage hresult
  exact ⟨rfl, rfl, hinterrupted⟩

/-- Without a report of a successful end everything is quiet. -/
theorem quiet_meet (h : Sound c) {m : Moment κ σ} (hm : m.Unsuccessful) :
    ∃ draft, Quiet draft (m.scene c) (meet ops hasAttachments c m) := by
  unfold meet happen
  split
  · rename_i hadmits
    rcases step_cases (s := m.scene c) h ops hasAttachments hadmits with hquiet | ⟨raw, he, hsuccess, -⟩
    · exact ⟨_, hquiet⟩
    · exact absurd hsuccess (hm raw he)
  · exact ⟨none, .refl _⟩

/-- Without a report of a successful end a run that goes on does not complete. -/
theorem poor_lived (h : Sound c) (ho : c.outcome = none) (moments : List (Moment κ σ))
    (hm : ∀ m ∈ moments, m.Unsuccessful) {o : Run.Outcome}
    (houtcome : (lived ops hasAttachments c moments).outcome = some o) :
    o.status ≠ .completed ∧ o.artifacts = [] := by
  induction moments generalizing c with
  | nil =>
    change c.outcome = some o at houtcome
    rw [ho] at houtcome
    cases houtcome
  | cons m rest ih =>
    have hnext := sound_meet ops hasAttachments h m
    obtain ⟨draft, hquiet⟩ := quiet_meet hasAttachments h (hm m List.mem_cons_self)
    change (lived ops hasAttachments (meet ops hasAttachments c m).context rest).outcome = some o
      at houtcome
    cases hsettled : (meet ops hasAttachments c m).context.outcome with
    | none => exact ih hnext hsettled (fun n hn => hm n (List.mem_cons_of_mem m hn)) houtcome
    | some p =>
      have hkeep := outcome_lived ops hasAttachments hnext (by rw [hsettled]; rfl) rest
      rw [hkeep] at houtcome
      exact hquiet.verdict ho o houtcome

/-- What becomes of a run, and of its chart, when the sink refuses an operation of its commit. -/
structure Unfinished (ops : SinkOps σ) (hasAttachments : Bool) (shown : σ → Key → Option Content)
    (c : Context) (m : Moment κ σ) (f : Failure) : Prop where
  /-- Nothing is settled, and nothing is written to the console. -/
  stays : (meet ops hasAttachments c m).context = c ∧
    (meet ops hasAttachments c m).console = m.console
  /-- The chart is cleared in part or drawn in part. -/
  chart : Interrupted ops shown c.stage f m.gallery (meet ops hasAttachments c m).gallery
  /-- Unless the script reports its end once more, nothing that happens to the context changes the
  chart. -/
  left : ∀ (later : List (Moment κ σ)) (n : Moment κ σ), n.Unsuccessful →
    (meet ops hasAttachments (lived ops hasAttachments c later) n).gallery = n.gallery
  /-- Nor does the run complete: if it is settled it has failed, its time was up or it was killed,
  and it has no artifacts. -/
  poor : ∀ (later : List (Moment κ σ)) (o : Run.Outcome), (∀ n ∈ later, n.Unsuccessful) →
    (lived ops hasAttachments c later).outcome = some o →
      (o.status = .failed ∨ o.status = .timedOut ∨ o.status = .terminated) ∧ o.artifacts = []
  /-- It is settled once the end of its messages has been read. -/
  settles : ∀ (later : List (Moment κ σ)) (last : Moment κ σ) (after : List (Moment κ σ)),
    last.event = .ended →
      (lived ops hasAttachments c (later ++ last :: after)).outcome.isSome = true
  /-- If nothing else has settled it by then, it has failed because its process ended
  unexpectedly. -/
  fails : ∀ (later : List (Moment κ σ)) (last : Moment κ σ) (after : List (Moment κ σ)),
    (∀ n ∈ later, n.event.GoesOn) → last.event = .ended →
      ∃ o, (lived ops hasAttachments c (later ++ last :: after)).outcome = some o ∧
        o.status = .failed ∧
          o.error = some (unexpectedExit (lived ops hasAttachments c later).exitCode)

/-- In every state that a context can come to, and among any surroundings: when its script reports
that it ended well and the sink refuses any operation of the commit, the chart stays cleared or
drawn in part, and the run settles later, without having completed. -/
theorem unfinished_lived {shown : σ → Key → Option Content} (hb : Backs ops shown)
    (instanceId : String) (spec : Run.Spec) (first : Moment κ σ) (before : List (Moment κ σ))
    (hc : c = lived ops hasAttachments (begin (first.scene (create instanceId spec))).context before)
    {m : Moment κ σ} {raw : Wire} (hm : m.event = .message raw) (hsuccess : IsSuccess raw)
    (ha : c.attached = true) (ho : c.outcome = none) {f : Failure}
    (hrefused : (m.gallery.commit ops c.stage (some m.self)).2.2 = .error f) :
    Unfinished ops hasAttachments shown c m f := by
  have hlifelong := lifelong_lived ops hasAttachments instanceId spec first before
  have hbegin : Sound (begin (first.scene (create instanceId spec))).context :=
    sound_begin (s := first.scene (create instanceId spec)) instanceId spec rfl
  have hsound := sound_lived ops hasAttachments hbegin before
  rw [← hc] at hlifelong hsound
  obtain ⟨hcontext, hconsole, hinterrupted⟩ :=
    meet_interrupted hasAttachments hb hsound hm hsuccess ha ho hrefused
  refine ⟨⟨hcontext, hconsole⟩, hinterrupted, fun later n hn => ?left,
    fun later o hlater houtcome => ?poor, fun later last after hended => ?settles,
    fun later last after hgoes hended => ?fails⟩
  case left =>
    obtain ⟨draft, hquiet⟩ := quiet_meet hasAttachments (sound_lived ops hasAttachments hsound later) hn
    exact hquiet.gallery
  case poor =>
    have hpoor := poor_lived hasAttachments hsound ho later hlater houtcome
    obtain ⟨-, hregular⟩ := regular_lived ops hasAttachments hsound hlifelong.regular later
    exact ⟨((hregular.fitting o houtcome).of_not_completed hpoor.1).1, hpoor.2⟩
  case settles =>
    obtain ⟨hheard, -⟩ := Heard.lived ops hasAttachments (.inl ha) hsound later
    rw [lived_append, settles_of_heard ops hasAttachments hheard
      (sound_lived ops hasAttachments hsound later) after hended]
    rfl
  case fails =>
    obtain ⟨hheard, -⟩ := Heard.lived ops hasAttachments (.inl ha) hsound later
    have hopen := outcome_lived_goesOn ops hasAttachments hsound ho later hgoes
    have hlast := settles_of_heard ops hasAttachments hheard
      (sound_lived ops hasAttachments hsound later) after hended
    rw [hopen, ← lived_append] at hlast
    exact ⟨_, hlast, rfl, rfl⟩

end Life

/-- What a sink says that refuses to draw. -/
def unwilling : Failure := ⟨.type, "'int' object is not iterable"⟩

/-- The sink in memory, but for one id under which nothing can be drawn. -/
def refusing (id : String) : SinkOps Sink where
  clearPrefix := Sink.ops.clearPrefix
  write key content sink := if key.id = id then .error unwilling else .ok (sink.write key content)

/-- It shows what is found in it. -/
theorem backs_refusing (id : String) : Backs (refusing id) Sink.get? := by
  refine ⟨Artifact.backs_memory.clears, fun key content s t h k => ?_⟩
  unfold refusing at h
  dsimp only at h
  split at h
  · cases h
  · cases h
    exact Sink.get?_write s key k content

/-- A chart with one line of an instance. -/
def charted : Gallery Nat Sink :=
  ⟨⟨[("i", ⟨none, some 0, ["i::x"]⟩)]⟩, Sink.empty.write ⟨.line, "i::x"⟩ ⟨[], []⟩⟩

/-- A run of the instance draws two other lines. -/
def redrawn : List (Moment Nat Sink) :=
  [Event.created, .message Message.FromContext.started.view.toWire,
    .message (Draft.lineRequest "y").view.toWire, .serve 0,
    .message (Draft.lineRequest "z").view.toWire, .serve 1].map fun e => ⟨0, charted, none, 0, e⟩

/-- Its script ends well. -/
def finished : Moment Nat Sink :=
  ⟨0, charted, none, 0, .message (Message.Done.view ⟨none, none⟩).toWire⟩

/-- When the second of two lines is refused the chart has lost the old line and shows the first of
the new ones, with nothing on record. -/
theorem unfinished_lived_refused :
    let c := lived (refusing "i::z") false
      (begin (finished.scene (create "i" ⟨"S", "1h", "", 2000⟩))).context redrawn
    let after := (meet (refusing "i::z") false c finished).gallery
    Unfinished (refusing "i::z") false Sink.get? c finished unwilling ∧
      ((charted.sink.get? ⟨.line, "i::x"⟩).isSome = true ∧
        (charted.registry.get? "i").map Artifact.Record.artifacts = some ["i::x"]) ∧
      ((after.sink.get? ⟨.line, "i::x"⟩).isSome = false ∧
        (after.sink.get? ⟨.line, "i::y"⟩).isSome = true ∧
          (after.sink.get? ⟨.line, "i::z"⟩).isSome = false ∧
            (after.registry.get? "i").map Artifact.Record.artifacts = some []) ∧
      ¬Artifact.AsBefore Sink.get? "i" charted after := by
  intro c after
  have hunfinished : Unfinished (refusing "i::z") false Sink.get? c finished unwilling :=
    unfinished_lived false (backs_refusing "i::z") "i" ⟨"S", "1h", "", 2000⟩ finished redrawn rfl rfl
      ⟨⟨none, none⟩, Message.decode_done _, nofun, rfl⟩ (by decide) (by rfl) (by rfl)
  refine ⟨hunfinished, ⟨rfl, rfl⟩, ⟨by decide, by decide, by decide, by decide⟩, fun hbefore => ?_⟩
  exact absurd hbefore.registry (by decide)

end ChartScript.Context
