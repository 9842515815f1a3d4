import ChartScript.Context.Event
import ChartScript.Proofs.Artifact.Commit
import ChartScript.Proofs.Artifact.Draft
/-!
# The life of a context

What holds of a context at every moment after it has begun: a run is settled exactly when
its status is final, a run that goes on has an open stage, a settled one has no timer, and
a killed one has neither writes nor calls. Every event that can happen keeps this, and
every event but a successful end leaves registry and sink alone.
-/

namespace ChartScript

open Artifact (Stage Key Content Draft SinkOps Gallery ownPrefix startsWith)

namespace Context

/-- What holds of a context at every moment after it has begun. -/
structure Sound (c : Context) : Prop where
  /-- It has begun. -/
  begun : c.begun = true
  /-- Its stage is one of its instance. -/
  stage : c.stage.IsOf c.instanceId
  /-- It is settled exactly when its status is final. -/
  isTerminal_eq : c.status.isTerminal = c.outcome.isSome
  /-- While it goes on its stage is open. -/
  isOpen : c.outcome = none → c.stage.isOpen = true
  /-- Once it is settled no timer is armed. -/
  timers : c.outcome.isSome = true → c.timers = []
  /-- Once it is killed it has no writes and serves no call. -/
  killed : c.status = .terminated → c.stage.isOpen = false ∧ c.stage.writes = [] ∧ c.errands = []
  /-- Before its messages are read no timer is armed. -/
  untimed : c.attached = false → c.timers = []
  /-- Before its messages are read only a kill settles it. -/
  unread : c.attached = false → c.outcome.isSome = true → c.status = .terminated
  /-- The ids of its outcome begin with the prefix of its instance. -/
  owned : ∀ o, c.outcome = some o → ∀ id ∈ o.artifacts, startsWith (ownPrefix c.instanceId) id = true
  /-- A completed run has a closed stage. -/
  closed : ∀ o, c.outcome = some o → o.status = .completed → c.stage.isOpen = false

/-- Whether an event can happen to a context that has begun: it is created once, and its
messages are read only while they are attached to. -/
def admits (c : Context) : Event → Bool
  | .begin => false
  | .created => !c.attached
  | .message _ => c.attached
  | .ended => c.attached
  | _ => true

/-- The draft that an event offers to the stage: that of a call that is looked at. -/
def draft? (c : Context) : Event → Option Draft
  | .serve number =>
    match c.errand? number with
    | some ⟨_, request, none⟩ => Draft.decode? request.method request.params
    | _ => none
  | _ => none

variable {κ σ : Type} {s : Scene κ σ}

/-- A context that begins. -/
theorem sound_begin (instanceId : String) (spec : Run.Spec)
    (hs : s.context = create instanceId spec) : Sound (begin s).context := by
  constructor <;> simp [begin, Scene.mapContext, hs, create, Run.Status.isTerminal, Stage.forInstance]
  exact Stage.isOf_forInstance instanceId

/-- A killed context is settled. -/
theorem Sound.isSome_of_terminated {c : Context} (h : Sound c) (ht : c.status = .terminated) :
    c.outcome.isSome = true := by
  rw [← h.isTerminal_eq, ht]
  rfl

/-- A context that was not settled was not killed. -/
theorem Sound.not_terminated {c : Context} (h : Sound c) (ho : c.outcome = none) :
    ¬c.status = .terminated := by
  intro ht
  have hs := h.isSome_of_terminated ht
  rw [ho] at hs
  cases hs

/-- A context that waits for its script is not settled. -/
theorem Sound.outcome_of_created {c : Context} (h : Sound c) (hc : c.status = .created) :
    c.outcome = none := by
  have hs := h.isTerminal_eq
  rw [hc] at hs
  exact Option.isSome_eq_false_iff.mp hs.symm |> Option.isNone_iff_eq_none.mp

/-- A context with an armed timer is not settled, and its messages are read. -/
theorem Sound.of_timer {c : Context} (h : Sound c) {t : Timer} (ht : c.timers.contains t = true) :
    c.outcome = none ∧ c.attached = true := by
  have hne : c.timers ≠ [] := by
    intro he
    rw [he] at ht
    cases ht
  constructor
  · cases ho : c.outcome with
    | none => rfl
    | some o => exact absurd (h.timers (by rw [ho]; rfl)) hne
  · cases ha : c.attached with
    | true => rfl
    | false => exact absurd (h.untimed ha) hne

section Settle

/-- A settled run is settled for good. -/
theorem settle_of_settled (v : Verdict) (ho : s.context.outcome.isSome = true) : settle v s = s := by
  unfold settle
  rw [ho, Bool.or_true]
  rfl

@[simp] theorem settle_gallery (v : Verdict) (s : Scene κ σ) : (settle v s).gallery = s.gallery := by
  unfold settle
  split
  · rfl
  · cases v.line? <;> rfl

/-- The context that a verdict settles. -/
theorem settle_context (v : Verdict) (hb : s.context.begun = true) (ho : s.context.outcome = none) :
    (settle v s).context =
      { s.context with
        timers := []
        status := if s.context.status = .terminated then .terminated else v.status
        outcome := some (v.outcome s.context s.now) } := by
  have hgo : ¬(!s.context.begun || s.context.outcome.isSome) = true := by simp [hb, ho]
  unfold settle
  rw [if_neg hgo]
  cases v.line? <;> rfl

/-- After a verdict a run that has begun is settled. -/
theorem isSome_settle (v : Verdict) (hb : s.context.begun = true) :
    (settle v s).context.outcome.isSome = true := by
  cases ho : s.context.outcome with
  | none =>
    rw [settle_context v hb ho]
    rfl
  | some o =>
    have hs : s.context.outcome.isSome = true := by
      rw [ho]
      rfl
    rw [settle_of_settled v hs]
    exact hs

/-- After a verdict a run that has begun does not go on. -/
theorem outcome_settle_ne_none (v : Verdict) (hb : s.context.begun = true) :
    (settle v s).context.outcome ≠ none :=
  Option.isSome_iff_ne_none.mp (isSome_settle v hb)

/-- Every verdict is final. -/
theorem Verdict.isTerminal_status (v : Verdict) : v.status.isTerminal = true := by cases v <;> rfl

/-- A verdict leaves a sound context when the stage and the calls are as the verdict wants
them. -/
theorem sound_settle (v : Verdict) (hb : s.context.begun = true) (ho : s.context.outcome = none)
    (hs : s.context.stage.IsOf s.context.instanceId)
    (hk : s.context.status = .terminated ∨ v.status = .terminated →
      s.context.stage.isOpen = false ∧ s.context.stage.writes = [] ∧ s.context.errands = [])
    (hr : s.context.attached = false → s.context.status = .terminated ∨ v.status = .terminated)
    (hv : ∀ id ∈ v.artifacts, startsWith (ownPrefix s.context.instanceId) id = true)
    (hc : v.status = .completed → s.context.stage.isOpen = false) : Sound (settle v s).context := by
  rw [settle_context v hb ho]
  refine ⟨hb, hs, ?_, ?_, fun _ => rfl, ?_, fun _ => rfl, ?_, ?_, ?_⟩
  · dsimp only
    split
    · rfl
    · rw [v.isTerminal_status]
      rfl
  · intro h
    cases h
  · dsimp only
    split
    · exact fun _ => hk (.inl ‹_›)
    · exact fun h => hk (.inr h)
  · dsimp only
    intro ha _
    rcases hr ha with h | h
    · rw [if_pos h]
    · rw [h]
      split <;> rfl
  · rintro o ⟨rfl⟩
    exact hv
  · rintro o ⟨rfl⟩
    exact hc

end Settle

end Context

end ChartScript
