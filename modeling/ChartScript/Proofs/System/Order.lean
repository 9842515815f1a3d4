import ChartScript.Fleet.System
import ChartScript.Proofs.Context.Calls
import ChartScript.Proofs.Fleet.Fate
/-!
# Orders of events

Which events can come next in the system. Messages go both ways in the order in which they
were sent. A context is created once, and its process is heard from then on. Calls are
looked at in the order in which they came. Nothing else is said of the order: what is
fetched comes back in any order, any message may be late, and a kill, a timer or the end of
a process comes at any moment.
-/

namespace ChartScript.System

open Artifact (SinkOps)

variable {π σ : Type}

/-- The messages that an event of a session takes from those on their way to it. -/
def taken : Session.Event → List Wire
  | .instruct raw | .deliver raw => [raw]
  | _ => []

/-- Whether an event can come next. -/
def Allows (s : System π σ) : Event → Prop
  | .context number e => (∀ raw, e ≠ .message raw) ∧
      ∀ c, s.fleet.contexts[number]? = some c → c.admits e = true ∧ c.inOrder e
  | .hear number => ∀ c, s.fleet.contexts[number]? = some c → c.attached = true
  | .process number e inbox => ∀ seat, s.seats[number]? = some seat →
      seat.timeline.inbox = taken e ++ inbox
  | _ => True

/-- Whether events can come one after the other. -/
def AllowsAll (w : World π σ) : System π σ → List Event → Prop
  | _, [] => True
  | s, e :: rest => s.Allows e ∧ AllowsAll w (step w s e) rest

/-- Events can come one after the other if the later ones can come after the first ones. -/
theorem allowsAll_append (w : World π σ) {s : System π σ} {first later : List Event} :
    s.AllowsAll w (first ++ later) ↔ s.AllowsAll w first ∧ (run w s first).AllowsAll w later := by
  induction first generalizing s with
  | nil => exact (and_iff_right trivial).symm
  | cons e rest ih =>
    have hrest := ih (s := step w s e)
    exact (and_congr_right fun _ => hrest).trans and_assoc.symm

/-- The message of a session that its context hears next. -/
def nextHeard? (s : System π σ) (number : Nat) : Option Wire :=
  (s.seats[number]?).bind fun seat => seat.timeline.session.sent[seat.heard]?

/-- The seat of a context that has heard one more message. -/
def hearing (seat : Seat π) : Seat π := { seat with heard := seat.heard + 1 }

/-- A context hears the next message of its session, if there is one. -/
theorem step_hear (w : World π σ) (s : System π σ) (number : Nat) :
    step w s (.hear number) =
      match s.nextHeard? number with
      | some raw => (onContext w number (.message raw) s).mapSeat number hearing
      | none => s := by
  unfold step nextHeard?
  dsimp only
  cases s.seats[number]? with
  | none => rfl
  | some seat =>
    rw [Option.bind_some]
    dsimp only
    cases seat.timeline.session.sent[seat.heard]? <;> rfl

/-- What an event of the system is for the fleet, if it is anything. -/
def fleetEvent? (s : System π σ) : Event → Option Fleet.Event
  | .start i spec => some (.start i spec)
  | .terminate i reason => some (.terminate i reason)
  | .remove i => some (.remove i)
  | .context number e => some (.context number e)
  | .hear number => (s.nextHeard? number).map fun raw => .context number (.message raw)
  | _ => none

/-- An event that a context admits happens to it. -/
theorem within_happen (ops : SinkOps σ) (hasAttachments : Bool) (f : Fleet σ) (now n : Nat)
    (e : Context.Event) (ha : ∀ c, f.contexts[n]? = some c → c.admits e = true) :
    f.within now n (fun s => Context.step ops hasAttachments s e) =
      f.within now n (Context.happen ops hasAttachments e) := by
  cases hc : f.contexts[n]? with
  | none => rw [Fleet.within_of_none hc, Fleet.within_of_none hc]
  | some c =>
    have hstep : Context.happen ops hasAttachments e (f.scene now n c) =
        Context.step ops hasAttachments (f.scene now n c) e := if_pos (ha c hc)
    rw [Fleet.within_of_some hc, Fleet.within_of_some hc, hstep]

/-- An event that can come next is one of the fleet, or the fleet stays as it is. -/
theorem step_fleet (w : World π σ) {s : System π σ} {e : Event} (ha : s.Allows e) :
    (step w s e).fleet =
      match s.fleetEvent? e with
      | some fe => s.fleet.step w.ops w.hasAttachments s.now fe
      | none => s.fleet := by
  cases e with
  | start i spec => rfl
  | terminate i reason => rfl
  | remove i => rfl
  | context n e => exact within_happen w.ops w.hasAttachments s.fleet s.now n e fun c hc => (ha.2 c hc).1
  | tell n =>
    unfold step
    dsimp only
    split
    · split <;> rfl
    · rfl
  | hear n =>
    rw [step_hear, fleetEvent?]
    cases s.nextHeard? n with
    | none => rfl
    | some raw => exact within_happen w.ops w.hasAttachments s.fleet s.now n (.message raw) ha
  | process n e inbox => rfl
  | pass moment => rfl

/-- Every event that can come next leaves a sound fleet. -/
theorem sound_step (w : World π σ) {s : System π σ} (h : s.fleet.Sound) {e : Event} (ha : s.Allows e) :
    (step w s e).fleet.Sound := by
  rw [step_fleet w ha]
  split
  · exact h.step w.ops w.hasAttachments s.now _
  · exact h

/-- The sessions after one of them changed. -/
theorem getElem?_mapSeat (s : System π σ) (number : Nat) (f : Seat π → Seat π) (n : Nat) :
    (s.mapSeat number f).seats[n]? =
      (s.seats[n]?).map fun seat => if number = n then f seat else seat := by
  unfold mapSeat
  dsimp only
  rw [List.getElem?_modify]
  rfl

/-- Only a start brings a session. -/
theorem length_seats_step (w : World π σ) (s : System π σ) {e : Event}
    (he : ∀ i spec, e ≠ .start i spec) : (s.step w e).seats.length = s.seats.length := by
  have hmap : ∀ (m : Nat) (f : Seat π → Seat π), (s.mapSeat m f).seats.length = s.seats.length :=
    fun _ _ => List.length_modify ..
  cases e with
  | start i spec => exact absurd rfl (he i spec)
  | tell m =>
    unfold step
    dsimp only
    split
    · split
      · exact hmap m _
      · rfl
    · rfl
  | hear m =>
    rw [step_hear]
    split
    · exact hmap m hearing
    · rfl
  | process m own inbox => exact hmap m _
  | _ => rfl

/-- Only a start brings a context. -/
theorem length_contexts_step (w : World π σ) {s : System π σ} {e : Event} (ha : s.Allows e)
    (he : ∀ i spec, e ≠ .start i spec) :
    (s.step w e).fleet.contexts.length = s.fleet.contexts.length := by
  rw [step_fleet w ha]
  cases hfe : s.fleetEvent? e with
  | none => rfl
  | some fe =>
    refine Fleet.length_step w.ops w.hasAttachments s.now s.fleet ?_
    rintro i spec rfl
    cases e with
    | start j other => exact he j other rfl
    | hear m =>
      obtain ⟨raw, -, hraw⟩ := Option.map_eq_some_iff.mp hfe
      cases hraw
    | _ => cases hfe

/-- Every event that can come next leaves a session for every context. -/
theorem seated_step (w : World π σ) {s : System π σ} (h : s.seats.length = s.fleet.contexts.length)
    {e : Event} (ha : s.Allows e) :
    (s.step w e).seats.length = (s.step w e).fleet.contexts.length := by
  by_cases hstart : ∃ i spec, e = .start i spec
  · obtain ⟨i, spec, rfl⟩ := hstart
    change (s.seats ++ [_]).length = (s.fleet.start s.now i spec).1.contexts.length
    rw [Fleet.length_start, List.length_append, List.length_singleton, h]
  · have hother : ∀ i spec, e ≠ .start i spec := fun i spec he => hstart ⟨i, spec, he⟩
    rw [length_seats_step w s hother, length_contexts_step w ha hother, h]

end ChartScript.System
