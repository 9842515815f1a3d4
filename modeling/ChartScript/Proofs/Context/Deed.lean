import ChartScript.Proofs.Context.Regular
/-!
# What an event does to a context

Most events are about the run alone and leave the process and the calls of a context as they
were. The other ones are listed here: the process has been created, is killed or ends, a request is
heard, or a call is handled. What is known of processes and of calls is read off this list.
-/

namespace ChartScript.Context

open Artifact (SinkOps)
open Message (Request)

variable {κ σ : Type} {s : Scene κ σ}

/-- Whether an event is about the call of a number: it is looked at, or what it waits for has
come. -/
def Event.handles (number : Nat) : Event → Bool
  | .serve k => k = number
  | .fetched k _ => k = number
  | _ => false

/-- A look at a call is about it. -/
theorem Event.handles_serve (number : Nat) : (Event.serve number).handles number = true :=
  decide_eq_true rfl

/-- What comes for a call is about it. -/
theorem Event.handles_fetched (number : Nat) (result : Except Failure Wire) :
    (Event.fetched number result).handles number = true := decide_eq_true rfl

/-- An event that is about the call of a number. -/
theorem Event.of_handles {e : Event} {number : Nat} (h : e.handles number = true) :
    e = .serve number ∨ ∃ result, e = .fetched number result := by
  cases e with
  | serve k =>
    rw [show k = number from of_decide_eq_true h]
    exact .inl rfl
  | fetched k result =>
    rw [show k = number from of_decide_eq_true h]
    exact .inr ⟨result, rfl⟩
  | _ => cases h

/-- Whether the process and the calls of a context are as they were. -/
structure Aside (c d : Context) : Prop where
  /-- It has the same process. -/
  process : d.process = c.process
  /-- Its messages are read if they were. -/
  attached : d.attached = c.attached
  /-- Its start was refused if it had been. -/
  refusal : d.refusal = c.refusal
  /-- It serves the same calls. -/
  errands : d.errands = c.errands
  /-- It has counted the same calls. -/
  calls : d.calls = c.calls
  /-- The same was sent to its process. -/
  sent : d.sent = c.sent

/-- Two changes that leave a context alone are one. -/
theorem Aside.trans {b c d : Context} (h : Aside b c) (k : Aside c d) : Aside b d :=
  ⟨k.process.trans h.process, k.attached.trans h.attached, k.refusal.trans h.refusal,
    k.errands.trans h.errands, k.calls.trans h.calls, k.sent.trans h.sent⟩

/-- A context when its process has been created. -/
def launched (c : Context) : Context :=
  let live : Context := { c with process := if c.process = .starting then .alive else c.process }
  if c.status = .terminated then { live.kill with link := .broken }
  else if c.link = .intact then
    { live.send (Message.Instruction.ofSpec c.spec).view.toWire with
      attached := true, timers := c.timers ++ [.start] }
  else { live with attached := true, refusal := some .brokenPipe }

@[simp] theorem kill_process (c : Context) :
    c.kill.process = if c.process = .alive then .gone (some (-9)) else c.process := by
  unfold kill isAlive
  by_cases hp : c.process = .alive
  · simp [hp]
  · simp [hp]

@[simp] theorem kill_refusal (c : Context) : c.kill.refusal = c.refusal := by
  unfold kill
  split <;> rfl

@[simp] theorem kill_errands (c : Context) : c.kill.errands = c.errands := by
  unfold kill
  split <;> rfl

@[simp] theorem kill_calls (c : Context) : c.kill.calls = c.calls := by
  unfold kill
  split <;> rfl

@[simp] theorem kill_sent (c : Context) : c.kill.sent = c.sent := by
  unfold kill
  split <;> rfl

section Launched

/-- The process of a killed context is killed once it has been created. -/
theorem launched_of_terminated {c : Context} (h : c.status = .terminated) :
    launched c = { ({ c with
      process := if c.process = .starting then .alive else c.process } : Context).kill with
        link := .broken } := if_pos h

/-- That of any other context is told what to run, if it can be. -/
theorem launched_of_living {c : Context} (h : c.status ≠ .terminated) :
    launched c = { c with
      process := if c.process = .starting then .alive else c.process
      attached := true
      sent := if c.link = .intact then
        c.sent ++ [(Message.Instruction.ofSpec c.spec).view.toWire] else c.sent
      timers := if c.link = .intact then c.timers ++ [.start] else c.timers
      refusal := if c.link = .intact then c.refusal else some .brokenPipe } := by
  unfold launched
  rw [if_neg h]
  unfold send
  split <;> rfl

/-- The calls of a context whose process has been created. -/
theorem launched_calls (c : Context) :
    (launched c).errands = c.errands ∧ (launched c).calls = c.calls := by
  by_cases ht : c.status = .terminated
  · rw [launched_of_terminated ht]
    exact ⟨kill_errands _, kill_calls _⟩
  · rw [launched_of_living ht]
    exact ⟨rfl, rfl⟩

/-- What is sent to a process that has been created: what to run, if anything. -/
theorem launched_sent (c : Context) : (launched c).sent = c.sent ∨
    (launched c).sent = c.sent ++ [(Message.Instruction.ofSpec c.spec).view.toWire] := by
  by_cases ht : c.status = .terminated
  · rw [launched_of_terminated ht]
    exact .inl (kill_sent _)
  · rw [launched_of_living ht]
    dsimp only
    split
    · exact .inr rfl
    · exact .inl rfl

end Launched

/-- What an event does to a context. -/
inductive Deed (c d : Context) (e : Event) : Prop where
  /-- It concerns neither the process nor the calls, and does not kill the context. -/
  | aside (same : Aside c d) (status : d.status = .terminated → c.status = .terminated)
  /-- It kills the context, which abandons its calls. -/
  | kill (marked : Context) (same : Aside { c with errands := [] } marked)
      (status : marked.status = .terminated) (eq : d = marked.kill)
  /-- The process has been created. -/
  | create (event : e = .created) (unread : c.attached = false) (eq : d = launched c)
  /-- The process ends on its own. -/
  | die (code : Option Int) (before : c.process = .starting ∨ c.process = .alive)
      (eq : d = { c with process := .gone code })
  /-- A request is heard and has the next number. -/
  | hear (r : Request)
      (eq : d = { c with errands := c.errands ++ [⟨c.calls, r, none⟩], calls := c.calls + 1 })
  /-- The call of a number is handled: it is answered, or it waits. -/
  | handle (number : Nat) (event : e.handles number = true)
      (errands : d.errands = c.errands.filter (fun e => e.number ≠ number) ∨
        ∃ fetch, d.errands = c.errands.map fun e =>
          if e.number = number then { e with fetch := some fetch } else e)
      (calls : d.calls = c.calls) (process : d.process = c.process)
      (attached : d.attached = c.attached) (refusal : d.refusal = c.refusal)
      (status : d.status = c.status)

/-- Nothing is done. -/
theorem Deed.refl (c : Context) (e : Event) : Deed c c e :=
  .aside ⟨rfl, rfl, rfl, rfl, rfl, rfl⟩ id

section Settle

/-- A verdict leaves the process and the calls alone. -/
theorem aside_settle (v : Verdict) (s : Scene κ σ) : Aside s.context (settle v s).context := by
  unfold settle
  split
  · exact ⟨rfl, rfl, rfl, rfl, rfl, rfl⟩
  · cases v.line? <;> exact ⟨rfl, rfl, rfl, rfl, rfl, rfl⟩

/-- Only a verdict that says so makes a context a killed one. -/
theorem settle_terminated {v : Verdict} (hv : v.status ≠ .terminated)
    (ht : (settle v s).context.status = .terminated) : s.context.status = .terminated := by
  unfold settle at ht
  split at ht
  · exact ht
  · have hs : (if s.context.status = .terminated then Run.Status.terminated else v.status) =
        .terminated := by
      cases hl : v.line? <;> rw [hl] at ht <;> exact ht
    split at hs
    · assumption
    · exact absurd hs hv

/-- A killed context stays one whatever the verdict. -/
theorem settle_of_terminated (v : Verdict) (ht : s.context.status = .terminated) :
    (settle v s).context.status = .terminated := by
  unfold settle
  split
  · exact ht
  · have hs : (if s.context.status = .terminated then Run.Status.terminated else v.status) =
        .terminated := if_pos ht
    cases v.line? <;> exact hs

/-- A verdict that does not kill, after changes that left the context alone. -/
theorem deed_settle {c : Context} {e : Event} {v : Verdict} (hv : v.status ≠ .terminated)
    (h : Aside c s.context) (hs : s.context.status = .terminated → c.status = .terminated) :
    Deed c (settle v s).context e :=
  .aside (h.trans (aside_settle v s)) fun ht => hs (settle_terminated hv ht)

end Settle

/-- A kill, after changes that left the context alone. -/
theorem deed_terminate {c : Context} {e : Event} (reason : String) (h : Aside c s.context)
    (hs : s.context.status = .terminated → c.status = .terminated) :
    Deed c (terminate reason s).context e := by
  rcases terminate_cases reason s with he | he
  · rw [he]
    exact .aside h hs
  · rw [he]
    have hmarked : Aside { c with errands := [] } (marked s).context :=
      ⟨h.process, h.attached, h.refusal, rfl, h.calls, h.sent⟩
    exact .kill _ (hmarked.trans (aside_settle _ _)) (settle_of_terminated _ rfl) rfl

/-- The end of the creation. -/
theorem created_eq_launched (h : Sound s.context) : (created s).context = launched s.context := by
  rw [created_context h]
  rfl

/-- A timer goes off. -/
theorem deed_onTimer {e : Event} (timer : Timer) (s : Scene κ σ) :
    Deed s.context (onTimer timer s).context e := by
  have hrung (timer : Timer) : Aside s.context (rung timer s).context := ⟨rfl, rfl, rfl, rfl, rfl, rfl⟩
  cases onTimer_cases timer s with
  | unarmed _ eq =>
    rw [eq]
    exact .refl _ _
  | spent _ _ eq =>
    rw [eq]
    exact .aside (hrung timer) id
  | unstarted _ _ _ eq =>
    rw [eq]
    refine deed_terminate "start timeout" ?_ (settle_terminated nofun)
    exact (hrung .start).trans (aside_settle _ _)
  | unfinished _ _ _ eq =>
    rw [eq]
    exact deed_settle nofun ⟨rfl, rfl, rfl, rfl, rfl, rfl⟩ id

/-- A call is answered, after a change of the stage. -/
theorem deed_reply {c : Context} {e : Event} {stage : Artifact.Stage} (errand : Errand)
    (he : e.handles errand.number = true) (answer : Except Failure Wire)
    (hs : s.context = { c with stage }) : Deed c (reply errand answer s).context e := by
  obtain ⟨message, -, hreply⟩ := reply_context errand answer s
  rw [hreply]
  dsimp only [Scene.mapContext]
  rw [hs]
  split
  · exact .handle errand.number he (.inl rfl) rfl rfl rfl rfl rfl
  · unfold send
    split <;> exact .handle errand.number he (.inl rfl) rfl rfl rfl rfl rfl

/-- A call is looked at. -/
theorem deed_attend {e : Event} (hasAttachments : Bool) (errand : Errand)
    (he : e.handles errand.number = true) (s : Scene κ σ) :
    Deed s.context (attend hasAttachments errand s).context e := by
  rcases attend_cases hasAttachments errand s with ⟨answer, ha⟩ | ⟨-, fetch, ha⟩
  · rw [ha]
    exact deed_reply errand he answer rfl
  · rw [ha]
    exact .handle errand.number he (.inr ⟨fetch, rfl⟩) rfl rfl rfl rfl rfl

/-- The end of the messages is read. -/
theorem deed_onEnded (s : Scene κ σ) : Deed s.context (onEnded s).context .ended := by
  cases onEnded_cases s with
  | stays _ eq =>
    rw [eq]
    exact .aside ⟨rfl, rfl, rfl, rfl, rfl, rfl⟩ id
  | fails _ eq =>
    rw [eq]
    exact deed_settle nofun ⟨rfl, rfl, rfl, rfl, rfl, rfl⟩ id

/-- The creation of a process ends only once. -/
theorem unread_of_admits {c : Context} (ha : c.admits .created = true) : c.attached = false := by
  simpa [admits] using ha

variable [DecidableEq κ]

/-- A message comes. -/
theorem deed_onMessage (ops : SinkOps σ) (raw : Wire) (s : Scene κ σ) :
    Deed s.context (onMessage ops raw s).context (.message raw) := by
  have hsame := Deed.refl s.context (.message raw)
  unfold onMessage
  split
  · exact hsame
  · split
    · exact hsame
    · unfold onStarted
      split
      · exact .aside ⟨rfl, rfl, rfl, rfl, rfl, rfl⟩ nofun
      · exact hsame
    · exact hsame
    · rename_i report _
      cases onDone_cases ops report s with
      | stays _ eq =>
        rw [eq]
        exact hsame
      | falls _ v hv eq =>
        rw [eq]
        exact deed_settle hv.1 ⟨rfl, rfl, rfl, rfl, rfl, rfl⟩ id
      | succeeds _ _ _ eq =>
        rcases complete_cases ops s with ⟨ids, gallery, -, hc⟩ | ⟨gallery, hc⟩
        · rw [eq, hc]
          exact deed_settle nofun ⟨rfl, rfl, rfl, rfl, rfl, rfl⟩ id
        · rw [eq, hc]
          exact .aside ⟨rfl, rfl, rfl, rfl, rfl, rfl⟩ id
    · exact .hear _ rfl

/-- An event that can happen does one of these. -/
theorem deed_step (h : Sound s.context) (ops : SinkOps σ) (hasAttachments : Bool) {e : Event}
    (ha : s.context.admits e = true) : Deed s.context (step ops hasAttachments s e).context e := by
  have hsame := Deed.refl s.context e
  cases e with
  | begin => cases ha
  | created => exact .create rfl (unread_of_admits ha) (created_eq_launched h)
  | message raw => exact deed_onMessage ops raw s
  | serve number =>
    unfold step serve
    dsimp only
    split
    · exact deed_attend hasAttachments ⟨number, _, none⟩ (Event.handles_serve number) s
    · exact hsame
  | fetched number result =>
    unfold step fetched
    dsimp only
    split
    · exact deed_reply ⟨number, _, some _⟩ (Event.handles_fetched number result) _ rfl
    · exact hsame
  | died code =>
    unfold step
    dsimp only
    split
    · exact .die code (.inl ‹_›) rfl
    · exact .die code (.inr ‹_›) rfl
    · exact hsame
  | ended =>
    unfold step
    dsimp only
    split
    · exact deed_onEnded s
    · exact hsame
  | unlinked => exact .aside ⟨rfl, rfl, rfl, rfl, rfl, rfl⟩ id
  | timer timer => exact deed_onTimer timer s
  | terminate reason => exact deed_terminate reason ⟨rfl, rfl, rfl, rfl, rfl, rfl⟩ id

/-- Anything that happens does one of these. -/
theorem deed_happen (h : Sound s.context) (ops : SinkOps σ) (hasAttachments : Bool) (e : Event) :
    Deed s.context (happen ops hasAttachments e s).context e := by
  unfold happen
  split
  · exact deed_step h ops hasAttachments ‹_›
  · exact .refl _ _

/-- What happens at a moment does one of these. -/
theorem deed_meet (ops : SinkOps σ) (hasAttachments : Bool) {c : Context} (h : Sound c)
    (m : Moment κ σ) : Deed c (meet ops hasAttachments c m).context m.event :=
  deed_happen (s := m.scene c) h ops hasAttachments m.event

end ChartScript.Context
