import ChartScript.Proofs.Context.Lifecycle
import ChartScript.Proofs.Message.Transit
/-!
# Steps of a context

What every event can do, said once. An event either is quiet, that is, it leaves registry
and sink alone, settles nothing as completed and puts at most one draft on the stage, or
it is the message of a successful end. Both kinds leave the context sound.
-/

namespace ChartScript.Context

open Artifact (Stage Draft SinkOps Gallery ownPrefix startsWith)
open Message (FromContext IsSuccess replyId?)

variable {κ σ : Type}

/-- A change that commits nothing. While the run goes on its stage takes the offered draft,
if there is one, and is the same otherwise. -/
structure Quiet (draft : Option Draft) (s t : Scene κ σ) : Prop where
  /-- Registry and sink are the same. -/
  gallery : t.gallery = s.gallery
  /-- The context belongs to the same instance. -/
  instanceId : t.context.instanceId = s.context.instanceId
  /-- A settled run keeps its outcome. -/
  outcome : s.context.outcome.isSome = true → t.context.outcome = s.context.outcome
  /-- A run that settles has not completed. -/
  verdict : s.context.outcome = none →
    ∀ o, t.context.outcome = some o → o.status ≠ .completed ∧ o.artifacts = []
  /-- While the run goes on its stage takes what is offered. -/
  stage : t.context.outcome = none → t.context.stage = s.context.stage.offered draft

/-- A change that settles nothing is quiet. -/
theorem Quiet.of_outcome_eq {draft : Option Draft} {s t : Scene κ σ} (hg : t.gallery = s.gallery)
    (hi : t.context.instanceId = s.context.instanceId)
    (ho : t.context.outcome = s.context.outcome)
    (hs : t.context.stage = s.context.stage.offered draft) : Quiet draft s t := by
  refine ⟨hg, hi, fun _ => ho, ?_, fun _ => hs⟩
  intro hn o h
  rw [ho, hn] at h
  cases h

/-- A change of the context alone that neither settles nor stages is quiet. -/
theorem Quiet.mapContext {s : Scene κ σ} {f : Context → Context}
    (hi : (f s.context).instanceId = s.context.instanceId)
    (ho : (f s.context).outcome = s.context.outcome)
    (hs : (f s.context).stage = s.context.stage) : Quiet none s (s.mapContext f) :=
  .of_outcome_eq rfl hi ho hs

/-- Nothing is quiet. -/
theorem Quiet.refl (s : Scene κ σ) : Quiet none s s := .of_outcome_eq rfl rfl rfl rfl

/-- Quiet changes follow each other quietly, when the first one offers nothing. -/
theorem Quiet.trans {draft : Option Draft} {r s t : Scene κ σ} (h : Quiet none r s)
    (k : Quiet draft s t) : Quiet draft r t := by
  refine ⟨k.gallery.trans h.gallery, k.instanceId.trans h.instanceId, ?_, ?_, ?_⟩
  · intro hr
    have hs := h.outcome hr
    rw [← hs]
    exact k.outcome (by rw [hs]; exact hr)
  · intro hr o ht
    cases hs : s.context.outcome with
    | none => exact k.verdict hs o ht
    | some _ =>
      have hkeep := k.outcome (by rw [hs]; rfl)
      rw [hkeep] at ht
      exact h.verdict hr o ht
  · intro ht
    have hs : s.context.outcome = none := by
      cases hs : s.context.outcome with
      | none => rfl
      | some p =>
        have hkeep := k.outcome (by rw [hs]; rfl)
        rw [ht, hs] at hkeep
        cases hkeep
    rw [k.stage ht, h.stage hs]
    rfl

/-- A verdict that completes nothing is quiet. -/
theorem quiet_settle {s t : Scene κ σ} (v : Verdict) (hv : v.status ≠ .completed)
    (hg : t.gallery = s.gallery) (hi : t.context.instanceId = s.context.instanceId)
    (hb : t.context.begun = true) (hs : s.context.outcome = none)
    (ht : t.context.outcome = none) : Quiet none s (settle v t) := by
  refine ⟨(settle_gallery v t).trans hg, ?_, ?_, ?_, ?_⟩
  · rw [settle_context v hb ht]
    exact hi
  · intro h
    rw [hs] at h
    cases h
  · intro _ o h
    rw [settle_context v hb ht] at h
    cases h
    refine ⟨hv, ?_⟩
    cases v with
    | completed ids => exact absurd rfl hv
    | failed _ => rfl
    | timedOut => rfl
    | terminated _ => rfl
  · intro h
    rw [settle_context v hb ht] at h
    cases h

section Kill

variable {s : Scene κ σ}

/-- Killing the process of a sound context leaves it sound. -/
theorem Sound.kill {c : Context} (h : Sound c) : Sound c.kill := by
  unfold Context.kill
  split
  · exact { h with }
  · exact h

@[simp] theorem kill_outcome (c : Context) : c.kill.outcome = c.outcome := by
  unfold kill
  split <;> rfl

@[simp] theorem kill_stage (c : Context) : c.kill.stage = c.stage := by
  unfold kill
  split <;> rfl

@[simp] theorem kill_instanceId (c : Context) : c.kill.instanceId = c.instanceId := by
  unfold kill
  split <;> rfl

/-- The scene in which a kill settles: the writes are dropped and the calls abandoned. -/
def marked (s : Scene κ σ) : Scene κ σ :=
  s.mapContext fun c => { c.discardStage with status := .terminated, errands := [] }

/-- What a kill does: nothing to a context that was killed or that settled and ended on its
own; any other one is marked, settled and loses its process. -/
theorem terminate_cases (reason : String) (s : Scene κ σ) :
    terminate reason s = s ∨
      terminate reason s = (settle (.terminated reason) (marked s)).mapContext kill := by
  unfold terminate
  split
  · exact .inl rfl
  · split
    · exact .inl rfl
    · exact .inr rfl

/-- A kill leaves a sound context. -/
theorem Sound.terminate (h : Sound s.context) (reason : String) :
    Sound (Context.terminate reason s).context := by
  rcases terminate_cases reason s with he | he
  · rw [he]
    exact h
  · rw [he]
    refine Sound.kill ?_
    cases ho : s.context.outcome with
    | none =>
      refine sound_settle _ h.begun ho h.stage.discard (fun _ => ⟨rfl, rfl, rfl⟩)
        (fun _ => .inl rfl) (fun _ hm => absurd hm List.not_mem_nil) ?_
      intro hc
      cases hc
    | some o =>
      have hs : (marked s).context.outcome.isSome = true := by
        change s.context.outcome.isSome = true
        rw [ho]
        rfl
      rw [settle_of_settled _ hs]
      refine ⟨h.begun, h.stage.discard, hs.symm ▸ rfl, ?_, fun _ => h.timers hs,
        fun _ => ⟨rfl, rfl, rfl⟩, h.untimed, fun _ _ => rfl, h.owned, fun _ _ _ => rfl⟩
      intro hn
      rw [hn] at hs
      cases hs

/-- A kill is quiet. -/
theorem quiet_terminate (h : Sound s.context) (reason : String) :
    Quiet none s (terminate reason s) := by
  rcases terminate_cases reason s with he | he
  · rw [he]
    exact .refl s
  · rw [he]
    have hm : Quiet none s (settle (.terminated reason) (marked s)) := by
      cases ho : s.context.outcome with
      | none => exact quiet_settle _ Run.Status.noConfusion rfl rfl h.begun ho ho
      | some o =>
        have hs : (marked s).context.outcome.isSome = true := by
          change s.context.outcome.isSome = true
          rw [ho]
          rfl
        rw [settle_of_settled _ hs]
        have hno : ¬s.context.outcome = none := by
          rw [ho]
          exact Option.some_ne_none o
        exact ⟨rfl, rfl, fun _ => rfl, fun hn => absurd hn hno, fun hn => absurd hn hno⟩
    exact hm.trans (.mapContext (kill_instanceId _) (kill_outcome _) (kill_stage _))

/-- A context that was killed is settled. -/
theorem isSome_terminate (h : Sound s.context) (reason : String) :
    (terminate reason s).context.outcome.isSome = true := by
  unfold terminate
  split
  · exact h.isSome_of_terminated ‹_›
  · split
    · rename_i ht
      rw [← h.isTerminal_eq]
      exact (Bool.and_eq_true_iff.mp ht).1
    · change (kill _).outcome.isSome = true
      rw [kill_outcome]
      exact isSome_settle (.terminated reason) h.begun

/-- A settled context is settled also after a kill. -/
theorem terminate_outcome_of_settled (hs : s.context.outcome.isSome = true) (reason : String) :
    (terminate reason s).context.outcome = s.context.outcome := by
  rcases terminate_cases reason s with he | he
  · rw [he]
  · have hm : (marked s).context.outcome.isSome = true := hs
    rw [he, settle_of_settled _ hm]
    exact kill_outcome _

end Kill

section Start

variable {s : Scene κ σ}

/-- The scene in which the process has been created. -/
def live (s : Scene κ σ) : Scene κ σ :=
  s.mapContext fun c => { c with process := if c.process = .starting then .alive else c.process }

/-- What the creation of the process does: a killed context kills it, and any other one is
attached to its messages and sends it what to run if it can. -/
theorem created_context (h : Sound s.context) :
    created s = (live s).mapContext (fun c =>
      if c.status = .terminated then { c.kill with link := .broken }
      else if c.link = .intact then
        { c.send (Message.Instruction.ofSpec c.spec).view.toWire with
          attached := true, timers := c.timers ++ [.start] }
      else { c with attached := true, refusal := some .brokenPipe }) := by
  unfold created
  change (if (live s).context.status = .terminated then
    settle _ ((live s).mapContext _) else (live s).mapContext _) = _
  by_cases ht : s.context.status = .terminated
  · have hl : (live s).context.status = .terminated := ht
    rw [if_pos hl, settle_of_settled]
    · simp [Scene.mapContext, live, ht]
    · change (kill _).outcome.isSome = true
      rw [kill_outcome]
      exact h.isSome_of_terminated ht
  · have hl : ¬(live s).context.status = .terminated := ht
    rw [if_neg hl]
    simp [Scene.mapContext, live, ht]

/-- The creation of the process leaves a sound context, if it was not created before. -/
theorem Sound.created (h : Sound s.context) (ha : s.context.attached = false) :
    Sound (Context.created s).context := by
  rw [created_context h]
  have hl : Sound (live s).context := { h with }
  dsimp only [Scene.mapContext]
  split
  · exact { hl.kill with }
  · rename_i hn
    have ho : (live s).context.outcome = none := by
      cases ho : (live s).context.outcome with
      | none => rfl
      | some o => exact absurd (hl.unread ha (by rw [ho]; rfl)) hn
    have hf : ∀ {p : Prop}, (live s).context.outcome.isSome = true → p := by
      intro p hs
      rw [ho] at hs
      cases hs
    split
    · unfold send
      split
      · exact { hl with timers := hf, untimed := nofun, unread := nofun }
      · exact { hl with timers := hf, untimed := nofun, unread := nofun }
    · exact { hl with timers := hf, untimed := nofun, unread := nofun }

/-- The creation of the process is quiet. -/
theorem quiet_created (h : Sound s.context) : Quiet none s (created s) := by
  rw [created_context h]
  have hl : Quiet none s (live s) := .mapContext rfl rfl rfl
  refine hl.trans (.mapContext ?_ ?_ ?_) <;> dsimp only <;> unfold send <;> repeat' split
  all_goals first | rfl | exact kill_instanceId _ | exact kill_outcome _ | exact kill_stage _

/-- The report of the start leaves a sound context. -/
theorem Sound.onStarted (h : Sound s.context) (ha : s.context.attached = true) :
    Sound (Context.onStarted s).context := by
  unfold Context.onStarted
  split
  · rename_i hc
    have ho := h.outcome_of_created hc
    refine ⟨h.begun, h.stage, ?_, h.isOpen, ?_, nofun, ?_, ?_, h.owned, h.closed⟩
    · change false = s.context.outcome.isSome
      rw [ho]
      rfl
    · intro hs
      change s.context.outcome.isSome = true at hs
      rw [ho] at hs
      cases hs
    · intro hf
      change s.context.attached = false at hf
      rw [ha] at hf
      cases hf
    · intro hf
      change s.context.attached = false at hf
      rw [ha] at hf
      cases hf
  · exact h

/-- The report of the start is quiet. -/
theorem quiet_onStarted (s : Scene κ σ) : Quiet none s (onStarted s) := by
  unfold onStarted
  split
  · exact .of_outcome_eq rfl rfl rfl rfl
  · exact .refl s

end Start

section Calls

variable {s : Scene κ σ}

/-- What becomes of a call and of the stage: a draft is offered to the stage and nothing
else touches it. -/
theorem serve_stage (hasAttachments : Bool) (call : Message.Call) (stage : Stage) :
    (∃ answer, Host.serve hasAttachments call stage =
      .answered (stage.offered (Draft.ofCall? call)) answer) ∨
    ∃ fetch, Host.serve hasAttachments call stage = .waiting fetch ∧ Draft.ofCall? call = none := by
  cases call with
  | getBars symbol timeframe => exact .inr ⟨_, rfl, rfl⟩
  | plot id options drawing =>
    left
    cases ho : stage.isOpen with
    | true =>
      have hp := stage.put_of_isOpen ho ⟨drawing.kind, id, ⟨drawing.payload, options⟩⟩
      refine ⟨.ok (.bool true), ?_⟩
      simp only [Host.serve, hp, Draft.ofCall?, Stage.offered, ho, if_true]
    | false =>
      have hp := stage.put_of_closed ho drawing.kind id ⟨drawing.payload, options⟩
      refine ⟨.error Stage.closedFailure, ?_⟩
      simp only [Host.serve, hp, stage.offered_of_closed ho]
  | listAttachments =>
    cases hasAttachments with
    | true => exact .inr ⟨_, rfl, rfl⟩
    | false => exact .inl ⟨_, rfl⟩
  | readAttachment name =>
    cases hasAttachments with
    | true => exact .inr ⟨_, rfl, rfl⟩
    | false => exact .inl ⟨_, rfl⟩

/-- A context that answers a call, by a message that names the id of the call. -/
theorem reply_context (errand : Errand) (answer : Except Failure Wire) (s : Scene κ σ) :
    ∃ message, replyId? message = some errand.request.id ∧
      reply errand answer s = s.mapContext fun c =>
        if c.status = .terminated then c.dropErrand errand.number
        else (c.dropErrand errand.number).send message := by
  unfold reply
  cases answer with
  | ok w => exact ⟨_, Message.replyId_reply _, rfl⟩
  | error f => exact ⟨_, Message.replyId_failure _ f, rfl⟩

/-- An answer leaves a sound context. -/
theorem Sound.reply (h : Sound s.context) (errand : Errand) (answer : Except Failure Wire) :
    Sound (Context.reply errand answer s).context := by
  obtain ⟨message, -, he⟩ := reply_context errand answer s
  rw [he]
  have hd : Sound (s.context.dropErrand errand.number) := by
    refine { h with killed := ?_ }
    intro ht
    obtain ⟨ho, hw, hc⟩ := h.killed ht
    refine ⟨ho, hw, ?_⟩
    simp [dropErrand, hc]
  dsimp only [Scene.mapContext]
  split
  · exact hd
  · unfold send
    split
    · exact { hd with }
    · exact hd

/-- An answer is quiet. -/
theorem quiet_reply (errand : Errand) (answer : Except Failure Wire) (s : Scene κ σ) :
    Quiet none s (reply errand answer s) := by
  obtain ⟨message, -, he⟩ := reply_context errand answer s
  rw [he]
  apply Quiet.mapContext <;> unfold send dropErrand <;> repeat' split
  all_goals rfl

/-- A scene whose stage was offered a draft. -/
def withOffer (s : Scene κ σ) (draft : Option Draft) : Scene κ σ :=
  s.mapContext fun c => { c with stage := c.stage.offered draft }

/-- An offer leaves a sound context. -/
theorem Sound.withOffer (h : Sound s.context) (draft : Option Draft) :
    Sound (Context.withOffer s draft).context := by
  have ho := s.context.stage.isOpen_offered draft
  refine { h with stage := h.stage.offered draft, isOpen := ?_, killed := ?_, closed := ?_ }
  · exact fun hn => ho.trans (h.isOpen hn)
  · intro ht
    obtain ⟨hc, hw, he⟩ := h.killed ht
    refine ⟨ho.trans hc, ?_, he⟩
    change (s.context.stage.offered draft).writes = []
    rw [Stage.offered_of_closed hc]
    exact hw
  · exact fun o hs hc => ho.trans (h.closed o hs hc)

/-- An offer is quiet. -/
theorem quiet_withOffer (s : Scene κ σ) (draft : Option Draft) : Quiet draft s (withOffer s draft) :=
  .of_outcome_eq rfl rfl rfl rfl

/-- What becomes of a call that is looked at: the draft it asks for, if it does, is offered
and the call is answered, or the call goes on waiting. -/
theorem attend_cases (hasAttachments : Bool) (errand : Errand) (s : Scene κ σ) :
    (∃ answer, attend hasAttachments errand s = reply errand answer
      (withOffer s (Draft.decode? errand.request.method errand.request.params))) ∨
    Draft.decode? errand.request.method errand.request.params = none ∧
      ∃ fetch, attend hasAttachments errand s = s.mapContext fun c =>
        { c with errands := c.errands.map fun e =>
            if e.number = errand.number then { e with fetch := some fetch } else e } := by
  unfold attend Draft.decode?
  cases hd : Message.Call.decode errand.request.method errand.request.params with
  | error f => exact .inl ⟨_, rfl⟩
  | ok call =>
    dsimp only
    rcases serve_stage hasAttachments call s.context.stage with ⟨answer, he⟩ | ⟨fetch, he, hn⟩
    · rw [he]
      exact .inl ⟨answer, rfl⟩
    · rw [he]
      exact .inr ⟨hn, fetch, rfl⟩

/-- Looking at a call leaves a sound context. -/
theorem Sound.attend (h : Sound s.context) (hasAttachments : Bool) (errand : Errand) :
    Sound (Context.attend hasAttachments errand s).context := by
  rcases attend_cases hasAttachments errand s with ⟨answer, he⟩ | ⟨-, fetch, he⟩
  · rw [he]
    exact (h.withOffer _).reply errand answer
  · rw [he]
    refine { h with killed := ?_ }
    intro ht
    obtain ⟨ho, hw, hc⟩ := h.killed ht
    refine ⟨ho, hw, ?_⟩
    simp [Scene.mapContext, hc]

/-- Looking at a call is quiet but for the draft it asks for. -/
theorem quiet_attend (hasAttachments : Bool) (errand : Errand) (s : Scene κ σ) :
    Quiet (Draft.decode? errand.request.method errand.request.params) s
      (attend hasAttachments errand s) := by
  rcases attend_cases hasAttachments errand s with ⟨answer, he⟩ | ⟨hn, fetch, he⟩
  · rw [he]
    have ho := quiet_withOffer s (Draft.decode? errand.request.method errand.request.params)
    have hr := quiet_reply errand answer
      (withOffer s (Draft.decode? errand.request.method errand.request.params))
    refine ⟨hr.gallery, hr.instanceId, hr.outcome, hr.verdict, fun ht => ?_⟩
    exact hr.stage ht
  · rw [he, hn]
    exact .mapContext rfl rfl rfl

/-- A call that is looked at by its number leaves a sound context. -/
theorem Sound.serve (h : Sound s.context) (hasAttachments : Bool) (number : Nat) :
    Sound (Context.serve hasAttachments number s).context := by
  unfold Context.serve
  split
  · exact h.attend hasAttachments _
  · exact h

/-- A call that is looked at by its number is quiet but for its draft. -/
theorem quiet_serve (hasAttachments : Bool) (number : Nat) (s : Scene κ σ) :
    Quiet (s.context.draft? (.serve number)) s (serve hasAttachments number s) := by
  unfold serve draft?
  dsimp only
  cases he : s.context.errand? number with
  | none => exact .refl s
  | some errand =>
    obtain ⟨n, request, fetch⟩ := errand
    cases fetch with
    | none => exact quiet_attend hasAttachments ⟨number, request, none⟩ s
    | some _ => exact .refl s

/-- What comes for a call leaves a sound context. -/
theorem Sound.fetched (h : Sound s.context) (number : Nat) (result : Except Failure Wire) :
    Sound (Context.fetched number result s).context := by
  unfold Context.fetched
  split
  · exact h.reply _ _
  · exact h

/-- What comes for a call is quiet. -/
theorem quiet_fetched (number : Nat) (result : Except Failure Wire) (s : Scene κ σ) :
    Quiet none s (fetched number result s) := by
  unfold fetched
  split
  · exact quiet_reply _ _ s
  · exact .refl s

end Calls

section End

variable {s : Scene κ σ}

/-- A scene one of whose timers has just gone off. -/
def rung (timer : Timer) (s : Scene κ σ) : Scene κ σ :=
  s.mapContext fun c => { c with timers := c.timers.erase timer }

/-- What becomes of a context when its messages end. -/
inductive Ended (s t : Scene κ σ) : Prop where
  /-- Its run is over, so that only the link is broken. -/
  | stays (settled : s.context.status = .terminated ∨ s.context.outcome.isSome = true)
      (eq : t = s.mapContext fun c => { c with link := .broken })
  /-- Its run went on, and ended unexpectedly. -/
  | fails (going : s.context.outcome = none)
      (eq : t = settle (.failed (unexpectedExit s.context.exitCode))
        (s.mapContext fun c => discardStage { c with link := .broken }))

/-- The end of the messages settles a run that goes on, and no other. -/
theorem onEnded_cases (s : Scene κ σ) : Ended s (onEnded s) := by
  unfold onEnded
  dsimp only
  split
  · rename_i hover
    exact .stays (by simpa using hover) rfl
  · rename_i hgoes
    have hgoing : s.context.outcome = none :=
      Option.not_isSome_iff_eq_none.mp fun hsome => hgoes (by rw [hsome, Bool.or_true])
    exact .fails hgoing rfl

/-- Whether what a timer waits for has not come: the start of the script, or the end of the run. -/
def Awaits (c : Context) : Timer → Prop
  | .start => c.status = .created
  | .watchdog => c.outcome = none

/-- What becomes of a context when one of its timers goes off. -/
inductive Rings (timer : Timer) (s t : Scene κ σ) : Prop where
  /-- The timer was not armed. -/
  | unarmed (off : ¬s.context.timers.contains timer = true) (eq : t = s)
  /-- It was, but what it waited for has come. -/
  | spent (armed : s.context.timers.contains timer = true) (come : ¬s.context.Awaits timer)
      (eq : t = rung timer s)
  /-- The script has not started in time, so the run fails and is killed. -/
  | unstarted (start : timer = .start) (armed : s.context.timers.contains .start = true)
      (waiting : s.context.status = .created)
      (eq : t = terminate "start timeout"
        (settle (.failed "execution context failed to start") (rung .start s)))
  /-- The run has not ended in time. -/
  | unfinished (watchdog : timer = .watchdog) (armed : s.context.timers.contains .watchdog = true)
      (going : s.context.outcome = none)
      (eq : t = settle .timedOut ((rung .watchdog s).mapContext discardStage))

/-- A timer that goes off settles a run in one of two ways, or leaves it as it is. -/
theorem onTimer_cases (timer : Timer) (s : Scene κ σ) : Rings timer s (onTimer timer s) := by
  unfold onTimer
  split
  · rename_i harmed
    cases timer with
    | start =>
      dsimp only
      split
      · exact .unstarted rfl harmed ‹_› rfl
      · exact .spent harmed ‹_› rfl
    | watchdog =>
      dsimp only
      split
      · rename_i hsettled
        exact .spent harmed (Option.isSome_iff_ne_none.mp hsettled) rfl
      · rename_i hgoes
        exact .unfinished rfl harmed (Option.not_isSome_iff_eq_none.mp hgoes) rfl
  · exact .unarmed ‹_› rfl

/-- A run whose messages are read and that is not settled settles on a verdict that neither
kills nor completes it, once its writes are dropped. -/
theorem sound_settle_discarded (h : Sound s.context) {t : Scene κ σ}
    (ho : s.context.outcome = none) (v : Verdict)
    (hv : v.status ≠ .terminated ∧ v.status ≠ .completed)
    (hb : t.context.begun = true) (hi : t.context.instanceId = s.context.instanceId)
    (hs : t.context.stage.IsOf s.context.instanceId) (ht : t.context.outcome = none)
    (hst : t.context.status = s.context.status) (hat : t.context.attached = true) :
    Sound (settle v t).context := by
  have hn := h.not_terminated ho
  refine sound_settle v hb ht (hi ▸ hs) ?_ ?_ ?_ ?_
  · rintro (hk | hk)
    · exact absurd (hst ▸ hk) hn
    · exact absurd hk hv.1
  · intro hf
    rw [hat] at hf
    cases hf
  · intro id hm
    cases v with
    | completed ids => exact absurd rfl hv.2
    | failed _ => exact absurd hm List.not_mem_nil
    | timedOut => exact absurd hm List.not_mem_nil
    | terminated _ => exact absurd hm List.not_mem_nil
  · exact fun hc => absurd hc hv.2

/-- The end of the messages leaves a sound context. -/
theorem Sound.onEnded (h : Sound s.context) (ha : s.context.attached = true) :
    Sound (Context.onEnded s).context := by
  cases onEnded_cases s with
  | stays _ eq =>
    rw [eq]
    exact { h with }
  | fails ho eq =>
    rw [eq]
    exact sound_settle_discarded h ho _ ⟨Run.Status.noConfusion, Run.Status.noConfusion⟩ h.begun
      rfl h.stage.discard ho rfl ha

/-- The end of the messages is quiet. -/
theorem quiet_onEnded (h : Sound s.context) : Quiet none s (onEnded s) := by
  cases onEnded_cases s with
  | stays _ eq =>
    rw [eq]
    exact .mapContext rfl rfl rfl
  | fails ho eq =>
    rw [eq]
    exact quiet_settle _ Run.Status.noConfusion rfl rfl h.begun ho ho

/-- A context one of whose timers has gone off is sound. -/
theorem Sound.rung (h : Sound s.context) (timer : Timer) : Sound (Context.rung timer s).context := by
  have hnone (hc : s.context.timers = []) : s.context.timers.erase timer = [] := by
    rw [hc]
    rfl
  exact { h with timers := fun hs => hnone (h.timers hs), untimed := fun ha => hnone (h.untimed ha) }

/-- A timer that goes off leaves a sound context. -/
theorem Sound.onTimer (h : Sound s.context) (timer : Timer) :
    Sound (Context.onTimer timer s).context := by
  cases onTimer_cases timer s with
  | unarmed _ eq =>
    rw [eq]
    exact h
  | spent _ _ eq =>
    rw [eq]
    exact h.rung timer
  | unstarted _ armed _ eq =>
    obtain ⟨ho, ha⟩ := h.of_timer armed
    rw [eq]
    refine Sound.terminate ?_ _
    exact sound_settle_discarded h ho _ ⟨Run.Status.noConfusion, Run.Status.noConfusion⟩
      h.begun rfl h.stage ho rfl ha
  | unfinished _ armed ho eq =>
    have ha := (h.of_timer armed).2
    rw [eq]
    exact sound_settle_discarded h ho _ ⟨Run.Status.noConfusion, Run.Status.noConfusion⟩
      h.begun rfl h.stage.discard ho rfl ha

/-- A timer that goes off is quiet. -/
theorem quiet_onTimer (h : Sound s.context) (timer : Timer) : Quiet none s (onTimer timer s) := by
  cases onTimer_cases timer s with
  | unarmed _ eq =>
    rw [eq]
    exact .refl s
  | spent _ _ eq =>
    rw [eq]
    exact .mapContext rfl rfl rfl
  | unstarted _ armed _ eq =>
    obtain ⟨ho, ha⟩ := h.of_timer armed
    have hfailed : Quiet none s
        (settle (.failed "execution context failed to start") (rung .start s)) :=
      quiet_settle _ Run.Status.noConfusion rfl rfl h.begun ho ho
    rw [eq]
    refine hfailed.trans (quiet_terminate ?_ _)
    exact sound_settle_discarded h ho _ ⟨Run.Status.noConfusion, Run.Status.noConfusion⟩
      h.begun rfl h.stage ho rfl ha
  | unfinished _ _ ho eq =>
    rw [eq]
    exact quiet_settle _ Run.Status.noConfusion rfl rfl h.begun ho ho

variable [DecidableEq κ]

/-- What a commit leaves of the stage: it is closed, or the same when the sink fails. -/
theorem commit_stage (ops : SinkOps σ) (g : Gallery κ σ) (stage : Stage) (owner : Option κ) :
    (∃ ids, (g.commit ops stage owner).2 = (stage.discard, .ok ids) ∧ ∀ id ∈ ids, id ∈ stage.ids) ∨
      ∃ f, (g.commit ops stage owner).2 = (stage, .error f) := by
  unfold Gallery.commit
  split
  · split
    · exact .inr ⟨_, rfl⟩
    · split
      · exact .inr ⟨_, rfl⟩
      · exact .inl ⟨_, rfl, fun _ hm => hm⟩
  · exact .inl ⟨_, rfl, fun _ hm => absurd hm List.not_mem_nil⟩

/-- A successful end closes the stage and settles the run as completed, unless the sink fails. -/
theorem complete_cases (ops : SinkOps σ) (s : Scene κ σ) :
    (∃ ids gallery, (∀ id ∈ ids, id ∈ s.context.stage.ids) ∧
        complete ops s = settle (.completed ids) { s.mapContext discardStage with gallery }) ∨
      ∃ gallery, complete ops s = { s with gallery } := by
  unfold complete
  rcases commit_stage ops s.gallery s.context.stage (some s.self) with ⟨ids, he, hids⟩ | ⟨f, he⟩
  · simp only [he]
    exact .inl ⟨ids, _, hids, rfl⟩
  · simp only [he]
    exact .inr ⟨_, rfl⟩

/-- What becomes of a context when the end of its script is reported. -/
inductive Concludes (ops : SinkOps σ) (report : Message.Done) (s t : Scene κ σ) : Prop where
  /-- Its run is settled, and stays so. -/
  | stays (settled : s.context.outcome.isSome = true) (eq : t = s)
  /-- It timed out or failed, and its writes are dropped. -/
  | falls (going : s.context.outcome = none) (v : Verdict)
      (poor : v.status ≠ .terminated ∧ v.status ≠ .completed)
      (eq : t = settle v (s.mapContext discardStage))
  /-- It succeeded. -/
  | succeeds (going : s.context.outcome = none) (timely : ¬report.timedOut = some true)
      (clean : report.error = none) (eq : t = complete ops s)

/-- A report of the end counts for a run that goes on, and for no other. -/
theorem onDone_cases (ops : SinkOps σ) (report : Message.Done) (s : Scene κ σ) :
    Concludes ops report s (onDone ops report s) := by
  unfold onDone
  split
  · exact .stays ‹_› rfl
  · rename_i hgoes
    have hgoing := Option.not_isSome_iff_eq_none.mp hgoes
    split
    · exact .falls hgoing .timedOut ⟨Run.Status.noConfusion, Run.Status.noConfusion⟩ rfl
    · split
      · exact .falls hgoing (.failed _) ⟨Run.Status.noConfusion, Run.Status.noConfusion⟩ rfl
      · exact .succeeds hgoing ‹_› ‹_› rfl

/-- A successful end leaves a sound context. -/
theorem Sound.complete (h : Sound s.context) (ops : SinkOps σ) (ho : s.context.outcome = none)
    (ha : s.context.attached = true) : Sound (Context.complete ops s).context := by
  have hn := h.not_terminated ho
  rcases complete_cases ops s with ⟨ids, gallery, hm, he⟩ | ⟨gallery, he⟩
  · rw [he]
    refine sound_settle _ h.begun ho h.stage.discard ?_ ?_ ?_ (fun _ => rfl)
    · rintro (hk | hk)
      · exact absurd hk hn
      · cases hk
    · intro hf
      change s.context.attached = false at hf
      rw [ha] at hf
      cases hf
    · exact fun id hi => h.stage.startsWith_of_mem_ids (hm id hi)
  · rw [he]
    exact h

/-- The report of the end leaves a sound context. -/
theorem Sound.onDone (h : Sound s.context) (ops : SinkOps σ) (report : Message.Done)
    (ha : s.context.attached = true) : Sound (Context.onDone ops report s).context := by
  cases onDone_cases ops report s with
  | stays _ eq =>
    rw [eq]
    exact h
  | falls ho v hv eq =>
    rw [eq]
    exact sound_settle_discarded h ho v hv h.begun rfl h.stage.discard ho rfl ha
  | succeeds ho _ _ eq =>
    rw [eq]
    exact h.complete ops ho ha

/-- A message leaves a sound context. -/
theorem Sound.onMessage (h : Sound s.context) (ops : SinkOps σ) (raw : Wire)
    (ha : s.context.attached = true) : Sound (Context.onMessage ops raw s).context := by
  unfold Context.onMessage
  split
  · exact h
  · rename_i hn
    split
    · exact h
    · exact h.onStarted ha
    · exact h
    · exact h.onDone ops _ ha
    · exact { h with killed := fun ht => absurd ht hn }

/-- An event that can happen leaves a sound context. -/
theorem Sound.step (h : Sound s.context) (ops : SinkOps σ) (hasAttachments : Bool) {e : Event}
    (ha : s.context.admits e = true) : Sound (Context.step ops hasAttachments s e).context := by
  cases e with
  | begin => cases ha
  | created => exact h.created (by simpa [admits] using ha)
  | message raw => exact h.onMessage ops raw ha
  | serve number => exact h.serve hasAttachments number
  | fetched number result => exact h.fetched number result
  | died code =>
    unfold Context.step
    dsimp only
    split
    · exact { h with }
    · exact { h with }
    · exact h
  | ended =>
    unfold Context.step
    dsimp only
    split
    · exact h.onEnded ha
    · exact h
  | unlinked => exact { h with }
  | timer t => exact h.onTimer t
  | terminate reason => exact h.terminate reason

/-- Every event that can happen is quiet but for the draft it offers, or it is the message
of a successful end, which completes a run that goes on. -/
theorem step_cases (h : Sound s.context) (ops : SinkOps σ) (hasAttachments : Bool) {e : Event}
    (ha : s.context.admits e = true) :
    Quiet (s.context.draft? e) s (step ops hasAttachments s e) ∨
      ∃ raw, e = .message raw ∧ IsSuccess raw ∧ s.context.outcome = none ∧
        step ops hasAttachments s e = complete ops s := by
  cases e with
  | begin => cases ha
  | created => exact .inl (quiet_created h)
  | message raw =>
    unfold step onMessage
    dsimp only
    split
    · exact .inl (.refl s)
    · split
      · exact .inl (.refl s)
      · exact .inl (quiet_onStarted s)
      · exact .inl (.of_outcome_eq rfl rfl rfl rfl)
      · rename_i report hd
        cases onDone_cases ops report s with
        | stays _ eq =>
          rw [eq]
          exact .inl (.refl s)
        | falls ho v hv eq =>
          rw [eq]
          exact .inl (quiet_settle v hv.2 rfl rfl h.begun ho ho)
        | succeeds ho ht he eq => exact .inr ⟨raw, rfl, ⟨report, hd, ht, he⟩, ho, eq⟩
      · exact .inl (.mapContext rfl rfl rfl)
  | serve number => exact .inl (quiet_serve hasAttachments number s)
  | fetched number result => exact .inl (quiet_fetched number result s)
  | died code =>
    unfold step
    dsimp only
    split
    · exact .inl (.mapContext rfl rfl rfl)
    · exact .inl (.mapContext rfl rfl rfl)
    · exact .inl (.refl s)
  | ended =>
    unfold step
    dsimp only
    split
    · exact .inl (quiet_onEnded h)
    · exact .inl (.refl s)
  | unlinked => exact .inl (.of_outcome_eq rfl rfl rfl rfl)
  | timer t => exact .inl (quiet_onTimer h t)
  | terminate reason => exact .inl (quiet_terminate h reason)

end End

end ChartScript.Context
