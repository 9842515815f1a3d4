import ChartScript.Proofs.Fleet.Feed
import ChartScript.Proofs.Message.RoundTrip
import ChartScript.Proofs.System.Order
/-!
# The first message of a session

A session that has had no instruction has said nothing. So its context has heard no request and
has sent nothing but the instruction of its specification, and nothing else is on its way to the
session. Whatever instruction a session of the system is given is therefore one that it accepts.
-/

namespace ChartScript

open Artifact (SinkOps)
open Message (FromContext Instruction)

namespace Context

variable {κ σ : Type} {s : Scene κ σ}

/-- The instruction that a context sends to its process. -/
def instruction (c : Context) : Wire := (Instruction.ofSpec c.spec).view.toWire

/-- A context that serves no call and has sent nothing but its instruction. -/
structure Unasked (instruction : Wire) (c : Context) : Prop where
  /-- It is its instruction. -/
  instructs : c.instruction = instruction
  /-- It serves no call. -/
  errands : c.errands = []
  /-- It has sent nothing else. -/
  sent : ∀ m ∈ c.sent, m = instruction

/-- A change by which a context says nothing to its process and takes no call. -/
structure Withheld (c d : Context) : Prop where
  /-- It runs the same. -/
  spec : d.spec = c.spec
  /-- It has sent the same. -/
  sent : d.sent = c.sent
  /-- It takes no call. -/
  errands : c.errands = [] → d.errands = []

/-- Two such changes are one. -/
theorem Withheld.trans {b c d : Context} (h : Withheld b c) (k : Withheld c d) : Withheld b d :=
  ⟨k.spec.trans h.spec, k.sent.trans h.sent, fun he => k.errands (h.errands he)⟩

/-- A context that says nothing to its process and takes no call stays unasked. -/
theorem Unasked.withheld {instruction : Wire} {c d : Context} (h : Unasked instruction c)
    (k : Withheld c d) : Unasked instruction d := by
  refine ⟨?_, k.errands h.errands, ?_⟩
  · rw [← h.instructs]
    unfold Context.instruction
    rw [k.spec]
  · rw [k.sent]
    exact h.sent

/-- A verdict says nothing to the process. -/
theorem withheld_settle (v : Verdict) (s : Scene κ σ) : Withheld s.context (settle v s).context := by
  unfold settle
  split
  · exact ⟨rfl, rfl, id⟩
  · dsimp only
    split <;> exact ⟨rfl, rfl, id⟩

/-- The end of a process says nothing to it. -/
theorem withheld_kill (c : Context) : Withheld c c.kill := by
  refine ⟨?_, kill_sent c, fun he => (kill_errands c).trans he⟩
  unfold kill
  split <;> rfl

/-- A kill says nothing to the process. -/
theorem withheld_terminate (reason : String) (s : Scene κ σ) :
    Withheld s.context (terminate reason s).context := by
  rcases terminate_cases reason s with he | he
  · rw [he]
    exact ⟨rfl, rfl, id⟩
  · have hmarked : Withheld s.context (marked s).context := ⟨rfl, rfl, fun _ => rfl⟩
    rw [he]
    exact (hmarked.trans (withheld_settle _ _)).trans (withheld_kill _)

/-- A timer says nothing to the process. -/
theorem withheld_onTimer (timer : Timer) (s : Scene κ σ) :
    Withheld s.context (onTimer timer s).context := by
  cases onTimer_cases timer s with
  | unarmed _ eq =>
    rw [eq]
    exact ⟨rfl, rfl, id⟩
  | spent _ _ eq =>
    rw [eq]
    exact ⟨rfl, rfl, id⟩
  | unstarted _ _ _ eq =>
    have hrung : Withheld s.context (rung .start s).context := ⟨rfl, rfl, id⟩
    rw [eq]
    exact (hrung.trans (withheld_settle _ _)).trans (withheld_terminate _ _)
  | unfinished _ _ _ eq =>
    have hdiscarded : Withheld s.context ((rung .watchdog s).mapContext discardStage).context :=
      ⟨rfl, rfl, id⟩
    rw [eq]
    exact hdiscarded.trans (withheld_settle _ _)

/-- The end of the messages says nothing to the process. -/
theorem withheld_onEnded (s : Scene κ σ) : Withheld s.context (onEnded s).context := by
  cases onEnded_cases s with
  | stays _ eq =>
    rw [eq]
    exact ⟨rfl, rfl, id⟩
  | fails _ eq =>
    have hclosed : Withheld s.context
        (s.mapContext fun c => discardStage { c with link := .broken }).context := ⟨rfl, rfl, id⟩
    rw [eq]
    exact hclosed.trans (withheld_settle _ _)

/-- A process that has been created is told what to run, or nothing. -/
theorem Unasked.launched {instruction : Wire} {c : Context} (h : Unasked instruction c) :
    Unasked instruction (launched c) := by
  have hspec : (Context.launched c).spec = c.spec := by
    by_cases ht : c.status = .terminated
    · rw [launched_of_terminated ht]
      exact (withheld_kill _).spec
    · rw [launched_of_living ht]
  refine ⟨?_, (launched_calls c).1.trans h.errands, fun m hm => ?_⟩
  · rw [← h.instructs]
    unfold Context.instruction
    rw [hspec]
  · rcases launched_sent c with hsent | hsent
    · rw [hsent] at hm
      exact h.sent m hm
    · rw [hsent] at hm
      rcases List.mem_append.mp hm with hm | hm
      · exact h.sent m hm
      · exact (List.mem_singleton.mp hm).trans h.instructs

/-- An event that brings no message leaves a context unasked. -/
theorem Unasked.happen [DecidableEq κ] {instruction : Wire} (h : Unasked instruction s.context)
    (hs : Sound s.context) (ops : SinkOps σ) (hasAttachments : Bool) {e : Event}
    (he : ∀ raw, e ≠ .message raw) :
    Unasked instruction (happen ops hasAttachments e s).context := by
  have hnone : ∀ number, s.context.errand? number = none := by
    intro number
    unfold errand?
    rw [h.errands]
    rfl
  unfold Context.happen
  split
  · rename_i ha
    cases e with
    | begin => cases ha
    | message raw => exact absurd rfl (he raw)
    | created =>
      unfold step
      dsimp only
      rw [created_eq_launched hs]
      exact h.launched
    | serve number =>
      unfold step serve
      dsimp only
      rw [hnone]
      exact h
    | fetched number result =>
      unfold step fetched
      dsimp only
      rw [hnone]
      exact h
    | died code =>
      unfold step
      dsimp only
      split
      · exact h.withheld ⟨rfl, rfl, id⟩
      · exact h.withheld ⟨rfl, rfl, id⟩
      · exact h
    | ended =>
      unfold step
      dsimp only
      split
      · exact h.withheld (withheld_onEnded s)
      · exact h
    | unlinked => exact h.withheld ⟨rfl, rfl, id⟩
    | timer timer => exact h.withheld (withheld_onTimer timer s)
    | terminate reason => exact h.withheld (withheld_terminate reason s)
  · exact h

end Context

namespace Fleet

variable {σ : Type} {f : Fleet σ} {n : Nat} {c d : Context}

/-- A context that was unasked is unasked after every event of the fleet that brings it no
message. -/
theorem Sound.unasked_step {instruction : Wire} (h : f.Sound) (ops : SinkOps σ)
    (hasAttachments : Bool) (now : Nat) {e : Event} (he : ∀ raw, e ≠ .context n (.message raw))
    (hc : f.contexts[n]? = some c) (hu : c.Unasked instruction) (hd : (Fleet.step ops hasAttachments now f e).contexts[n]? = some d) :
    d.Unasked instruction := by
  obtain ⟨moments, hmoments, hlived⟩ := lived_step ops hasAttachments now e hc
  have hsilent : ∀ m ∈ moments, ∀ raw, m.event ≠ .message raw := by
    rintro m hm raw hraw
    rcases hmoments with hkills | ⟨own, rfl, hown⟩
    · obtain ⟨reason, hreason⟩ := hkills m hm
      cases hreason.symm.trans hraw
    · rw [List.mem_singleton.mp hm] at hraw
      exact he raw (hraw ▸ hown)
  cases hlived.symm.trans hd
  have hs := h.contexts n c hc
  clear hlived hd hmoments hc
  induction moments generalizing c with
  | nil => exact hu
  | cons m rest ih =>
    have hfirst : (Context.meet ops hasAttachments c m).context.Unasked instruction :=
      hu.happen (s := m.scene c) hs ops hasAttachments (hsilent m List.mem_cons_self)
    exact ih hfirst (fun later hl => hsilent later (List.mem_cons_of_mem m hl))
      (Context.sound_meet ops hasAttachments hs m)

end Fleet

namespace Session

variable {π : Type} {s : Session π}

/-- A session that was given no instruction and has said nothing. -/
structure Unborn (s : Session π) : Prop where
  /-- It has no instruction. -/
  phase : s.phase = .idle
  /-- It has said nothing. -/
  sent : s.sent = []
  /-- No timer runs. -/
  budget : s.budget = none

/-- A session that has reported its end is not waiting for an instruction. -/
theorem report_phase (done : Message.Done) (s : Session π) : (s.report done).phase ≠ .idle := by
  unfold report
  split <;> exact nofun

/-- A session that has failed is not waiting for an instruction. -/
theorem fail_phase (f : Failure) (s : Session π) : (fail f s).phase ≠ .idle := by
  unfold fail
  split
  · exact nofun
  · exact report_phase _ _

/-- A session whose program asks for something is not waiting for an instruction. -/
theorem perform_phase (p : Program π) (effect : Script.Effect) (rest : π) (s : Session π) :
    (perform p effect rest s).phase ≠ .idle := by
  unfold perform
  cases effect with
  | print text =>
    dsimp only
    split <;> exact nofun
  | log level text =>
    dsimp only
    split <;> exact nofun
  | request method params => exact nofun
  | wait call =>
    dsimp only
    split <;> exact nofun
  | query call what => exact nofun
  | sleep seconds => exact nofun

/-- A session that takes a turn is not waiting for an instruction if it was not before. -/
theorem turn_phase (p : Program π) (h : s.phase ≠ .idle) : (turn p s).phase ≠ .idle := by
  unfold turn
  split
  · exact perform_phase p _ _ s
  · split
    · exact nofun
    · exact fail_phase _ s
  · split
    · exact report_phase _ _
    · split <;> exact nofun
  · exact fail_phase _ s
  · exact nofun
  · split
    · exact nofun
    · exact h
  · split
    · exact fail_phase _ s
    · split
      · exact report_phase _ _
      · exact h
  · exact h

/-- A session that was given an instruction never waits for another one. -/
theorem step_phase (p : Program π) (h : s.phase ≠ .idle) (e : Event) : (step p s e).phase ≠ .idle := by
  cases e with
  | instruct raw =>
    unfold step instruct
    dsimp only
    split
    · exact absurd ‹_› h
    · exact h
  | hangUp =>
    unfold step
    dsimp only
    split
    · exact nofun
    · exact h
  | turn => exact turn_phase p h
  | deliver raw =>
    unfold step deliver
    dsimp only
    split
    · split
      · exact nofun
      · exact h
    · exact h
  | wake =>
    unfold step
    dsimp only
    split
    · exact nofun
    · exact h
  | timer =>
    unfold step onTimer finish send
    dsimp only
    split
    · exact h
    · split
      · rename_i he
        split at he
        · cases he
          exact h
        · split at he
          · cases he
            exact h
          · cases he
      · exact h
  | disconnect => exact h

/-- An instruction is the last that a session waits for. -/
theorem instruct_phase (p : Program π) (raw : Wire) (s : Session π) :
    (step p s (.instruct raw)).phase ≠ .idle := by
  unfold step instruct
  dsimp only
  split
  · split
    · exact report_phase _ s
    · split
      · exact nofun
      · split
        · exact nofun
        · exact nofun
  · assumption

/-- As long as a session waits for its instruction it says nothing. -/
theorem Unborn.step (h : Unborn s) (p : Program π) (e : Event)
    (hp : (Session.step p s e).phase = .idle) : Unborn (Session.step p s e) := by
  cases e with
  | instruct raw => exact absurd hp (instruct_phase p raw s)
  | hangUp =>
    unfold Session.step at hp
    rw [h.phase] at hp
    cases hp
  | turn =>
    unfold Session.step turn
    rw [h.phase]
    exact h
  | deliver raw =>
    have hdeaf : ¬s.canReceive = true := by
      unfold canReceive
      rw [h.phase]
      exact nofun
    unfold Session.step deliver
    dsimp only
    rw [if_neg hdeaf]
    exact h
  | wake =>
    unfold Session.step
    rw [h.phase]
    exact h
  | timer =>
    unfold Session.step onTimer
    dsimp only
    rw [h.budget]
    exact h
  | disconnect => exact ⟨h.phase, h.sent, h.budget⟩

/-- An instruction for a specification is accepted: the session starts the program as it says, or
ends without a report when its budget is no number of seconds. -/
theorem instruct_ofSpec (p : Program π) (spec : Run.Spec) (hs : s.phase = .idle)
    (hc : s.connected = true) :
    (∃ e, Number.toFloat (.int spec.timeoutMs) = .error e ∧
        step p s (.instruct (Instruction.ofSpec spec).view.toWire) = s.leave (.failed e.failure)) ∨
      step p s (.instruct (Instruction.ofSpec spec).view.toWire) = { s with
        sent := s.sent ++ [Message.startedView.toWire]
        phase := .active (p.start (Instruction.ofSpec spec))
        setting := ⟨spec.symbol, spec.timeframe⟩
        budget := some spec.timeoutMs } := by
  unfold step instruct
  dsimp only
  rw [hs, Message.Instruction.check_view]
  dsimp only
  have hbudget : (Instruction.ofSpec spec).timeoutMs = spec.timeoutMs := rfl
  rw [hbudget]
  cases hf : Number.toFloat (.int spec.timeoutMs) with
  | error e => exact .inl ⟨e, rfl, rfl⟩
  | ok x =>
    right
    unfold send
    dsimp only
    rw [if_pos hc]
    rfl

end Session

namespace System

variable {π σ : Type} {s : System π σ}

/-- A context and its session before the instruction: neither has said anything else, and
nothing else is on its way. -/
structure Unbegun (instruction : Wire) (c : Context) (seat : Seat π) : Prop where
  /-- The session has said nothing. -/
  session : seat.timeline.session.Unborn
  /-- The context has heard no request and has sent nothing but its instruction. -/
  context : c.Unasked instruction
  /-- Nothing but the instruction is on its way. -/
  inbox : ∀ m ∈ seat.timeline.inbox, m = instruction

/-- What holds of every context whose session waits for its instruction. -/
structure Instructs (s : System π σ) : Prop where
  /-- The fleet is sound. -/
  sound : s.fleet.Sound
  /-- Every context has a session. -/
  seated : s.seats.length = s.fleet.contexts.length
  /-- As long as a session waits for its instruction nothing else is said. -/
  unbegun : ∀ (n : Nat) (c : Context) (seat : Seat π), s.fleet.contexts[n]? = some c →
    s.seats[n]? = some seat → seat.timeline.session.phase = .idle → Unbegun c.instruction c seat

/-- Nothing is said before the first start. -/
theorem instructs_empty (sink : σ) (console : Option Console) (defaultTimeoutMs : Int) :
    Instructs (.empty (.empty sink console defaultTimeoutMs) : System π σ) := by
  refine ⟨Fleet.sound_empty sink console defaultTimeoutMs, rfl, ?_⟩
  intro n c seat hc
  cases hc

/-- A context that takes no message from its session stays unbegun with it. -/
theorem Instructs.rest (h : s.Instructs) (w : World π σ) (fe : Fleet.Event) {n : Nat} {d : Context}
    {seat : Seat π} (hother : ∀ raw, fe ≠ .context n (.message raw))
    (hd : (s.fleet.step w.ops w.hasAttachments s.now fe).contexts[n]? = some d)
    (hs : s.seats[n]? = some seat) (hp : seat.timeline.session.phase = .idle) :
    Unbegun d.instruction d seat := by
  have hlt : n < s.fleet.contexts.length := h.seated ▸ (List.getElem?_eq_some_iff.mp hs).1
  obtain ⟨c, hc⟩ : ∃ c, s.fleet.contexts[n]? = some c := ⟨_, List.getElem?_eq_getElem hlt⟩
  have hbefore := h.unbegun n c seat hc hs hp
  have hcontext := h.sound.unasked_step w.ops w.hasAttachments s.now hother hc hbefore.context hd
  rw [hcontext.instructs]
  exact ⟨hbefore.session, hcontext, hbefore.inbox⟩

/-- A context that is told something stays unbegun with its session: it is told its
instruction. -/
theorem Instructs.tell (h : s.Instructs) (w : World π σ) {m n : Nat} {c : Context} {seat : Seat π}
    (hc : s.fleet.contexts[n]? = some c) (hs : (s.step w (.tell m)).seats[n]? = some seat)
    (hp : seat.timeline.session.phase = .idle) : Unbegun c.instruction c seat := by
  unfold System.step at hs
  dsimp only at hs
  split at hs
  · rename_i d old hd hold
    split at hs
    · rename_i message hmessage
      rw [getElem?_mapSeat] at hs
      obtain ⟨first, hfirst, rfl⟩ := Option.map_eq_some_iff.mp hs
      by_cases hm : m = n
      · subst hm
        cases hd.symm.trans hc
        cases hold.symm.trans hfirst
        rw [if_pos rfl] at hp ⊢
        have hbefore := h.unbegun m _ old hd hold hp
        refine ⟨hbefore.session, hbefore.context, fun raw hraw => ?_⟩
        rcases List.mem_append.mp hraw with hraw | hraw
        · exact hbefore.inbox raw hraw
        · rw [List.mem_singleton.mp hraw]
          exact hbefore.context.sent message (List.mem_of_getElem? hmessage)
      · rw [if_neg hm] at hp ⊢
        exact h.unbegun n c first hc hfirst hp
    · exact h.unbegun n c seat hc hs hp
  · exact h.unbegun n c seat hc hs hp

/-- A context hears nothing of a session that waits for its instruction. -/
theorem Instructs.hear (h : s.Instructs) (w : World π σ) {m n : Nat} {d : Context} {seat : Seat π}
    (ha : s.Allows (.hear m)) (hd : (s.step w (.hear m)).fleet.contexts[n]? = some d)
    (hs : (s.step w (.hear m)).seats[n]? = some seat)
    (hp : seat.timeline.session.phase = .idle) : Unbegun d.instruction d seat := by
  have hfleet := step_fleet w ha
  rw [hfleet, fleetEvent?] at hd
  rw [step_hear] at hs
  cases hraw : s.nextHeard? m with
  | none =>
    rw [hraw] at hd hs
    exact h.unbegun n d seat hd hs hp
  | some raw =>
    rw [hraw] at hd hs
    dsimp only [Option.map_some] at hd hs
    rw [getElem?_mapSeat] at hs
    obtain ⟨first, hfirst, rfl⟩ := Option.map_eq_some_iff.mp hs
    change s.seats[n]? = some first at hfirst
    by_cases hm : m = n
    · -- the session has said nothing that could be heard
      subst hm
      rw [if_pos rfl] at hp
      have hlt : m < s.fleet.contexts.length := h.seated ▸ (List.getElem?_eq_some_iff.mp hfirst).1
      have hbefore := h.unbegun m _ first (List.getElem?_eq_getElem hlt) hfirst hp
      unfold nextHeard? at hraw
      rw [hfirst, Option.bind_some, hbefore.session.sent] at hraw
      cases hraw
    · rw [if_neg hm] at hp ⊢
      refine h.rest w (.context m (.message raw)) ?_ hd hfirst hp
      intro other he
      exact hm (Fleet.Event.context.inj he).1

/-- A session that waits for its instruction after an event did so before. -/
theorem Instructs.process (h : s.Instructs) (w : World π σ) {m n : Nat} {e : Session.Event}
    {inbox : List Wire} {c : Context} {seat : Seat π} (ha : s.Allows (.process m e inbox))
    (hc : s.fleet.contexts[n]? = some c)
    (hs : (s.step w (.process m e inbox)).seats[n]? = some seat)
    (hp : seat.timeline.session.phase = .idle) : Unbegun c.instruction c seat := by
  have hseat := (getElem?_mapSeat s m _ n).symm.trans hs
  obtain ⟨first, hfirst, rfl⟩ := Option.map_eq_some_iff.mp hseat
  by_cases hm : m = n
  · subst hm
    rw [if_pos rfl] at hp ⊢
    have hidle : first.timeline.session.phase = .idle := by
      by_contra hother
      exact Session.step_phase w.program hother e hp
    have hbefore := h.unbegun m c first hc hfirst hidle
    refine ⟨hbefore.session.step w.program e hp, hbefore.context, fun raw hraw => ?_⟩
    refine hbefore.inbox raw ?_
    rw [ha first hfirst]
    exact List.mem_append_right _ hraw
  · rw [if_neg hm] at hp ⊢
    exact h.unbegun n c first hc hfirst hp

/-- Every event that can come next keeps what holds before the instruction. -/
theorem Instructs.step (h : s.Instructs) (w : World π σ) {e : Event} (ha : s.Allows e) :
    (s.step w e).Instructs := by
  refine ⟨sound_step w h.sound ha, seated_step w h.seated ha, ?_⟩
  intro n d seat hd hs hp
  cases e with
  | start i spec =>
    change (s.fleet.step w.ops w.hasAttachments s.now (.start i spec)).contexts[n]? = some d at hd
    change (s.seats ++ [⟨.fresh, 0, 0⟩])[n]? = some seat at hs
    cases hc : s.fleet.contexts[n]? with
    | none =>
      obtain ⟨hn, j, other, -, rfl⟩ := Fleet.eq_opening_of_born w.ops w.hasAttachments s.now
        (.start i spec) hc hd
      rw [hn, ← h.seated, List.getElem?_concat_length] at hs
      cases hs
      exact ⟨⟨rfl, rfl, rfl⟩, ⟨rfl, rfl, nofun⟩, nofun⟩
    | some c =>
      have hlt := (List.getElem?_eq_some_iff.mp hc).1
      rw [List.getElem?_append_left (h.seated ▸ hlt)] at hs
      exact h.rest w (.start i spec) (fun _ => nofun) hd hs hp
  | terminate i reason => exact h.rest w (.terminate i reason) (fun _ => nofun) hd hs hp
  | remove i => exact h.rest w (.remove i) (fun _ => nofun) hd hs hp
  | context m own =>
    have hfleet := step_fleet w ha
    rw [hfleet] at hd
    refine h.rest w (.context m own) (fun raw he => ?_) hd hs hp
    exact ha.1 raw (Fleet.Event.context.inj he).2
  | tell m =>
    have hfleet := step_fleet w ha
    rw [hfleet] at hd
    exact h.tell w hd hs hp
  | hear m => exact h.hear w ha hd hs hp
  | process m own inbox => exact h.process w ha hd hs hp
  | pass moment => exact h.unbegun n d seat hd hs hp

/-- Every run of events that can come one after the other keeps it. -/
theorem Instructs.run (h : s.Instructs) (w : World π σ) {events : List Event}
    (ha : s.AllowsAll w events) : (System.run w s events).Instructs := by
  induction events generalizing s with
  | nil => exact h
  | cons e rest ih => exact ih (h.step w ha.1) ha.2

/-- The instruction that a session is given is that of the specification of its context. -/
theorem Instructs.of_instruct (h : s.Instructs) {n : Nat} {raw : Wire} {inbox : List Wire}
    {seat : Seat π} (ha : s.Allows (.process n (.instruct raw) inbox)) (hs : s.seats[n]? = some seat)
    (hp : seat.timeline.session.phase = .idle) :
    ∃ c, s.fleet.contexts[n]? = some c ∧ raw = (Instruction.ofSpec c.spec).view.toWire := by
  have hlt : n < s.fleet.contexts.length := h.seated ▸ (List.getElem?_eq_some_iff.mp hs).1
  obtain ⟨c, hc⟩ : ∃ c, s.fleet.contexts[n]? = some c := ⟨_, List.getElem?_eq_getElem hlt⟩
  refine ⟨c, hc, (h.unbegun n c seat hc hs hp).inbox raw ?_⟩
  rw [ha seat hs]
  exact List.mem_append_left _ List.mem_cons_self

end System

section RoundTrip

variable (π σ : Type)

/-- What is sent from one side to the other arrives as what it was. -/
structure RoundTrips : Prop where
  /-- Every message of a context whose free values have finite numbers is decoded as it was. -/
  messages : ∀ m : FromContext, m.IsFinite → FromContext.decode? m.view.toWire = some m
  /-- The instruction of every specification is accepted and says what the specification says. -/
  instruction : ∀ spec : Run.Spec, ∃ i : Instruction,
    Instruction.check (Instruction.ofSpec spec).view.toWire = .valid i ∧ i.source = spec.source ∧
      i.env.symbol = spec.symbol ∧ i.env.timeframe = spec.timeframe ∧ i.timeoutMs = spec.timeoutMs
  /-- A session that is given it starts the program as it says, unless its budget is no number of
  seconds, and reports no broken rules. -/
  started : ∀ (p : Session.Program π) (s : Session π) (spec : Run.Spec), s.phase = .idle →
    s.connected = true →
      (∃ e, Number.toFloat (.int spec.timeoutMs) = .error e ∧
        Session.step p s (.instruct (Instruction.ofSpec spec).view.toWire) =
          s.leave (.failed e.failure)) ∨
      Session.step p s (.instruct (Instruction.ofSpec spec).view.toWire) = { s with
        sent := s.sent ++ [Message.startedView.toWire]
        phase := .active (p.start (Instruction.ofSpec spec))
        setting := ⟨spec.symbol, spec.timeframe⟩
        budget := some spec.timeoutMs }
  /-- No session of a system is ever given anything else for its instruction. -/
  instructed : ∀ (w : World π σ) (sink : σ) (console : Option Console) (defaultTimeoutMs : Int)
    (events : List System.Event) (n : Nat) (raw : Wire) (inbox : List Wire) (seat : Seat π),
    System.AllowsAll w (.empty (.empty sink console defaultTimeoutMs))
        (events ++ [.process n (.instruct raw) inbox]) →
      (System.run w (.empty (.empty sink console defaultTimeoutMs)) events).seats[n]? = some seat →
        seat.timeline.session.phase = .idle →
          ∃ c, (System.run w (.empty (.empty sink console defaultTimeoutMs)) events).fleet.contexts[n]? =
              some c ∧
            raw = (Instruction.ofSpec c.spec).view.toWire
  /-- A reply whose result has finite numbers settles the call that waits under its id, with its
  result or with its error as one of its kind, and no other call. -/
  replies : ∀ (b : Bridge) (p : PendingCall) (r : Message.Reply), b.find? r.id = some p →
    b.futures[p.future]? = some none → r.result.hasNonFinite = false →
      (b.deliver r.view.toWire).2 = .ok true ∧
        (b.deliver r.view.toWire).1.settlement? p.future = some r.settlement ∧
        ∀ other, other ≠ p.future →
          (b.deliver r.view.toWire).1.settlement? other = b.settlement? other

variable {π σ}

/-- A reply settles the call that waits under its id. -/
theorem Bridge.deliver_reply {b : Bridge} {p : PendingCall} {r : Message.Reply}
    (hp : b.find? r.id = some p) (hfuture : b.futures[p.future]? = some none)
    (hr : r.result.hasNonFinite = false) :
    (b.deliver r.view.toWire).2 = .ok true ∧
      (b.deliver r.view.toWire).1.settlement? p.future = some r.settlement ∧
      ∀ other, other ≠ p.future →
        (b.deliver r.view.toWire).1.settlement? other = b.settlement? other := by
  have hid : p.id = r.id := by simpa using List.find?_some hp
  have hnames : Message.replyId? r.view.toWire = some p.id := by
    rw [hid]
    exact Message.replyId_reply r
  have hfound : b.find? p.id = some p := by
    rw [hid]
    exact hp
  have hresult : { r with result := r.result.finite } = r := by
    rw [Wire.finite_eq_self r.result hr]
  have hcarried : Bridge.carried r.view.toWire = r.settlement := by
    rw [r.carried_view, hresult]
  have hdelivered := Bridge.deliver_waiting hnames hfound r.namesKind_view hfuture
  rw [hcarried] at hdelivered
  exact hdelivered

/-- Messages, instructions and replies arrive as what they were. -/
theorem roundTrips : RoundTrips π σ where
  messages m hm := by rw [m.decode_view, FromContext.arrived_eq_self hm]
  instruction spec := ⟨Instruction.ofSpec spec, Instruction.check_view _, rfl, rfl, rfl, rfl⟩
  started p s spec hs hc := Session.instruct_ofSpec p spec hs hc
  instructed w sink console defaultTimeoutMs events n raw inbox seat ha hs hp := by
    obtain ⟨hbefore, hnext, -⟩ := (System.allowsAll_append w).mp ha
    have h := (System.instructs_empty sink console defaultTimeoutMs).run w hbefore
    exact h.of_instruct hnext hs hp
  replies b p r hp hfuture hr := Bridge.deliver_reply hp hfuture hr

end RoundTrip

end ChartScript
