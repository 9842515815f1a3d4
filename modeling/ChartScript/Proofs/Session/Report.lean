import ChartScript.Proofs.Session.Step
/-!
# The report of the end

What a session reports of the end of its run at every event, while the host keeps the
connection. The instruction, a turn of the program and the timer may each come to a report,
and a report is sent only when there was none before. What a program has called off itself, what
it has failed with that cannot be told, and a budget that is no number of seconds end a session
without one.
-/

namespace ChartScript

open Message (Done Instruction Request)

namespace Message

/-- The report of the end that a message is. -/
def reportOf? (raw : Wire) : Option Done :=
  match FromContext.decode? raw with
  | some (.done report) => some report
  | _ => none

/-- A report arrives as a report. -/
@[simp] theorem reportOf_done (report : Done) : reportOf? report.view.toWire = some report := by
  unfold reportOf?
  rw [decode_done]

/-- The report that the script starts is none of the end. -/
@[simp] theorem reportOf_started : reportOf? startedView.toWire = none := rfl

/-- A line of the log is no report. -/
@[simp] theorem reportOf_log (line : LogLine) : reportOf? line.view.toWire = none := by
  obtain ⟨level, text⟩ := line
  cases level <;> rfl

/-- A request is no report. -/
@[simp] theorem reportOf_request (r : Request) : reportOf? r.view.toWire = none := rfl

end Message

namespace Session

open Message (reportOf?)
open Script (Effect)

variable {π : Type} {s t : Session π}

/-- The session after events. -/
def run (p : Program π) (s : Session π) (events : List Event) : Session π := events.foldl (step p) s

/-- The reports of the end that were sent. -/
def reports (s : Session π) : List Done := s.sent.filterMap reportOf?

/-- The report of the timer. -/
def timeoutReport : Done := ⟨none, some true⟩

/-- What a failure makes a session report: nothing when something was called off. -/
def failureReport? (f : Failure) : Option Done :=
  if f.kind = Failure.cancelledKind then none else some ⟨some f.describe, none⟩

/-- The report that a turn of the program comes to. -/
def turnReport? (s : Session π) : Option Done :=
  match s.phase with
  | .active .ended => if s.bridge.outstanding = [] then some ⟨none, none⟩ else none
  | .active (.failed f) => failureReport? f
  | .gathering _ (some f) => failureReport? f
  | .gathering calls none =>
    if calls.all fun c => (s.bridge.settlement? c).isSome then some ⟨none, none⟩ else none
  | _ => none

/-- The report that an event comes to, whether or not another one was first. -/
def report? (s : Session π) : Event → Option Done
  | .instruct raw =>
    match s.phase with
    | .idle =>
      match Instruction.check raw with
      | .invalid vs => some ⟨some (invalidInstruction vs.length), none⟩
      | .valid _ => none
    | _ => none
  | .turn => s.turnReport?
  | .timer => s.budget.map fun _ => timeoutReport
  | _ => none

/-- Whether an event leaves the connection to the host as it is. -/
def Event.isConnected : Event → Bool
  | .hangUp | .disconnect => false
  | _ => true

/-- Whether a program runs. -/
def isRunning (s : Session π) : Bool :=
  match s.phase with
  | .idle | .over _ => false
  | _ => true

/-- Before the instruction no program runs. -/
theorem isRunning_of_idle (h : s.phase = .idle) : s.isRunning = false := by
  unfold isRunning
  rw [h]

/-- After the end no program runs. -/
theorem isRunning_of_over {ending : Ending} (h : s.phase = .over ending) : s.isRunning = false := by
  unfold isRunning
  rw [h]

/-- A session whose program runs has come to no end. -/
theorem phase_ne_over_of_isRunning (h : s.isRunning = true) (ending : Ending) :
    s.phase ≠ .over ending :=
  fun hp => absurd (h.symm.trans (isRunning_of_over hp)) nofun

/-- A session whose program runs is not over. -/
theorem isOver_of_isRunning (h : s.isRunning = true) : s.isOver = false := by
  unfold isOver
  split
  · rename_i hp
    unfold isRunning at h
    rw [hp] at h
    cases h
  · rfl

/-- A session that looks at messages has a program that runs. -/
theorem isRunning_of_canReceive (h : s.canReceive = true) : s.isRunning = true := by
  unfold canReceive at h
  unfold isRunning
  split
  · rename_i hp
    rw [hp] at h
    cases h
  · rename_i hp
    rw [hp] at h
    cases h
  · rfl

/-- What a call sends is at most a request. -/
theorem sent_request (method : String) (params : Except Failure (List (String × Wire)))
    (s : Session π) : ∃ posted : Option Wire,
      (∀ raw, posted = some raw → ∃ r : Request, raw = r.view.toWire) ∧
        (request method params s).1.sent = s.sent ++ posted.toList := by
  refine ⟨_, ?_, rfl⟩
  intro raw hraw
  have hmessage := (Bridge.posted_of_call hraw).1
  cases params with
  | error f => cases hmessage
  | ok fields =>
    refine ⟨⟨callId s.requests, method, fields⟩, ?_⟩
    have hencode := Message.encode_eq (callId s.requests) method fields
    exact Except.ok.inj (hmessage.symm.trans hencode)

/-- A change of a session at which it comes to a report, or to none. Only the first report
is sent. -/
structure Tells (verdict : Option Done) (s t : Session π) : Prop where
  /-- The host can be reached as before. -/
  connected : t.connected = s.connected
  /-- The end is reported from then on. -/
  finished : t.finished = (s.finished || verdict.isSome)
  /-- What is reported was not reported before. -/
  reports : t.reports = s.reports ++ if s.finished then [] else verdict.toList

/-- Nothing is told by a change that sends nothing. -/
theorem Tells.of_sent_eq (hc : t.connected = s.connected) (hf : t.finished = s.finished)
    (hs : t.sent = s.sent) : Tells none s t := by
  refine ⟨hc, by simp [hf], ?_⟩
  simp [Session.reports, hs]

/-- When nothing is told the reports are the same. -/
theorem Tells.reports_eq (h : Tells none s t) : t.reports = s.reports := by
  rw [h.reports]
  cases s.finished <;> exact List.append_nil _

/-- When nothing is told the end is reported if it was before. -/
theorem Tells.finished_eq (h : Tells none s t) : t.finished = s.finished :=
  h.finished.trans (Bool.or_false _)

/-- A message that is no report tells nothing. -/
theorem Tells.of_sent_concat {message : Wire} (hc : t.connected = s.connected)
    (hf : t.finished = s.finished) (hs : t.sent = s.sent ++ [message])
    (hm : reportOf? message = none) : Tells none s t := by
  refine ⟨hc, by simp [hf], ?_⟩
  simp [Session.reports, hs, hm]

/-- The first change that ends the run tells its report. -/
theorem tells_finish (report : Done) (hc : s.connected = true) :
    ∃ t, s.finish report = .ok t ∧ Tells (some report) s t ∧ t.phase = s.phase ∧ t.budget = s.budget := by
  unfold finish
  by_cases hf : s.finished = true
  · rw [if_pos hf]
    refine ⟨s, rfl, ⟨rfl, by simp [hf], by simp [hf]⟩, rfl, rfl⟩
  · rw [if_neg hf, send, if_pos hc]
    refine ⟨_, rfl, ⟨rfl, by simp, ?_⟩, rfl, rfl⟩
    simp [Session.reports, hf]

/-- A session that reports its end is over in the ordinary way. -/
theorem tells_report (report : Done) (hc : s.connected = true) :
    Tells (some report) s (s.report report) ∧ (s.report report).phase = .over .exit := by
  obtain ⟨t, ht, htells, -, -⟩ := tells_finish report hc
  unfold Session.report
  rw [ht]
  exact ⟨⟨htells.connected, htells.finished, htells.reports⟩, rfl⟩

/-- An instruction whose budget is no number of seconds, and the failure to make it one. -/
def Unaffordable (raw : Wire) (f : Failure) : Prop :=
  ∃ i e, Instruction.check raw = .valid i ∧ Number.toFloat (.int i.timeoutMs) = .error e ∧
    f = e.failure

/-- What becomes of a session at an event, and the report that it comes to. -/
inductive Course (s t : Session π) (e : Event) : Option Done → Prop where
  /-- It stays where it is or its program goes on, with its budget. -/
  | goesOn (phase : t.phase = s.phase ∨ s.isRunning = true ∧ t.isRunning = true)
      (budget : t.budget = s.budget) : Course s t e none
  /-- Its program starts, with a budget. -/
  | starts (phase : s.phase = .idle) (running : t.isRunning = true) (budget : t.budget.isSome = true) :
      Course s t e none
  /-- Its timer goes off. -/
  | rings (phase : t.phase = s.phase) (budget : s.budget.isSome = true) :
      Course s t e (some timeoutReport)
  /-- It is over in the ordinary way. -/
  | exits (report : Done) (begun : s.isOver = false) (phase : t.phase = .over .exit) :
      Course s t e (some report)
  /-- It is over by what was called off. -/
  | calledOff (f : Failure) (cancelled : f.kind = Failure.cancelledKind)
      (running : s.isRunning = true) (phase : t.phase = .over (.failed f)) : Course s t e none
  /-- It is over by the failure to tell what its program has failed with. -/
  | brokenOff (f : Failure) (turned : e = .turn) (failed : s.phase = .active (.untold f))
      (phase : t.phase = .over (.failed f)) : Course s t e none
  /-- It is over by a budget that is no number of seconds. -/
  | refused (raw : Wire) (f : Failure) (instructed : e = .instruct raw) (budget : Unaffordable raw f)
      (idle : s.phase = .idle) (phase : t.phase = .over (.failed f)) (timer : t.budget = s.budget) :
      Course s t e none

/-- A session that changes its phase to one in which the program runs goes on. -/
theorem goesOn_enter {e : Event} {phase : Phase π} (hs : s.isRunning = true)
    (ht : ({ s with phase } : Session π).isRunning = true) :
    Tells none s { s with phase } ∧ Course s { s with phase } e none :=
  ⟨.of_sent_eq rfl rfl rfl, .goesOn (.inr ⟨hs, ht⟩) rfl⟩

/-- A running program that fails ends the session, with a report unless it was called off. -/
theorem course_fail {e : Event} (hc : s.connected = true) (hs : s.isRunning = true) (f : Failure) :
    Tells (failureReport? f) s (fail f s) ∧ Course s (fail f s) e (failureReport? f) := by
  unfold fail failureReport?
  by_cases hk : f.kind = Failure.cancelledKind
  · rw [if_pos hk, if_pos hk]
    exact ⟨.of_sent_eq rfl rfl rfl, .calledOff f hk hs rfl⟩
  · rw [if_neg hk, if_neg hk]
    obtain ⟨ht, hp⟩ := tells_report (s := s.close) ⟨some f.describe, none⟩ hc
    have hover := isOver_of_isRunning hs
    exact ⟨⟨ht.connected, ht.finished, ht.reports⟩, .exits _ hover hp⟩

/-- A running program that ends well ends the session. -/
theorem course_succeed {e : Event} (hc : s.connected = true) (hs : s.isRunning = true) :
    Tells (some ⟨none, none⟩) s (succeed s) ∧ Course s (succeed s) e (some ⟨none, none⟩) := by
  obtain ⟨ht, hp⟩ := tells_report (s := s.close) ⟨none, none⟩ hc
  exact ⟨⟨ht.connected, ht.finished, ht.reports⟩, .exits _ (isOver_of_isRunning hs) hp⟩

/-- What a program asks for lets it go on, and no report comes of it. -/
theorem course_perform {e : Event} (p : Program π) (effect : Effect) (rest : π)
    (hc : s.connected = true) (hs : s.isRunning = true) :
    Tells none s (perform p effect rest s) ∧ Course s (perform p effect rest s) e none := by
  have hlog : ∀ level text, Tells none s (perform p (.log level text) rest s) ∧
      Course s (perform p (.log level text) rest s) e none := by
    intro level text
    unfold perform
    dsimp only
    rw [send, if_pos hc]
    exact ⟨.of_sent_concat rfl rfl rfl (Message.reportOf_log _), .goesOn (.inr ⟨hs, rfl⟩) rfl⟩
  cases effect with
  | print text => exact hlog "info" text
  | log level text => exact hlog level text
  | request method params =>
    refine ⟨?_, .goesOn (.inr ⟨hs, rfl⟩) rfl⟩
    obtain ⟨posted, hposted, hsent⟩ := sent_request method params s
    cases posted with
    | none => exact .of_sent_eq rfl rfl (hsent.trans (List.append_nil _))
    | some raw =>
      obtain ⟨r, hr⟩ := hposted raw rfl
      exact .of_sent_concat rfl rfl hsent (hr ▸ Message.reportOf_request r)
  | wait call =>
    unfold perform
    dsimp only
    split
    · exact goesOn_enter hs rfl
    · exact goesOn_enter hs rfl
  | query call what =>
    have htold : Tells none s (perform p (.query call what) rest s) :=
      .of_sent_eq (connected_touch call what) (finished_touch call what) (sent_touch call what)
    exact ⟨htold, .goesOn (.inr ⟨hs, rfl⟩) (budget_touch call what)⟩
  | sleep seconds => exact goesOn_enter hs rfl

/-- What a turn of the program comes to. -/
theorem course_turn (p : Program π) (hc : s.connected = true) :
    Tells s.turnReport? s (turn p s) ∧ Course s (turn p s) .turn s.turnReport? := by
  have hsame : ∀ {phase}, s.phase = phase → Tells none s s ∧ Course s s .turn none :=
    fun _ => ⟨.of_sent_eq rfl rfl rfl, .goesOn (.inl rfl) rfl⟩
  have hrun : ∀ {phase : Phase π}, s.phase = phase → ({ s with phase } : Session π).isRunning = true →
      s.isRunning = true := by
    rintro phase rfl h
    exact h
  unfold turn turnReport?
  cases hp : s.phase with
  | idle => exact hsame hp
  | active next =>
    have hs := hrun hp rfl
    cases next with
    | asks effect rest => exact course_perform p effect rest hc hs
    | entered rest =>
      dsimp only
      rw [send, if_pos hc]
      exact ⟨.of_sent_concat rfl rfl rfl (Message.reportOf_log _), .goesOn (.inr ⟨hs, rfl⟩) rfl⟩
    | ended =>
      dsimp only
      cases hout : s.bridge.outstanding with
      | nil => exact course_succeed hc hs
      | cons first others =>
        dsimp only
        cases s.obstacle? (first :: others) with
        | none => exact goesOn_enter hs rfl
        | some obstacle => exact goesOn_enter hs rfl
    | failed f => exact course_fail hc hs f
    | untold obstacle => exact ⟨.of_sent_eq rfl rfl rfl, .brokenOff obstacle rfl hp rfl⟩
  | waiting call rest =>
    have hs := hrun hp rfl
    dsimp only
    split
    · exact goesOn_enter hs rfl
    · exact hsame hp
  | sleeping seconds rest => exact hsame hp
  | gathering calls failure =>
    have hs := hrun hp rfl
    cases failure with
    | some f => exact course_fail hc hs f
    | none =>
      dsimp only
      split
      · exact course_succeed hc hs
      · exact hsame hp
  | «over» ending => exact hsame hp

/-- What an instruction comes to. -/
theorem course_instruct (p : Program π) (raw : Wire) (hc : s.connected = true) :
    Tells (s.report? (.instruct raw)) s (instruct p raw s) ∧
      Course s (instruct p raw s) (.instruct raw) (s.report? (.instruct raw)) := by
  unfold instruct report?
  cases hp : s.phase with
  | idle =>
    dsimp only
    cases hcheck : Instruction.check raw with
    | invalid vs =>
      obtain ⟨ht, hover⟩ := tells_report ⟨some (invalidInstruction vs.length), none⟩ hc
      exact ⟨ht, .exits _ (isOver_of_phase hp fun _ => nofun) hover⟩
    | valid i =>
      dsimp only
      cases hf : Number.toFloat (.int i.timeoutMs) with
      | error err =>
        have hu : Unaffordable raw err.failure := ⟨i, err, hcheck, hf, rfl⟩
        exact ⟨.of_sent_eq rfl rfl rfl, .refused raw _ rfl hu hp rfl rfl⟩
      | ok seconds =>
        dsimp only
        rw [send, if_pos hc]
        exact ⟨.of_sent_concat rfl rfl rfl Message.reportOf_started, .starts hp rfl rfl⟩
  | _ => exact ⟨.of_sent_eq rfl rfl rfl, .goesOn (.inl rfl) rfl⟩

/-- What the timer comes to. -/
theorem course_onTimer {e : Event} (hc : s.connected = true) :
    Tells (s.report? .timer) s (onTimer s) ∧ Course s (onTimer s) e (s.report? .timer) := by
  unfold onTimer report?
  cases hb : s.budget with
  | none => exact ⟨.of_sent_eq rfl rfl rfl, .goesOn (.inl rfl) rfl⟩
  | some ms =>
    obtain ⟨t, ht, htells, hphase, -⟩ := tells_finish timeoutReport hc
    have hfinish : s.finish ⟨none, some true⟩ = .ok t := ht
    dsimp only
    rw [hfinish]
    refine ⟨⟨htells.connected, htells.finished, htells.reports⟩, .rings hphase ?_⟩
    rw [hb]
    rfl

/-- Every event comes to its report, and only the first report is sent. -/
theorem course_step (p : Program π) {e : Event} (he : e.isConnected = true) (hc : s.connected = true) :
    Tells (s.report? e) s (step p s e) ∧ Course s (step p s e) e (s.report? e) := by
  have hsame : Tells none s s ∧ Course s s e none :=
    ⟨.of_sent_eq rfl rfl rfl, .goesOn (.inl rfl) rfl⟩
  cases e with
  | instruct raw => exact course_instruct p raw hc
  | turn => exact course_turn p hc
  | timer => exact course_onTimer hc
  | hangUp => cases he
  | disconnect => cases he
  | deliver raw =>
    unfold step deliver
    dsimp only
    split
    · have hs := isRunning_of_canReceive ‹_›
      split
      · exact ⟨.of_sent_eq rfl rfl rfl, .goesOn (.inr ⟨hs, rfl⟩) rfl⟩
      · exact ⟨.of_sent_eq rfl rfl rfl, .goesOn (.inl rfl) rfl⟩
    · exact hsame
  | wake =>
    unfold step
    dsimp only
    split
    · rename_i hp
      refine goesOn_enter ?_ rfl
      unfold isRunning
      rw [hp]
    · exact hsame

/-- What is told twice is told by the first one. -/
theorem Tells.trans {first second : Option Done} {u : Session π} (h : Tells first s t)
    (k : Tells second t u) : Tells (first.or second) s u := by
  refine ⟨k.connected.trans h.connected, ?_, ?_⟩
  · rw [k.finished, h.finished]
    cases first <;> simp
  · rw [k.reports, h.reports, h.finished]
    cases first <;> cases s.finished <;> simp

/-- The report of the timer comes. -/
def ring (s : Session π) : Session π :=
  match s.finish timeoutReport with
  | .ok next => next
  | .error _ => { s with finished := true }

/-- The report of the timer is told where the session is. -/
theorem tells_ring (hc : s.connected = true) :
    Tells (some timeoutReport) s s.ring ∧ s.ring.phase = s.phase ∧ s.ring.budget = s.budget := by
  obtain ⟨t, ht, htells, hphase, hbudget⟩ := tells_finish timeoutReport hc
  unfold ring
  rw [ht]
  exact ⟨htells, hphase, hbudget⟩

end Session

end ChartScript
