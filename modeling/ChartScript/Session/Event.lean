import ChartScript.Session.Basic
/-!
# What happens to a session

A session changes by events: its instruction comes, the program takes a turn, a message
of the host is delivered, the timer goes off, a sleep ends, the host is lost. Program and
timer race to report the end, and only the first of them does.
-/

namespace ChartScript.Session

open Message (Instruction LogLine LogLevel)
open Script (Effect Answer FutureQuery)

variable {π : Type}

/-- A failure as the answer to a program. What was called off says nothing. -/
def raised (f : Failure) : Answer :=
  .raised f.typeName (if f.kind = Failure.cancelledKind then none else some f.text)

/-- What has come of a call, as the answer to a program. -/
def answerOf : Settlement → Answer
  | .ok w => .data w
  | .error f => raised f

/-- Whether a call was called off. -/
def isCancelled : Option Settlement → Bool
  | some (.error f) => f.kind = Failure.cancelledKind
  | _ => false

/-- The failure of a call, if it has failed. -/
def failureOf? : Option Settlement → Option Failure
  | some (.error f) => some f
  | _ => none

/-- The failure to look at a call that has not come. -/
def notSet (what : String) : Answer := .raised "InvalidStateError" (some (what ++ " is not set."))

/-- The failure to settle a call that is settled. -/
def alreadySet : Answer := .raised "InvalidStateError" (some "invalid state")

/-- What a call says of itself. -/
def look (what : FutureQuery) (settled : Option Settlement) : Answer :=
  match what with
  | .done => .truth settled.isSome
  | .cancelled => .truth (isCancelled settled)
  | .cancel => .truth settled.isNone
  | .fulfil | .reject _ _ => if settled.isNone then .nothing else alreadySet
  | .result =>
    match settled with
    | none => notSet "Result"
    | some s => answerOf s
  | .failure =>
    match settled with
    | none => notSet "Exception"
    | some (.ok _) => .nothing
    | some (.error f) =>
      if f.kind = Failure.cancelledKind then raised f else .shown f.typeName (some f.text)

/-- What a program settles a call with by what it asks, if it does. -/
def settlementOf? : FutureQuery → Option Settlement
  | .cancel => some (.error .cancelled)
  | .fulfil => some (.ok .null)
  | .reject f _ => some (.error f)
  | _ => none

/-- A line of the log as a message. A level that is unknown is an ordinary one. -/
def logMessage (level text : String) : Wire :=
  LogLine.view ⟨(LogLevel.ofName? level).getD .info, text⟩ |>.toWire

/-- A capability is called. -/
def request (method : String) (params : Except Failure (List (String × Wire))) (s : Session π) :
    Session π × Answer :=
  let id := callId s.requests
  let message := params.bind fun fields => Bridge.encode id (.text method) (.object fields)
  let post (_ : Wire) : Bridge.Posting := if s.connected then .posted else .failed .brokenPipe
  let (bridge, posted, result) := s.bridge.call id message post
  ({ s with
      bridge
      requests := s.requests + 1
      granted := result.toOption.toList ++ s.granted
      sent := s.sent ++ posted.toList },
    match result with
    | .ok call => .call call
    | .error f => raised f)

/-- The program asks something of a call. It has only those calls that it was given to settle, and
only such a call that is open is settled. -/
def touch (call : Nat) (what : FutureQuery) (s : Session π) : Session π :=
  if s.granted.contains call && (s.bridge.settlement? call).isNone then
    match settlementOf? what with
    | some v =>
      { s with
        bridge := s.bridge.settle call v
        untold :=
          match what with
          | .reject _ (some obstacle) => (call, obstacle) :: s.untold
          | _ => s.untold }
    | none => s
  else s

/-- The program goes on with an answer. -/
def goOn (p : Program π) (rest : π) (a : Answer) (s : Session π) : Session π :=
  { s with phase := .active (p.resume rest a) }

/-- The program asks for something. -/
def perform (p : Program π) (effect : Effect) (rest : π) (s : Session π) : Session π :=
  let logged (level text : String) : Session π :=
    match s.send (logMessage level text) with
    | .ok next => goOn p rest .nothing next
    | .error f => goOn p rest (raised f) s
  match effect with
  | .print text => logged "info" text
  | .log level text => logged level text
  | .request method params =>
    let (next, a) := request method params s
    goOn p rest a next
  | .wait call =>
    match s.bridge.settlement? call with
    | some settled => goOn p rest (answerOf settled) s
    | none => { s with phase := .waiting call rest }
  | .query call what =>
    goOn p rest (look what (s.bridge.settlement? call)) (s.touch call what)
  | .sleep seconds => { s with phase := .sleeping seconds rest }

/-- The program has failed, or one of its open calls has. What was called off ends the
session without a report. -/
def fail (f : Failure) (s : Session π) : Session π :=
  if f.kind = Failure.cancelledKind then s.close.leave (.failed f)
  else s.close.report ⟨some f.describe, none⟩

/-- The program has failed with something that cannot be told, which ends the session without a
report. -/
def breakOff (obstacle : Failure) (s : Session π) : Session π := s.close.leave (.failed obstacle)

/-- The failure to tell what the first failed one of some calls was settled with, if there is
such a call and the failure. -/
def obstacle? (calls : List Nat) (s : Session π) : Option Failure := do
  let first ← calls.find? fun c => (failureOf? (s.bridge.settlement? c)).isSome
  s.untold.lookup first

/-- The run has ended well. -/
def succeed (s : Session π) : Session π := s.close.report ⟨none, none⟩

/-- The line that stands between the body of a program and its entry. -/
def banner (s : Session π) : String :=
  "Running on " ++ s.setting.symbol ++ " " ++ s.setting.timeframe

/-- The program takes its turn, if it can. -/
def turn (p : Program π) (s : Session π) : Session π :=
  match s.phase with
  | .active (.asks effect rest) => perform p effect rest s
  | .active (.entered rest) =>
    match s.send (logMessage "info" s.banner) with
    | .ok next => goOn p rest .nothing next
    | .error f => fail f s
  | .active .ended =>
    match s.bridge.outstanding with
    | [] => succeed s
    | calls =>
      match s.obstacle? calls with
      | some obstacle => { s with phase := .active (.untold obstacle) }
      | none =>
        { s with
          phase := .gathering calls (calls.findSome? fun c => failureOf? (s.bridge.settlement? c)) }
  | .active (.failed f) => fail f s
  | .active (.untold obstacle) => breakOff obstacle s
  | .waiting call rest =>
    match s.bridge.settlement? call with
    | some settled => goOn p rest (answerOf settled) s
    | none => s
  | .gathering calls failure =>
    match failure with
    | some f => fail f s
    | none => if calls.all fun c => (s.bridge.settlement? c).isSome then succeed s else s
  | _ => s

/-- A message of the host is looked at. A message that cannot be made sense of is dropped. -/
def deliver (raw : Wire) (s : Session π) : Session π :=
  if s.canReceive then
    let next := { s with bridge := (s.bridge.deliver raw).1 }
    match next.phase with
    | .gathering calls failure =>
      let found := calls.findSome? fun c => failureOf? (next.bridge.settlement? c)
      { next with phase := .gathering calls (failure.or found) }
    | _ => next
  else s

/-- What is said of an instruction that breaks rules. -/
def invalidInstruction (violations : Nat) : String :=
  "invalid run instruction (" ++ toString violations ++ " errors)"

/-- The instruction has come. The budget has to be a number of seconds, and the script
starts as soon as the host was told that it does. -/
def instruct (p : Program π) (raw : Wire) (s : Session π) : Session π :=
  match s.phase with
  | .idle =>
    match Instruction.check raw with
    | .invalid vs => s.report ⟨some (invalidInstruction vs.length), none⟩
    | .valid i =>
      match Number.toFloat (.int i.timeoutMs) with
      | .error e => s.leave (.failed e.failure)
      | .ok _ =>
        match s.send Message.startedView.toWire with
        | .error f => s.leave (.failed f)
        | .ok next =>
          { next with phase := .active (p.start i), setting := i.env, budget := some i.timeoutMs }
  | _ => s

/-- The timer goes off: the end is reported unless it was. -/
def onTimer (s : Session π) : Session π :=
  match s.budget with
  | none => s
  | some _ =>
    match s.finish ⟨none, some true⟩ with
    | .ok next => { next with budget := none }
    | .error _ => { s with budget := none, finished := true }

/-- What can happen to a session. -/
inductive Event where
  /-- The instruction comes. -/
  | instruct (raw : Wire)
  /-- The host is gone before the instruction came. -/
  | hangUp
  /-- The program takes its turn. -/
  | turn
  /-- A message of the host is looked at. -/
  | deliver (raw : Wire)
  /-- A sleep ends. -/
  | wake
  /-- The timer goes off. -/
  | timer
  /-- Messages do not reach the host any more. -/
  | disconnect

/-- The session after an event. -/
def step (p : Program π) (s : Session π) : Event → Session π
  | .instruct raw => instruct p raw s
  | .hangUp => match s.phase with | .idle => s.leave .exit | _ => s
  | .turn => turn p s
  | .deliver raw => deliver raw s
  | .wake =>
    match s.phase with
    | .sleeping _ rest => goOn p rest .nothing s
    | _ => s
  | .timer => onTimer s
  | .disconnect => { s with connected := false }

end ChartScript.Session
