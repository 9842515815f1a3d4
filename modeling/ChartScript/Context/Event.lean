import ChartScript.Artifact.Commit
import ChartScript.Console
import ChartScript.Context.Basic
/-!
# What happens to an execution context

A context changes by events: it is started or killed, its process reports or ends, a
timer goes off, a capability call comes forward. Nothing that comes from a killed context
is heeded, and the first cause to settle a run decides its outcome. A run commits its
writes when the script ends without an error.
-/

namespace ChartScript.Context

open Artifact (Gallery SinkOps)
open Message (Request Reply)

variable {κ σ : Type}

/-- A context together with what it shares with the others. -/
structure Scene (κ σ : Type) where
  /-- By what the others know the context. -/
  self : κ
  /-- The context. -/
  context : Context
  /-- The registry and the sink. -/
  gallery : Gallery κ σ
  /-- The console, if there is one. -/
  console : Option Console
  /-- The time in microseconds. -/
  now : Nat

namespace Scene

/-- Changes the context. -/
def mapContext (s : Scene κ σ) (f : Context → Context) : Scene κ σ :=
  { s with context := f s.context }

/-- A line for the console of the instance. -/
def line (s : Scene κ σ) (level text : String) : Scene κ σ :=
  { s with console := s.console.map fun c => c.append s.context.instanceId ⟨level, text⟩ }

end Scene

/-- Why a run settles. -/
inductive Verdict where
  /-- The script ended and these artifacts were committed. -/
  | completed (artifacts : List String)
  /-- The run failed. -/
  | failed (error : String)
  /-- The budget was used up. -/
  | timedOut
  /-- The run was killed. -/
  | terminated (reason : String)

namespace Verdict

/-- The status that a verdict leads to. -/
def status : Verdict → Run.Status
  | completed _ => .completed
  | failed _ => .failed
  | timedOut => .timedOut
  | terminated _ => .terminated

/-- The error text of a verdict. -/
def error? : Verdict → Option String
  | failed e => some e
  | terminated reason => some reason
  | _ => none

/-- The artifacts of a verdict. -/
def artifacts : Verdict → List String
  | completed ids => ids
  | _ => []

/-- What the user reads of a run that timed out. -/
def timeoutText : String := "Runtime timed out"

/-- The line that a verdict leaves in the console. -/
def line? : Verdict → Option String
  | failed e => some (if e.isEmpty then "run failed" else e)
  | timedOut => some timeoutText
  | _ => none

/-- The outcome of a context by a verdict. -/
def outcome (v : Verdict) (c : Context) (now : Nat) : Run.Outcome where
  instanceId := c.instanceId
  status := v.status
  error := v.error?
  timedOut := v.status = .timedOut
  artifacts := v.artifacts
  durationMs := c.startedAt.map fun start => Float.ofNat (now - start) / 1000

end Verdict

/-- Settles the run of a context, unless it is settled or was never started. A killed
context stays killed whatever the verdict. -/
def settle (v : Verdict) (s : Scene κ σ) : Scene κ σ :=
  if !s.context.begun || s.context.outcome.isSome then s
  else
    let settled := s.mapContext fun c =>
      { c with
        timers := []
        status := if c.status = .terminated then .terminated else v.status
        outcome := some (v.outcome c s.now) }
    match v.line? with
    | some text => settled.line "error" text
    | none => settled

/-- Kills the process of a context, abandons its calls and drops its writes. A context that
settled and ended on its own is left alone. -/
def terminate (reason : String) (s : Scene κ σ) : Scene κ σ :=
  if s.context.status = .terminated then s
  else if s.context.status.isTerminal && !s.context.isAlive then s
  else
    let marked := s.mapContext fun c =>
      { c.discardStage with status := .terminated, errands := [] }
    (settle (.terminated reason) marked).mapContext kill

/-- The context begins to start: from now on there will be an outcome, and the process is
being created. -/
def begin (s : Scene κ σ) : Scene κ σ :=
  s.mapContext fun c => { c with begun := true, outcome := none, process := .starting, link := .intact }

/-- The process has been created. A context that was killed meanwhile kills it; any other
one sends it what to run and waits for it to start. When the message cannot be sent, the
attempt to start raises a failure and no timer is armed. -/
def created (s : Scene κ σ) : Scene κ σ :=
  let live := s.mapContext fun c =>
    { c with process := if c.process = .starting then .alive else c.process }
  if live.context.status = .terminated then
    settle (.terminated "superseded") (live.mapContext fun c => { c.kill with link := .broken })
  else
    live.mapContext fun c =>
      if c.link = .intact then
        { c.send (Message.Instruction.ofSpec c.spec).view.toWire with
          attached := true, timers := c.timers ++ [.start] }
      else { c with attached := true, refusal := some .brokenPipe }

/-- The script starts: the watchdog takes the place of the start timer. When its delay is no
number of seconds, the start timer is gone all the same. -/
def onStarted (s : Scene κ σ) : Scene κ σ :=
  if s.context.status = .created then
    s.mapContext fun c =>
      { c with status := .running, startedAt := some s.now, timers := c.watchdogs }
  else s

/-- The run ended well: it commits its writes and settles. When the sink fails, nothing
settles. -/
def complete [DecidableEq κ] (ops : SinkOps σ) (s : Scene κ σ) : Scene κ σ :=
  let (gallery, stage, committed) := s.gallery.commit ops s.context.stage (some s.self)
  let next := { s with gallery, context := { s.context with stage } }
  match committed with
  | .ok ids => settle (.completed ids) next
  | .error _ => next

/-- The script reports its end: the budget was used up, it failed or it ended well. -/
def onDone [DecidableEq κ] (ops : SinkOps σ) (report : Message.Done) (s : Scene κ σ) :
    Scene κ σ :=
  if s.context.outcome.isSome then s
  else if report.timedOut = some true then settle .timedOut (s.mapContext discardStage)
  else
    match report.error with
    | some error => settle (.failed error) (s.mapContext discardStage)
    | none => complete ops s

/-- A message of the process has come. -/
def onMessage [DecidableEq κ] (ops : SinkOps σ) (raw : Wire) (s : Scene κ σ) : Scene κ σ :=
  if s.context.status = .terminated then s
  else
    match Message.FromContext.decode? raw with
    | none => s
    | some .started => onStarted s
    | some (.log line) => s.line line.level.name line.text
    | some (.done report) => onDone ops report s
    | some (.request request) =>
      s.mapContext fun c =>
        { c with errands := c.errands ++ [⟨c.calls, request, none⟩], calls := c.calls + 1 }

/-- A call is answered. The reply of a killed context is dropped. -/
def reply (errand : Errand) (answer : Except Failure Wire) (s : Scene κ σ) : Scene κ σ :=
  let message :=
    match answer with
    | .ok w => Reply.success errand.request.id w
    | .error f => Reply.failure errand.request.id f
  s.mapContext fun c =>
    let c := c.dropErrand errand.number
    if c.status = .terminated then c else c.send message.view.toWire

/-- A call is looked at: it is answered at once or waits for a fetch. -/
def attend (hasAttachments : Bool) (errand : Errand) (s : Scene κ σ) : Scene κ σ :=
  match Message.Call.decode errand.request.method errand.request.params with
  | .error f => reply errand (.error f) s
  | .ok call =>
    match Host.serve hasAttachments call s.context.stage with
    | .answered stage answer => reply errand answer (s.mapContext fun c => { c with stage })
    | .waiting fetch =>
      s.mapContext fun c =>
        { c with errands := c.errands.map fun e =>
            if e.number = errand.number then { e with fetch := some fetch } else e }

/-- The call of a number is looked at, unless it was before. -/
def serve (hasAttachments : Bool) (number : Nat) (s : Scene κ σ) : Scene κ σ :=
  match s.context.errand? number with
  | some ⟨_, request, none⟩ => attend hasAttachments ⟨number, request, none⟩ s
  | _ => s

/-- What a call waits for has come. -/
def fetched (number : Nat) (result : Except Failure Wire) (s : Scene κ σ) : Scene κ σ :=
  match s.context.errand? number with
  | some ⟨_, request, some fetch⟩ =>
    reply ⟨number, request, some fetch⟩ (fetch.answer result) s
  | _ => s

/-- What is said of a process that ends without a report. -/
def unexpectedExit (code : Option Int) : String :=
  let shown := match code with | some n => toString n | none => "None"
  "execution context exited unexpectedly (exit code " ++ shown ++ ")"

/-- The end of the messages of the process has been read. -/
def onEnded (s : Scene κ σ) : Scene κ σ :=
  let closed := s.mapContext fun c => { c with link := .broken }
  if s.context.status = .terminated || s.context.outcome.isSome then closed
  else settle (.failed (unexpectedExit s.context.exitCode)) (closed.mapContext discardStage)

/-- A timer goes off, if it is armed. -/
def onTimer (timer : Timer) (s : Scene κ σ) : Scene κ σ :=
  if s.context.timers.contains timer then
    let rung := s.mapContext fun c => { c with timers := c.timers.erase timer }
    match timer with
    | .start =>
      if rung.context.status = .created then
        terminate "start timeout" (settle (.failed "execution context failed to start") rung)
      else rung
    | .watchdog =>
      if rung.context.outcome.isSome then rung
      else settle .timedOut (rung.mapContext discardStage)
  else s

/-- What can happen to a context. -/
inductive Event where
  /-- It begins to start. -/
  | begin
  /-- The process has been created. -/
  | created
  /-- A message of the process has come. -/
  | message (raw : Wire)
  /-- A call is looked at. -/
  | serve (number : Nat)
  /-- What a call waits for has come. -/
  | fetched (number : Nat) (result : Except Failure Wire)
  /-- The process is gone. -/
  | died (code : Option Int)
  /-- The end of the messages of the process has been read. -/
  | ended
  /-- Nothing can be sent to the process any more. -/
  | unlinked
  /-- A timer goes off. -/
  | timer (timer : Timer)
  /-- The context is killed. -/
  | terminate (reason : String)

/-- The scene after an event. -/
def step [DecidableEq κ] (ops : SinkOps σ) (hasAttachments : Bool) (s : Scene κ σ) :
    Event → Scene κ σ
  | .begin => begin s
  | .created => created s
  | .message raw => onMessage ops raw s
  | .serve number => serve hasAttachments number s
  | .fetched number result => fetched number result s
  | .died code =>
    match s.context.process with
    | .starting | .alive => s.mapContext fun c => { c with process := .gone code }
    | _ => s
  | .ended => if s.context.attached then onEnded s else s
  | .unlinked =>
    s.mapContext fun c => { c with link := if c.link = .intact then .broken else c.link }
  | .timer t => onTimer t s
  | .terminate reason => terminate reason s

end ChartScript.Context
