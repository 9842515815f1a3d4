import ChartScript.Script.Program
import ChartScript.Session.Basic
/-!
# Scripts as programs of a session

A script is accepted or refused when it is started. Then its body runs, then its entry,
and what the entry leaves is waited for if it can be.
-/

namespace ChartScript.Session

open Script (Answer Stop)

/-- How far a script is. -/
inductive Stage where
  /-- Its body runs. -/
  | body
  /-- Its body has run and its entry is next. -/
  | loaded
  /-- Its entry runs. -/
  | entry
  /-- What the entry has left is waited for. -/
  | result
  deriving Repr, DecidableEq

/-- A suspended script. -/
structure Suspended where
  /-- The text of the script. -/
  source : String
  /-- How far it is. -/
  stage : Stage
  /-- The machine. -/
  state : Script.State

/-- The failure of a script that takes too many steps. -/
def endless : Failure := .sandbox .runtime "the script does not end"

/-- A script runs until it asks for something, fails or comes to the end of what runs. -/
def runPart (s : Suspended) (onEnd : Script.Value → Script.State → Turn Suspended) :
    Turn Suspended :=
  match Script.run Script.maxSteps s.state with
  | none => .failed endless
  | some (.asks effect, state) => .asks effect { s with state }
  | some (.failed e, state) =>
    match state.heap.account e with
    | .ok f => .failed f
    | .error obstacle => .untold obstacle
  | some (.ended v, state) => onEnd v state

/-- What an entry has left is waited for, if it can be. -/
def finishEntry (s : Suspended) (v : Script.Value) (state : Script.State) : Turn Suspended :=
  if Script.isAwaitable state.heap v then
    runPart { s with stage := .result, state := state.await v } fun _ _ => .ended
  else .ended

/-- The entry that a body has left is called next. -/
def finishBody (s : Suspended) (state : Script.State) : Turn Suspended :=
  match Script.entry? state with
  | none => .failed (Script.Rejection.noEntry.failure s.source)
  | some entry =>
    .entered { s with stage := .loaded, state := state.callEntry entry [.host .environment] }

/-- A script runs on. -/
def proceed (s : Suspended) : Turn Suspended :=
  match s.stage with
  | .body => runPart s fun _ state => finishBody s state
  | .loaded | .entry => runPart { s with stage := .entry } fun v state => finishEntry s v state
  | .result => runPart s fun _ _ => .ended

/-- Scripts as programs. -/
def interpreter : Program Suspended where
  start i :=
    match Script.accept i.source with
    | .error r => .failed (r.failure i.source)
    | .ok statements => proceed ⟨i.source, .body, Script.start statements .logged i.env⟩
  resume s a :=
    match s.stage with
    | .loaded => proceed s
    | _ => proceed { s with state := s.state.resume a }

end ChartScript.Session
