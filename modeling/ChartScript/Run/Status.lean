import ChartScript.Schema.Record
/-!
# Runs: status and outcome

The states of a run and the outcome with which it settles. A run is settled in every
state but the first two.
-/

namespace ChartScript.Run

open Schema (FieldView RecordView)

/-- The state of a run. -/
inductive Status where
  /-- The process has not reported yet. -/
  | created
  /-- The script runs. -/
  | running
  /-- The script ended and its plots were committed. -/
  | completed
  /-- The script or its process failed. -/
  | failed
  /-- The time budget was used up. -/
  | timedOut
  /-- The run was killed. -/
  | terminated
  deriving Repr, DecidableEq, Inhabited

/-- The name of a status. -/
def Status.name : Status → String
  | .created => "created"
  | .running => "running"
  | .completed => "completed"
  | .failed => "failed"
  | .timedOut => "timed_out"
  | .terminated => "terminated"

/-- All states in order. -/
def Status.all : List Status := [.created, .running, .completed, .failed, .timedOut, .terminated]

/-- Whether a run in this state is settled. -/
def Status.isTerminal : Status → Bool
  | .created => false
  | .running => false
  | _ => true

/-- A check of the name of a status. -/
def Status.check : Schema.Check Status := Schema.member (Status.all.map fun s => (s.name, s))

/-- How a run settled. -/
structure Outcome where
  /-- The instance the run belongs to. -/
  instanceId : String
  /-- The final status. -/
  status : Status
  /-- The error text, if there is one. -/
  error : Option String
  /-- Whether the time budget was used up. -/
  timedOut : Bool
  /-- The ids of the committed artifacts. -/
  artifacts : List String
  /-- Milliseconds since the start, if the script had started. -/
  durationMs : Option Float
  deriving Inhabited

namespace Outcome

/-- Checks an outcome. -/
def check : Schema.Check Outcome :=
  Schema.record "RunOutcome" fun o =>
    Outcome.mk <$> o.required ["instance_id"] Schema.text
      <*> o.required ["status"] Status.check
      <*> o.withDefault ["error"] none (Schema.optional Schema.text)
      <*> o.withDefault ["timed_out"] false Schema.truth
      <*> o.withDefault ["artifacts"] [] (Schema.listOf Schema.text)
      <*> o.withDefault ["duration_ms"] none (Schema.optional Schema.number)

/-- The outcome as data. -/
def view (o : Outcome) : RecordView :=
  ⟨"RunOutcome", false, [.plain "instance_id" (.text o.instanceId),
    .plain "status" (.text o.status.name), .plain "error" (Wire.ofText? o.error),
    .plain "timed_out" (.bool o.timedOut), .plain "artifacts" (Wire.texts o.artifacts),
    .plain "duration_ms" (Wire.ofFloat? o.durationMs)]⟩

/-- The completion message of an outcome: the error if there is one, and the time-out. -/
def doneMessage (o : Outcome) : Wire :=
  .object ([("type", .text "done")] ++ (o.error.map fun e => ("error", Wire.text e)).toList ++
    (if o.timedOut then [("timedOut", .bool true)] else []))

end Outcome

end ChartScript.Run
