import ChartScript.Artifact.Stage
import ChartScript.Host.Dispatch
import ChartScript.Number.Conversion
import ChartScript.Run.Spec
import ChartScript.Run.Status
/-!
# Execution contexts

The host's side of one run. A context creates the process that runs the script, follows
what the process reports, serves its capability calls and settles the run with one
outcome. This module holds its state; what happens to it is in `Context.Event`.
-/

namespace ChartScript

open Artifact (Stage)
open Message (Request)

/-- The process that runs a script. -/
inductive Process where
  /-- It was never created. -/
  | absent
  /-- It is being created. -/
  | starting
  /-- It runs. -/
  | alive
  /-- It has ended, with an exit code if one is known. -/
  | gone (code : Option Int)
  deriving Repr, DecidableEq, Inhabited

/-- The host's way to the process. -/
inductive Link where
  /-- There is none yet. -/
  | absent
  /-- Messages can be sent. -/
  | intact
  /-- Nothing can be sent any more. -/
  | broken
  deriving Repr, DecidableEq, Inhabited

/-- A timer of a context. -/
inductive Timer where
  /-- It waits for the script to start. -/
  | start
  /-- It waits for the script to end. -/
  | watchdog
  deriving Repr, DecidableEq, Inhabited

/-- A capability call that is being served. -/
structure Errand where
  /-- Its number among the calls of the context. -/
  number : Nat
  /-- The request. -/
  request : Request
  /-- What it waits for; nothing before it was looked at. -/
  fetch : Option Host.Fetch
  deriving Inhabited

/-- The state of an execution context. -/
structure Context where
  /-- The instance the run belongs to. -/
  instanceId : String
  /-- What is run. -/
  spec : Run.Spec
  /-- How much longer than its budget the run may take before the watchdog ends it, in
  milliseconds. -/
  graceMs : Int
  /-- The state of the run. -/
  status : Run.Status
  /-- The writes of the run. -/
  stage : Stage
  /-- Whether the context was started, so that there will be an outcome. -/
  begun : Bool
  /-- The outcome, once the run is settled. -/
  outcome : Option Run.Outcome
  /-- The process. -/
  process : Process
  /-- The way to the process. -/
  link : Link
  /-- Whether the messages of the process are read. -/
  attached : Bool
  /-- The timers that may go off. -/
  timers : List Timer
  /-- The capability calls that are being served, oldest first. -/
  errands : List Errand
  /-- How many capability calls have come. -/
  calls : Nat
  /-- When the script started, in microseconds. -/
  startedAt : Option Nat
  /-- What was sent to the process, in order. -/
  sent : List Wire
  /-- What the attempt to start raised. -/
  refusal : Option Failure
  deriving Inhabited

namespace Context

/-- The grace of a run for which none is named. -/
def defaultGraceMs : Int := 100

/-- A context before it is started. -/
def create (instanceId : String) (spec : Run.Spec) : Context where
  instanceId := instanceId
  spec := spec
  graceMs := defaultGraceMs
  status := .created
  stage := .forInstance instanceId
  begun := false
  outcome := none
  process := .absent
  link := .absent
  attached := false
  timers := []
  errands := []
  calls := 0
  startedAt := none
  sent := []
  refusal := none

/-- Whether the process runs. -/
def isAlive (c : Context) : Bool := c.process = .alive

/-- The exit code of the process, if it has ended with a known one. -/
def exitCode (c : Context) : Option Int :=
  match c.process with
  | .gone code => code
  | _ => none

/-- The outcome that is waited for: nothing while the run goes on. A context that was never
started has none to wait for. -/
def awaited (c : Context) : Except Failure (Option Run.Outcome) :=
  if c.begun then .ok c.outcome
  else .error (.sandbox .general "execution context was never started")

/-- The timers while the script runs: the watchdog, unless its delay is no number of seconds. -/
def watchdogs (c : Context) : List Timer :=
  match Number.toFloat (.int (c.spec.timeoutMs + c.graceMs)) with
  | .ok _ => [.watchdog]
  | .error _ => []

/-- Kills the process if it runs. -/
def kill (c : Context) : Context :=
  if c.isAlive then { c with process := .gone (some (-9)) } else c

/-- Drops every write and takes no more. -/
def discardStage (c : Context) : Context := { c with stage := c.stage.discard }

/-- Sends a message to the process, unless the way is broken. -/
def send (c : Context) (message : Wire) : Context :=
  if c.link = .intact then { c with sent := c.sent ++ [message] } else c

/-- The call with a number. -/
def errand? (c : Context) (number : Nat) : Option Errand :=
  c.errands.find? fun e => e.number = number

/-- Forgets the call with a number. -/
def dropErrand (c : Context) (number : Nat) : Context :=
  { c with errands := c.errands.filter fun e => e.number ≠ number }

end Context

end ChartScript
