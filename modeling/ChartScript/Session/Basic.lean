import ChartScript.Bridge.Basic
import ChartScript.Script.Machine.Basic
/-!
# Sessions

The side of a run that is inside the process: a session receives one instruction, runs a
program, carries its capability calls over the bridge and reports the end once. This
module holds the state of a session and what it takes a program to be; what happens to a
session is in `Session.Event`.
-/

namespace ChartScript.Session

open Message (EnvSpec Instruction)
open Script (Effect Answer)

/-- What a program comes to when it is started or goes on. -/
inductive Turn (π : Type) where
  /-- It asks the world for something. -/
  | asks (effect : Effect) (rest : π)
  /-- Its body has ended and its entry is next. -/
  | entered (rest : π)
  /-- It has ended. -/
  | ended
  /-- It has failed. -/
  | failed (failure : Failure)
  /-- It has failed with something that cannot be told, and this is the failure to tell it. -/
  | untold (obstacle : Failure)

/-- A kind of program, whose suspended forms are of a type. -/
structure Program (π : Type) where
  /-- A program is started as an instruction says. -/
  start : Instruction → Turn π
  /-- A suspended program goes on with an answer. -/
  resume : π → Answer → Turn π

/-- How a session ends. -/
inductive Ending where
  /-- In the ordinary way. -/
  | exit
  /-- By a failure that nothing takes care of. -/
  | failed (failure : Failure)
  deriving Repr, DecidableEq

/-- Where a session is. -/
inductive Phase (π : Type) where
  /-- It has no instruction yet. -/
  | idle
  /-- The program has come to a turn. -/
  | active (turn : Turn π)
  /-- The program waits for the answer to a call. -/
  | waiting (call : Nat) (rest : π)
  /-- The program sleeps. -/
  | sleeping (seconds : Float) (rest : π)
  /-- The program has ended and its open calls are waited for; the first failure among them
  counts. -/
  | gathering (calls : List Nat) (failure : Option Failure)
  /-- It has ended. -/
  | over (ending : Ending)

end Session

/-- The state of a session. -/
structure Session (π : Type) where
  /-- Where it is. -/
  phase : Session.Phase π
  /-- The market data of its instruction. -/
  setting : Message.EnvSpec
  /-- The time budget in milliseconds while the timer runs. -/
  budget : Option Int
  /-- The calls. -/
  bridge : Bridge
  /-- How many calls there were. -/
  requests : Nat
  /-- The calls that the program was given. -/
  granted : List Nat
  /-- The calls that the program has settled with something that cannot be told, each with the
  failure to tell it. -/
  untold : List (Nat × Failure)
  /-- Whether the end was reported, or the attempt was made. -/
  finished : Bool
  /-- Whether messages reach the host. -/
  connected : Bool
  /-- The messages to the host, in order. -/
  sent : List Wire

namespace Session

variable {π : Type}

/-- A session before its instruction. -/
def fresh : Session π where
  phase := .idle
  setting := ⟨"", ""⟩
  budget := none
  bridge := .empty
  requests := 0
  granted := []
  untold := []
  finished := false
  connected := true
  sent := []

/-- The correlation id of a call by its number. -/
def callId (number : Nat) : String := "call-" ++ toString number

/-- Sends a message, unless the host is gone. -/
def send (message : Wire) (s : Session π) : Except Failure (Session π) :=
  if s.connected then .ok { s with sent := s.sent ++ [message] } else .error .brokenPipe

/-- Reports the end, the first time only. -/
def finish (report : Message.Done) (s : Session π) : Except Failure (Session π) :=
  if s.finished then .ok s
  else { s with finished := true }.send report.view.toWire

/-- The session is over. -/
def leave (ending : Ending) (s : Session π) : Session π := { s with phase := .over ending }

/-- Reports the end and is over, by a failure if the host is gone. -/
def report (done : Message.Done) (s : Session π) : Session π :=
  match s.finish done with
  | .ok s => s.leave .exit
  | .error f => { s with finished := true }.leave (.failed f)

/-- The run is over: the timer stops and the bridge closes. -/
def close (s : Session π) : Session π :=
  { s with budget := none, bridge := s.bridge.close Bridge.defaultReason }

/-- Whether what the program asks for has come or it needs nothing. -/
def canTurn (s : Session π) : Bool :=
  match s.phase with
  | .active _ => true
  | .waiting call _ => (s.bridge.settlement? call).isSome
  | .gathering calls failure =>
    failure.isSome || calls.all fun call => (s.bridge.settlement? call).isSome
  | _ => false

/-- Whether messages of the host are looked at: only while the program does not run. -/
def canReceive (s : Session π) : Bool :=
  match s.phase with
  | .waiting _ _ | .sleeping _ _ | .gathering _ _ => true
  | _ => false

/-- Whether the session is over. -/
def isOver (s : Session π) : Bool :=
  match s.phase with
  | .over _ => true
  | _ => false

end Session

end ChartScript
