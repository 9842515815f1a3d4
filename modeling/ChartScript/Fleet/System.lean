import ChartScript.Fleet.Basic
import ChartScript.Session.Timeline
/-!
# The system

The fleet together with the processes of its contexts. Messages travel in order both
ways: what a context has sent is put before its session, and what a session has sent is
heard by its context. The system changes by events, and a schedule picks the next one:
every context in turn does what it can without waiting, and time passes when none can.
-/

namespace ChartScript

open Artifact (SinkOps)
open Session (Program Timeline)

/-- What the system is run with. -/
structure World (π σ : Type) where
  /-- What the processes run. -/
  program : Program π
  /-- The operations of the sink. -/
  ops : SinkOps σ
  /-- Whether there are attachments. -/
  hasAttachments : Bool
  /-- What a fetch brings, once it has come. -/
  fetch : Host.Fetch → Option (Except Failure Wire)

/-- The process of a context. -/
structure Seat (π : Type) where
  /-- Its session. -/
  timeline : Timeline π
  /-- How many messages of the context were put before the session. -/
  told : Nat
  /-- How many messages of the session were heard by the context. -/
  heard : Nat

/-- The state of the system. -/
structure System (π σ : Type) where
  /-- The contexts. -/
  fleet : Fleet σ
  /-- Their processes, in the same order. -/
  seats : List (Seat π)
  /-- The time in microseconds. -/
  now : Nat

namespace System

variable {π σ : Type}

/-- A system before the first context. -/
def empty (fleet : Fleet σ) : System π σ := ⟨fleet, [], 0⟩

/-- What can happen in the system. -/
inductive Event where
  /-- A context begins to start. -/
  | start (instanceId : String) (spec : Run.Spec)
  /-- The context of record of an instance is killed. -/
  | terminate (instanceId reason : String)
  /-- An instance is removed. -/
  | remove (instanceId : String)
  /-- Something happens to a context. -/
  | context (number : Nat) (event : Context.Event)
  /-- The next message of a context is put before its session. -/
  | tell (number : Nat)
  /-- The next message of a session is heard by its context. -/
  | hear (number : Nat)
  /-- Something happens in a process. -/
  | process (number : Nat) (event : Session.Event) (inbox : List Wire)
  /-- Time passes up to a moment. -/
  | pass (moment : Nat)

/-- Changes the process of a context. -/
def mapSeat (number : Nat) (f : Seat π → Seat π) (s : System π σ) : System π σ :=
  { s with seats := s.seats.modify number f }

/-- Something happens to a context. -/
def onContext (w : World π σ) (number : Nat) (e : Context.Event) (s : System π σ) : System π σ :=
  { s with
    fleet := s.fleet.within s.now number fun scene => Context.step w.ops w.hasAttachments scene e }

/-- The system after an event. -/
def step (w : World π σ) (s : System π σ) : Event → System π σ
  | .start instanceId spec =>
    { s with
      fleet := (s.fleet.start s.now instanceId spec).1
      seats := s.seats ++ [⟨.fresh, 0, 0⟩] }
  | .terminate instanceId reason =>
    { s with fleet := (s.fleet.terminate s.now instanceId reason).1 }
  | .remove instanceId => { s with fleet := (s.fleet.remove w.ops s.now instanceId).1 }
  | .context number e => onContext w number e s
  | .tell number =>
    match s.fleet.contexts[number]?, s.seats[number]? with
    | some context, some seat =>
      match context.sent[seat.told]? with
      | some message =>
        s.mapSeat number fun seat =>
          { seat with
            told := seat.told + 1
            timeline := { seat.timeline with inbox := seat.timeline.inbox ++ [message] } }
      | none => s
    | _, _ => s
  | .hear number =>
    match s.seats[number]? with
    | some seat =>
      match seat.timeline.session.sent[seat.heard]? with
      | some message =>
        (onContext w number (.message message) s).mapSeat number fun seat =>
          { seat with heard := seat.heard + 1 }
      | none => s
    | none => s
  | .process number e inbox =>
    s.mapSeat number fun seat =>
      { seat with timeline := { seat.timeline with inbox }.happen w.program s.now e }
  | .pass moment => { s with now := max s.now moment }

/-- The system after a list of events. -/
def run (w : World π σ) (s : System π σ) (events : List Event) : System π σ :=
  events.foldl (step w) s

/-- The next call of a context that can go forward without waiting. -/
def nextErrand? (w : World π σ) (c : Context) : Option Context.Event :=
  c.errands.findSome? fun e =>
    match e.fetch with
    | none => some (.serve e.number)
    | some fetch => (w.fetch fetch).map fun result => .fetched e.number result

/-- The next event of a living process that needs no waiting. -/
def nextOfProcess? (now number : Nat) (c : Context) (seat : Seat π) : Option Event :=
  if !c.isAlive then none
  else if seat.told < c.sent.length then some (.tell number)
  else
    match seat.timeline.next? now with
    | some (e, inbox) => some (.process number e inbox)
    | none =>
      if seat.timeline.session.isOver then some (.context number (.died (some 0))) else none

/-- The next event of a context that needs no waiting: it is created, it hears its process,
serves a call, its process goes on, or the end of the process is read. -/
def nextOf? (w : World π σ) (s : System π σ) (number : Nat) : Option Event := do
  let c ← s.fleet.contexts[number]?
  let seat ← s.seats[number]?
  if c.process = .starting then some (.context number .created)
  else if seat.heard < seat.timeline.session.sent.length then some (.hear number)
  else
    match nextErrand? w c with
    | some e => some (.context number e)
    | none =>
      match nextOfProcess? s.now number c seat with
      | some e => some e
      | none =>
        if c.process = .gone (some 0) && c.link = .intact then some (.context number .ended)
        else none

/-- When the next alarm of a living process goes off. -/
def alarm? (s : System π σ) : Option Nat :=
  (s.fleet.contexts.zip s.seats).foldl
    (fun found (c, seat) => if c.isAlive then Timeline.earlier found seat.timeline.alarm? else found)
    none

/-- The next event when the contexts have their turns in order from a number on, and the
number that the next turn begins with. -/
def next? (w : World π σ) (among : Context → Bool) (first : Nat)
    (s : System π σ) : Option (Event × Nat) :=
  let count := s.fleet.contexts.length
  (List.range count).findSome? fun i =>
    let number := (first + i) % count
    if (s.fleet.contexts[number]?.map among).getD false then
      (nextOf? w s number).map fun e => (e, number + 1)
    else none

/-- Goes on until something holds or nothing more can happen. -/
def runUntil (w : World π σ) (goal : System π σ → Bool) : Nat → Nat → System π σ → System π σ
  | 0, _, s => s
  | fuel + 1, turn, s =>
    if goal s then s
    else
      match next? w (fun _ => true) turn s with
      | some (e, turn) => runUntil w goal fuel turn (step w s e)
      | none =>
        match s.alarm? with
        | some moment => runUntil w goal fuel turn (step w s (.pass moment))
        | none => s

/-- Lets the processes of settled contexts that have ended go. -/
def dismiss (w : World π σ) : Nat → System π σ → System π σ
  | 0, s => s
  | fuel + 1, s =>
    let ended := (List.range s.seats.length).filter fun number =>
      ((s.seats[number]?).map fun seat => seat.timeline.session.isOver).getD false
    match ended.findSome? (nextOf? w s) with
    | some e => dismiss w fuel (step w s e)
    | none => s

/-- More events than happen before anything that is waited for. -/
def limit : Nat := Nat.pow 10 12

/-- Goes on until something holds, and lets the processes go that have ended by then. -/
def await (w : World π σ) (goal : System π σ → Bool) (s : System π σ) : System π σ :=
  dismiss w limit (runUntil w goal limit 0 s)

/-- The outcome of the context of a number. -/
def outcome? (s : System π σ) (number : Nat) : Option Run.Outcome :=
  (s.fleet.contexts[number]?).bind Context.outcome

/-- A context is started, and its process is created. Gives its number. -/
def launch (w : World π σ) (instanceId : String) (spec : Run.Spec) (s : System π σ) :
    System π σ × Nat :=
  let number := s.fleet.contexts.length
  (step w s (.start instanceId spec), number)

/-- Runs something for an instance and waits for the outcome, if there is ever one. -/
def perform (w : World π σ) (instanceId : String) (spec : Run.Spec) (s : System π σ) :
    System π σ × Option Run.Outcome :=
  let (started, number) := s.launch w instanceId spec
  let ended := await w (fun s => (s.outcome? number).isSome) started
  (ended, ended.outcome? number)

end System

end ChartScript
