import ChartScript.Session.Event
/-!
# Sessions in time

A session together with the messages on their way to it and the moments at which its
timer goes off and its sleep ends. Times are in microseconds. What can happen without
waiting happens in a fixed order: the timer, a turn of the program, the next message, the
end of a sleep.
-/

namespace ChartScript.Session

variable {π : Type}

/-- A session in time. -/
structure Timeline (π : Type) where
  /-- The session. -/
  session : Session π
  /-- The messages on their way to it, oldest first. -/
  inbox : List Wire
  /-- When the timer goes off. -/
  deadline : Option Nat
  /-- When the sleep ends. -/
  wakesAt : Option Nat

namespace Timeline

/-- A session that nothing has happened to. -/
def fresh : Timeline π := ⟨.fresh, [], none, none⟩

/-- A duration in seconds as microseconds; nothing if it does not end. -/
def microseconds (seconds : Float) : Option Nat :=
  if seconds.isNaN then some 0 else (Number.truncate? (seconds * 1000000)).map Int.toNat

/-- The alarms that belong to a session: those that are set stay, those that are not needed
any more are taken away. -/
def arm (now : Nat) (t : Timeline π) : Timeline π :=
  { t with
    deadline := t.session.budget.map fun ms => t.deadline.getD (now + ms.toNat * 1000)
    wakesAt :=
      match t.session.phase with
      | .sleeping seconds _ => t.wakesAt.or ((microseconds seconds).map (now + ·))
      | _ => none }

/-- An event of the session. -/
def happen (p : Program π) (now : Nat) (e : Event) (t : Timeline π) : Timeline π :=
  { t with session := step p t.session e }.arm now

/-- Whether a moment has come. -/
def isDue (now : Nat) (moment : Option Nat) : Bool :=
  match moment with
  | some m => m ≤ now
  | none => false

/-- The next event that needs no waiting, and the messages that are left. -/
def next? (now : Nat) (t : Timeline π) : Option (Event × List Wire) :=
  if isDue now t.deadline then some (.timer, t.inbox)
  else if t.session.canTurn then some (.turn, t.inbox)
  else
    match t.session.phase, t.inbox with
    | .idle, raw :: rest => some (.instruct raw, rest)
    | _, raw :: rest => if t.session.canReceive then some (.deliver raw, rest) else none
    | _, [] => if isDue now t.wakesAt then some (.wake, []) else none

/-- The next event that needs no waiting happens. -/
def move? (p : Program π) (now : Nat) (t : Timeline π) : Option (Timeline π) :=
  (t.next? now).map fun (e, inbox) => { t with inbox }.happen p now e

/-- The moments of two alarms, the earlier one. -/
def earlier : Option Nat → Option Nat → Option Nat
  | some a, some b => some (min a b)
  | a, b => a.or b

/-- When the next alarm goes off. -/
def alarm? (t : Timeline π) : Option Nat := earlier t.deadline t.wakesAt

end Timeline

/-- What a host does when a message comes. -/
structure Reaction where
  /-- The messages that it sends. -/
  messages : List Wire
  /-- Whether it is gone for what comes later. -/
  hangsUp : Bool

/-- A session against a host that reacts at once. -/
structure Exchange (π η : Type) where
  /-- The session. -/
  timeline : Timeline π
  /-- The host. -/
  host : η
  /-- How many messages the host has seen. -/
  heard : Nat
  /-- The time. -/
  now : Nat

namespace Exchange

variable {η : Type}

/-- What happens next: the host reacts to a message, the session moves, or time passes until
the next alarm. -/
def next? (p : Program π) (react : η → Wire → η × Reaction) (x : Exchange π η) :
    Option (Exchange π η) :=
  match x.timeline.session.sent[x.heard]? with
  | some message =>
    let (host, reaction) := react x.host message
    let t := { x.timeline with inbox := x.timeline.inbox ++ reaction.messages }
    let t := if reaction.hangsUp then t.happen p x.now .disconnect else t
    some { x with timeline := t, host, heard := x.heard + 1 }
  | none =>
    match x.timeline.move? p x.now with
    | some timeline => some { x with timeline }
    | none => x.timeline.alarm?.map fun now => { x with now := max now x.now }

/-- Goes on until nothing more happens or the given number of things have happened. -/
def run (p : Program π) (react : η → Wire → η × Reaction) : Nat → Exchange π η → Exchange π η
  | 0, x => x
  | fuel + 1, x =>
    match next? p react x with
    | some x => run p react fuel x
    | none => x

/-- More things than happen in any exchange. -/
def limit : Nat := Nat.pow 10 12

/-- A session with an instruction against a host; without one the host is gone at once. -/
def play (p : Program π) (react : η → Wire → η × Reaction) (host : η) (instruction : Option Wire) :
    Exchange π η :=
  let t : Timeline π :=
    match instruction with
    | some raw => { Timeline.fresh with inbox := [raw] }
    | none => Timeline.fresh.happen p 0 .hangUp
  run p react limit ⟨t, host, 0, 0⟩

end Exchange

end ChartScript.Session
