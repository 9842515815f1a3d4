import ChartScript.Script.Machine.Resume
/-!
# Steps of the machine

One step after another until the script has ended or asks the world. An exception that a
step raises becomes an object and unwinds the suspended work.
-/

namespace ChartScript.Script

open Act

/-- The innermost suspended work, which is taken off. -/
def takeFrame (s : State) : Option (Frame × State) :=
  match s.frames with
  | f :: rest => some (f, { s with frames := rest })
  | [] => none

/-- A raised exception as an object. -/
def objectOf (h : Heap) (r : Raised) : Heap × Value :=
  let (h, a) := h.alloc (.exception r.type r.args)
  (h, .object a)

/-- The state after a piece of work. -/
def perform (work : Act Unit) (s : State) : State :=
  match work s with
  | .ok _ s => s
  | .error r s =>
    let (heap, e) := objectOf s.heap r
    { s with heap, control := .done (.raising e) }

/-- One step. A script that has ended or asks the world does not move. -/
def step (s : State) : State :=
  match s.control with
  | .eval e => perform (Machine.eval e) s
  | .exec block => perform (Machine.exec block) s
  | .next source => perform (Machine.next source) s
  | .call func args kws => perform (Machine.call func args kws) s
  | .ask _ => s
  | .value v =>
    match takeFrame s with
    | some (f, s) => perform (Machine.value f v) s
    | none => s
  | .done c =>
    match takeFrame s with
    | some (f, s) => perform (Machine.done f c) s
    | none => s
  | .item v =>
    match takeFrame s with
    | some (f, s) => perform (Machine.item f v) s
    | none => s
  | .exhausted v =>
    match takeFrame s with
    | some (f, s) => perform (Machine.exhausted f v) s
    | none => s

/-- Why a script does not move. -/
inductive Stop where
  /-- It has ended with a value. -/
  | ended (v : Value)
  /-- It has ended with an exception. -/
  | failed (exception : Value)
  /-- It asks the world. -/
  | asks (effect : Effect)

/-- Why a script does not move, unless it does. -/
def stop? (s : State) : Option Stop :=
  match s.control, s.frames with
  | .ask effect, _ => some (.asks effect)
  | .value v, [] => some (.ended v)
  | .done (.raising e), [] => some (.failed e)
  | .done (.returning v), [] => some (.ended v)
  | .done _, [] => some (.ended .none)
  | .item v, [] => some (.ended v)
  | .exhausted v, [] => some (.ended v)
  | _, _ => none

/-- Steps until the script does not move; nothing if that takes more than the given number. -/
def run : Nat → State → Option (Stop × State)
  | 0, _ => none
  | fuel + 1, s =>
    match stop? s with
    | some stop => some (stop, s)
    | none => run fuel (step s)

/-- More steps than any script is given time for. -/
def maxSteps : Nat := Nat.pow 10 15

/-- An exception with a text, or without one. -/
def exceptionWith (type : String) (text : Option String) : Raised :=
  ⟨type, text.toList.map .text⟩

/-- The script goes on with the answer of the world. -/
def State.resume (s : State) (a : Answer) : State :=
  perform (do
    match a with
    | .nothing => answer .none
    | .truth b => answer (.bool b)
    | .call n => answer (.future n)
    | .data w => answer (← Act.heap (receive w))
    | .raised type text => throw (exceptionWith type text)
    | .shown type text =>
      let r := exceptionWith type text
      answer (← Act.heap (Op.alloc (.exception r.type r.args)))) s

end ChartScript.Script
