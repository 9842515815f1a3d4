import ChartScript.Script.Environment
import ChartScript.Script.Provided
/-!
# The machine

A running script is a state: what happens next, the suspended work, the scope, and the
heap. Work on the state may raise an exception, which the machine turns into control
that unwinds the suspended work. What the machine cannot do by itself it asks for.
-/

namespace ChartScript.Script

/-- What a script can ask about the answer to a capability call, or put in its place, without waiting.
Functions to be called when the answer comes are out of scope. -/
inductive FutureQuery where
  /-- Whether it has come. -/
  | done
  /-- Whether it was called off. -/
  | cancelled
  /-- The answer itself. -/
  | result
  /-- The failure, if there is one. -/
  | failure
  /-- To call it off. -/
  | cancel
  /-- To put a result in its place. -/
  | fulfil
  /-- To put a failure in its place. When the failure cannot be told, its text is empty and
  the failure to tell it stands beside it. -/
  | reject (failure : Failure) (obstacle : Option Failure)
  deriving Repr, DecidableEq

/-- What a script asks of the world around it. -/
inductive Effect where
  /-- A text is printed. -/
  | print (text : String)
  /-- A line goes to the log. -/
  | log (level text : String)
  /-- A capability is called; the number of the call is the answer. Parameters that cannot
  travel come as the failure to send them. -/
  | request (method : String) (params : Except Failure (List (String × Wire)))
  /-- The answer to a call is waited for. -/
  | wait (call : Nat)
  /-- Something is asked about the answer to a call. -/
  | query (call : Nat) (what : FutureQuery)
  /-- Time passes. -/
  | sleep (seconds : Float)

/-- What the world answers. -/
inductive Answer where
  /-- Nothing. -/
  | nothing
  /-- A truth value. -/
  | truth (value : Bool)
  /-- The number of a capability call. -/
  | call (number : Nat)
  /-- Data. -/
  | data (value : Wire)
  /-- A failure that is raised: the name of its type and its text, if it has one. -/
  | raised (type : String) (text : Option String)
  /-- A failure that is only shown. -/
  | shown (type : String) (text : Option String)

/-- Where printed texts go. -/
inductive Printing where
  /-- To the output, as they are. -/
  | direct
  /-- To a list of lines; separators and ends are ignored. -/
  | lines
  /-- To the log; ends are ignored. -/
  | logged
  deriving Repr, DecidableEq

/-- What happens next. -/
inductive Control where
  /-- An expression is evaluated. -/
  | eval (expr : Expr)
  /-- A value has come. -/
  | value (v : Value)
  /-- Statements are run. -/
  | exec (block : List Stmt)
  /-- A block has ended. -/
  | done (completion : Completion)
  /-- A source is asked for its next element. -/
  | next (source : Value)
  /-- An element has come. -/
  | item (v : Value)
  /-- A source has no more elements; it may leave a value. -/
  | exhausted (result : Value)
  /-- A function is called. -/
  | call (func : Value) (args : List Value) (keywords : Keywords)
  /-- The world is asked. -/
  | ask (effect : Effect)

/-- A running script. -/
structure State where
  /-- What happens next. -/
  control : Control
  /-- Suspended work, innermost first. -/
  frames : List Frame
  /-- The variables in scope. -/
  scope : Address
  /-- The exception that is being handled. -/
  handled : Option Value
  /-- How many calls are running. -/
  depth : Nat
  /-- Where printed texts go. -/
  printing : Printing
  /-- What the environment is set to. -/
  setting : Message.EnvSpec
  /-- What the script has settled capability calls with itself: a result or an exception. -/
  settled : List (Nat × Except Value Value)
  /-- The objects. -/
  heap : Heap

/-- Work on the state that may raise an exception. -/
abbrev Act := EStateM Raised State

/-- Most calls that may run at once. -/
def maxCalls : Nat := 985

/-- The address of the variables of the module. -/
def moduleScope : Address := 0

namespace Act

/-- Work on the heap as work on the state. -/
def heap {α : Type} (work : Op α) : Act α := fun s =>
  let objects := s.heap
  let rest := { s with heap := ⟨#[]⟩ }
  match work objects with
  | .ok a h => .ok a { rest with heap := h }
  | .error e h => .error e { rest with heap := h }

/-- An outcome as work on the state. -/
def lift {α : Type} (r : Except Raised α) : Act α :=
  match r with
  | .ok a => return a
  | .error e => throw e

/-- The heap. -/
def getHeap : Act Heap := return (← get).heap

/-- Changes what happens next. -/
def goto (c : Control) : Act Unit := modify fun s => { s with control := c }

/-- Suspends work. -/
def push (f : Frame) : Act Unit := modify fun s => { s with frames := f :: s.frames }

/-- A value is what comes next. -/
def answer (v : Value) : Act Unit := goto (.value v)

/-- A block ends. -/
def finish : Act Unit := goto (.done .normal)

/-- What a capability call has come to is what comes next. -/
def outcome : Except Value Value → Act Unit
  | .ok v => answer v
  | .error e => goto (.done (.raising e))

/-- Evaluates an expression before suspended work goes on. -/
def evalThen (e : Expr) (f : Frame) : Act Unit := do
  push f
  goto (.eval e)

/-- The variables at an address. -/
def variablesAt (a : Address) : Act Variables := do
  match (← getHeap).get? a with
  | some (.variables vars) => return vars
  | _ => return {}

/-- Changes the variables at an address. -/
def setVariables (a : Address) (vars : Variables) : Act Unit := heap (Op.put a (.variables vars))

/-- Enters a call. -/
def enter : Act Unit := do
  let s ← get
  if maxCalls ≤ s.depth then throw .recursion
  set { s with depth := s.depth + 1 }

/-- Leaves a call for a scope. -/
def leave (scope : Address) (handled : Option Value) : Act Unit :=
  modify fun s => { s with depth := s.depth - 1, scope, handled }

end Act

end ChartScript.Script
