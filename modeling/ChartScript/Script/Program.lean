import ChartScript.Script.Guard
import ChartScript.Script.Machine.Step
import ChartScript.Script.Module
import ChartScript.Script.Scope.Check
import ChartScript.Text.Sha256
/-!
# Scripts as programs

A script is read, guarded and checked before any of it runs. Its body then runs in a
fresh module, and the entry is the value it leaves under one of two names, whichever is
the first that can be called.
-/

namespace ChartScript.Script

/-- The digest of a source, by which it is known. -/
def digestOf (source : String) : String := Text.Sha256.hexDigestOf source

/-- The file name of a source in reports. -/
def fileName (source : String) : String :=
  "<indicator:" ++ ((digestOf source).take 8).toString ++ ">"

/-- Why a script does not run. -/
inductive Rejection where
  /-- Its text is malformed. -/
  | malformed (e : SourceError)
  /-- It mentions something prohibited. -/
  | prohibited (o : Offence)
  /-- It breaks a rule on names or places. -/
  | misplaced (r : Scope.Report)
  /-- It leaves nothing that can be called. -/
  | noEntry

/-- The failure of a broken rule: an error of syntax, unless a number in its wording has too many digits
to be written. -/
def ruleFailure (source : String) (r : Scope.Report) : Failure :=
  match r.violation with
  | .fault .unwritableKey => .value r.violation.wording
  | _ =>
    ⟨.syntaxError, r.violation.wording ++ " (" ++ fileName source ++ ", line " ++ toString r.line ++ ")"⟩

/-- The failure of a rejected script. -/
def Rejection.failure (source : String) : Rejection → Failure
  | malformed e => .sandbox .compile e.text
  | prohibited o => .sandbox .compile o.message
  | misplaced r => ruleFailure source r
  | noEntry => .sandbox .compile "no callable export"

/-- The statements of a script that may run. -/
def accept (source : String) : Except Rejection (List Stmt) :=
  match statementsOf source with
  | .error e => .error (.malformed e)
  | .ok statements =>
    match offence? statements with
    | some o => .error (.prohibited o)
    | none =>
      match Scope.check statements with
      | some r => .error (.misplaced r)
      | none => .ok statements

/-- What every module is given beside what is provided. -/
def ambient : List (String × Value) :=
  [("math", .module "math"), ("sleep", .builtin "sleep"), ("array", .type "array")]

/-- A script before its body runs. -/
def start (statements : List Stmt) (printing : Printing) (setting : Message.EnvSpec) : State :=
  { control := .exec statements
    frames := []
    scope := moduleScope
    handled := none
    depth := 0
    printing
    setting
    settled := []
    heap := ⟨#[.variables { vars := ambient, isModule := true }]⟩ }

/-- The names under which a script leaves its entry, the first one first. -/
def entryNames : List String := ["default", "exports"]

/-- The entry that a body has left. -/
def entry? (s : State) : Option Value :=
  match s.heap.get? moduleScope with
  | some (.variables vars) =>
    entryNames.findSome? fun name =>
      (vars.vars.lookup name).filter (Types.isCallable s.heap)
  | _ => none

/-- The entry is called. -/
def State.callEntry (s : State) (entry : Value) (args : List Value) : State :=
  { s with control := .call entry args [], frames := [], scope := moduleScope, handled := none, depth := 0 }

/-- Whether a value can be waited for. -/
def isAwaitable (h : Heap) : Value → Bool
  | .future _ => true
  | .object a => match h.get? a with | some (.coroutine _ _) => true | _ => false
  | _ => false

/-- A value is waited for. -/
def State.await (s : State) (v : Value) : State := perform (Machine.await v) { s with frames := [] }

/-- Runs a script in a world that answers what it asks, until it ends. -/
def drive {σ : Type} (world : σ → Effect → σ × Answer) : Nat → σ → State → σ × Option (Stop × State)
  | 0, w, _ => (w, none)
  | fuel + 1, w, s =>
    match run maxSteps s with
    | some (.asks effect, s) =>
      let (w, a) := world w effect
      drive world fuel w (s.resume a)
    | outcome => (w, outcome)

/-- Runs a script to its end, and what its outcome has to be waited for, too. -/
def driveAwaiting {σ : Type} (world : σ → Effect → σ × Answer) (w : σ) (s : State) :
    σ × Option (Stop × State) :=
  match drive world maxSteps w s with
  | (w, some (.ended v, s)) =>
    if isAwaitable s.heap v then drive world maxSteps w (s.await v) else (w, some (.ended v, s))
  | outcome => outcome

/-- What whoever tells of an exception fails with: the failure that it amounts to, or the failure
to tell it. -/
def failureOf (s : State) (e : Value) : Failure :=
  match s.heap.account e with
  | .ok f => f
  | .error obstacle => obstacle

/-- A script whose body has run. -/
structure Loaded where
  /-- The state that the body has left. -/
  state : State
  /-- The entry. -/
  entry : Value

/-- Runs the body of a script and finds its entry. -/
def load {σ : Type} (world : σ → Effect → σ × Answer) (w : σ) (source : String)
    (printing : Printing) (setting : Message.EnvSpec) : σ × Except Failure Loaded :=
  match accept source with
  | .error r => (w, .error (r.failure source))
  | .ok statements =>
    match drive world maxSteps w (start statements printing setting) with
    | (w, some (.failed e, s)) => (w, .error (failureOf s e))
    | (w, some (_, s)) =>
      match entry? s with
      | some entry => (w, .ok ⟨s, entry⟩)
      | none => (w, .error (Rejection.noEntry.failure source))
    | (w, none) => (w, .error (.sandbox .runtime "the script does not end"))

end ChartScript.Script
