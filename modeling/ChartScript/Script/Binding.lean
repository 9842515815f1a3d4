import ChartScript.Script.Method.Arity
/-!
# Arguments and parameters

The parameters of a function and how the arguments of a call are given to them: by
position, by name, or from defaults. The first rule that a call breaks is reported, in the
order unknown names, too many positions, absent positions, absent names.
-/

namespace ChartScript.Script

open Text.Prose (namesInProse pluralLetter)

/-- The parameters of a function. -/
structure Signature where
  /-- The name in reports. -/
  function : String
  /-- How many parameters are given by position only. -/
  positionOnly : Nat := 0
  /-- The parameters that can be given by position. -/
  positional : List String
  /-- The parameter that takes the rest by position. -/
  rest : Option String := none
  /-- The parameters that are given by name only. -/
  named : List String := []
  /-- The parameter that takes the rest by name. -/
  others : Option String := none
  /-- The defaults. -/
  defaults : List (String × Value) := []

namespace Signature

/-- A call that breaks a rule. -/
def refusal (s : Signature) (text : String) : Raised := .typeError (s.function ++ "() " ++ text)

/-- Gives arguments by name to the parameters that are still open. Others are kept aside. -/
def bindKeywords (s : Signature) (isTaken : String → Bool) :
    Keywords → Except Raised (Keywords × Keywords)
  | [] => .ok ([], [])
  | (name, v) :: more => do
    let byName := s.positional.drop s.positionOnly ++ s.named
    if byName.contains name then
      if isTaken name then throw (s.refusal ("got multiple values for argument '" ++ name ++ "'"))
      let (bound, aside) ← bindKeywords s (fun n => n = name || isTaken n) more
      return ((name, v) :: bound, aside)
    else if s.others.isSome then
      let (bound, aside) ← bindKeywords s isTaken more
      return (bound, (name, v) :: aside)
    else
      let wrong := (name :: more.map Prod.fst).filter fun n =>
        (s.positional.take s.positionOnly).contains n
      if wrong.isEmpty then
        throw (s.refusal ("got an unexpected keyword argument '" ++ name ++ "'"))
      else
        throw (s.refusal ("got some positional-only arguments passed as keyword arguments: '" ++
          ", ".intercalate wrong ++ "'"))

/-- More arguments by position than parameters. -/
def tooMany (s : Signature) (given keywordsGiven : Nat) : Raised :=
  let most := s.positional.length
  let least := (s.positional.filter fun n => (s.defaults.lookup n).isNone).length
  let takes :=
    if least < most then
      "from " ++ toString least ++ " to " ++ toString most ++ " positional arguments"
    else toString most ++ " positional argument" ++ pluralLetter most
  let extra :=
    if keywordsGiven = 0 then ""
    else
      " positional argument" ++ pluralLetter given ++ " (and " ++ toString keywordsGiven ++
        " keyword-only argument" ++ pluralLetter keywordsGiven ++ ")"
  s.refusal ("takes " ++ takes ++ " but " ++ toString given ++ extra ++
    (if given = 1 && keywordsGiven = 0 then " was" else " were") ++ " given")

/-- Parameters that are absent. -/
def missing (s : Signature) (kind : String) (names : List String) : Raised :=
  s.refusal ("missing " ++ toString names.length ++ " required " ++ kind ++ " argument" ++
    pluralLetter names.length ++ ": " ++ namesInProse names)

/-- The values of all parameters in a call; the rest by name is given as keywords. -/
def bind (s : Signature) (args : List Value) (kws : Keywords) :
    Except Raised (Keywords × Keywords) := do
  let byPosition := s.positional.zip args
  let (byName, aside) ← s.bindKeywords (fun n => (byPosition.lookup n).isSome) kws
  let given := byPosition ++ byName
  if s.positional.length < args.length && s.rest.isNone then
    throw (s.tooMany args.length (s.named.filter fun n => (byName.lookup n).isSome).length)
  let isOpen (n : String) : Bool := (given.lookup n).isNone && (s.defaults.lookup n).isNone
  let absent := s.positional.filter isOpen
  if !absent.isEmpty then throw (s.missing "positional" absent)
  let unnamed := s.named.filter isOpen
  if !unnamed.isEmpty then throw (s.missing "keyword-only" unnamed)
  let values := (s.positional ++ s.named).map fun n =>
    (n, ((given.lookup n).or (s.defaults.lookup n)).getD .none)
  let rest :=
    match s.rest with
    | some n => [(n, .tuple (args.drop s.positional.length))]
    | none => []
  return (values ++ rest, aside)

end Signature

end ChartScript.Script
