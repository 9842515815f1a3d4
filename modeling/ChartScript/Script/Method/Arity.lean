import ChartScript.Script.Operation
import ChartScript.Text.Prose
/-!
# Arguments of provided functions

How many arguments a provided function takes, and the refusal of all other calls.
-/

namespace ChartScript.Script

open Text.Prose (pluralLetter)

/-- Arguments by keyword. -/
abbrev Keywords := List (String × Value)

namespace Arity

/-- Refuses all keywords. -/
def noKeywords (function : String) (kws : Keywords) : Except Raised Unit :=
  if kws.isEmpty then .ok ()
  else .error (.typeError (function ++ "() takes no keyword arguments"))

/-- Refuses all arguments. -/
def none (function : String) (args : List Value) (kws : Keywords) : Except Raised Unit := do
  noKeywords function kws
  if !args.isEmpty then
    throw (.typeError (function ++ "() takes no arguments (" ++ toString args.length ++ " given)"))

/-- The only argument. -/
def one (function : String) (args : List Value) (kws : Keywords) : Except Raised Value := do
  noKeywords function kws
  match args with
  | [v] => return v
  | _ =>
    throw (.typeError
      (function ++ "() takes exactly one argument (" ++ toString args.length ++ " given)"))

/-- Refuses fewer than `least` and more than `most` arguments. -/
def between (name : String) (least most : Nat) (args : List Value) : Except Raised Unit :=
  let n := args.length
  let count (word : String) (k : Nat) : Raised :=
    .typeError (name ++ " expected " ++ word ++ toString k ++ " argument" ++ pluralLetter k ++ ", got " ++
      toString n)
  if n < least then .error (count (if least = most then "" else "at least ") least)
  else if most < n then .error (count (if least = most then "" else "at most ") most)
  else .ok ()

/-- Refuses fewer than `least` and more than `most` arguments, with the number that is
given. -/
def within (name : String) (least most : Nat) (args : List Value) : Except Raised Unit :=
  let n := args.length
  let count (word : String) (k : Nat) : Raised :=
    .typeError (name ++ "() takes " ++ word ++ toString k ++ " argument" ++ pluralLetter k ++ " (" ++
      toString n ++ " given)")
  if n < least then .error (count (if least = most then "exactly " else "at least ") least)
  else if most < n then .error (count (if least = most then "exactly " else "at most ") most)
  else .ok ()

/-- Arguments that can be given by position or name, in the order of their names. Absent ones
are nothing. -/
def named (function : String) (names : List String) (args : List Value) (kws : Keywords) :
    Except Raised (List (Option Value)) :=
  if names.length < args.length + kws.length then
    .error (.typeError (function ++ "() takes at most " ++ toString names.length ++ " argument" ++
      pluralLetter names.length ++ " (" ++ toString (args.length + kws.length) ++ " given)"))
  else
    match kws.find? fun k => !names.contains k.1 with
    | some k =>
      .error (.typeError ("'" ++ k.1 ++ "' is an invalid keyword argument for " ++ function ++ "()"))
    | Option.none =>
      match names.zipIdx.find? fun n => n.2 < args.length && kws.any fun k => k.1 = n.1 with
      | some n =>
        .error (.typeError ("argument for " ++ function ++ "() given by name ('" ++ n.1 ++
          "') and position (" ++ toString (n.2 + 1) ++ ")"))
      | Option.none => .ok (names.zipIdx.map fun n => (args[n.2]?).or (kws.lookup n.1))

end Arity

/-- A value as an integer; other values cannot be interpreted as one. -/
def asIndex (h : Heap) (v : Value) : Except Raised Int :=
  match intOf? v with
  | some i => .ok i
  | none =>
    .error (.typeError ("'" ++ h.typeName v ++ "' object cannot be interpreted as an integer"))

/-- The part of a sequence between optional bounds, as a first position and an end. -/
def boundsOf (n : Nat) (lower upper : Option Value) : Except Raised (Nat × Nat) := do
  let p ← Picked.ofValues n (lower.getD .none) (upper.getD .none) .none
  return (p.start.toNat, p.start.toNat + p.count)

end ChartScript.Script
