import ChartScript.Schema.Violation
import ChartScript.Number.Reading
/-!
# Checks of field values

Lenient checks that turn travelled data into field values: numbers may come as numeric
texts or truth values, whole floating point numbers as integers, and truth values as
the usual words. Every check says exactly why it refuses a value.
-/

namespace ChartScript.Schema

/-- A check of one value. -/
abbrev Check (α : Type) := Wire → Checked α

/-- Bound below which whole floating point numbers become integers. -/
def wholeLimit : Int := Int.pow 2 63

/-- An integer. -/
def integer : Check Int := fun w =>
  match w with
  | .int n => .valid n
  | .bool b => .valid (if b then 1 else 0)
  | .float x =>
    match Number.Dyadic.ofFloat? x, Number.whole? x with
    | none, _ => .refuse .finiteNumber w
    | some _, none => .refuse .intFromFloat w
    | some _, some n =>
      if -wholeLimit < n && n < wholeLimit then .valid n else .refuse .intParsingSize w
  | .text s =>
    match Number.fieldInt s with
    | .value n => .valid n
    | .tooLong => .refuse .intParsingSize w
    | .malformed => .refuse .intParsing w
  | _ => .refuse .intType w

/-- A floating point number. An integer too large for one is refused as no number. -/
def number : Check Float := fun w =>
  match w with
  | .float x => .valid x
  | .int n =>
    let x := Number.ofInt n
    if x.isFinite then .valid x else .refuse .floatType w
  | .bool b => .valid (if b then 1 else 0)
  | .text s =>
    match Number.fieldFloat? s with
    | some x => .valid x
    | none => .refuse .floatParsing w
  | _ => .refuse .floatType w

/-- A text. -/
def text : Check String := fun w =>
  match w with
  | .text s => .valid s
  | _ => .refuse .stringType w

/-- Words for true, in lower case. -/
def trueWords : List String := ["1", "t", "true", "y", "yes", "on"]

/-- Words for false, in lower case. -/
def falseWords : List String := ["0", "f", "false", "n", "no", "off"]

/-- A truth value. -/
def truth : Check Bool := fun w =>
  let ofInt (n : Int) : Checked Bool :=
    if n = 0 then .valid false
    else if n = 1 then .valid true
    else if -wholeLimit ≤ n && n < wholeLimit then .refuse .boolParsing w
    else .refuse .boolType w
  match w with
  | .bool b => .valid b
  | .int n => ofInt n
  | .float x =>
    match Number.whole? x with
    | some n => if -wholeLimit < n && n < wholeLimit then ofInt n else .refuse .boolType w
    | none => .refuse .boolType w
  | .text s =>
    let word := s.toLower
    if trueWords.contains word then .valid true
    else if falseWords.contains word then .valid false
    else .refuse .boolParsing w
  | _ => .refuse .boolType w

/-- Null, or a value that satisfies a check. -/
def optional {α : Type} (check : Check α) : Check (Option α) := fun w =>
  match w with
  | .null => .valid none
  | _ => (check w).map some

/-- One of a few constant texts. -/
def oneOf (choices : List String) : Check String := fun w =>
  let refused : Checked String := .refuse (.literal (choices.map Text.Quoted.encode)) w
  match w with
  | .text s => if choices.contains s then .valid s else refused
  | _ => refused

/-- The constant true; the number one is as good. -/
def alwaysTrue : Check Unit := fun w =>
  match w with
  | .bool true => .valid ()
  | .int 1 => .valid ()
  | .float x => if x == 1 then .valid () else .refuse (.literal ["True"]) w
  | _ => .refuse (.literal ["True"]) w

/-- One of the named members of an enumeration. -/
def member {α : Type} (members : List (String × α)) : Check α := fun w =>
  let refused : Checked α :=
    .refuse (.enumeration (members.map fun m => Text.Quoted.encode m.1)) w
  match w with
  | .text s =>
    match Assoc.get? members s with
    | some a => .valid a
    | none => refused
  | _ => refused

/-- Checks of the items from an index on. -/
def items {α : Type} (check : Check α) : Nat → List Wire → Checked (List α)
  | _, [] => .valid []
  | i, w :: rest => (((check w).under (.item i)).map List.cons).ap (items check (i + 1) rest)

/-- A list whose items satisfy a check. -/
def listOf {α : Type} (check : Check α) : Check (List α) := fun w =>
  match w with
  | .list ws => items check 0 ws
  | _ => .refuse .listType w

/-- Checks of named values. -/
def values {α : Type} (check : Check α) : List (String × Wire) → Checked (List (String × α))
  | [] => .valid []
  | (k, w) :: rest =>
    (((check w).under (.field k)).map fun a more => (k, a) :: more).ap (values check rest)

/-- Named values that satisfy a check. -/
def dictOf {α : Type} (check : Check α) : Check (List (String × α)) := fun w =>
  match w with
  | .object fields => values check fields
  | _ => .refuse .dictType w

/-- Named values of any kind. -/
def dict : Check (List (String × Wire)) := fun w =>
  match w with
  | .object fields => .valid fields
  | _ => .refuse .dictType w

/-- The fields of an object under check. -/
structure Source where
  /-- The fields in order. -/
  fields : List (String × Wire)

/-- The object itself. -/
def Source.whole (o : Source) : Wire := .object o.fields

/-- A record given as an object; anything else is refused with `cause`. -/
def recordOr {α : Type} (cause : Cause) (check : Source → Checked α) : Check α := fun w =>
  match w with
  | .object fields => check ⟨fields⟩
  | _ => .refuse cause w

/-- A record of the given name. -/
def record {α : Type} (name : String) (check : Source → Checked α) : Check α :=
  recordOr (.modelType name) check

/-- The first of several names under which a field is present, with its value. -/
def Source.find? (o : Source) : List String → Option (String × Wire)
  | [] => none
  | name :: rest =>
    match Assoc.get? o.fields name with
    | some w => some (name, w)
    | none => o.find? rest

/-- A field that must be present, under one of its names; the first name wins and is the
one reported when the field is missing. -/
def Source.required {α : Type} (o : Source) (names : List String) (check : Check α) : Checked α :=
  match o.find? names with
  | some (name, w) => (check w).under (.field name)
  | none => (Checked.refuse .missing o.whole).under (.field (names.headD ""))

/-- A field that has a default. -/
def Source.withDefault {α : Type} (o : Source) (names : List String) (fallback : α)
    (check : Check α) : Checked α :=
  match o.find? names with
  | some (name, w) => (check w).under (.field name)
  | none => .valid fallback

/-- A check with a further condition on the accepted value. -/
def ensuring {α : Type} (check : Check α) (ok : α → Bool) (cause : Cause) : Check α := fun w =>
  (check w).ensure ok cause w

end ChartScript.Schema
