import ChartScript.Wire.Value
/-!
# Violations of a record's rules

What can be wrong with a value that should become a record field, where it is wrong and
how that is worded. A check collects every violation in field order instead of stopping
at the first one.
-/

namespace ChartScript.Schema

/-- One step on the way from a record to the value at fault. -/
inductive Step where
  /-- Into a field. -/
  | field (name : String)
  /-- Into an item of a list. -/
  | item (index : Nat)
  deriving Repr, DecidableEq

/-- The text of a step. -/
def Step.text : Step → String
  | .field name => name
  | .item index => toString index

/-- Why a value is refused. -/
inductive Cause where
  /-- A field without default is absent. -/
  | missing
  /-- No integer and nothing that could be read as one. -/
  | intType
  /-- A text that is no integer. -/
  | intParsing
  /-- An integer text or number beyond the largest size. -/
  | intParsingSize
  /-- A number with a fraction where an integer is due. -/
  | intFromFloat
  /-- An infinity or NaN where an integer is due. -/
  | finiteNumber
  /-- No number and nothing that could be read as one. -/
  | floatType
  /-- A text that is no number. -/
  | floatParsing
  /-- No text. -/
  | stringType
  /-- Nothing that could be read as a truth value. -/
  | boolType
  /-- A text or number that denotes no truth value. -/
  | boolParsing
  /-- None of the admitted constants, which are given in quoted form. -/
  | literal (expected : List String)
  /-- None of the names of an enumeration, which are given in quoted form. -/
  | enumeration (expected : List String)
  /-- No list. -/
  | listType
  /-- No object where named values are due. -/
  | dictType
  /-- No object where a record is due. -/
  | modelType (name : String)
  /-- No object where the body of a request is due. -/
  | modelAttributes
  /-- A number that is not above a bound. -/
  | greaterThan (bound : Int)
  /-- A number above a bound. -/
  | lessThanEqual (bound : Int)
  /-- A text that is too short. -/
  | tooShort (least : Nat)
  /-- An assignment to an unchangeable record. -/
  | frozen
  /-- A request body that is no JSON. -/
  | jsonInvalid (why : String)
  deriving Repr, DecidableEq

/-- Alternatives in prose: commas, and a last `or`. -/
def alternatives : List String → String
  | [] => ""
  | [a] => a
  | [a, b] => a ++ " or " ++ b
  | a :: rest => a ++ ", " ++ alternatives rest

/-- The tag of a cause. -/
def Cause.tag : Cause → String
  | .missing => "missing"
  | .intType => "int_type"
  | .intParsing => "int_parsing"
  | .intParsingSize => "int_parsing_size"
  | .intFromFloat => "int_from_float"
  | .finiteNumber => "finite_number"
  | .floatType => "float_type"
  | .floatParsing => "float_parsing"
  | .stringType => "string_type"
  | .boolType => "bool_type"
  | .boolParsing => "bool_parsing"
  | .literal _ => "literal_error"
  | .enumeration _ => "enum"
  | .listType => "list_type"
  | .dictType => "dict_type"
  | .modelType _ => "model_type"
  | .modelAttributes => "model_attributes_type"
  | .greaterThan _ => "greater_than"
  | .lessThanEqual _ => "less_than_equal"
  | .tooShort _ => "string_too_short"
  | .frozen => "frozen_instance"
  | .jsonInvalid _ => "json_invalid"

/-- The wording of a cause. -/
def Cause.message : Cause → String
  | .missing => "Field required"
  | .intType => "Input should be a valid integer"
  | .intParsing => "Input should be a valid integer, unable to parse string as an integer"
  | .intParsingSize => "Unable to parse input string as an integer, exceeded maximum size"
  | .intFromFloat => "Input should be a valid integer, got a number with a fractional part"
  | .finiteNumber => "Input should be a finite number"
  | .floatType => "Input should be a valid number"
  | .floatParsing => "Input should be a valid number, unable to parse string as a number"
  | .stringType => "Input should be a valid string"
  | .boolType => "Input should be a valid boolean"
  | .boolParsing => "Input should be a valid boolean, unable to interpret input"
  | .literal expected => "Input should be " ++ alternatives expected
  | .enumeration expected => "Input should be " ++ alternatives expected
  | .listType => "Input should be a valid list"
  | .dictType => "Input should be a valid dictionary"
  | .modelType name => "Input should be a valid dictionary or instance of " ++ name
  | .modelAttributes => "Input should be a valid dictionary or object to extract fields from"
  | .greaterThan bound => "Input should be greater than " ++ toString bound
  | .lessThanEqual bound => "Input should be less than or equal to " ++ toString bound
  | .tooShort least =>
    "String should have at least " ++ toString least ++
      (if least = 1 then " character" else " characters")
  | .frozen => "Instance is frozen"
  | .jsonInvalid _ => "JSON decode error"

/-- The bounds and alternatives of a cause as data. -/
def Cause.context : Cause → List (String × Wire)
  | .literal expected => [("expected", .text (alternatives expected))]
  | .enumeration expected => [("expected", .text (alternatives expected))]
  | .modelType name => [("class_name", .text name)]
  | .greaterThan bound => [("gt", .int bound)]
  | .lessThanEqual bound => [("le", .int bound)]
  | .tooShort least => [("min_length", .int least)]
  | .jsonInvalid why => [("error", .text why)]
  | _ => []

/-- A refused value, with the way to it. -/
structure Violation where
  /-- The way from the record to the value. -/
  path : List Step
  /-- Why it is refused. -/
  cause : Cause
  /-- The value itself; for a missing field the object that lacks it. -/
  input : Wire

/-- The way to the value as text. -/
def Violation.place (v : Violation) : String := Wire.joinWith "." (v.path.map Step.text)

/-- One violation as text: place, tag and wording. -/
def Violation.text (v : Violation) : String :=
  v.place ++ "|" ++ v.cause.tag ++ "|" ++ v.cause.message

/-- The result of a check. -/
inductive Checked (α : Type) where
  /-- The value is accepted in this form. -/
  | valid (value : α)
  /-- The value is refused for these reasons. -/
  | invalid (violations : List Violation)

namespace Checked

variable {α β : Type}

/-- Changes an accepted value. -/
def map (f : α → β) : Checked α → Checked β
  | valid a => valid (f a)
  | invalid vs => invalid vs

/-- Applies a checked function to a checked value; violations of both are kept in order. -/
def ap : Checked (α → β) → Checked α → Checked β
  | valid f, valid a => valid (f a)
  | valid _, invalid vs => invalid vs
  | invalid vs, valid _ => invalid vs
  | invalid vs, invalid ws => invalid (vs ++ ws)

instance : Applicative Checked where
  pure := valid
  map := map
  seq f a := ap f (a ())

/-- A single violation right here. -/
def refuse (cause : Cause) (input : Wire) : Checked α := invalid [⟨[], cause, input⟩]

/-- Puts a step in front of the way of every violation. -/
def under (step : Step) : Checked α → Checked α
  | valid a => valid a
  | invalid vs => invalid (vs.map fun v => { v with path := step :: v.path })

/-- Refuses an accepted value for which a condition fails. -/
def ensure (ok : α → Bool) (cause : Cause) (input : Wire) : Checked α → Checked α
  | valid a => if ok a then valid a else refuse cause input
  | invalid vs => invalid vs

/-- The value or the violations. -/
def toExcept : Checked α → Except (List Violation) α
  | valid a => .ok a
  | invalid vs => .error vs

/-- The accepted value. -/
def value? : Checked α → Option α
  | valid a => some a
  | invalid _ => none

end Checked

/-- All violations in one text. -/
def describe (vs : List Violation) : String := Wire.joinWith "; " (vs.map Violation.text)

end ChartScript.Schema
