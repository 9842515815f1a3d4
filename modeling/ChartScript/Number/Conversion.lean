import ChartScript.Failure
import ChartScript.Number.Reading
/-!
# Conversion of data to numbers

The strict conversions behind timestamps, settings and number series: a text must be a
number text of the script dialect, a floating point number loses its fraction when it
becomes an integer, and every refusal has its own cause.
-/

namespace ChartScript.Number

/-- Why a value has no conversion. -/
inductive ConversionError where
  /-- A text that is no integer. -/
  | badInteger (text : String)
  /-- A text that is no floating point number. -/
  | badFloat (text : String)
  /-- A value of this kind is no integer. -/
  | notInteger (kind : String)
  /-- A value of this kind is no floating point number. -/
  | notFloat (kind : String)
  /-- NaN is no integer. -/
  | nanToInteger
  /-- An infinity is no integer. -/
  | infinityToInteger
  /-- An integer beyond the largest floating point number. -/
  | integerTooLarge
  deriving Repr, DecidableEq

/-- The kind of failure of a refused conversion. -/
def ConversionError.kind : ConversionError → FailureKind
  | badInteger _ => .value
  | badFloat _ => .value
  | notInteger _ => .type
  | notFloat _ => .type
  | nanToInteger => .value
  | infinityToInteger => .overflow
  | integerTooLarge => .overflow

/-- The wording of a refused conversion. -/
def ConversionError.message : ConversionError → String
  | badInteger t => "invalid literal for int() with base 10: " ++ Text.Quoted.encode t
  | badFloat t => "could not convert string to float: " ++ Text.Quoted.encode t
  | notInteger kind =>
    "int() argument must be a string, a bytes-like object or a real number, not '" ++ kind ++ "'"
  | notFloat kind => "float() argument must be a string or a real number, not '" ++ kind ++ "'"
  | nanToInteger => "cannot convert float NaN to integer"
  | infinityToInteger => "cannot convert float infinity to integer"
  | integerTooLarge => "int too large to convert to float"

/-- The failure of a refused conversion. -/
def ConversionError.failure (e : ConversionError) : Failure := ⟨e.kind, e.message⟩

/-- A floating point number as an integer, rounded toward zero. -/
def floatToInt (x : Float) : Except ConversionError Int :=
  match truncate? x with
  | some n => .ok n
  | none => .error (if x.isNaN then .nanToInteger else .infinityToInteger)

/-- A text as an integer. -/
def textToInt (s : String) : Except ConversionError Int :=
  match scriptInt? s with
  | some n => .ok n
  | none => .error (.badInteger s)

/-- A text as a floating point number. -/
def textToFloat (s : String) : Except ConversionError Float :=
  match scriptFloat? s with
  | some x => .ok x
  | none => .error (.badFloat s)

/-- An integer as the nearest floating point number. -/
def intToFloat (n : Int) : Except ConversionError Float :=
  let x := ofInt n
  if x.isFinite then .ok x else .error .integerTooLarge

/-- Travelled data as an integer. -/
def toInt : Wire → Except ConversionError Int
  | .int n => .ok n
  | .bool b => .ok (if b then 1 else 0)
  | .float x => floatToInt x
  | .text s => textToInt s
  | w => .error (.notInteger w.kindName)

/-- Travelled data as a floating point number. -/
def toFloat : Wire → Except ConversionError Float
  | .int n => intToFloat n
  | .bool b => .ok (if b then 1 else 0)
  | .float x => .ok x
  | .text s => textToFloat s
  | w => .error (.notFloat w.kindName)

end ChartScript.Number
