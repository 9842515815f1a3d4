import ChartScript.Number.Layout
import ChartScript.Script.Key
import ChartScript.Script.Syntax
import ChartScript.Text.Quoted
/-!
# Literals that are compared with

What a literal of a pattern stands for. A sign belongs to its number, and a number with an
imaginary part is complex. As a key of a pattern it stands for what it would be as a key of a
dictionary, and a report shows it as it is shown inside of other values.
-/

namespace ChartScript.Script

/-- An integer in digits, unless there are too many of them. -/
def intText? (i : Int) : Option String :=
  let s := toString i
  if i.natAbs < Nat.pow 10 4000 then some s
  else if maxDigits < s.length - (if i < 0 then 1 else 0) then none
  else some s

/-- The wording for an integer with too many digits to be written. -/
def unwritableText : String :=
  "Exceeds the limit (4300 digits) for integer string conversion; " ++
    "use sys.set_int_max_str_digits() to increase the limit"

/-- A part of a complex number: whole numbers have no point. -/
def complexPart (x : Float) : String :=
  let s := Number.display x
  if s.endsWith ".0" then (s.dropEnd 2).toString else s

/-- A complex number. -/
def complexText (re im : Float) : String :=
  let imag := complexPart im ++ "j"
  if re.toBits = 0 then imag
  else "(" ++ complexPart re ++ (if imag.startsWith "-" then imag else "+" ++ imag) ++ ")"

/-- What a literal stands for. -/
inductive Literal.Meaning where
  /-- A constant that is not complex. -/
  | constant (c : Constant)
  /-- A complex number. -/
  | complex (re im : Float)

namespace Literal

/-- What a constant stands for. -/
def Meaning.of : Constant → Meaning
  | .imaginary x => .complex 0 x
  | c => .constant c

/-- A number with its sign changed. -/
def Meaning.negated? : Meaning → Option Meaning
  | .constant (.int i) => some (.constant (.int (-i)))
  | .constant (.float x) => some (.constant (.float (-x)))
  | .constant _ => none
  | .complex re im => some (.complex (-re) (-im))

/-- The real part that a number is, unless it is too big for one. -/
def Meaning.real? : Meaning → Option Float
  | .constant (.int i) => some (Number.ofInt i) |>.filter Float.isFinite
  | .constant (.float x) => some x
  | _ => none

/-- What an expression stands for, if it is a literal. -/
def meaning? : Expr → Option Meaning
  | .constant _ c => some (.of c)
  | .unary _ .minus e => (meaning? e).bind Meaning.negated?
  | .binary _ a op b =>
    match (meaning? a).bind Meaning.real?, op, meaning? b with
    | some x, .add, some (.complex re im) => some (.complex (x + re) (0 + im))
    | some x, .sub, some (.complex re im) => some (.complex (x - re) (0 - im))
    | _, _, _ => none
  | _ => none

/-- What a literal is as a key. -/
def Meaning.key : Meaning → Key
  | .constant .none => .none
  | .constant (.bool b) => .ofBool b
  | .constant (.int i) => .int i
  | .constant (.float x) => .ofFloat x
  | .constant (.imaginary x) => .ofComplex 0 x
  | .constant (.text s) => .text s
  | .constant (.bytes bs) => .bytes bs
  | .constant .ellipsis => .named "Ellipsis"
  | .complex re im => .ofComplex re im

/-- A literal as it is shown, unless it is a number with too many digits. -/
def Meaning.text? : Meaning → Option String
  | .constant .none => some "None"
  | .constant (.bool b) => some (if b then "True" else "False")
  | .constant (.int i) => intText? i
  | .constant (.float x) => some (Number.display x)
  | .constant (.imaginary x) => some (complexText 0 x)
  | .constant (.text s) => some (Text.Quoted.encode s)
  | .constant (.bytes bs) => some (Text.Quoted.encodeBytes bs)
  | .constant .ellipsis => some "Ellipsis"
  | .complex re im => some (complexText re im)

end Literal

end ChartScript.Script
