import ChartScript.Number.Binary64
/-!
# Numbers an indicator computes with

The operations that the indicator kernels need of a number. The program computes with
floating point numbers; the kernels are written for any such number type, with one
value that stands for a missing number.
-/

namespace ChartScript.Indicator

/-- A number type with a missing value. -/
class Scalar (α : Type) extends Add α, Sub α, Mul α, Div α where
  /-- The number of an integer. -/
  ofInt : Int → α
  /-- The square root. -/
  sqrt : α → α
  /-- The missing number. -/
  missing : α
  /-- Whether a number is missing. -/
  isMissing : α → Bool
  /-- Whether a number is neither missing nor infinite. -/
  isFinite : α → Bool
  /-- Whether one number is below another; never so for missing ones. -/
  below : α → α → Bool
  /-- Whether a number is zero. -/
  isZero : α → Bool
  /-- Whether two numbers are equal; never so for missing ones. -/
  same : α → α → Bool

instance : Scalar Float where
  ofInt := Number.ofInt
  sqrt := Float.sqrt
  missing := Number.nan
  isMissing := Float.isNaN
  isFinite := Float.isFinite
  below x y := x < y
  isZero x := x == 0
  same x y := x == y

variable {α : Type} [Scalar α]

/-- The sum of a list, from the left. -/
def total : List α → α
  | [] => Scalar.ofInt 0
  | x :: rest => rest.foldl (· + ·) x

end ChartScript.Indicator
