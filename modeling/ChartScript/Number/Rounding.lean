/-!
# Rounding of quotients

A quotient of natural numbers rounded to the nearest integer, ties to the even
neighbour, and the position of the leading decimal digit of a quotient.
-/

namespace ChartScript.Number

/-- The quotient rounded to the nearest integer; an exact half goes to the even one. -/
def roundDiv (num den : Nat) : Nat :=
  let q := num / den
  let twice := 2 * (num % den)
  if twice < den then q
  else if den < twice then q + 1
  else if q % 2 = 0 then q else q + 1

/-- Numerator and denominator of `num / den · 10 ^ shift`. -/
def scaleTen (num den : Nat) (shift : Int) : Nat × Nat :=
  if 0 ≤ shift then (num * Nat.pow 10 shift.toNat, den) else (num, den * Nat.pow 10 (-shift).toNat)

/-- The decimal digits of a number, most significant first; zero has one digit. -/
def digitsOf (n : Nat) : List Char := (Nat.repr n).toList

/-- Smallest `j` from `start` on with `den ≤ num · 10 ^ j`, at most `fuel` steps away. -/
def leadingBelow (num den : Nat) : Nat → Nat → Nat
  | 0, j => j
  | fuel + 1, j => if den ≤ num * Nat.pow 10 j then j else leadingBelow num den fuel (j + 1)

/-- The decimal exponent of a positive quotient: the `k` with `10 ^ k ≤ num / den < 10 ^ (k + 1)`. -/
def decimalExponent (num den : Nat) : Int :=
  if den ≤ num then ((digitsOf (num / den)).length : Int) - 1
  else
    let gap := den.log2 - num.log2
    Int.negOfNat (leadingBelow num den 400 (gap * 3 / 10 - 1))

end ChartScript.Number
