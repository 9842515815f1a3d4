import ChartScript.Number.Rounding
/-!
# Binary floating point numbers as exact fractions

A finite number is read as `mantissa · 2 ^ exponent`, and a fraction is rounded to the
nearest number, ties to the even mantissa, so that conversions between decimal texts,
integers and floating point numbers are exact arithmetic on natural numbers.
-/

namespace ChartScript.Number

/-- A finite number as sign, integer mantissa and binary exponent. -/
structure Dyadic where
  /-- Whether the sign bit is set; also for zero. -/
  negative : Bool
  /-- The integer mantissa, below `2 ^ 53`. -/
  mantissa : Nat
  /-- The exponent of two that the mantissa is scaled by. -/
  exponent : Int
  deriving Repr, DecidableEq

/-- Sign, mantissa and exponent of a finite number; nothing for infinities and NaN. -/
def Dyadic.ofFloat? (x : Float) : Option Dyadic :=
  let bits := x.toBits.toNat
  let negative := bits / Nat.pow 2 63 = 1
  let biased : Nat := bits / Nat.pow 2 52 % 2048
  let fraction := bits % Nat.pow 2 52
  if biased = 2047 then none
  else if biased = 0 then some ⟨negative, fraction, -1074⟩
  else some ⟨negative, fraction + Nat.pow 2 52, (biased : Int) - 1075⟩

/-- Numerator and denominator of the magnitude. -/
def Dyadic.ratio (d : Dyadic) : Nat × Nat :=
  if 0 ≤ d.exponent then (d.mantissa * Nat.pow 2 d.exponent.toNat, 1)
  else (d.mantissa, Nat.pow 2 (-d.exponent).toNat)

/-- The number with the given sign bit and magnitude bits. -/
def ofMagnitudeBits (negative : Bool) (bits : Nat) : Float :=
  Float.ofBits (UInt64.ofNat (if negative then bits + Nat.pow 2 63 else bits))

/-- The number nearest to `num / den`, ties to the even mantissa; too large magnitudes
become infinite. -/
def ofRatio (negative : Bool) (num den : Nat) : Float :=
  if num = 0 then ofMagnitudeBits negative 0
  else
    let guess : Int := (num.log2 : Int) - den.log2
    let atLeast : Bool :=
      if 0 ≤ guess then den * Nat.pow 2 guess.toNat ≤ num else den ≤ num * Nat.pow 2 (-guess).toNat
    let binary := if atLeast then guess else guess - 1
    let unit := max (binary - 52) (-1074)
    let mantissa :=
      if 0 ≤ unit then roundDiv num (den * Nat.pow 2 unit.toNat)
      else roundDiv (num * Nat.pow 2 (-unit).toNat) den
    if mantissa < Nat.pow 2 52 then ofMagnitudeBits negative mantissa
    else
      let carried := mantissa = Nat.pow 2 53
      let biased := unit + 1075 + (if carried then 1 else 0)
      if 2047 ≤ biased then ofMagnitudeBits negative (2047 * Nat.pow 2 52)
      else
        ofMagnitudeBits negative
          (biased.toNat * Nat.pow 2 52 + (if carried then 0 else mantissa - Nat.pow 2 52))

/-- The number nearest to an integer. -/
def ofInt (n : Int) : Float := ofRatio (n < 0) n.natAbs 1

/-- The number nearest to `digits · 10 ^ exponent`. The magnitude is decided at once when
the exponent alone puts it out of range. -/
def ofDecimal (negative : Bool) (digits : Nat) (exponent : Int) : Float :=
  if digits = 0 then ofMagnitudeBits negative 0
  else
    let size := ((digitsOf digits).length : Int) + exponent
    if 310 < size then ofMagnitudeBits negative (2047 * Nat.pow 2 52)
    else if size < -330 then ofMagnitudeBits negative 0
    else
      let (num, den) := scaleTen digits 1 exponent
      ofRatio negative num den

/-- Positive infinity. -/
def infinity : Float := ofMagnitudeBits false (2047 * Nat.pow 2 52)

/-- Negative infinity. -/
def negInfinity : Float := ofMagnitudeBits true (2047 * Nat.pow 2 52)

/-- A quiet NaN. -/
def nan : Float := ofMagnitudeBits false (2047 * Nat.pow 2 52 + Nat.pow 2 51)

/-- Whether the sign bit is set. -/
def isNegative (x : Float) : Bool := x.toBits.toNat / Nat.pow 2 63 = 1

/-- The integer part of a finite number, rounded toward zero. -/
def truncate? (x : Float) : Option Int :=
  (Dyadic.ofFloat? x).map fun d =>
    let (num, den) := d.ratio
    let n : Int := (num / den : Nat)
    if d.negative then -n else n

/-- The integer that a finite number equals, if it is whole. -/
def whole? (x : Float) : Option Int :=
  (Dyadic.ofFloat? x).bind fun d =>
    let (num, den) := d.ratio
    if num % den = 0 then
      let n : Int := (num / den : Nat)
      some (if d.negative then -n else n)
    else none

end ChartScript.Number
