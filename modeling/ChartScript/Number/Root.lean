import ChartScript.Number.Binary64
/-!
# Square roots

The square root of an exact sum of squares, rounded once, and of a natural number.
-/

namespace ChartScript.Number

/-- The largest natural number whose square is at most `n`, by Newton's steps from above. -/
def rootBelow (n : Nat) : Nat → Nat → Nat
  | 0, x => x
  | fuel + 1, x =>
    let y := (x + n / x) / 2
    if y < x then rootBelow n fuel y else x

/-- The integer square root. -/
def natRoot (n : Nat) : Nat :=
  if n = 0 then 0 else rootBelow n (n.log2 + 2) (Nat.pow 2 (n.log2 / 2 + 1))

/-- The square root of `s · 4 ^ e`, rounded to the nearest number. -/
def rootOf (s : Nat) (e : Int) : Float :=
  let extra : Nat := 60
  let scaled := s * Nat.pow 4 extra
  let root := natRoot scaled
  let sticky := 2 * root + (if root * root = scaled then 0 else 1)
  let shift := e - extra - 1
  if 0 ≤ shift then ofRatio false (sticky * Nat.pow 2 shift.toNat) 1
  else ofRatio false sticky (Nat.pow 2 (-shift).toNat)

/-- The length of a vector, rounded once. -/
def hypotenuse (xs : List Float) : Float :=
  if xs.any Float.isInf then infinity
  else if xs.any Float.isNaN then nan
  else
    let parts := xs.filterMap Dyadic.ofFloat?
    let e := parts.foldl (fun acc d => min acc d.exponent) 0
    let s := parts.foldl (fun acc d => acc + Nat.pow (d.mantissa * Nat.pow 2 (d.exponent - e).toNat) 2) 0
    rootOf s e

end ChartScript.Number
