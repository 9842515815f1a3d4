import ChartScript.Number.Binary64
/-!
# Shortest decimals

The shortest decimal that reads back as a given finite number. For one, two, up to
seventeen digits the two neighbours of the value on that decimal grid are tested
against the interval of reals that round to the number; the first grid with a hit wins,
of two hits the nearer, and an exact tie goes to the even digit.
-/

namespace ChartScript.Number

/-- A positive decimal `digits · 10 ^ exponent`. -/
structure Decimal where
  /-- The integer whose digits are written. -/
  digits : Nat
  /-- The power of ten it is scaled by. -/
  exponent : Int
  deriving Repr, DecidableEq

/-- The interval of reals that round to a positive number, as multiples of
`2 ^ (exponent - 2)`; the ends belong to it iff the mantissa is even. -/
def Dyadic.interval (d : Dyadic) : Nat × Nat :=
  let below := if d.mantissa = Nat.pow 2 52 && -1074 < d.exponent then 1 else 2
  (4 * d.mantissa - below, 4 * d.mantissa + 2)

/-- Whether the decimal `c · 10 ^ unit` rounds to the number. -/
def Dyadic.admits (d : Dyadic) (c : Nat) (unit : Int) : Bool :=
  let (low, high) := d.interval
  let quarter := d.exponent - 2
  let ten := if 0 ≤ unit then (Nat.pow 10 unit.toNat, 1) else (1, Nat.pow 10 (-unit).toNat)
  let two := if 0 ≤ quarter then (Nat.pow 2 quarter.toNat, 1) else (1, Nat.pow 2 (-quarter).toNat)
  let value := c * ten.1 * two.2
  let lowEnd := low * two.1 * ten.2
  let highEnd := high * two.1 * ten.2
  if d.mantissa % 2 = 0 then lowEnd ≤ value && value ≤ highEnd
  else lowEnd < value && value < highEnd

/-- The neighbour of the value on the grid of `unit` that rounds to the number, the
nearer one if both do. -/
def Dyadic.onGrid? (d : Dyadic) (unit : Int) : Option Nat :=
  let (num, den) := d.ratio
  let (num, den) := scaleTen num den (-unit)
  let low := num / den
  let lowHit := 0 < low && d.admits low unit
  let highHit := d.admits (low + 1) unit
  if lowHit && highHit then some (roundDiv num den)
  else if lowHit then some low
  else if highHit then some (low + 1)
  else none

/-- The first grid with a hit, from `count` digits on. -/
def Dyadic.searchGrids (d : Dyadic) (leading : Int) : Nat → Nat → Decimal
  | 0, count => ⟨0, leading - count⟩
  | fuel + 1, count =>
    let unit := leading - count + 1
    match d.onGrid? unit with
    | some c => ⟨c, unit⟩
    | none => d.searchGrids leading fuel (count + 1)

/-- A decimal without trailing zeros of the same value; `fuel` bounds their number. -/
def Decimal.strip : Nat → Decimal → Decimal
  | 0, d => d
  | fuel + 1, d =>
    if d.digits ≠ 0 && d.digits % 10 = 0 then Decimal.strip fuel ⟨d.digits / 10, d.exponent + 1⟩
    else d

/-- The shortest decimal that reads back as the positive number. -/
def Dyadic.shortest (d : Dyadic) : Decimal :=
  let (num, den) := d.ratio
  (d.searchGrids (decimalExponent num den) 18 1).strip 20

end ChartScript.Number
