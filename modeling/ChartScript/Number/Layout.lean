import ChartScript.Number.Shortest
/-!
# Layouts of numbers

Texts of floating point numbers: the default text with the fewest digits that read
back, fixed places, scientific notation and the general layout that chooses between
the two. Rounding is exact on the value of the number, ties to even.
-/

namespace ChartScript.Number

/-- The default text: positional while the decimal exponent is at least `lowest` and
below `highest`, otherwise scientific. -/
structure TextStyle where
  /-- Smallest decimal exponent written positionally. -/
  lowest : Int
  /-- Smallest decimal exponent that is too large for positional notation. -/
  highest : Int
  /-- Whether a whole number keeps a point and one zero. -/
  keepZero : Bool
  /-- Least number of digits of a written exponent. -/
  exponentWidth : Nat

/-- Numbers are shown positionally from `0.0001` up to sixteen digits and always with a point. -/
def defaultStyle : TextStyle := ⟨-4, 16, true, 2⟩

/-- A number as digits, at least `width` of them. -/
def padded (width n : Nat) : List Char :=
  let ds := digitsOf n
  List.replicate (width - ds.length) '0' ++ ds

/-- The exponent mark with its sign and at least `width` digits. -/
def exponentText (width : Nat) (k : Int) : List Char :=
  (if k < 0 then 'e' :: '-' :: [] else ['e', '+']) ++ padded width k.natAbs

/-- The digits `ds` with the point after the first `point` of them; zeros fill both sides. -/
def placePoint (ds : List Char) (point : Int) : List Char × List Char :=
  if point ≤ 0 then (['0'], List.replicate (-point).toNat '0' ++ ds)
  else
    let n := point.toNat
    (ds.take n ++ List.replicate (n - ds.length) '0', ds.drop n)

/-- A positive decimal in a style. -/
def Decimal.text (style : TextStyle) (d : Decimal) : List Char :=
  let ds := digitsOf d.digits
  let k := (ds.length : Int) + d.exponent - 1
  if style.lowest ≤ k && k < style.highest then
    let (left, right) := placePoint ds (k + 1)
    if right.isEmpty then (if style.keepZero then left ++ ['.', '0'] else left)
    else left ++ '.' :: right
  else
    match ds with
    | [c] => c :: exponentText style.exponentWidth k
    | c :: rest => c :: '.' :: rest ++ exponentText style.exponentWidth k
    | [] => []

/-- The word for an infinity or NaN, without sign. -/
def specialWord (x : Float) : List Char :=
  if x.isNaN then ['n', 'a', 'n'] else ['i', 'n', 'f']

/-- The sign in front of a number; NaN has none. -/
def signText (x : Float) : List Char :=
  if !x.isNaN && isNegative x then ['-'] else []

/-- The default text of a number. -/
def display (x : Float) : String :=
  String.ofList <| signText x ++
    match Dyadic.ofFloat? x with
    | none => specialWord x
    | some d =>
      if d.mantissa = 0 then ['0', '.', '0'] else d.shortest.text defaultStyle

/-- The magnitude in scientific notation: leading digit, the digits after the point and
the exponent, rounded to `places` digits after the point. -/
def Dyadic.scientific (d : Dyadic) (places : Nat) : List Char × Int :=
  if d.mantissa = 0 then (List.replicate (places + 1) '0', 0)
  else
    let (num, den) := d.ratio
    let k := decimalExponent num den
    let (num, den) := scaleTen num den ((places : Int) - k)
    let rounded := roundDiv num den
    if Nat.pow 10 (places + 1) ≤ rounded then (digitsOf (rounded / 10), k + 1)
    else (digitsOf rounded, k)

/-- The magnitude as an integer number of units `10 ^ -places`, rounded. -/
def Dyadic.fixedUnits (d : Dyadic) (places : Int) : Nat :=
  let (num, den) := d.ratio
  let (num, den) := scaleTen num den places
  roundDiv num den

/-- The magnitude with a fixed number of places. -/
def Dyadic.fixed (d : Dyadic) (places : Nat) (point : Bool) : List Char :=
  let ds := padded (places + 1) (d.fixedUnits places)
  let left := ds.take (ds.length - places)
  let right := ds.drop (ds.length - places)
  if right.isEmpty then (if point then left ++ ['.'] else left) else left ++ '.' :: right

/-- The magnitude in scientific layout. -/
def Dyadic.scientificText (d : Dyadic) (places : Nat) (point : Bool) : List Char :=
  let (ds, k) := d.scientific places
  let head := ds.take 1
  let tail := ds.drop 1
  head ++ (if tail.isEmpty then (if point then ['.'] else []) else '.' :: tail) ++
    exponentText 2 k

/-- Digits without the zeros at their end. -/
def dropTrailingZeros (ds : List Char) : List Char :=
  (ds.reverse.dropWhile (· = '0')).reverse

/-- The magnitude in general layout with `precision` significant digits: positional while
the exponent is at least `-4` and below the limit, trailing zeros dropped unless kept. -/
def Dyadic.general (d : Dyadic) (precision : Nat) (limit : Int) (keepZeros keepPoint : Bool) :
    List Char :=
  let p := max precision 1
  let (ds, k) := d.scientific (p - 1)
  let kept := if keepZeros then ds else dropTrailingZeros ds
  let kept := if kept.isEmpty then ['0'] else kept
  if -4 ≤ k && k < limit then
    let (left, right) := placePoint kept (k + 1)
    if right.isEmpty then
      (if keepPoint then left ++ ['.', '0'] else if keepZeros then left ++ ['.'] else left)
    else left ++ '.' :: right
  else
    let head := kept.take 1
    let tail := kept.drop 1
    head ++ (if tail.isEmpty then (if keepZeros then ['.'] else []) else '.' :: tail) ++
      exponentText 2 k

/-- The number rounded to `places` decimal places, or to tens, hundreds and so on for a
negative count: the exact value is rounded, ties to even, and read back. -/
def roundTo (x : Float) (places : Int) : Float :=
  match Dyadic.ofFloat? x with
  | none => x
  | some d => ofDecimal d.negative (d.fixedUnits places) (-places)

/-- Ten significant digits in scientific notation, as numbers are reported. -/
def reportText (x : Float) : String :=
  match Dyadic.ofFloat? x with
  | none => String.ofList (signText x ++ specialWord x)
  | some d =>
    if d.mantissa = 0 then "0"
    else String.ofList (signText x ++ d.scientificText 9 false)

end ChartScript.Number
