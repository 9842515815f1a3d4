import ChartScript.Number.Root
import ChartScript.Script.Order
/-!
# Arithmetic

Operators on numbers. Integers are exact and of any size; a quotient of integers is
rounded once. The remainder has the sign of the divisor. A power of a negative number
with a fraction is complex.
-/

namespace ChartScript.Script

/-- The symbol of an operator. -/
def BinaryOp.symbol : BinaryOp → String
  | .add => "+"
  | .sub => "-"
  | .mul => "*"
  | .matMul => "@"
  | .div => "/"
  | .floorDiv => "//"
  | .mod => "%"
  | .pow => "**"
  | .shiftLeft => "<<"
  | .shiftRight => ">>"
  | .bitOr => "|"
  | .bitXor => "^"
  | .bitAnd => "&"

/-- The symbol of an operator as a report names it. -/
def BinaryOp.reported (op : BinaryOp) (inPlace : Bool) : String :=
  if inPlace then op.symbol ++ "=" else if op = .pow then "** or pow()" else op.symbol

/-- An operator that has no meaning for values of two types. -/
def unsupported (op : BinaryOp) (inPlace : Bool) (left right : String) : Raised :=
  .typeError ("unsupported operand type(s) for " ++ op.reported inPlace ++ ": '" ++ left ++ "' and '" ++
    right ++ "'")

namespace Arithmetic

open ChartScript.Number (Dyadic ofRatio isNegative nan infinity)

/-- The complement of a natural number as a negative integer. -/
def complement (n : Nat) : Int := -(n : Int) - 1

/-- The magnitude behind an integer: itself, or the number whose complement it is. -/
def bitsOf (i : Int) : Bool × Nat := if i < 0 then (true, (-i - 1).toNat) else (false, i.toNat)

/-- The bits of the first number that the second one lacks. -/
def without (m n : Nat) : Nat := m ^^^ (m &&& n)

/-- Bitwise and of integers of any sign. -/
def bitAnd (a b : Int) : Int :=
  match bitsOf a, bitsOf b with
  | (false, m), (false, n) => (m &&& n : Nat)
  | (true, m), (false, n) => (without n m : Nat)
  | (false, m), (true, n) => (without m n : Nat)
  | (true, m), (true, n) => complement (m ||| n)

/-- Bitwise or of integers of any sign. -/
def bitOr (a b : Int) : Int :=
  match bitsOf a, bitsOf b with
  | (false, m), (false, n) => (m ||| n : Nat)
  | (true, m), (false, n) => complement (without m n)
  | (false, m), (true, n) => complement (without n m)
  | (true, m), (true, n) => complement (m &&& n)

/-- Bitwise exclusive or of integers of any sign. -/
def bitXor (a b : Int) : Int :=
  match bitsOf a, bitsOf b with
  | (false, m), (false, n) => (m ^^^ n : Nat)
  | (true, m), (true, n) => (m ^^^ n : Nat)
  | (_, m), (_, n) => complement (m ^^^ n)

/-- A number with the sign bit of another one. -/
def withSign (magnitude sign : Float) : Float :=
  if isNegative magnitude = isNegative sign then magnitude else -magnitude

/-- The remainder of a division whose quotient is rounded toward zero, exactly. -/
def truncatedRemainder (x y : Float) : Float :=
  match Dyadic.ofFloat? x, Dyadic.ofFloat? y with
  | some a, some b =>
    if b.mantissa = 0 then nan
    else
      let e := min a.exponent b.exponent
      let m := a.mantissa * Nat.pow 2 (a.exponent - e).toNat
      let n := b.mantissa * Nat.pow 2 (b.exponent - e).toNat
      let r := m % n
      if 0 ≤ e then ofRatio a.negative (r * Nat.pow 2 e.toNat) 1 else ofRatio a.negative r (Nat.pow 2 (-e).toNat)
  | some _, none => if y.isNaN then nan else x
  | none, _ => nan

/-- The remainder with the sign of the divisor. -/
def remainder (x y : Float) : Float :=
  let r := truncatedRemainder x y
  if r == 0 then withSign 0 y
  else if (y < 0) != (r < 0) then r + y else r

/-- The quotient rounded down. -/
def floorQuotient (x y : Float) : Float :=
  let r := truncatedRemainder x y
  let q := (x - r) / y
  let q := if r != 0 && (y < 0) != (r < 0) then q - 1 else q
  if q == 0 then withSign 0 (x / y)
  else
    let f := q.floor
    if q - f > 0.5 then f + 1 else f

/-- A power of an integer with an integer as exponent that is not negative. -/
def intPower (base : Int) (exponent : Nat) : Int := Int.pow base exponent

/-- A power modulo a number, by repeated squaring. -/
def modularPower (base : Int) : Nat → Nat → Int → Int
  | 0, _, m => 1 % m
  | fuel + 1, e, m =>
    if e = 0 then 1 % m
    else
      let half := modularPower (base * base % m) fuel (e / 2) m
      if e % 2 = 1 then base * half % m else half

/-- A pair `(g, s)` with `g` the greatest common divisor of two numbers and
`s · a ≡ g` modulo the second one. -/
def inverseStep : Nat → Int → Int → Int → Int → Int × Int
  | 0, g, _, s, _ => (g, s)
  | fuel + 1, g, h, s, t =>
    if h = 0 then (g, s) else inverseStep fuel h (g % h) t (s - g / h * t)

/-- A power modulo a number, for any integers. The outcome has the sign of the modulus. -/
def powerMod (base exponent modulus : Int) : Except Raised Int :=
  if modulus = 0 then .error (.valueError "pow() 3rd argument cannot be 0")
  else
    let m : Int := modulus.natAbs
    let signed (r : Int) : Int := if modulus < 0 && r != 0 then r - m else r
    if 0 ≤ exponent then
      let e := exponent.toNat
      .ok (signed (modularPower (base % m) (e.log2 + 1) e m))
    else
      let start := base % m
      let (g, s) := inverseStep (2 * m.natAbs.log2 + 4) start m 1 0
      if g != 1 && m != 1 then .error (.valueError "base is not invertible for the given modulus")
      else
        let e := (-exponent).toNat
        .ok (signed (modularPower (s % m) (e.log2 + 1) e m))

/-- A negative power of zero. -/
def zeroPower : Raised := .zeroDivision "0.0 cannot be raised to a negative power"

/-- A number out of range. -/
def outOfRange : Raised := ⟨"OverflowError", [.int 34, .text "Numerical result out of range"]⟩

/-- A complex power. -/
def complexPower (a b c d : Float) : Except Raised Value :=
  if c == 0 && d == 0 then .ok (.complex 1 0)
  else if a == 0 && b == 0 then
    if d != 0 || c < 0 then .error (.zeroDivision "0.0 to a negative or complex power")
    else .ok (.complex 0 0)
  else
    let radius := ChartScript.Number.hypotenuse [a, b]
    let angle := Float.atan2 b a
    let length := Float.pow radius c
    let phase := angle * c
    let (length, phase) :=
      if d != 0 then (length * Float.exp (-(angle * d)), phase + d * Float.log radius)
      else (length, phase)
    .ok (.complex (length * Float.cos phase) (length * Float.sin phase))

/-- A power of floating point numbers. -/
def floatPower (x y : Float) : Except Raised Value :=
  if y == 0 || x == 1 then .ok (.float 1)
  else if x.isNaN then .ok (.float x)
  else if y.isNaN then .ok (.float y)
  else if x == 0 && y < 0 && y.isFinite then .error zeroPower
  else if x < 0 && x.isFinite && y.isFinite && y != y.floor then complexPower x 0 y 0
  else
    let r := Float.pow x y
    if r.isInf && x.isFinite && y.isFinite then .error outOfRange
    else .ok (.float r)

/-- An integer as a floating point number. -/
def toFloat (i : Int) : Except Raised Float :=
  let x := ChartScript.Number.ofInt i
  if x.isFinite then .ok x else .error (.overflow "int too large to convert to float")

/-- Operators on integers. -/
def onInts (op : BinaryOp) (a b : Int) : Except Raised Value :=
  match op with
  | .add => .ok (.int (a + b))
  | .sub => .ok (.int (a - b))
  | .mul => .ok (.int (a * b))
  | .div =>
    if b = 0 then .error (.zeroDivision "division by zero")
    else
      let x := ofRatio ((a < 0) != (b < 0)) a.natAbs b.natAbs
      if x.isFinite then .ok (.float x)
      else .error (.overflow "integer division result too large for a float")
  | .floorDiv =>
    if b = 0 then .error (.zeroDivision "integer division or modulo by zero")
    else .ok (.int (a.fdiv b))
  | .mod =>
    if b = 0 then .error (.zeroDivision "integer modulo by zero") else .ok (.int (a.fmod b))
  | .pow =>
    if 0 ≤ b then .ok (.int (intPower a b.toNat))
    else do
      let x ← toFloat a
      let y ← toFloat b
      floatPower x y
  | .shiftLeft =>
    if b < 0 then .error (.valueError "negative shift count")
    else .ok (.int (a * Int.pow 2 b.toNat))
  | .shiftRight =>
    if b < 0 then .error (.valueError "negative shift count")
    else if (a.natAbs.log2 : Int) < b then .ok (.int (if a < 0 then -1 else 0))
    else .ok (.int (a.fdiv (Int.pow 2 b.toNat)))
  | .bitOr => .ok (.int (bitOr a b))
  | .bitXor => .ok (.int (bitXor a b))
  | .bitAnd => .ok (.int (bitAnd a b))
  | .matMul => .error (unsupported op false "int" "int")

/-- Operators on floating point numbers. -/
def onFloats? (op : BinaryOp) (x y : Float) : Option (Except Raised Value) :=
  match op with
  | .add => some (.ok (.float (x + y)))
  | .sub => some (.ok (.float (x - y)))
  | .mul => some (.ok (.float (x * y)))
  | .div =>
    some (if y == 0 then .error (.zeroDivision "float division by zero") else .ok (.float (x / y)))
  | .floorDiv =>
    some (if y == 0 then .error (.zeroDivision "float floor division by zero")
      else .ok (.float (floorQuotient x y)))
  | .mod =>
    some (if y == 0 then .error (.zeroDivision "float modulo") else .ok (.float (remainder x y)))
  | .pow => some (floatPower x y)
  | _ => none

/-- Operators on complex numbers. -/
def onComplex? (op : BinaryOp) (a b c d : Float) : Option (Except Raised Value) :=
  match op with
  | .add => some (.ok (.complex (a + c) (b + d)))
  | .sub => some (.ok (.complex (a - c) (b - d)))
  | .mul => some (.ok (.complex (a * c - b * d) (a * d + b * c)))
  | .div =>
    some (
      if c == 0 && d == 0 then .error (.zeroDivision "complex division by zero")
      else if c.abs >= d.abs then
        let ratio := d / c
        let den := c + d * ratio
        .ok (.complex ((a + b * ratio) / den) ((b - a * ratio) / den))
      else
        let ratio := c / d
        let den := c * ratio + d
        .ok (.complex ((a * ratio + b) / den) ((b * ratio - a) / den)))
  | .pow => some (complexPower a b c d)
  | _ => none

/-- The parts of a value as a complex number. -/
def complexParts? : Value → Option (Except Raised (Float × Float))
  | .complex re im => some (.ok (re, im))
  | v =>
    match numberOf? v with
    | some (.int i) => some ((toFloat i).map fun x => (x, 0))
    | some (.float x) => some (.ok (x, 0))
    | none => none

/-- An operator on two values, if both are numbers and it has a meaning for them. -/
def onNumbers? (op : BinaryOp) (v w : Value) : Option (Except Raised Value) :=
  match v, w with
  | .bool a, .bool b =>
    match op with
    | .bitAnd => some (.ok (.bool (a && b)))
    | .bitOr => some (.ok (.bool (a || b)))
    | .bitXor => some (.ok (.bool (a != b)))
    | .matMul => none
    | _ => some (onInts op (if a then 1 else 0) (if b then 1 else 0))
  | _, _ =>
    match numberOf? v, numberOf? w with
    | some (.int a), some (.int b) => if op = .matMul then none else some (onInts op a b)
    | some m, some n =>
      let asFloat : Number.Form → Except Raised Float
        | .int i => toFloat i
        | .float x => .ok x
      if (onFloats? op 1 1).isNone then none
      else
        some (do
          let x ← asFloat m
          let y ← asFloat n
          (onFloats? op x y).getD (.ok .none))
    | _, _ =>
      match complexParts? v, complexParts? w with
      | some p, some q =>
        if (onComplex? op 1 1 1 1).isNone then none
        else
          some (do
            let (a, b) ← p
            let (c, d) ← q
            (onComplex? op a b c d).getD (.ok .none))
      | _, _ => none

/-- An operator before a number. -/
def unary (h : Heap) (op : UnaryOp) (v : Value) : Except Raised Value :=
  let refuse (symbol : String) : Except Raised Value :=
    .error (.typeError ("bad operand type for unary " ++ symbol ++ ": '" ++ h.typeName v ++ "'"))
  match op with
  | .not => .ok (.bool (!h.truthy v))
  | .invert =>
    match intOf? v with
    | some i => .ok (.int (-i - 1))
    | none => refuse "~"
  | .plus =>
    match v, numberOf? v with
    | .complex _ _, _ => .ok v
    | _, some (.int i) => .ok (.int i)
    | _, some (.float x) => .ok (.float x)
    | _, none => refuse "+"
  | .minus =>
    match v, numberOf? v with
    | .complex re im, _ => .ok (.complex (-re) (-im))
    | _, some (.int i) => .ok (.int (-i))
    | _, some (.float x) => .ok (.float (-x))
    | _, none => refuse "-"

/-- Quotient rounded down and remainder together. -/
def divmod (h : Heap) (v w : Value) : Except Raised Value :=
  match numberOf? v, numberOf? w with
  | some (.int a), some (.int b) =>
    if b = 0 then .error (.zeroDivision "integer division or modulo by zero")
    else .ok (.tuple [.int (a.fdiv b), .int (a.fmod b)])
  | some m, some n => do
    let asFloat : Number.Form → Except Raised Float
      | .int i => toFloat i
      | .float x => .ok x
    let x ← asFloat m
    let y ← asFloat n
    if y == 0 then throw (.zeroDivision "float divmod()")
    return .tuple [.float (floorQuotient x y), .float (remainder x y)]
  | _, _ =>
    .error (.typeError ("unsupported operand type(s) for divmod(): '" ++ h.typeName v ++ "' and '" ++
      h.typeName w ++ "'"))

end Arithmetic

end ChartScript.Script
