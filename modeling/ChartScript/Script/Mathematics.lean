import ChartScript.Script.Method.Container
/-!
# The module of mathematics

Functions of real numbers with their domains, exact functions of integers, and constants.
A result that is no number for a number is a domain error, and an infinite one for a
finite number is a range error where the function grows without bound.
-/

namespace ChartScript.Script.Mathematics

/-- The constants. -/
def constant? : String → Option Value
  | "pi" => some (.float (Float.ofBits 0x400921FB54442D18))
  | "e" => some (.float (Float.ofBits 0x4005BF0A8B145769))
  | "tau" => some (.float (Float.ofBits 0x401921FB54442D18))
  | "inf" => some (.float ChartScript.Number.infinity)
  | "nan" => some (.float ChartScript.Number.nan)
  | _ => none

/-- A number outside of the domain of a function. -/
def domainError : Raised := .valueError "math domain error"

/-- A result that is too large. -/
def rangeError : Raised := .overflow "math range error"

/-- The real number that a value is. -/
def real (h : Heap) (v : Value) : Except Raised Float :=
  match numberOf? v with
  | some (.float x) => .ok x
  | some (.int i) => Arithmetic.toFloat i
  | none => .error (.typeError ("must be real number, not " ++ h.typeName v))

/-- The result of a function at a number, checked. -/
def checked (grows : Bool) (x r : Float) : Except Raised Value :=
  if r.isNaN && !x.isNaN then .error domainError
  else if r.isInf && x.isFinite then .error (if grows then rangeError else domainError)
  else .ok (.float r)

/-- The exponential less one, exact near zero. -/
def expLessOne (x : Float) : Float :=
  if x.abs < 0.00001 then x + x * x / 2 + x * x * x / 6
  else Float.exp x - 1

/-- The logarithm of one more than a number, exact near zero. -/
def logOneMore (x : Float) : Float :=
  if x.abs < 0.00001 then x - x * x / 2 + x * x * x / 3
  else Float.log (1 + x)

/-- Half of a turn. -/
def pi : Float := Float.ofBits 0x400921FB54442D18

/-- Functions of one real number with a flag for those that grow without bound. -/
def realFunction? : String → Option (Bool × (Float → Float))
  | "acos" => some (false, Float.acos)
  | "acosh" => some (false, Float.acosh)
  | "asin" => some (false, Float.asin)
  | "asinh" => some (false, Float.asinh)
  | "atan" => some (false, Float.atan)
  | "atanh" => some (false, Float.atanh)
  | "cbrt" => some (false, Float.cbrt)
  | "cos" => some (false, Float.cos)
  | "cosh" => some (true, Float.cosh)
  | "exp" => some (true, Float.exp)
  | "exp2" => some (true, Float.exp2)
  | "expm1" => some (true, expLessOne)
  | "fabs" => some (false, Float.abs)
  | "log1p" => some (false, logOneMore)
  | "sin" => some (false, Float.sin)
  | "sinh" => some (true, Float.sinh)
  | "sqrt" => some (false, Float.sqrt)
  | "tan" => some (false, Float.tan)
  | "tanh" => some (false, Float.tanh)
  | "degrees" => some (false, fun x => x * (180 / pi))
  | "radians" => some (false, fun x => x * (pi / 180))
  | _ => none

/-- Tests of one real number. -/
def test? : String → Option (Float → Bool)
  | "isfinite" => some Float.isFinite
  | "isinf" => some Float.isInf
  | "isnan" => some Float.isNaN
  | _ => none

/-- A floating point number rounded to an integer. -/
def wholeOf (round : Float → Float) (x : Float) : Except Raised Value :=
  match ChartScript.Number.truncate? (round x) with
  | some i => .ok (.int i)
  | none =>
    if x.isNaN then .error (.valueError "cannot convert float NaN to integer")
    else .error (.overflow "cannot convert float infinity to integer")

/-- Rounding to an integer. -/
def rounding? : String → Option (Float → Float)
  | "floor" => some Float.floor
  | "ceil" => some Float.ceil
  | "trunc" => some fun x => if x < 0 then x.ceil else x.floor
  | _ => none

/-- A logarithm; integers beyond the floating point numbers have one too. -/
def logarithm (h : Heap) (log : Float → Float) (v : Value) : Except Raised Float :=
  match intOf? v with
  | some i =>
    if i ≤ 0 then .error domainError
    else
      let x := ChartScript.Number.ofInt i
      if x.isFinite then .ok (log x)
      else
        let e := i.natAbs.log2
        let m := ChartScript.Number.ofRatio false i.natAbs (Nat.pow 2 e)
        .ok (log m + e.toFloat * log 2)
  | none => do
    let x ← real h v
    if x.isNaN then return x
    if x <= 0 then throw domainError
    return log x

/-- Mantissa and exponent of a number, with the mantissa from one half up to one. -/
def mantissaExponent (x : Float) : Float × Int :=
  match ChartScript.Number.Dyadic.ofFloat? x with
  | some d =>
    if d.mantissa = 0 then (x, 0)
    else
      let e := d.mantissa.log2 + 1
      (ChartScript.Number.ofRatio d.negative d.mantissa (Nat.pow 2 e), d.exponent + e)
  | none => (x, 0)

/-- A number times a power of two. -/
def scaled (x : Float) (e : Int) : Except Raised Value :=
  match ChartScript.Number.Dyadic.ofFloat? x with
  | none => .ok (.float x)
  | some d =>
    if d.mantissa = 0 then .ok (.float x)
    else if 3000 < e then .error rangeError
    else if e < -3000 then .ok (.float (ChartScript.Number.ofMagnitudeBits d.negative 0))
    else
      let k := d.exponent + e
      let r :=
        if 0 ≤ k then ChartScript.Number.ofRatio d.negative (d.mantissa * Nat.pow 2 k.toNat) 1
        else ChartScript.Number.ofRatio d.negative d.mantissa (Nat.pow 2 (-k).toNat)
      if r.isInf then .error rangeError else .ok (.float r)

/-- The exact sum of numbers, rounded once. -/
def exactSum (xs : List Float) : Except Raised Value :=
  match xs.filter fun x => !x.isFinite with
  | first :: more =>
    let total := more.foldl (· + ·) first
    if total.isNaN && !(first :: more).any Float.isNaN then .error (.valueError "-inf + inf in fsum")
    else .ok (.float total)
  | [] =>
    let parts := xs.filterMap ChartScript.Number.Dyadic.ofFloat?
    let e := parts.foldl (fun acc d => min acc d.exponent) 0
    let total : Int := parts.foldl (fun acc d =>
      let m : Int := (d.mantissa * Nat.pow 2 (d.exponent - e).toNat : Nat)
      acc + (if d.negative then -m else m)) 0
    let r := ChartScript.Number.ofRatio (total < 0) total.natAbs (Nat.pow 2 (-e).toNat)
    if r.isInf then .error (.overflow "intermediate overflow in fsum") else .ok (.float r)

/-- The product of the numbers up to `n` that follow `k`. -/
def productFrom (k : Nat) : Nat → Nat
  | 0 => 1
  | n + 1 => if n + 1 ≤ k then 1 else (n + 1) * productFrom k n

/-- The nearest multiple of a number is subtracted; ties go to the even one. -/
def nearestRemainder (x y : Float) : Float :=
  match ChartScript.Number.Dyadic.ofFloat? x, ChartScript.Number.Dyadic.ofFloat? y with
  | some a, some b =>
    let e := min a.exponent b.exponent
    let m : Nat := a.mantissa * Nat.pow 2 (a.exponent - e).toNat
    let n : Nat := b.mantissa * Nat.pow 2 (b.exponent - e).toNat
    let q := ChartScript.Number.roundDiv m n
    let r : Int := (m : Int) - (q * n : Nat)
    let negative : Bool := if r = 0 then a.negative else (r < 0) != a.negative
    if 0 ≤ e then ChartScript.Number.ofRatio negative (r.natAbs * Nat.pow 2 e.toNat) 1
    else ChartScript.Number.ofRatio negative r.natAbs (Nat.pow 2 (-e).toNat)
  | some _, none => x
  | none, _ => x

/-- Whether two numbers are close, relative to the larger one or absolutely. -/
def isClose (a b relative absolute : Float) : Bool :=
  if a == b then true
  else if a.isInf || b.isInf then false
  else
    let d := (b - a).abs
    d <= (relative * b).abs || d <= (relative * a).abs || d <= absolute

/-- The integer that a function of integers takes. -/
def whole (h : Heap) (v : Value) : Except Raised Int := asIndex h v

/-- How many ways there are to choose, in order or not. -/
def choices (ordered : Bool) (n k : Int) : Except Raised Value :=
  if n < 0 then .error (.valueError "n must be a non-negative integer")
  else if k < 0 then .error (.valueError "k must be a non-negative integer")
  else if n < k then .ok (.int 0)
  else
    let falling := productFrom (n - k).toNat n.toNat
    .ok (.int (if ordered then falling else falling / productFrom 0 k.toNat : Nat))

/-- The functions with a fixed number of arguments or more. -/
def otherNames : List String :=
  ["atan2", "comb", "copysign", "dist", "factorial", "fmod", "frexp", "fsum", "gcd", "hypot",
    "isclose", "isqrt", "lcm", "ldexp", "log", "log10", "log2", "modf", "perm", "pow", "prod",
    "remainder"]

/-- Whether the module has a function. -/
def hasFunction (name : String) : Bool :=
  (realFunction? name).isSome || (test? name).isSome || (rounding? name).isSome ||
    otherNames.contains name

/-- A function of the module that works on two real numbers. -/
def onTwo? (name : String) : Option (Float → Float → Except Raised Value) :=
  match name with
  | "atan2" => some fun y x => .ok (.float (Float.atan2 y x))
  | "copysign" => some fun x y => .ok (.float (Arithmetic.withSign x y))
  | "fmod" => some fun x y =>
    let r := Arithmetic.truncatedRemainder x y
    if r.isNaN && !x.isNaN && !y.isNaN then .error domainError else .ok (.float r)
  | "remainder" => some fun x y =>
    if x.isNaN || y.isNaN then .ok (.float (x + y))
    else if x.isInf || y == 0 then .error domainError
    else .ok (.float (nearestRemainder x y))
  | "pow" => some fun x y =>
    let r := Float.pow x y
    if r.isNaN && !x.isNaN && !y.isNaN then .error domainError
    else if r.isInf && x.isFinite && y.isFinite then
      .error (if x == 0 then domainError else rangeError)
    else .ok (.float r)
  | _ => none

/-- A function of the module is called. -/
def call (name : String) (args : List Value) (kws : Keywords) : Op Value := do
  let h ← get
  let full := "math." ++ name
  let given (i : Nat) : Value := (args[i]?).getD .none
  match realFunction? name, test? name, rounding? name, onTwo? name with
  | some (grows, f), _, _, _ =>
    let x ← Op.lift (real h (← Op.lift (Arity.one full args kws)))
    Op.lift (checked grows x (f x))
  | _, some f, _, _ =>
    return .bool (f (← Op.lift (real h (← Op.lift (Arity.one full args kws)))))
  | _, _, some f, _ =>
    let v ← Op.lift (Arity.one full args kws)
    match intOf? v with
    | some i => return .int i
    | none =>
      if name = "trunc" && (numberOf? v).isNone then
        throw (.typeError ("type " ++ h.typeName v ++ " doesn't define __trunc__ method"))
      Op.lift (wholeOf f (← Op.lift (real h v)))
  | _, _, _, some f =>
    Op.lift (Arity.noKeywords full kws)
    Op.lift (Arity.between name 2 2 args)
    let x ← Op.lift (real h (given 0))
    let y ← Op.lift (real h (given 1))
    Op.lift (f x y)
  | none, none, none, none =>
    match name with
    | "isclose" =>
      if args.length != 2 then
        throw (.typeError (if args.length < 2 then
          "isclose() missing required argument '" ++ (if args.isEmpty then "a' (pos 1)" else "b' (pos 2)")
          else "isclose() takes exactly 2 positional arguments (" ++ toString args.length ++ " given)"))
      let a ← Op.lift (real h (given 0))
      let b ← Op.lift (real h (given 1))
      let relative ← Op.lift (real h ((kws.lookup "rel_tol").getD (.float 1e-9)))
      let absolute ← Op.lift (real h ((kws.lookup "abs_tol").getD (.float 0)))
      if relative < 0 || absolute < 0 then throw (.valueError "tolerances must be non-negative")
      return .bool (isClose a b relative absolute)
    | "prod" =>
      let items ← Op.lift (elementsOrRefuse h (given 0))
      items.foldlM (binary .mul false) ((kws.lookup "start").getD (.int 1))
    | _ =>
      Op.lift (Arity.noKeywords full kws)
      match name with
      | "log" =>
        Op.lift (Arity.between "log" 1 2 args)
        let x ← Op.lift (logarithm h Float.log (given 0))
        if args.length = 1 then return .float x
        let y ← Op.lift (logarithm h Float.log (given 1))
        if y == 0 then throw (.zeroDivision "float division by zero")
        return .float (x / y)
      | "hypot" => return .float (ChartScript.Number.hypotenuse (← args.mapM fun v => Op.lift (real h v)))
      | "gcd" =>
        let xs ← args.mapM fun v => Op.lift (whole h v)
        return .int (xs.foldl (fun (acc : Nat) i => Nat.gcd acc i.natAbs) 0 : Nat)
      | "lcm" =>
        let xs ← args.mapM fun v => Op.lift (whole h v)
        return .int (xs.foldl (fun (acc : Nat) i => Nat.lcm acc i.natAbs) 1 : Nat)
      | "comb" =>
        Op.lift (Arity.between "comb" 2 2 args)
        let n ← Op.lift (whole h (given 0))
        let k ← Op.lift (whole h (given 1))
        Op.lift (choices false n k)
      | "perm" =>
        Op.lift (Arity.between "perm" 1 2 args)
        let n ← Op.lift (whole h (given 0))
        let k ← Op.lift (if given 1 matches .none then .ok n else whole h (given 1))
        Op.lift (choices true n k)
      | "dist" =>
        Op.lift (Arity.between "dist" 2 2 args)
        let p ← Op.lift (elementsOrRefuse h (given 0))
        let q ← Op.lift (elementsOrRefuse h (given 1))
        if p.length != q.length then
          throw (.valueError "both points must have the same number of dimensions")
        let ds ← (p.zip q).mapM fun e => do
          let x ← Op.lift (real h e.1)
          let y ← Op.lift (real h e.2)
          pure (x - y)
        return .float (ChartScript.Number.hypotenuse ds)
      | "ldexp" =>
        Op.lift (Arity.between "ldexp" 2 2 args)
        let x ← Op.lift (real h (given 0))
        match intOf? (given 1) with
        | some e => Op.lift (scaled x e)
        | none => throw (.typeError "Expected an int as second argument to ldexp.")
      | _ =>
        let v ← Op.lift (Arity.one full args kws)
        match name with
        | "log2" => return .float (← Op.lift (logarithm h Float.log2 v))
        | "log10" => return .float (← Op.lift (logarithm h Float.log10 v))
        | "fsum" =>
          let items ← Op.lift (elementsOrRefuse h v)
          let xs ← items.mapM fun w => Op.lift (real h w)
          Op.lift (exactSum xs)
        | "frexp" =>
          let (m, e) := mantissaExponent (← Op.lift (real h v))
          return .tuple [.float m, .int e]
        | "modf" =>
          let x ← Op.lift (real h v)
          let w := if x.isInf then x else if x < 0 then x.ceil else x.floor
          let part := if x.isInf then 0 else x - w
          return .tuple [.float (Arithmetic.withSign part x), .float (Arithmetic.withSign w x)]
        | "factorial" =>
          let n ← Op.lift (whole h v)
          if n < 0 then throw (.valueError "factorial() not defined for negative values")
          return .int (productFrom 0 n.toNat)
        | _ =>
          let n ← Op.lift (whole h v)
          if n < 0 then throw (.valueError "isqrt() argument must be nonnegative")
          return .int (ChartScript.Number.natRoot n.toNat)

end ChartScript.Script.Mathematics
