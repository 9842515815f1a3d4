import ChartScript.Script.Method.Arity
import ChartScript.Text.Utf8
/-!
# Attributes of numbers and bytes

Parts of numbers, and their methods.
-/

namespace ChartScript.Script.NumberMethod

/-- How many bits are set. -/
def bitsSet : Nat → Nat → Nat
  | 0, _ => 0
  | fuel + 1, n => n % 2 + bitsSet fuel (n / 2)

/-- The digits of bytes. -/
def hexText (bs : List Nat) : String :=
  String.ofList (bs.flatMap fun b => Text.Quoted.hexDigits 2 b)

/-- A floating point number in digits of base sixteen. -/
def hexFloat (x : Float) : String :=
  match ChartScript.Number.Dyadic.ofFloat? x with
  | none => ChartScript.Number.display x
  | some d =>
    let sign := if d.negative then "-" else ""
    if d.mantissa = 0 then sign ++ "0x0.0p+0"
    else
      let isSmall : Bool := d.mantissa < Nat.pow 2 52
      let e := d.exponent + 52
      sign ++ (if isSmall then "0x0." else "0x1.") ++
        String.ofList (Text.Quoted.hexDigits 13 (d.mantissa % Nat.pow 2 52)) ++
        (if e < 0 then "p-" else "p+") ++ toString e.natAbs

/-- Numerator and denominator of a finite number in lowest terms. -/
def ratioOf (d : ChartScript.Number.Dyadic) : Int × Nat :=
  let (n, m) := d.ratio
  let g := Nat.gcd n m
  let n : Int := (n / g : Nat)
  (if d.negative then -n else n, m / g)

/-- The part of a number with a name. -/
def part? (v : Value) (name : String) : Option Value :=
  match v, name with
  | .float x, "real" => some (.float x)
  | .float _, "imag" => some (.float 0)
  | .complex re _, "real" => some (.float re)
  | .complex _ im, "imag" => some (.float im)
  | _, _ =>
    match intOf? v, name with
    | some i, "real" | some i, "numerator" => some (.int i)
    | some _, "imag" => some (.int 0)
    | some _, "denominator" => some (.int 1)
    | _, _ => none

/-- The names of the methods of integers. -/
def intNames : List String :=
  ["as_integer_ratio", "bit_count", "bit_length", "conjugate", "to_bytes"]

/-- The names of the methods of floating point numbers. -/
def floatNames : List String := ["as_integer_ratio", "conjugate", "hex", "is_integer"]

/-- A method of an integer is called. -/
def callInt (type : String) (i : Int) (name : String) (args : List Value) (kws : Keywords) :
    Op Value := do
  if name = "to_bytes" then
    let h ← get
    let given ← Op.lift (Arity.named "to_bytes" ["length", "byteorder"] args kws)
    let size ← Op.lift (asIndex h (((given[0]?).join).getD (.int 1)))
    let n := size.toNat
    if i < 0 then throw (.overflow "can't convert negative int to unsigned")
    if Nat.pow 2 (8 * n) ≤ i.toNat then throw (.overflow "int too big to convert")
    let bytes := (List.range n).map fun (k : Nat) => i.toNat / Nat.pow 256 k % 256
    let order : Option Value := (given[1]?).join
    let little : Bool := match order with | some (.text o) => o = "little" | _ => false
    return .bytes (if little then bytes else bytes.reverse)
  else
    Op.lift (Arity.none (type ++ "." ++ name) args kws)
    match name with
    | "bit_length" => return .int (if i = 0 then 0 else i.natAbs.log2 + 1)
    | "bit_count" => return .int (bitsSet (i.natAbs.log2 + 1) i.natAbs)
    | "as_integer_ratio" => return .tuple [.int i, .int 1]
    | _ => return .int i

/-- A method of a floating point number is called. -/
def callFloat (x : Float) (name : String) (args : List Value) (kws : Keywords) : Op Value := do
  Op.lift (Arity.none ("float." ++ name) args kws)
  match name with
  | "is_integer" => return .bool (ChartScript.Number.whole? x).isSome
  | "hex" => return .text (hexFloat x)
  | "as_integer_ratio" =>
    match ChartScript.Number.Dyadic.ofFloat? x with
    | some d =>
      let (n, m) := ratioOf d
      return .tuple [.int n, .int m]
    | none =>
      if x.isNaN then throw (.valueError "cannot convert NaN to integer ratio")
      else throw (.overflow "cannot convert Infinity to integer ratio")
  | _ => return .float x

/-- The names of the methods of bytes. -/
def bytesNames : List String := ["decode", "hex"]

/-- A method of bytes is called. -/
def callBytes (bs : List Nat) (name : String) (args : List Value) (kws : Keywords) : Op Value := do
  if name = "hex" then
    Op.lift (Arity.none "bytes.hex" args kws)
    return .text (hexText bs)
  else
    let _ ← Op.lift (Arity.named "decode" ["encoding", "errors"] args kws)
    match Text.Utf8.decode bs with
    | .ok s => return .text s
    | .error f => throw (.of "UnicodeDecodeError" f.message)

end ChartScript.Script.NumberMethod
