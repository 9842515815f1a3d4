import ChartScript.Number.Binary64
/-!
# Keys

What makes two values one key of a dictionary: numbers of all kinds are one key if their exact
values are equal, and every object of its own is another one.
-/

namespace ChartScript.Script

/-- An address on the heap. -/
abbrev Address := Nat

/-- What makes two values the same key: numbers of equal value are one key. -/
inductive Key where
  /-- No value. -/
  | none
  /-- A whole number. -/
  | int (value : Int)
  /-- Another number, by its bits. -/
  | float (bits : Nat)
  /-- A complex number, by its bits. -/
  | complex (real imag : Nat)
  /-- A text. -/
  | text (value : String)
  /-- Bytes. -/
  | bytes (value : List Nat)
  /-- The empty tuple. -/
  | empty
  /-- A tuple: its first item and the rest. -/
  | pair (first rest : Key)
  /-- A range, by its first item, step and length. -/
  | range (start step : Int) (size : Nat)
  /-- A value that is known by name. -/
  | named (name : String)
  /-- The answer to a capability call. -/
  | future (call : Nat)
  /-- An object that is only equal to itself. -/
  | object (address : Address)
  deriving Repr, DecidableEq

namespace Key

/-- A truth value as a key, which is a whole number. -/
def ofBool (b : Bool) : Key := .int (if b then 1 else 0)

/-- A floating point number as a key. -/
def ofFloat (x : Float) : Key :=
  match Number.whole? x with
  | .some i => .int i
  | .none => .float x.toBits.toNat

/-- A complex number as a key; a part is not told apart from one of the other sign if it is zero. -/
def ofComplex (re im : Float) : Key :=
  if im == 0 then ofFloat re else .complex (re + 0).toBits.toNat (im + 0).toBits.toNat

end Key

end ChartScript.Script
