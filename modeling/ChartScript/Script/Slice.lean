import ChartScript.Script.Order
/-!
# Positions and slices

Positions count from the end when they are negative. A slice picks positions by a first
one, a step and a count; bounds outside of a sequence are moved to its ends.
-/

namespace ChartScript.Script

/-- The positions that a slice picks. -/
structure Picked where
  /-- The first position. -/
  start : Int
  /-- The distance between positions. -/
  step : Int
  /-- How many positions. -/
  count : Nat

namespace Picked

/-- The positions in the order of the slice. -/
def positions (p : Picked) : List Nat :=
  (List.range p.count).map fun (i : Nat) => (p.start + i * p.step).toNat

/-- The picked items of a sequence. -/
def items {α : Type} (p : Picked) (xs : List α) : List α :=
  if p.step = 1 then (xs.drop p.start.toNat).take p.count
  else
    let array := xs.toArray
    p.positions.filterMap fun i => array[i]?

/-- A bound of a slice as a position from 0 to the length, or one less when going back. -/
def bound (n : Nat) (step : Int) (fallback : Int) : Option Int → Int
  | none => fallback
  | some i =>
    let i := if i < 0 then i + n else i
    if i < 0 then (if step < 0 then -1 else 0)
    else if (n : Int) ≤ i then (if step < 0 then n - 1 else n)
    else i

/-- The positions that bounds and a step pick from a sequence of `n` items. -/
def ofBounds (n : Nat) (lower upper : Option Int) (step : Int) : Picked :=
  let first := bound n step (if step < 0 then n - 1 else 0) lower
  let last := bound n step (if step < 0 then -1 else n) upper
  ⟨first, step, rangeSize first last step⟩

/-- A bound that is given as a value. -/
def boundOf (v : Value) : Except Raised (Option Int) :=
  match v with
  | .none => .ok none
  | v =>
    match intOf? v with
    | some i => .ok (some i)
    | none =>
      .error (.typeError "slice indices must be integers or None or have an __index__ method")

/-- The positions that a slice picks from a sequence of `n` items. -/
def ofValues (n : Nat) (lower upper step : Value) : Except Raised Picked := do
  let s := (← boundOf step).getD 1
  if s = 0 then throw (.valueError "slice step cannot be zero")
  return ofBounds n (← boundOf lower) (← boundOf upper) s

end Picked

/-- The position of an index in a sequence of `n` items. -/
def positionIn? (n : Nat) (i : Int) : Option Nat :=
  let j := if i < 0 then i + n else i
  if 0 ≤ j && j < n then some j.toNat else none

/-- The largest size of a sequence. -/
def maxSize : Int := Int.pow 2 63 - 1

end ChartScript.Script
