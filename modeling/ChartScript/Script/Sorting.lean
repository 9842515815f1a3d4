import ChartScript.Script.Order
/-!
# Sorting

Stable sorting with a comparison that may fail. A run that is already in order is kept, a
strictly falling one is turned around, and each later element is put in its place by
halving the sorted part.
-/

namespace ChartScript.Script.Sorting

variable {α : Type}

/-- A comparison that may fail. -/
abbrev Before (α : Type) := α → α → Except Raised Bool

/-- The longest part at the start that never falls, with the rest. -/
def risingRun (less : Before α) : α → List α → Except Raised (List α × List α)
  | _, [] => .ok ([], [])
  | last, x :: rest => do
    if ← less x last then return ([], x :: rest)
    let (run, others) ← risingRun less x rest
    return (x :: run, others)

/-- The longest part at the start that always falls, with the rest. -/
def fallingRun (less : Before α) : α → List α → Except Raised (List α × List α)
  | _, [] => .ok ([], [])
  | last, x :: rest => do
    if ← less x last then
      let (run, others) ← fallingRun less x rest
      return (x :: run, others)
    else return ([], x :: rest)

/-- Where an element belongs in the sorted part between two positions: behind its equals. -/
def placeFor (less : Before α) (sorted : Array α) (x : α) : Nat → Nat → Nat → Except Raised Nat
  | 0, low, _ => .ok low
  | fuel + 1, low, high =>
    if low < high then do
      let middle := low + (high - low) / 2
      match sorted[middle]? with
      | some y =>
        if ← less x y then placeFor less sorted x fuel low middle
        else placeFor less sorted x fuel (middle + 1) high
      | none => return low
    else .ok low

/-- A sorted part with an element put in its place. -/
def insert (less : Before α) (sorted : Array α) (x : α) : Except Raised (Array α) := do
  let p ← placeFor less sorted x (sorted.size + 1) 0 sorted.size
  return sorted.insertIdxIfInBounds p x

/-- Elements in order; equals stay in theirs. -/
def sort (less : Before α) (items : List α) : Except Raised (List α) :=
  match items with
  | first :: second :: rest => do
    let falls ← less second first
    let (run, others) ←
      if falls then
        let (run, others) ← fallingRun less second rest
        pure ((first :: second :: run).reverse, others)
      else
        let (run, others) ← risingRun less second rest
        pure (first :: second :: run, others)
    return (← others.foldlM (insert less) run.toArray).toList
  | few => .ok few

/-- Values sorted by keys; backward order keeps equals in their order too. -/
def byKeys (h : Heap) (backward : Bool) (items : List (Value × Value)) :
    Except Raised (List Value) := do
  let less (a b : Value × Value) : Except Raised Bool := h.compares .less a.1 b.1
  let sorted ← sort less (if backward then items.reverse else items)
  return (if backward then sorted.reverse else sorted).map Prod.snd

/-- The first value whose key is most extreme. -/
def extreme (h : Heap) (op : CompareOp) : Value × Value → List (Value × Value) →
    Except Raised Value
  | best, [] => .ok best.2
  | best, x :: rest => do
    if ← h.compares op x.1 best.1 then extreme h op x rest else extreme h op best rest

end ChartScript.Script.Sorting
