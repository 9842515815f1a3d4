import ChartScript.Market.Bar
import ChartScript.Market.Time
import ChartScript.Text.LetterCase
import ChartScript.Wire.Mapping
/-!
# The bar store

Bars kept by symbol, in whatever letter case, and timeframe. Loading turns every time
into whole seconds, checks each bar and sorts by time, keeping the order of bars of the
same time. A load that is refused changes nothing.
-/

namespace ChartScript.Market

/-- What bars are kept under. -/
structure ShelfKey where
  /-- The symbol in upper case. -/
  symbol : String
  /-- The timeframe. -/
  timeframe : String
  deriving Repr, DecidableEq

/-- The key of a symbol in any letter case. -/
def ShelfKey.of (symbol timeframe : String) : ShelfKey := ⟨Text.LetterCase.upper symbol, timeframe⟩

/-- Why a load is refused. -/
inductive LoadError where
  /-- The bars are no collection, or one of them no mapping. -/
  | mapping (error : Wire.MappingError)
  /-- A bar has no time. -/
  | missingTime
  /-- A time is no number. -/
  | time (error : Number.ConversionError)
  /-- A bar breaks its rules. -/
  | violations (vs : List Schema.Violation)

/-- The failure of a refused load. -/
def LoadError.failure : LoadError → Failure
  | .mapping e => e.failure
  | .missingTime => ⟨.key, "'time'"⟩
  | .time e => e.failure
  | .violations vs => .ofViolations vs

/-- Reads one bar, its time in seconds or milliseconds. -/
def readBar (w : Wire) : Except LoadError Bar := do
  let fields ← w.toMapping.mapError .mapping
  match Assoc.get? fields "time" with
  | none => .error .missingTime
  | some t =>
    let seconds ← (epochSeconds t).mapError .time
    match Bar.check (.object (Assoc.put fields "time" (.int seconds))) with
    | .valid bar => .ok bar
    | .invalid vs => .error (.violations vs)

/-- Bars in order of time; bars of the same time keep their order. -/
def sortByTime (bars : List Bar) : List Bar := bars.mergeSort fun a b => a.time ≤ b.time

/-- A store of bars. -/
structure BarStore where
  /-- The bars under each key. -/
  shelves : List (ShelfKey × List Bar)
  deriving Inhabited

namespace BarStore

/-- The store without bars. -/
def empty : BarStore := ⟨[]⟩

/-- The bars of a symbol and timeframe. -/
def bars (store : BarStore) (symbol timeframe : String) : List Bar :=
  (Assoc.get? store.shelves (ShelfKey.of symbol timeframe)).getD []

/-- Reads the bars of a load, in order of time. -/
def readBars (w : Wire) : Except LoadError (List Bar) := do
  let items ← w.elements.mapError .mapping
  let read ← items.mapM readBar
  return sortByTime read

/-- Replaces the bars of a symbol and timeframe. -/
def load (store : BarStore) (symbol timeframe : String) (w : Wire) :
    Except LoadError (BarStore × Nat) := do
  let read ← readBars w
  return (⟨Assoc.put store.shelves (ShelfKey.of symbol timeframe) read⟩, read.length)

/-- Several loads in turn. -/
def loadAll (store : BarStore) : List (String × String × Wire) → Except LoadError BarStore
  | [] => .ok store
  | (symbol, timeframe, w) :: rest => do
    let (next, _) ← store.load symbol timeframe w
    next.loadAll rest

end BarStore

end ChartScript.Market
