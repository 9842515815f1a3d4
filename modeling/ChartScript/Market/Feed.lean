import ChartScript.Market.Bar
import ChartScript.Number.Conversion
import ChartScript.Text.LetterCase
/-!
# The remote feed

How bars are asked for at a remote feed and how its rows become bars. The feed has its
own names for some symbols and timeframes and limits the history of all but daily and
weekly bars.
-/

namespace ChartScript.Market.Feed

/-- Indices that the feed knows by another name. -/
def symbolNames : List (String × String) :=
  [("NIFTY", "^NSEI"), ("BANKNIFTY", "^NSEBANK"), ("SPX", "^GSPC"), ("NDX", "^NDX"),
    ("DJI", "^DJI")]

/-- The feed's names for timeframes. -/
def intervals : List (String × String) :=
  [("1m", "1m"), ("5m", "5m"), ("15m", "15m"), ("30m", "30m"), ("1h", "60m"), ("1d", "1d"),
    ("1w", "1wk")]

/-- A text without blanks around it. -/
def trimmed (s : String) : String :=
  String.ofList (Number.trimBy Text.CharClass.isBlank s.toList)

/-- The feed's name for a symbol. -/
def symbolFor (symbol : String) : String :=
  let plain := trimmed (Text.LetterCase.upper symbol)
  (Assoc.get? symbolNames plain).getD plain

/-- The feed's name for a timeframe; unknown ones count as daily. -/
def intervalFor (timeframe : String) : String := (Assoc.get? intervals timeframe).getD "1d"

/-- Most days of history for timeframes other than daily and weekly. -/
def intradayDays : Int := 59

/-- The period of history to ask for. -/
def periodFor (timeframe : String) (days : Int) : String :=
  let within := if timeframe = "1d" ∨ timeframe = "1w" then days else min days intradayDays
  toString within ++ "d"

/-- A request to the feed. -/
structure Query where
  /-- The feed's name of the symbol. -/
  symbol : String
  /-- The period of history. -/
  period : String
  /-- The feed's name of the timeframe. -/
  interval : String
  deriving Repr, DecidableEq

/-- The request for a symbol and timeframe. -/
def queryFor (symbol timeframe : String) (days : Int) : Query :=
  ⟨symbolFor symbol, periodFor timeframe days, intervalFor timeframe⟩

/-- A row of the feed: its time and its five columns. -/
structure Row where
  /-- Time in seconds. -/
  time : Float
  /-- First price. -/
  opening : Wire
  /-- Highest price. -/
  high : Wire
  /-- Lowest price. -/
  low : Wire
  /-- Last price. -/
  close : Wire
  /-- Volume; null when there is none. -/
  volume : Wire

/-- Whether a value is a number other than a truth value. -/
def isNumber : Wire → Bool
  | .int _ => true
  | .float _ => true
  | _ => false

/-- Whether a value is a text. -/
def isText : Wire → Bool
  | .text _ => true
  | .float x => x.isNaN
  | _ => false

/-- Whether a value is null. -/
def isNull : Wire → Bool
  | .null => true
  | _ => false

/-- A column of the feed: among numbers only, or among texts only, null is a missing number. -/
def uniform (column : List Wire) : List Wire :=
  let present := column.filter fun w => !isNull w
  let regular := !present.isEmpty && (present.all isNumber || present.all isText)
  if regular then column.map fun w => if isNull w then .float Number.nan else w else column

/-- Changes a column of all rows. -/
def mapColumn (get : Row → Wire) (set : Row → Wire → Row) (rows : List Row) : List Row :=
  List.zipWith set rows (uniform (rows.map get))

/-- The rows with every column made uniform. -/
def uniformRows (rows : List Row) : List Row :=
  let rows := mapColumn Row.opening (fun r w => { r with opening := w }) rows
  let rows := mapColumn Row.high (fun r w => { r with high := w }) rows
  let rows := mapColumn Row.low (fun r w => { r with low := w }) rows
  let rows := mapColumn Row.close (fun r w => { r with close := w }) rows
  mapColumn Row.volume (fun r w => { r with volume := w }) rows

/-- The rows without those that a later row of the same time replaces. -/
def lastOfEachTime : List Row → List Row
  | [] => []
  | row :: rest =>
    if rest.any fun later => later.time == row.time then lastOfEachTime rest
    else row :: lastOfEachTime rest

/-- The bar of a row. -/
def Row.bar (row : Row) : Except Number.ConversionError Bar := do
  let time ← Number.floatToInt row.time
  let opening ← Number.toFloat row.opening
  let high ← Number.toFloat row.high
  let low ← Number.toFloat row.low
  let close ← Number.toFloat row.close
  let volume ← if row.volume.truthy then Number.toFloat row.volume else pure 0
  return { time, opening, high, low, close, volume }

/-- The bars of the feed's rows, oldest first, one for each time. -/
def barsOf (rows : List Row) : Except Number.ConversionError (List Bar) :=
  ((lastOfEachTime (uniformRows rows)).mergeSort fun a b => a.time ≤ b.time).mapM Row.bar

end ChartScript.Market.Feed
