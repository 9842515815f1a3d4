import ChartScript.Indicator.Kernel
import ChartScript.Number.Conversion
import ChartScript.Text.Prose
/-!
# Arguments of indicators

Indicators can be called with data of any kind in place of the series and the period.
Here such data is turned into numbers or refused, each refusal with its own cause.
-/

namespace ChartScript.Indicator

open Text.Prose (namesInProse pluralLetter)

/-- Why a call of an indicator is refused. -/
inductive Refusal where
  /-- Two kinds of values that have no order. -/
  | notComparable (left right : String)
  /-- Two kinds of values that cannot be combined by an operator. -/
  | notCombinable (operator left right : String)
  /-- A text or list times a floating point number. -/
  | repeatedByFloat
  /-- A value of this kind has no length. -/
  | noLength (kind : String)
  /-- A window that is no integer. -/
  | windowNotInteger
  /-- A position that is no integer. -/
  | badPosition (position : Float)
  /-- A bound of a slice that is no integer. -/
  | badSlice
  /-- A size that is no integer. -/
  | badSize (kind : String)
  /-- A size that is a truth value. -/
  | integerRequired
  /-- A window over a single number. -/
  | windowOfScalar
  /-- Differences of a single number. -/
  | differenceOfScalar
  /-- A list inside a series. -/
  | nestedList
  /-- A value that is no number. -/
  | conversion (error : Number.ConversionError)
  /-- A bar that breaks its rules. -/
  | violations (vs : List Schema.Violation)
  /-- An indicator that does not exist. -/
  | unknownIndicator (name : String)
  /-- A parameter that the indicator does not have. -/
  | unexpectedParameter (function parameter : String)
  /-- Parameters without default that are absent. -/
  | missingParameters (function : String) (parameters : List String)
  /-- More arguments than parameters. -/
  | tooManyArguments (function : String) (least most given : Nat)

/-- The failure of a refusal. -/
def Refusal.failure : Refusal → Failure
  | notComparable a b =>
    .type ("'<' not supported between instances of '" ++ a ++ "' and '" ++ b ++ "'")
  | notCombinable op a b =>
    .type ("unsupported operand type(s) for " ++ op ++ ": '" ++ a ++ "' and '" ++ b ++ "'")
  | repeatedByFloat => .type "can't multiply sequence by non-int of type 'float'"
  | noLength kind => .type ("object of type '" ++ kind ++ "' has no len()")
  | windowNotInteger => .value "window must be an integer 0 or greater"
  | badPosition x =>
    .type ("cannot do positional indexing on RangeIndex with these indexers [" ++
      Number.display x ++ "] of type float")
  | badSlice => .type "slice indices must be integers or None or have an __index__ method"
  | badSize kind => .type ("'" ++ kind ++ "' object cannot be interpreted as an integer")
  | integerRequired => .type "an integer is required"
  | windowOfScalar =>
    .value ("Since axis is `None`, must provide window_shape for all dimensions of `x`; " ++
      "got 1 window_shape elements and `x.ndim` is 0.")
  | differenceOfScalar => .value "diff requires input that is at least one dimensional"
  | nestedList => .value "setting an array element with a sequence."
  | conversion e => e.failure
  | violations vs => .ofViolations vs
  | unknownIndicator name => .value ("unknown indicator: " ++ name)
  | unexpectedParameter f p => .type (f ++ "() got an unexpected keyword argument '" ++ p ++ "'")
  | missingParameters f ps =>
    .type (f ++ "() missing " ++ toString ps.length ++ " required positional argument" ++
      pluralLetter ps.length ++ ": " ++ namesInProse ps)
  | tooManyArguments f least most given =>
    let takes :=
      if least = most then toString most ++ " positional argument" ++ pluralLetter most
      else "from " ++ toString least ++ " to " ++ toString most ++ " positional arguments"
    .type (f ++ "() takes " ++ takes ++ " but " ++ toString given ++
      (if given = 1 then " was" else " were") ++ " given")

/-- A number given as a parameter. -/
inductive Amount where
  /-- An integer. -/
  | whole (n : Int)
  /-- A truth value, which counts as zero or one. -/
  | flag (b : Bool)
  /-- A floating point number. -/
  | real (x : Float)

namespace Amount

/-- The number behind data, if it is one. -/
def ofWire? : Wire → Option Amount
  | .int n => some (.whole n)
  | .bool b => some (.flag b)
  | .float x => some (.real x)
  | _ => none

/-- The integer, unless it is a floating point number. -/
def int? : Amount → Option Int
  | whole n => some n
  | flag b => some (if b then 1 else 0)
  | real _ => none

/-- The number as a floating point number. -/
def toFloat : Amount → Float
  | whole n => Number.ofInt n
  | flag b => if b then 1 else 0
  | real x => x

/-- Whether one number is below another. -/
def below (a b : Amount) : Bool :=
  match a.int?, b.int? with
  | some m, some n => m < n
  | _, _ => a.toFloat < b.toFloat

/-- Sum with an integer. -/
def addInt (a : Amount) (n : Int) : Amount :=
  match a.int? with
  | some m => .whole (m + n)
  | none => .real (a.toFloat + Number.ofInt n)

end Amount

/-- Compares data with a number; data that is no number has no order with it. -/
def amountOf (w : Wire) : Except Refusal Amount :=
  match Amount.ofWire? w with
  | some a => .ok a
  | none => .error (.notComparable w.kindName "int")

/-- One item of a series: null is a missing number, the rest is converted. -/
def seriesItem : Wire → Except Refusal Float
  | .null => .ok Number.nan
  | .list _ => .error .nestedList
  | w =>
    match Number.toFloat w with
    | .ok x => .ok x
    | .error e => .error (.conversion e)

/-- Data in place of a series. -/
inductive Series where
  /-- A list. -/
  | list (items : List Wire)
  /-- A text, as a list of its characters or as a single number text. -/
  | text (s : String)
  /-- Named values, as a list of their names. -/
  | names (items : List String)

namespace Series

/-- The series behind data; other data has no length. -/
def ofWire : Wire → Except Refusal Series
  | .list items => .ok (.list items)
  | .text s => .ok (.text s)
  | .object fields => .ok (.names (fields.map Prod.fst))
  | w => .error (.noLength w.kindName)

/-- The number of items. -/
def length : Series → Nat
  | list items => items.length
  | text s => s.length
  | names items => items.length

/-- The items one by one. -/
def items : Series → List Wire
  | list ws => ws
  | text s => s.toList.map fun c => .text (String.singleton c)
  | names ns => ns.map .text

/-- The numbers of a series, item by item. -/
def numbers (s : Series) : Except Refusal (List Float) := s.items.mapM seriesItem

/-- The numbers of a series that must be a list; a text is a single number and refused
with `scalar`. -/
def listed (scalar : Refusal) : Series → Except Refusal (List Float)
  | list ws => ws.mapM seriesItem
  | text s =>
    match Number.textToFloat s with
    | .ok _ => .error scalar
    | .error e => .error (.conversion e)
  | names _ => .error (.conversion (.notFloat "dict"))

end Series

/-- A kernel that scripts can call. -/
inductive Kernel where
  /-- The moving mean. -/
  | sma
  /-- The exponential mean. -/
  | ema
  /-- The deviation. -/
  | stdev
  /-- The strength index. -/
  | rsi
  deriving Repr, DecidableEq

/-- The name of a kernel. -/
def Kernel.name : Kernel → String
  | .sma => "sma"
  | .ema => "ema"
  | .stdev => "stdev"
  | .rsi => "rsi"

/-- All kernels. -/
def Kernel.all : List Kernel := [.sma, .ema, .stdev, .rsi]

/-- The kernel of a name. -/
def Kernel.ofName? (name : String) : Option Kernel := Kernel.all.find? fun k => k.name = name

/-- Period of a strength index that names none. -/
def defaultStrengthPeriod : Int := 14

/-- A kernel on numbers, with an integer period. -/
def Kernel.run (k : Kernel) (xs : List Float) (period : Int) : List Float :=
  match k with
  | .sma => movingMean xs period
  | .ema => exponentialMean xs period
  | .stdev => movingDeviation xs period
  | .rsi => strengthIndex xs period

/-- The numbers that a kernel works on, or why there are none. -/
def Kernel.numbers (k : Kernel) (s : Series) : Except Refusal (List Float) :=
  match k with
  | .sma => s.numbers
  | .ema => s.numbers
  | .stdev => s.listed .windowOfScalar
  | .rsi => s.listed .differenceOfScalar

/-- A period as the integer that a kernel needs. A moving mean and a deviation refuse
truth values, and every kernel refuses floating point numbers in its own words. -/
def Kernel.period (k : Kernel) (period : Amount) : Except Refusal Int :=
  match k, period with
  | .sma, .whole n => .ok n
  | .sma, _ => .error .windowNotInteger
  | .stdev, .flag _ => .error .integerRequired
  | .stdev, .real _ => .error (.badSize "float")
  | .ema, .real x => .error (.badPosition (x - 1))
  | .rsi, .real _ => .error .badSlice
  | _, p => .ok (p.int?.getD 0)

/-- Whether a series is too short for a period. -/
def Kernel.isShort (k : Kernel) (length : Nat) (period : Amount) : Bool :=
  let needed := if k = .rsi then period.addInt 1 else period
  period.below (.whole 1) || (Amount.whole length).below needed

/-- A kernel called with data: the period is compared first, then the length, then the
items are converted. -/
def Kernel.call (k : Kernel) (values period : Wire) : Except Refusal (List Float) := do
  let amount ← amountOf period
  if amount.below (.whole 1) then return []
  let series ← Series.ofWire values
  if k.isShort series.length amount then return []
  let xs ← k.numbers series
  let n ← k.period amount
  return k.run xs n

end ChartScript.Indicator
