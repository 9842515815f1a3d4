import ChartScript.Indicator.Argument
import ChartScript.Indicator.Series
/-!
# The catalogue of built-in indicators

The six indicators that the host computes over bars by name, their parameters and
defaults, and the results as plots.
-/

namespace ChartScript.Indicator

open Market (Bar)
open Plot (LinePoint BandPoint)

/-- A built-in indicator. -/
inductive Builtin where
  /-- Moving mean. -/
  | sma
  /-- Exponential mean. -/
  | ema
  /-- Strength index. -/
  | rsi
  /-- Bands around the moving mean. -/
  | bollinger
  /-- Convergence of two exponential means. -/
  | macd
  /-- Volume-weighted price. -/
  | vwap
  deriving Repr, DecidableEq

namespace Builtin

/-- The name of an indicator. -/
def name : Builtin → String
  | sma => "sma"
  | ema => "ema"
  | rsi => "rsi"
  | bollinger => "bollinger"
  | macd => "macd"
  | vwap => "vwap"

/-- All indicators. -/
def all : List Builtin := [sma, ema, rsi, bollinger, macd, vwap]

/-- The indicator of a name. -/
def ofName? (s : String) : Option Builtin := all.find? fun b => b.name = s

/-- The parameters after the bars, each with the default of a direct call. -/
def parameters : Builtin → List (String × Option Wire)
  | sma => [("period", none)]
  | ema => [("period", none)]
  | rsi => [("period", some (.int 14))]
  | bollinger => [("period", some (.int 20)), ("mult", some (.float 2))]
  | macd => [("fast", some (.int 12)), ("slow", some (.int 26)), ("signal", some (.int 9))]
  | vwap => []

/-- The defaults of the host. -/
def defaults : Builtin → List (String × Wire)
  | sma => [("period", .int 20)]
  | ema => [("period", .int 20)]
  | b => b.parameters.filterMap fun p => p.2.map fun w => (p.1, w)

end Builtin

/-- The result of an indicator. -/
inductive Result where
  /-- A line. -/
  | line (points : List LinePoint)
  /-- Bands. -/
  | bands (points : List BandPoint)
  /-- The series of the convergence indicator. -/
  | convergence (series : Plot.Convergence)

/-- A result as data. -/
def Result.data : Result → Wire
  | .line points => .list (points.map fun p => p.view.dump)
  | .bands points => .list (points.map fun p => p.view.dump)
  | .convergence series => series.view.dump

/-- Numbers with times as a line. -/
def toLine (points : List (Timed Float)) : List LinePoint :=
  points.map fun p => ⟨p.time, some p.value⟩

/-- Results of a kernel with the times of the last bars. -/
def kernelLine (k : Kernel) (bars : List (Sample Float)) (period : Wire) :
    Except Refusal (List (Timed Float)) :=
  (k.call (.list ((closes bars).map .float)) period).map (timed bars)

/-- A factor for floating point numbers. -/
def factorOf : Wire → Except Refusal Float
  | .text _ => .error .repeatedByFloat
  | .list _ => .error .repeatedByFloat
  | .int n => (Number.intToFloat n).mapError .conversion
  | .bool b => .ok (if b then 1 else 0)
  | .float x => .ok x
  | w => .error (.notCombinable "*" w.kindName "float")

/-- The bands, with data as parameters: the factor is only looked at when there is
something to multiply. -/
def bandsOf (bars : List (Sample Float)) (period mult : Wire) : Except Refusal (List BandPoint) := do
  let means ← Kernel.sma.call (.list ((closes bars).map .float)) period
  let _ ← Kernel.stdev.call (.list ((closes bars).map .float)) period
  if means.isEmpty then return []
  let factor ← factorOf mult
  let n := ((Amount.ofWire? period).bind Amount.int?).getD 0
  return (bollinger bars n factor).map fun b => ⟨b.time, b.upper, b.basis, b.lower⟩

/-- The smaller of two numbers given as data, the first one if they are equal. -/
def smaller (current candidate : Wire) : Except Refusal Wire :=
  match Amount.ofWire? current, Amount.ofWire? candidate with
  | some a, some b => .ok (if b.below a then candidate else current)
  | _, _ =>
    match current, candidate with
    | .text s, .text t => .ok (if t < s then candidate else current)
    | _, _ => .error (.notComparable candidate.kindName current.kindName)

/-- The sum of two numbers given as data. -/
def sumOf (a b : Wire) : Except Refusal Amount :=
  match Amount.ofWire? a, Amount.ofWire? b with
  | some x, some y =>
    match y.int? with
    | some n => .ok (x.addInt n)
    | none => .ok (.real (x.toFloat + y.toFloat))
  | _, _ => .error (.notCombinable "+" a.kindName b.kindName)

/-- The convergence indicator with data as parameters. -/
def convergenceOf (bars : List (Sample Float)) (fast slow signal : Wire) :
    Except Refusal Plot.Convergence := do
  let least ← (do smaller (← smaller fast slow) signal)
  let amount ← amountOf least
  if amount.below (.whole 1) then return ⟨[], [], []⟩
  let needed ← sumOf slow signal
  if (Amount.whole bars.length).below needed then return ⟨[], [], []⟩
  let integer (k : Wire) : Except Refusal Int := do
    Kernel.ema.period (← amountOf k)
  let slowPeriod ← integer slow
  let fastPeriod ← integer fast
  let signalPeriod ← integer signal
  let c := macd bars fastPeriod slowPeriod signalPeriod
  return ⟨toLine c.macd, toLine c.signal, toLine c.histogram⟩

/-- A built-in indicator over bars, with all its parameters in order. -/
def Builtin.run (b : Builtin) (bars : List Bar) (arguments : List Wire) : Except Refusal Result :=
  let samples := bars.map Sample.ofBar
  let argument (i : Nat) : Wire := arguments.getD i .null
  match b with
  | .sma => (kernelLine .sma samples (argument 0)).map fun ps => .line (toLine ps)
  | .ema => (kernelLine .ema samples (argument 0)).map fun ps => .line (toLine ps)
  | .rsi => (kernelLine .rsi samples (argument 0)).map fun ps => .line (toLine ps)
  | .bollinger => (bandsOf samples (argument 0) (argument 1)).map .bands
  | .macd => (convergenceOf samples (argument 0) (argument 1) (argument 2)).map .convergence
  | .vwap => .ok (.line ((Indicator.vwap samples).map fun p => ⟨p.time, p.value⟩))

/-- Checks bars given as data, one after the other. -/
def checkBars : List Wire → Except Refusal (List Bar)
  | [] => .ok []
  | w :: rest =>
    match Bar.check w with
    | .valid b => (checkBars rest).map (b :: ·)
    | .invalid vs => .error (.violations vs)

/-- A built-in indicator by name over bars, with parameters by name: null parameters are
dropped, the rest override the defaults of the host. -/
def computeNamed (name : String) (bars : List Wire) (params : List (String × Wire)) :
    Except Refusal Result := do
  let some b := Builtin.ofName? name | throw (.unknownIndicator name)
  let supplied := params.filter fun p => !Schema.RecordView.isNull p.2
  let merged := Assoc.putAll b.defaults supplied
  match merged.find? fun p => !(b.parameters.any fun q => q.1 = p.1) with
  | some p => throw (.unexpectedParameter b.name p.1)
  | none => pure ()
  let checked ← checkBars bars
  b.run checked (b.parameters.map fun p => (Assoc.get? merged p.1).getD .null)

/-- A built-in indicator called directly, with parameters in order after the bars. -/
def callDirect (b : Builtin) (bars : List Wire) (arguments : List Wire) : Except Refusal Result := do
  let most := b.parameters.length
  let least := (b.parameters.filter fun p => p.2.isNone).length
  if most < arguments.length then
    throw (.tooManyArguments b.name (least + 1) (most + 1) (arguments.length + 1))
  let open_ := b.parameters.drop arguments.length
  let lacking := open_.filter fun p => p.2.isNone
  if !lacking.isEmpty then throw (.missingParameters b.name (lacking.map Prod.fst))
  let checked ← checkBars bars
  b.run checked (arguments ++ open_.map fun p => p.2.getD .null)

end ChartScript.Indicator
