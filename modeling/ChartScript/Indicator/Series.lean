import ChartScript.Indicator.Kernel
import ChartScript.Market.Bar
import ChartScript.Plot.Shape
/-!
# Indicators over bars

The kernels applied to bars. Every value carries the time of its bar; a series that is
shorter than the bars belongs to the last of them. The convergence indicator joins two
means by time, and the volume-weighted price sums up sessions of one calendar day.
-/

namespace ChartScript.Indicator

open Market (Bar)

variable {α : Type} [Scalar α]

/-- A bar as the indicators see it, with numbers of any kind. -/
structure Sample (α : Type) where
  /-- Time in whole seconds. -/
  time : Int
  /-- Highest price. -/
  high : α
  /-- Lowest price. -/
  low : α
  /-- Last price. -/
  close : α
  /-- Traded volume. -/
  volume : α

/-- A number with its time. -/
structure Timed (β : Type) where
  /-- Time in whole seconds. -/
  time : Int
  /-- The number. -/
  value : β

/-- A sample of bands. -/
structure Banded (α : Type) where
  /-- Time in whole seconds. -/
  time : Int
  /-- Upper line. -/
  upper : α
  /-- Middle line. -/
  basis : α
  /-- Lower line. -/
  lower : α

/-- What the indicators use of a bar. -/
def Sample.ofBar (b : Bar) : Sample Float := ⟨b.time, b.high, b.low, b.close, b.volume⟩

/-- The last prices. -/
def closes (bars : List (Sample α)) : List α := bars.map Sample.close

/-- The last `n` items of a list. -/
def lastItems {β : Type} (n : Nat) (xs : List β) : List β := xs.drop (xs.length - n)

/-- Values with the times of the last bars. -/
def timed {β : Type} (bars : List (Sample α)) (values : List β) : List (Timed β) :=
  (lastItems values.length bars).zipWith (fun b v => ⟨b.time, v⟩) values

/-- The moving mean of the last prices. -/
def sma (bars : List (Sample α)) (period : Int) : List (Timed α) :=
  timed bars (movingMean (closes bars) period)

/-- The exponential mean of the last prices. -/
def ema (bars : List (Sample α)) (period : Int) : List (Timed α) :=
  timed bars (exponentialMean (closes bars) period)

/-- The strength index of the last prices. -/
def rsi (bars : List (Sample α)) (period : Int) : List (Timed α) :=
  timed bars (strengthIndex (closes bars) period)

/-- One sample of the bands around a mean. -/
def band (mult : α) (bar : Sample α) (mean deviation : α) : Banded α :=
  ⟨bar.time, mean + mult * deviation, mean, mean - mult * deviation⟩

/-- The moving mean with lines `mult` deviations above and below. -/
def bollinger (bars : List (Sample α)) (period : Int) (mult : α) : List (Banded α) :=
  let basis := movingMean (closes bars) period
  let deviations := movingDeviation (closes bars) period
  let tail := if basis.isEmpty then [] else bars.drop (period.toNat - 1)
  (tail.zip (basis.zip deviations)).map fun entry => band mult entry.1 entry.2.1 entry.2.2

/-- The three series of the convergence indicator. -/
structure Convergence (α : Type) where
  /-- Fast mean less slow mean. -/
  macd : List (Timed α)
  /-- The difference, smoothed. -/
  signal : List (Timed α)
  /-- The difference less its smoothing. -/
  histogram : List (Timed α)

/-- Points of the first series that have a partner of the same time in the second one,
combined with it; of several partners the last one counts. -/
def joinByTime {β : Type} (combine : β → β → β) (xs ys : List (Timed β)) : List (Timed β) :=
  xs.filterMap fun p =>
    (ys.reverse.find? fun q => q.time = p.time).map fun q => ⟨p.time, combine p.value q.value⟩

/-- The convergence indicator; empty with fewer than `slow + signal` bars. -/
def macd (bars : List (Sample α)) (fast slow signal : Int) : Convergence α :=
  if fast < 1 || slow < 1 || signal < 1 || (bars.length : Int) < slow + signal then ⟨[], [], []⟩
  else
    let line := joinByTime (· - ·) (ema bars fast) (ema bars slow)
    let smoothed := exponentialMean (line.map Timed.value) signal
    let aligned := lastItems smoothed.length line
    ⟨line, aligned.zipWith (fun p s => ⟨p.time, s⟩) smoothed,
      aligned.zipWith (fun p s => ⟨p.time, p.value - s⟩) smoothed⟩

/-- Seconds of a day. -/
def secondsPerDay : Int := 86400

/-- The calendar day of a time, counted from the epoch. -/
def dayOf (time : Int) : Int := time.fdiv secondsPerDay

/-- The number of the session of every day in a list: it grows by one whenever the day
differs from the one before. -/
def sessionsFrom (previous : Option Int) (session : Nat) : List Int → List Nat
  | [] => []
  | d :: rest =>
    let session := if previous = some d then session else session + 1
    session :: sessionsFrom (some d) session rest

/-- Running sums per label, each label with its own sum. A missing number gives a missing
result and leaves the sum of its label as it is. -/
def runningSums (sums : List (Nat × α)) : List (Nat × α) → List α
  | [] => []
  | (label, x) :: rest =>
    if Scalar.isMissing x then Scalar.missing :: runningSums sums rest
    else
      let sum :=
        match Assoc.get? sums label with
        | some s => s + x
        | none => x
      sum :: runningSums (Assoc.put sums label sum) rest

/-- The mean of the highest, lowest and last price. -/
def Sample.typical (b : Sample α) : α := (b.high + b.low + b.close) / Scalar.ofInt 3

/-- The volume of a bar; a missing one counts as zero. -/
def Sample.countedVolume (b : Sample α) : α :=
  if Scalar.isMissing b.volume then Scalar.ofInt 0 else b.volume

/-- The volume-weighted price of the session so far at every bar; no value while the
session has no volume. -/
def vwap (bars : List (Sample α)) : List (Timed (Option α)) :=
  let sessions := sessionsFrom none 0 (bars.map fun b => dayOf b.time)
  let traded := runningSums [] (sessions.zip (bars.map fun b => b.typical * b.countedVolume))
  let volumes := runningSums [] (sessions.zip (bars.map Sample.countedVolume))
  timed bars <| traded.zipWith
    (fun pv vol => if Scalar.below (Scalar.ofInt 0) vol then some (pv / vol) else none) volumes

end ChartScript.Indicator
