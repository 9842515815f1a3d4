import ChartScript.Indicator.Scalar
/-!
# Indicator kernels

Moving mean, exponential mean, deviation and strength of a series of numbers. Input
that is too short for the period gives an empty series. A missing or infinite number
spoils exactly the windows that hold it; the exponential mean skips it while the weight
of the past decays.
-/

namespace ChartScript.Indicator

variable {α : Type} [Scalar α]

/-- All runs of `period` neighbours, from the front. -/
def windows (period : Nat) (xs : List α) : List (List α) :=
  (List.range (xs.length + 1 - period)).map fun i => (xs.drop i).take period

/-- Whether a series has no output for a period. -/
def isShort (xs : List α) (period : Int) : Bool := period < 1 || (xs.length : Int) < period

/-- The mean of a window; missing unless all its numbers are finite. -/
def windowMean (window : List α) : α :=
  if window.all Scalar.isFinite then total window / Scalar.ofInt window.length else Scalar.missing

/-- The mean of every window. -/
def movingMean (xs : List α) (period : Int) : List α :=
  if isShort xs period then [] else (windows period.toNat xs).map windowMean

/-- The population deviation of a window. -/
def windowDeviation (window : List α) : α :=
  let count : α := Scalar.ofInt window.length
  let mean := total window / count
  Scalar.sqrt (total (window.map fun x => (x - mean) * (x - mean)) / count)

/-- The population deviation of every window. -/
def movingDeviation (xs : List α) (period : Int) : List α :=
  if isShort xs period then [] else (windows period.toNat xs).map windowDeviation

/-- The state of an exponential mean: nothing before the first valid number, then the
mean and the weight that the past has left. -/
inductive Smoothing (α : Type) where
  /-- No valid number so far. -/
  | empty
  /-- The mean so far and its weight. -/
  | mean (value weight : α)

/-- The share of a new number: `2 / (period + 1)`. -/
def newShare (period : Int) : α := Scalar.ofInt 2 / (Scalar.ofInt period + Scalar.ofInt 1)

/-- The share that the past keeps at every step. -/
def oldShare (period : Int) : α := Scalar.ofInt 1 - newShare period

/-- The share of a new number next to the decayed weight of the past. With period three,
where both shares are a half, the new number takes up all the weight that the past has
lost; otherwise its share is fixed. -/
def shareBeside (period : Int) (weight : α) : α :=
  if period = 3 then Scalar.ofInt 1 - weight else newShare period

/-- One step of the exponential mean. A number that is not finite only lets the weight of
the past decay; a number equal to the mean leaves it as it is. -/
def Smoothing.step (period : Int) (s : Smoothing α) (x : α) : Smoothing α :=
  match s with
  | .empty => if Scalar.isFinite x then .mean x (Scalar.ofInt 1) else .empty
  | .mean value weight =>
    let weight := weight * oldShare period
    if !Scalar.isFinite x then .mean value weight
    else if Scalar.same value x then .mean value (Scalar.ofInt 1)
    else
      let share := shareBeside period weight
      .mean ((weight * value + share * x) / (weight + share)) (Scalar.ofInt 1)

/-- The mean of a state; missing before the first valid number. -/
def Smoothing.value : Smoothing α → α
  | .empty => Scalar.missing
  | .mean value _ => value

/-- The exponential mean after every number. -/
def smoothFrom (period : Int) (s : Smoothing α) : List α → List α
  | [] => []
  | x :: rest =>
    let next := s.step period x
    next.value :: smoothFrom period next rest

/-- The exponential mean, given out once `period` numbers have come in. -/
def exponentialMean (xs : List α) (period : Int) : List α :=
  if isShort xs period then [] else (smoothFrom period .empty xs).drop (period.toNat - 1)

/-- Differences of neighbours. -/
def deltas : List α → List α
  | x :: y :: rest => (y - x) :: deltas (y :: rest)
  | _ => []

/-- The positive part of a number; a missing one stays missing. -/
def gainOf (d : α) : α := if Scalar.below d (Scalar.ofInt 0) then Scalar.ofInt 0 else d

/-- The size of the negative part of a number; a missing one stays missing. -/
def lossOf (d : α) : α := gainOf (Scalar.ofInt 0 - d)

/-- The strength index of average gain and loss: a hundred when there is no loss. -/
def strength (gain loss : α) : α :=
  if Scalar.isZero loss then Scalar.ofInt 100
  else Scalar.ofInt 100 - Scalar.ofInt 100 / (Scalar.ofInt 1 + gain / loss)

/-- One step of the average of gains or losses. -/
def averageStep (period : Int) (average sample : α) : α :=
  (average * Scalar.ofInt (period - 1) + sample) / Scalar.ofInt period

/-- The strength index after every further delta. -/
def strengthFrom (period : Int) (gain loss : α) : List α → List α
  | [] => []
  | d :: rest =>
    let gain := averageStep period gain (gainOf d)
    let loss := averageStep period loss (lossOf d)
    strength gain loss :: strengthFrom period gain loss rest

/-- The mean of a list as it is. -/
def plainMean (xs : List α) : α := total xs / Scalar.ofInt xs.length

/-- The strength index: the first value uses the plain means of the first `period` gains
and losses, later ones smooth them. -/
def strengthIndex (xs : List α) (period : Int) : List α :=
  if period < 1 || (xs.length : Int) < period + 1 then []
  else
    let ds := deltas xs
    let first := ds.take period.toNat
    let gain := plainMean (first.map gainOf)
    let loss := plainMean (first.map lossOf)
    strength gain loss :: strengthFrom period gain loss (ds.drop period.toNat)

end ChartScript.Indicator
