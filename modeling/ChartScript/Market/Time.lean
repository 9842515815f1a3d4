import ChartScript.Number.Conversion
/-!
# Bar times

Times are whole seconds since the epoch. A feed may deliver milliseconds instead; a
time of at least `10 ^ 11` in size is taken for milliseconds and divided down, rounding
toward the past.
-/

namespace ChartScript.Market

/-- Size from which a time is read as milliseconds. -/
def millisecondThreshold : Nat := Nat.pow 10 11

/-- Whole seconds for a time in seconds or milliseconds. -/
def toSeconds (time : Int) : Int :=
  if millisecondThreshold ≤ time.natAbs then time.fdiv 1000 else time

/-- Whole seconds for travelled data. -/
def epochSeconds (w : Wire) : Except Number.ConversionError Int :=
  (Number.toInt w).map toSeconds

end ChartScript.Market
