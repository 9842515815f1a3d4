import ChartScript.Schema.Record
/-!
# Bars

One bar of market data: its time in whole seconds and five numbers. An absent or null
volume counts as zero; prices and volume may be infinite or NaN.
-/

namespace ChartScript.Market

open Schema (FieldView RecordView)

/-- A bar of market data. -/
structure Bar where
  /-- Time in whole seconds since the epoch. -/
  time : Int
  /-- First price. -/
  opening : Float
  /-- Highest price. -/
  high : Float
  /-- Lowest price. -/
  low : Float
  /-- Last price. -/
  close : Float
  /-- Traded volume. -/
  volume : Float
  deriving Inhabited

namespace Bar

/-- A volume; null counts as zero. -/
def checkVolume : Schema.Check Float := fun w =>
  match w with
  | .null => .valid 0
  | _ => Schema.number w

/-- Checks a bar. -/
def check : Schema.Check Bar :=
  Schema.record "Bar" fun o =>
    Bar.mk <$> o.required ["time"] Schema.integer
      <*> o.required ["open"] Schema.number
      <*> o.required ["high"] Schema.number
      <*> o.required ["low"] Schema.number
      <*> o.required ["close"] Schema.number
      <*> o.withDefault ["volume"] 0 checkVolume

/-- The bar as data. -/
def view (b : Bar) : RecordView :=
  ⟨"Bar", true, [.plain "time" (.int b.time), .plain "open" (.float b.opening),
    .plain "high" (.float b.high), .plain "low" (.float b.low),
    .plain "close" (.float b.close), .plain "volume" (.float b.volume)]⟩

/-- The mean of the highest, lowest and last price. -/
def typicalPrice (b : Bar) : Float := (b.high + b.low + b.close) / 3

end Bar

end ChartScript.Market
