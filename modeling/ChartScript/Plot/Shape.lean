import ChartScript.Plot.Kind
import ChartScript.Schema.Record
/-!
# What is drawn

The items that plots are made of: samples of a line, samples of bands, boxes and
labels, and the three series of a convergence indicator.
-/

namespace ChartScript.Plot

open Schema (FieldView RecordView)

/-- A sample of a line or histogram; no value means no data yet. -/
structure LinePoint where
  /-- Time in whole seconds. -/
  time : Int
  /-- The value, if there is one. -/
  value : Option Float
  deriving Inhabited

/-- A sample of bands. -/
structure BandPoint where
  /-- Time in whole seconds. -/
  time : Int
  /-- The upper line. -/
  upper : Float
  /-- The middle line. -/
  basis : Float
  /-- The lower line. -/
  lower : Float
  deriving Inhabited

/-- A rectangle of times and prices. -/
structure Box where
  /-- First time. -/
  start : Int
  /-- Last time. -/
  stop : Int
  /-- Upper price. -/
  top : Float
  /-- Lower price. -/
  bottom : Float
  deriving Inhabited

/-- The mark of a label. -/
inductive Mark where
  /-- An arrow up. -/
  | up
  /-- An arrow down. -/
  | down
  /-- A circle. -/
  | circle
  deriving Repr, DecidableEq

/-- The name of a mark. -/
def Mark.name : Mark → String
  | .up => "up"
  | .down => "down"
  | .circle => "circle"

/-- The marks in order. -/
def Mark.all : List Mark := [.up, .down, .circle]

/-- A check of the name of a mark. -/
def Mark.check : Schema.Check Mark := fun w =>
  let refused : Schema.Checked Mark :=
    .refuse (.literal (Mark.all.map fun m => Text.Quoted.encode m.name)) w
  match w with
  | .text s =>
    match Mark.all.find? fun m => m.name = s with
    | some m => .valid m
    | none => refused
  | _ => refused

/-- An annotated point. -/
structure Label where
  /-- Time in whole seconds. -/
  time : Int
  /-- Price. -/
  price : Float
  /-- The annotation. -/
  text : String
  /-- Colour of the annotation. -/
  color : Option String
  /-- Colour behind the annotation. -/
  background : Option String
  /-- The mark at the point. -/
  shape : Option Mark
  /-- Size of the annotation. -/
  size : Option Float
  deriving Inhabited

namespace LinePoint

/-- Checks a sample of a line. -/
def check : Schema.Check LinePoint :=
  Schema.record "LinePoint" fun o =>
    LinePoint.mk <$> o.required ["time"] Schema.integer
      <*> o.withDefault ["value"] none (Schema.optional Schema.number)

/-- The sample as data. -/
def view (p : LinePoint) : RecordView :=
  ⟨"LinePoint", false, [.plain "time" (.int p.time), .plain "value" (Wire.ofFloat? p.value)]⟩

end LinePoint

namespace BandPoint

/-- Checks a sample of bands. -/
def check : Schema.Check BandPoint :=
  Schema.record "BandPoint" fun o =>
    BandPoint.mk <$> o.required ["time"] Schema.integer
      <*> o.required ["upper"] Schema.number
      <*> o.required ["basis"] Schema.number
      <*> o.required ["lower"] Schema.number

/-- The sample as data. -/
def view (p : BandPoint) : RecordView :=
  ⟨"BandPoint", false, [.plain "time" (.int p.time), .plain "upper" (.float p.upper),
    .plain "basis" (.float p.basis), .plain "lower" (.float p.lower)]⟩

end BandPoint

namespace Box

/-- Checks a box; its first time is named `from` and may also be given as `from_`. -/
def check : Schema.Check Box :=
  Schema.record "Box" fun o =>
    Box.mk <$> o.required ["from", "from_"] Schema.integer
      <*> o.required ["to"] Schema.integer
      <*> o.required ["top"] Schema.number
      <*> o.required ["bottom"] Schema.number

/-- The box as data. -/
def view (b : Box) : RecordView :=
  ⟨"Box", false, [⟨"from_", "from", .int b.start⟩, .plain "to" (.int b.stop),
    .plain "top" (.float b.top), .plain "bottom" (.float b.bottom)]⟩

end Box

namespace Label

/-- Checks a label. -/
def check : Schema.Check Label :=
  Schema.record "Label" fun o =>
    Label.mk <$> o.required ["time"] Schema.integer
      <*> o.required ["price"] Schema.number
      <*> o.withDefault ["text"] "" Schema.text
      <*> o.withDefault ["color"] none (Schema.optional Schema.text)
      <*> o.withDefault ["background"] none (Schema.optional Schema.text)
      <*> o.withDefault ["shape"] none (Schema.optional Mark.check)
      <*> o.withDefault ["size"] none (Schema.optional Schema.number)

/-- The label as data. -/
def view (l : Label) : RecordView :=
  ⟨"Label", false, [.plain "time" (.int l.time), .plain "price" (.float l.price),
    .plain "text" (.text l.text), .plain "color" (Wire.ofText? l.color),
    .plain "background" (Wire.ofText? l.background),
    .plain "shape" (Wire.ofText? (l.shape.map Mark.name)),
    .plain "size" (Wire.ofFloat? l.size)]⟩

end Label

/-- The three series of a convergence indicator. -/
structure Convergence where
  /-- Difference of the fast and the slow mean. -/
  macd : List LinePoint
  /-- Smoothed difference. -/
  signal : List LinePoint
  /-- Difference of the two. -/
  histogram : List LinePoint
  deriving Inhabited

namespace Convergence

/-- Checks the three series. -/
def check : Schema.Check Convergence :=
  Schema.record "MacdResult" fun o =>
    let series := Schema.listOf LinePoint.check
    Convergence.mk <$> o.withDefault ["macd"] [] series
      <*> o.withDefault ["signal"] [] series
      <*> o.withDefault ["histogram"] [] series

/-- The samples of a series as data. -/
def seriesData (points : List LinePoint) : Wire := .list (points.map fun p => p.view.dump)

/-- The three series as data. -/
def view (c : Convergence) : RecordView :=
  ⟨"MacdResult", false, [.plain "macd" (seriesData c.macd),
    .plain "signal" (seriesData c.signal), .plain "histogram" (seriesData c.histogram)]⟩

/-- Whether there is nothing to draw. -/
def isEmpty (c : Convergence) : Bool := c.macd.isEmpty

end Convergence

end ChartScript.Plot
