import ChartScript.Message.Rpc
import ChartScript.Plot.Shape
/-!
# Capability calls

The closed set of calls that a script can make: bars, five kinds of plots and two ways
to the attachments. A request is decoded into one of them or refused with the first
violation of its parameters.
-/

namespace ChartScript.Message

open Schema (FieldView RecordView)
open Plot (LinePoint BandPoint Box Label)

/-- What a plot call draws. -/
inductive Drawing where
  /-- A line. -/
  | line (points : List LinePoint)
  /-- Bands. -/
  | bands (points : List BandPoint)
  /-- A histogram. -/
  | histogram (points : List LinePoint)
  /-- Boxes. -/
  | boxes (items : List Box)
  /-- Labels. -/
  | labels (items : List Label)

/-- The kind of artifact that is drawn. -/
def Drawing.kind : Drawing → Plot.Kind
  | .line _ => .line
  | .bands _ => .bands
  | .histogram _ => .histogram
  | .boxes _ => .boxes
  | .labels _ => .labels

/-- What is drawn, in the form in which a sink keeps it: boxes by their wire names, labels
without null fields. -/
def Drawing.payload : Drawing → List Wire
  | .line points => points.map fun p => p.view.dump
  | .bands points => points.map fun p => p.view.dump
  | .histogram points => points.map fun p => p.view.dump
  | .boxes items => items.map fun b => b.view.byAlias
  | .labels items => items.map fun l => l.view.dumpPresent

/-- What is drawn, by field names. -/
def Drawing.dump : Drawing → List Wire
  | .boxes items => items.map fun b => b.view.dump
  | .labels items => items.map fun l => l.view.dump
  | d => d.payload

/-- The parameter that holds what is drawn. -/
def itemsKey : Plot.Kind → String
  | .boxes => "boxes"
  | .labels => "labels"
  | _ => "points"

/-- The parameters of a plot call of a kind: the id, what is drawn and the options. -/
def plotParams {α : Type} (kind : Plot.Kind) (id items options : α) : List (String × α) :=
  [("id", id), (itemsKey kind, items), ("opts", options)]

/-- The method that draws a kind of artifact. -/
def plotMethod (kind : Plot.Kind) : String := "plot:" ++ kind.name

/-- A decoded capability call. -/
inductive Call where
  /-- Asks for bars. -/
  | getBars (symbol timeframe : String)
  /-- Draws an artifact under an id, with options. -/
  | plot (id : String) (options : List (String × Wire)) (drawing : Drawing)
  /-- Asks for the names of the attachments. -/
  | listAttachments
  /-- Asks for an attachment as a table. -/
  | readAttachment (name : String)

/-- The method of a call. -/
def Call.method : Call → String
  | .getBars _ _ => "getBars"
  | .plot _ _ drawing => plotMethod drawing.kind
  | .listAttachments => "attachments:list"
  | .readAttachment _ => "attachments:csv"

/-- The name of the type of a call. -/
def Call.typeName : Call → String
  | .getBars _ _ => "GetBarsCall"
  | .plot _ _ (.line _) => "PlotLineCall"
  | .plot _ _ (.bands _) => "PlotBandsCall"
  | .plot _ _ (.histogram _) => "PlotHistogramCall"
  | .plot _ _ (.boxes _) => "PlotBoxesCall"
  | .plot _ _ (.labels _) => "PlotLabelsCall"
  | .listAttachments => "AttachmentsListCall"
  | .readAttachment _ => "AttachmentsCsvCall"

/-- A call as data. -/
def Call.view (call : Call) : RecordView :=
  ⟨call.typeName, false,
    match call with
    | .getBars symbol timeframe =>
      [.plain "method" (.text call.method), .plain "symbol" (.text symbol),
        .plain "timeframe" (.text timeframe)]
    | .plot id options drawing =>
      [.plain "id" (.text id), .plain "opts" (.object options),
        .plain "method" (.text call.method),
        .plain (itemsKey drawing.kind) (.list drawing.dump)]
    | .listAttachments => [.plain "method" (.text call.method)]
    | .readAttachment name =>
      [.plain "method" (.text call.method), .plain "name" (.text name)]⟩

/-- Checks what a plot call of a kind draws. -/
def Drawing.check : Plot.Kind → Schema.Check Drawing
  | .line => fun w => (Schema.listOf LinePoint.check w).map .line
  | .bands => fun w => (Schema.listOf BandPoint.check w).map .bands
  | .histogram => fun w => (Schema.listOf LinePoint.check w).map .histogram
  | .boxes => fun w => (Schema.listOf Box.check w).map .boxes
  | .labels => fun w => (Schema.listOf Label.check w).map .labels

/-- Checks the parameters of a plot call of a kind. -/
def checkPlot (kind : Plot.Kind) (o : Schema.Source) : Schema.Checked Call :=
  Call.plot <$> o.required ["id"] (Schema.ensuring Schema.text (fun s => !s.isEmpty) (.tooShort 1))
    <*> o.withDefault ["opts"] [] Schema.dict
    <*> o.required [itemsKey kind] (Drawing.check kind)

/-- A capability, by what its parameters are. -/
inductive Capability where
  /-- Bars of a symbol and timeframe. -/
  | bars
  /-- A plot of a kind. -/
  | plot (kind : Plot.Kind)
  /-- The names of the attachments. -/
  | attachmentNames
  /-- One attachment. -/
  | attachment
  deriving Repr, DecidableEq

/-- The method of a capability. -/
def Capability.method : Capability → String
  | .bars => "getBars"
  | .plot kind => plotMethod kind
  | .attachmentNames => "attachments:list"
  | .attachment => "attachments:csv"

/-- All capabilities. -/
def Capability.all : List Capability :=
  [.bars] ++ Plot.Kind.all.map .plot ++ [.attachmentNames, .attachment]

/-- The capability of a method. -/
def Capability.ofMethod? (method : String) : Option Capability :=
  Capability.all.find? fun c => c.method = method

/-- Checks the parameters of a capability. -/
def Capability.check (capability : Capability) (o : Schema.Source) : Schema.Checked Call :=
  match capability with
  | .bars => Call.getBars <$> o.required ["symbol"] Schema.text <*> o.required ["timeframe"] Schema.text
  | .plot kind => checkPlot kind o
  | .attachmentNames => .valid .listAttachments
  | .attachment => Call.readAttachment <$> o.required ["name"] Schema.text

/-- The refusal of an unknown method. -/
def unknownMethod (method : String) : Failure :=
  .sandbox .capability ("Unknown method: " ++ method)

/-- The refusal of parameters, which names the first violation and the way to it, beginning
with the method. -/
def malformedParams (method : String) (vs : List Schema.Violation) : Failure :=
  match vs with
  | [] => .sandbox .capability ("Malformed params for " ++ method ++ ": : ")
  | v :: _ =>
    let place := Wire.joinWith "." (method :: v.path.map Schema.Step.text)
    .sandbox .capability
      ("Malformed params for " ++ method ++ ": " ++ place ++ ": " ++ v.cause.message)

/-- Decodes a capability call. A parameter named like the method mark has no effect. -/
def Call.decode (method : String) (params : List (String × Wire)) : Except Failure Call :=
  match Capability.ofMethod? method with
  | none => .error (unknownMethod method)
  | some capability =>
    match capability.check ⟨Assoc.put params "method" (.text method)⟩ with
    | .valid call => .ok call
    | .invalid vs => .error (malformedParams method vs)

end ChartScript.Message
