/-!
# Kinds of artifacts

What a script can draw. Every kind has a name, which is also the name of the sink's
write operation.
-/

namespace ChartScript.Plot

/-- A kind of artifact. -/
inductive Kind where
  /-- A line. -/
  | line
  /-- An upper, middle and lower line. -/
  | bands
  /-- Columns from zero. -/
  | histogram
  /-- Rectangles. -/
  | boxes
  /-- Annotated points. -/
  | labels
  deriving Repr, DecidableEq, Inhabited

/-- The name of a kind. -/
def Kind.name : Kind → String
  | .line => "line"
  | .bands => "bands"
  | .histogram => "histogram"
  | .boxes => "boxes"
  | .labels => "labels"

/-- All kinds in the order in which a sink lists them. -/
def Kind.all : List Kind := [.line, .bands, .histogram, .boxes, .labels]

/-- The kind of a name. -/
def Kind.ofName? (name : String) : Option Kind := Kind.all.find? fun k => k.name = name

theorem Kind.mem_all (k : Kind) : k ∈ Kind.all := by cases k <;> decide

end ChartScript.Plot
