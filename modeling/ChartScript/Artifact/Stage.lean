import ChartScript.Artifact.Id
import ChartScript.Failure
import ChartScript.Plot.Kind
/-!
# Stages

The writes that one run has collected. A later write to the same kind and id replaces
the earlier one and moves to the end. A stage that was closed is empty and refuses
every further write.
-/

namespace ChartScript.Artifact

/-- What one artifact is written under. -/
structure Key where
  /-- The kind of the artifact. -/
  kind : Plot.Kind
  /-- The full id. -/
  id : String
  deriving Repr, DecidableEq

/-- What is drawn, with its options. -/
structure Content where
  /-- The items. -/
  data : List Wire
  /-- The options. -/
  options : List (String × Wire)
  deriving Inhabited

/-- The writes of one run. -/
structure Stage where
  /-- The instance the run belongs to. -/
  instanceId : String
  /-- The writes in order of their last put. -/
  writes : List (Key × Content)
  /-- Whether the stage takes further writes. -/
  isOpen : Bool
  deriving Inhabited

namespace Stage

/-- A new stage of an instance. -/
def forInstance (instanceId : String) : Stage := ⟨instanceId, [], true⟩

/-- The failure to write to a closed stage. -/
def closedFailure : Failure := .sandbox .contextTerminated "artifact stage is closed"

/-- The key of a write under an id that a run emits. -/
def keyOf (stage : Stage) (kind : Plot.Kind) (id : String) : Key :=
  ⟨kind, qualify stage.instanceId id⟩

/-- Adds a write and gives its full id. -/
def put (stage : Stage) (kind : Plot.Kind) (id : String) (content : Content) :
    Except Failure (Stage × String) :=
  if stage.isOpen then
    let key := stage.keyOf kind id
    .ok ({ stage with writes := Assoc.putLast stage.writes key content }, key.id)
  else .error closedFailure

/-- The full ids of the writes in order. -/
def ids (stage : Stage) : List String := stage.writes.map fun w => w.1.id

/-- Closes the stage and drops its writes. -/
def discard (stage : Stage) : Stage := { stage with writes := [], isOpen := false }

end Stage

end ChartScript.Artifact
