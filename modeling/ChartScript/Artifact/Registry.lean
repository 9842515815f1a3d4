import ChartScript.Data.Assoc
import ChartScript.Run.Spec
/-!
# The registry of instances

One record per instance: what it was last asked to run, the context of record and the
ids of its committed artifacts. Contexts are known by values of a type `κ`.
-/

namespace ChartScript.Artifact

/-- What is known of an instance. -/
structure Record (κ : Type) where
  /-- What it was last asked to run. -/
  spec : Option Run.Spec
  /-- The context of record. -/
  context : Option κ
  /-- The ids of its committed artifacts. -/
  artifacts : List String
  deriving Inhabited

/-- The records of all instances in order of registration. -/
structure Registry (κ : Type) where
  /-- The records by instance. -/
  records : List (String × Record κ)
  deriving Inhabited

namespace Registry

variable {κ : Type}

/-- The registry without instances. -/
def empty : Registry κ := ⟨[]⟩

/-- The record of an instance. -/
def get? (registry : Registry κ) (instanceId : String) : Option (Record κ) :=
  Assoc.get? registry.records instanceId

/-- Whether an instance is registered. -/
def has (registry : Registry κ) (instanceId : String) : Bool := Assoc.has registry.records instanceId

/-- Replaces the record of an instance. -/
def put (registry : Registry κ) (instanceId : String) (record : Record κ) : Registry κ :=
  ⟨Assoc.put registry.records instanceId record⟩

/-- Registers an instance unless it is registered. -/
def ensure (registry : Registry κ) (instanceId : String) : Registry κ :=
  if registry.has instanceId then registry else registry.put instanceId ⟨none, none, []⟩

/-- Changes the record of a registered instance. -/
def modify (registry : Registry κ) (instanceId : String) (f : Record κ → Record κ) : Registry κ :=
  match registry.get? instanceId with
  | some record => registry.put instanceId (f record)
  | none => registry

/-- The context of record of an instance. -/
def contextOf? (registry : Registry κ) (instanceId : String) : Option κ :=
  (registry.get? instanceId).bind Record.context

/-- Removes an instance. -/
def remove (registry : Registry κ) (instanceId : String) : Registry κ :=
  ⟨Assoc.erase registry.records instanceId⟩

/-- The instances in order of registration. -/
def ids (registry : Registry κ) : List String := Assoc.keys registry.records

end Registry

end ChartScript.Artifact
