import ChartScript.Artifact.Stage
/-!
# Sinks

Where committed artifacts go. A sink can write one artifact and remove all artifacts of
a kind whose ids begin with a text; either may fail. The sink in memory never fails and
keeps a record of all its writes.
-/

namespace ChartScript.Artifact

/-- What a commit needs of a sink with states `σ`. -/
structure SinkOps (σ : Type) where
  /-- Removes the artifacts of a kind whose ids begin with a text, and counts them. -/
  clearPrefix : Plot.Kind → String → σ → Except Failure (σ × Nat)
  /-- Writes one artifact. -/
  write : Key → Content → σ → Except Failure σ

/-- One value for each kind of artifact. -/
structure ByKind (α : Type) where
  /-- For lines. -/
  line : α
  /-- For bands. -/
  bands : α
  /-- For histograms. -/
  histogram : α
  /-- For boxes. -/
  boxes : α
  /-- For labels. -/
  labels : α
  deriving Inhabited

namespace ByKind

variable {α : Type}

/-- The value of a kind. -/
def get (b : ByKind α) : Plot.Kind → α
  | .line => b.line
  | .bands => b.bands
  | .histogram => b.histogram
  | .boxes => b.boxes
  | .labels => b.labels

/-- Replaces the value of a kind. -/
def set (b : ByKind α) (kind : Plot.Kind) (a : α) : ByKind α :=
  match kind with
  | .line => { b with line := a }
  | .bands => { b with bands := a }
  | .histogram => { b with histogram := a }
  | .boxes => { b with boxes := a }
  | .labels => { b with labels := a }

theorem get_set (b : ByKind α) (k l : Plot.Kind) (a : α) :
    (b.set k a).get l = if k = l then a else b.get l := by
  cases k <;> cases l <;> rfl

/-- The same value for every kind. -/
def all (a : α) : ByKind α := ⟨a, a, a, a, a⟩

end ByKind

/-- The sink in memory. -/
structure Sink where
  /-- The artifacts of each kind by id. -/
  artifacts : ByKind (List (String × Content))
  /-- All writes in order. -/
  writes : List Key
  deriving Inhabited

namespace Sink

/-- The sink without artifacts. -/
def empty : Sink := ⟨.all [], []⟩

/-- Writes one artifact in place of an earlier one of the same kind and id. -/
def write (sink : Sink) (key : Key) (content : Content) : Sink :=
  ⟨sink.artifacts.set key.kind (Assoc.put (sink.artifacts.get key.kind) key.id content),
    sink.writes ++ [key]⟩

/-- Removes the artifacts of a kind whose ids begin with a text, and counts them. -/
def clearPrefix (sink : Sink) (kind : Plot.Kind) (start : String) : Sink × Nat :=
  let old := sink.artifacts.get kind
  let kept := old.filter fun e => !startsWith start e.1
  ({ sink with artifacts := sink.artifacts.set kind kept }, old.length - kept.length)

/-- The artifact of a key. -/
def get? (sink : Sink) (key : Key) : Option Content :=
  Assoc.get? (sink.artifacts.get key.kind) key.id

/-- The distinct ids that begin with a text, sorted. -/
def ids (sink : Sink) (start : String) : List String :=
  let found := Plot.Kind.all.flatMap fun kind => Assoc.keys (sink.artifacts.get kind)
  ((found.filter (startsWith start)).mergeSort (· ≤ ·)).eraseDups

/-- The artifacts whose ids begin with a text, by kind. -/
def snapshot (sink : Sink) (start : String) : List (Plot.Kind × List (String × Content)) :=
  Plot.Kind.all.map fun kind =>
    (kind, (sink.artifacts.get kind).filter fun e => startsWith start e.1)

/-- The sink in memory as a sink. -/
def ops : SinkOps Sink where
  clearPrefix kind start sink := .ok (sink.clearPrefix kind start)
  write key content sink := .ok (sink.write key content)

end Sink

end ChartScript.Artifact
