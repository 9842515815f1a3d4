import ChartScript.Artifact.Registry
import ChartScript.Artifact.Sink
/-!
# Commits

A commit replaces all artifacts of an instance by the writes of a stage. Only the
context of record may commit, and only an open stage; anything else is discarded. When
an operation of the sink fails, what it did before stays done.
-/

namespace ChartScript.Artifact

/-- The registry and the sink together. -/
structure Gallery (κ σ : Type) where
  /-- The registry. -/
  registry : Registry κ
  /-- The sink. -/
  sink : σ
  deriving Inhabited

namespace Gallery

variable {κ σ : Type}

/-- Removes the artifacts under a prefix for each of some kinds in turn, counting them. -/
def clearKinds (ops : SinkOps σ) (start : String) :
    List Plot.Kind → σ → Nat → σ × Except Failure Nat
  | [], sink, count => (sink, .ok count)
  | kind :: rest, sink, count =>
    match ops.clearPrefix kind start sink with
    | .error f => (sink, .error f)
    | .ok (next, removed) => clearKinds ops start rest next (count + removed)

/-- Removes every artifact of an instance and counts them. -/
def clear (ops : SinkOps σ) (g : Gallery κ σ) (instanceId : String) :
    Gallery κ σ × Except Failure Nat :=
  match clearKinds ops (ownPrefix instanceId) Plot.Kind.all g.sink 0 with
  | (sink, .error f) => ({ g with sink }, .error f)
  | (sink, .ok count) =>
    ({ g with
        sink
        registry := g.registry.modify instanceId fun r => { r with artifacts := [] } }, .ok count)

/-- Writes artifacts in turn. -/
def writeAll (ops : SinkOps σ) : List (Key × Content) → σ → σ × Except Failure Unit
  | [], sink => (sink, .ok ())
  | (key, content) :: rest, sink =>
    match ops.write key content sink with
    | .error f => (sink, .error f)
    | .ok next => writeAll ops rest next

/-- Whether a context may commit a stage. -/
def mayCommit [DecidableEq κ] (g : Gallery κ σ) (stage : Stage) (owner : Option κ) : Bool :=
  match g.registry.get? stage.instanceId with
  | none => false
  | some record => decide (record.context = owner) && stage.isOpen

/-- Replaces the artifacts of an instance by the writes of a stage, and gives their ids. -/
def commit [DecidableEq κ] (ops : SinkOps σ) (g : Gallery κ σ) (stage : Stage)
    (owner : Option κ) : Gallery κ σ × Stage × Except Failure (List String) :=
  if g.mayCommit stage owner then
    match g.clear ops stage.instanceId with
    | (cleared, .error f) => (cleared, stage, .error f)
    | (cleared, .ok _) =>
      match writeAll ops stage.writes cleared.sink with
      | (sink, .error f) => ({ cleared with sink }, stage, .error f)
      | (sink, .ok ()) =>
        let ids := stage.ids
        ({ sink
           registry := cleared.registry.modify stage.instanceId fun r =>
             { r with artifacts := ids.eraseDups } },
          stage.discard, .ok ids)
  else (g, stage.discard, .ok [])

end Gallery

end ChartScript.Artifact
