import ChartScript.Context.Event
/-!
# The fleet

The contexts of all instances and what they share: the gallery and the console. An
instance has one context of record, the one that was started last. Starting another one
supersedes it, and removing the instance deletes its artifacts with it.
-/

namespace ChartScript

open Artifact (Gallery Registry SinkOps)
open Context (Scene)

/-- The contexts, known by their numbers in order of creation, and what they share. -/
structure Fleet (σ : Type) where
  /-- Every context so far. -/
  contexts : List Context
  /-- The registry and the sink. -/
  gallery : Gallery Nat σ
  /-- The console, if there is one. -/
  console : Option Console
  /-- The budget of a run that names none, in milliseconds. -/
  defaultTimeoutMs : Int

namespace Fleet

variable {σ : Type}

/-- The fleet before the first context. -/
def empty (sink : σ) (console : Option Console) (defaultTimeoutMs : Int) : Fleet σ :=
  ⟨[], ⟨.empty, sink⟩, console, defaultTimeoutMs⟩

/-- The registered instances. -/
def registry (f : Fleet σ) : Registry Nat := f.gallery.registry

/-- The context of record of an instance. -/
def contextOf? (f : Fleet σ) (instanceId : String) : Option (Nat × Context) := do
  let number ← f.registry.contextOf? instanceId
  let context ← f.contexts[number]?
  return (number, context)

/-- Something happens to the context of a number. -/
def within (now number : Nat) (act : Scene Nat σ → Scene Nat σ) (f : Fleet σ) : Fleet σ :=
  match f.contexts[number]? with
  | none => f
  | some context =>
    let s := act ⟨number, context, f.gallery, f.console, now⟩
    { f with
      contexts := f.contexts.set number s.context
      gallery := s.gallery
      console := s.console }

/-- The specification of a run as it is asked for. A budget that is absent or counts as
false is the default one. -/
def specify (f : Fleet σ) (source symbol timeframe timeoutMs : Wire) : Except Failure Run.Spec :=
  let timeout := if timeoutMs.truthy then timeoutMs else .int f.defaultTimeoutMs
  let asked : Wire :=
    .object [("symbol", symbol), ("timeframe", timeframe), ("source_code", source),
      ("timeout_ms", timeout)]
  (Run.Spec.check asked).toExcept.mapError .ofViolations

/-- The failure to find what an instance was last asked to run. -/
def unknownInstance (instanceId : String) : Failure := ⟨.key, Text.Quoted.encode instanceId⟩

/-- What an instance was last asked to run, with another budget if one is given. The budget
is taken as it is. -/
def lastSpec (f : Fleet σ) (instanceId : String) (timeoutMs : Option Int) :
    Except Failure Run.Spec :=
  match (f.registry.get? instanceId).bind Artifact.Record.spec with
  | none => .error (unknownInstance instanceId)
  | some spec => .ok { spec with timeoutMs := timeoutMs.getD spec.timeoutMs }

/-- The text of a run that another one took the place of. -/
def supersededText : String := "superseded"

/-- Begins to start a context for an instance, which becomes its context of record; the one
it had is killed first. Gives the number of the new one. -/
def start (now : Nat) (instanceId : String) (spec : Run.Spec) (f : Fleet σ) : Fleet σ × Nat :=
  let registered : Fleet σ :=
    { f with gallery := { f.gallery with registry := f.registry.ensure instanceId } }
  let cleared :=
    match registered.registry.contextOf? instanceId with
    | some previous => registered.within now previous (Context.terminate supersededText)
    | none => registered
  let number := cleared.contexts.length
  let recorded := cleared.registry.modify instanceId fun r =>
    { r with context := some number, spec := some spec }
  let joined : Fleet σ :=
    { cleared with
      contexts := cleared.contexts ++ [.create instanceId spec]
      gallery := { cleared.gallery with registry := recorded } }
  (joined.within now number Context.begin, number)

/-- Whether killing a context changes anything: it is not killed yet, and it is not settled
with its process gone. -/
def isKillable (c : Context) : Bool :=
  c.status ≠ .terminated && !(c.status.isTerminal && !c.isAlive)

/-- Kills the context of record of an instance, and tells whether there was anything to
kill. -/
def terminate (now : Nat) (instanceId reason : String) (f : Fleet σ) : Fleet σ × Bool :=
  match f.contextOf? instanceId with
  | none => (f, false)
  | some (number, context) =>
    if isKillable context then (f.within now number (Context.terminate reason), true)
    else (f, false)

/-- The text of a run whose instance was removed. -/
def removedText : String := "removed"

/-- Removes an instance: kills its context, deletes its artifacts and its record. Tells
whether it was registered. -/
def remove (ops : SinkOps σ) (now : Nat) (instanceId : String) (f : Fleet σ) :
    Fleet σ × Except Failure Bool :=
  if f.registry.has instanceId then
    let stopped := (f.terminate now instanceId removedText).1
    match stopped.gallery.clear ops instanceId with
    | (gallery, .error e) => ({ stopped with gallery }, .error e)
    | (gallery, .ok _) =>
      ({ stopped with gallery := { gallery with registry := gallery.registry.remove instanceId } },
        .ok true)
  else (f, .ok false)

/-- Removes instances in turn, up to the first one that cannot be removed. -/
def removeAll (ops : SinkOps σ) (now : Nat) : List String → Fleet σ → Fleet σ × Except Failure Unit
  | [], f => (f, .ok ())
  | instanceId :: rest, f =>
    match f.remove ops now instanceId with
    | (f, .ok _) => removeAll ops now rest f
    | (f, .error e) => (f, .error e)

/-- Removes every instance. -/
def shutdown (ops : SinkOps σ) (now : Nat) (f : Fleet σ) : Fleet σ × Except Failure Unit :=
  removeAll ops now f.registry.ids f

end Fleet

end ChartScript
