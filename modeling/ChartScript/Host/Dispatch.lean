import ChartScript.Artifact.Stage
import ChartScript.Attachment.Store
import ChartScript.Market.BarStore
import ChartScript.Message.Call
/-!
# Serving capability calls

A decoded call is carried out against the stage of its run and the collaborators of the
host. Plots take effect at once; bars and attachments have to be fetched, and what
comes back is checked before it becomes the answer.
-/

namespace ChartScript.Host

open Message (Call)
open Artifact (Stage Content)

/-- What has to be fetched from a collaborator. -/
inductive Fetch where
  /-- The bars of a symbol and timeframe. -/
  | bars (symbol timeframe : String)
  /-- The names of the attachments. -/
  | names
  /-- An attachment as a table. -/
  | table (name : String)
  deriving Repr, DecidableEq

/-- The collaborators of the host. -/
structure Collaborators where
  /-- What a fetch brings. -/
  fetch : Fetch → Except Failure Wire
  /-- Whether there are attachments at all. -/
  hasAttachments : Bool

/-- The collaborators in memory. -/
def Collaborators.ofStores (bars : Market.BarStore) (attachments : Option Attachment.Store) :
    Collaborators where
  fetch
    | .bars symbol timeframe =>
      .ok (.list ((bars.bars symbol timeframe).map fun b => b.view.dump))
    | .names => .ok (Wire.texts ((attachments.map Attachment.Store.names).getD []))
    | .table name =>
      match attachments with
      | none => .error (Attachment.notFound name)
      | some store => (store.table name).map fun t => t.view.dump
  hasAttachments := attachments.isSome

/-- What becomes of a call. -/
inductive Served where
  /-- It is answered, and the stage is this afterwards. -/
  | answered (stage : Stage) (answer : Except Failure Wire)
  /-- It waits for a fetch. -/
  | waiting (fetch : Fetch)

/-- Begins to serve a call. -/
def serve (hasAttachments : Bool) (call : Call) (stage : Stage) : Served :=
  match call with
  | .getBars symbol timeframe => .waiting (.bars symbol timeframe)
  | .plot id options drawing =>
    match stage.put drawing.kind id ⟨drawing.payload, options⟩ with
    | .ok (next, _) => .answered next (.ok (.bool true))
    | .error f => .answered stage (.error f)
  | .listAttachments => if hasAttachments then .waiting .names else .answered stage (.ok (.list []))
  | .readAttachment name =>
    if hasAttachments then .waiting (.table name)
    else .answered stage (.error (Attachment.notFound name))

/-- The elements of fetched data; data without elements is refused. -/
def elementsOf (w : Wire) : Except Failure (List Wire) :=
  w.elements.mapError Wire.MappingError.failure

/-- A value that satisfies a check, as data. -/
def checkedData {α : Type} (check : Schema.Check α) (view : α → Schema.RecordView) (w : Wire) :
    Except Failure Wire :=
  match check w with
  | .valid a => .ok (view a).dump
  | .invalid vs => .error (.ofViolations vs)

/-- Whether a failure says that there is no such attachment. -/
def saysAbsent (f : Failure) : Bool := f.kind = .key || f.kind = .fileNotFound

/-- The answer that a fetch leads to. Bars are checked one by one, and data that counts as
false is no bars at all. An attachment that the collaborator does not know is missing. -/
def Fetch.answer (fetch : Fetch) (fetched : Except Failure Wire) : Except Failure Wire :=
  match fetch with
  | .bars _ _ => do
    let w ← fetched
    if w.truthy then
      let items ← elementsOf w
      return .list (← items.mapM (checkedData Market.Bar.check Market.Bar.view))
    else return .list []
  | .names => do
    let w ← fetched
    return .list (← elementsOf w)
  | .table name =>
    match fetched with
    | .error f => .error (if saysAbsent f then Attachment.notFound name else f)
    | .ok .null => .error (Attachment.notFound name)
    | .ok w => checkedData Attachment.Table.check Attachment.Table.view w

/-- Serves a call to its end. -/
def dispatch (c : Collaborators) (call : Call) (stage : Stage) : Stage × Except Failure Wire :=
  match serve c.hasAttachments call stage with
  | .answered next answer => (next, answer)
  | .waiting fetch => (stage, fetch.answer (c.fetch fetch))

/-- The refusal of anything that is no decoded call. -/
def refuseUndecoded (w : Wire) : Failure :=
  Message.unknownMethod w.inner

end ChartScript.Host
