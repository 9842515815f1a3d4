import ChartScript.Attachment.Csv
import ChartScript.Text.Sha256
/-!
# The attachment store

Tables by name, each with its manifest. A text is parsed once, when it is added, and the table
and its manifest are checked before either is stored. A text for which any of this fails changes
nothing.
-/

namespace ChartScript.Attachment

/-- Number of digits of a checksum. -/
def checksumLength : Nat := 8

/-- The manifest of a table that was read from a text. -/
def Manifest.describe (name text : String) (table : Table) : Manifest :=
  ⟨name, text.utf8ByteSize, String.ofList ((Text.Sha256.hexDigestOf text).toList.take checksumLength),
    table.columns, table.rows.length⟩

/-- A record that was made from its fields, checked as such a record is. -/
def made {α : Type} (check : Schema.Check α) (view : α → Schema.RecordView) (a : α) :
    Except Failure α :=
  match check (view a).dump with
  | .valid b => .ok b
  | .invalid vs => .error (.ofViolations vs)

/-- The table of a text that is given under a name, and its manifest. -/
def admission (name text : String) : Except Failure (Table × Manifest) := do
  let parsed ← (Csv.parse text).mapError Csv.Fault.failure
  let table ← made Table.check Table.view parsed
  let manifest ← made Manifest.check Manifest.view (.describe name text table)
  return (table, manifest)

/-- A store of attachments. -/
structure Store where
  /-- The tables by name. -/
  tables : List (String × Table)
  /-- The manifests by name. -/
  manifests : List (String × Manifest)

/-- The failure to find an attachment. -/
def notFound (name : String) : Failure := .sandbox .attachmentMissing ("CSV not found: " ++ name)

namespace Store

/-- The store without attachments. -/
def empty : Store := ⟨[], []⟩

/-- Adds a table by its text, in place of an earlier one of the same name. -/
def add (store : Store) (name text : String) : Store × Except Failure Manifest :=
  match admission name text with
  | .error failure => (store, .error failure)
  | .ok (table, manifest) =>
    (⟨Assoc.put store.tables name table, Assoc.put store.manifests name manifest⟩, .ok manifest)

/-- Several additions in turn, up to the first that fails. -/
def addAll (store : Store) : List (String × String) → Except Failure Store
  | [] => .ok store
  | (name, text) :: rest => do
    let (next, added) := store.add name text
    let _ ← added
    next.addAll rest

/-- The names of the attachments, sorted. -/
def names (store : Store) : List String := (Assoc.keys store.tables).mergeSort (· ≤ ·)

/-- The table of a name. -/
def table (store : Store) (name : String) : Except Failure Table :=
  match Assoc.get? store.tables name with
  | some table => .ok table
  | none => .error (notFound name)

/-- The manifest of a name. -/
def manifest (store : Store) (name : String) : Except Failure Manifest :=
  match Assoc.get? store.manifests name with
  | some manifest => .ok manifest
  | none => .error (notFound name)

end Store

end ChartScript.Attachment
