import ChartScript.Schema.Record
/-!
# Tables

A table of texts: the names of its columns and its rows, each row a cell per column. A
manifest describes a stored table without its cells.
-/

namespace ChartScript.Attachment

open Schema (FieldView RecordView)

/-- A table of texts. -/
structure Table where
  /-- The names of the columns. -/
  columns : List String
  /-- The rows, each a list of named cells. -/
  rows : List (List (String × String))
  deriving Inhabited

/-- What is known of a stored table. -/
structure Manifest where
  /-- The name it is stored under. -/
  name : String
  /-- Bytes of its text. -/
  size : Int
  /-- First digits of the digest of its text. -/
  checksum : String
  /-- The names of its columns. -/
  columns : List String
  /-- Number of its rows. -/
  rowCount : Int
  deriving Inhabited

namespace Table

/-- Checks a table. -/
def check : Schema.Check Table :=
  Schema.record "CsvTable" fun o =>
    Table.mk <$> o.withDefault ["columns"] [] (Schema.listOf Schema.text)
      <*> o.withDefault ["rows"] [] (Schema.listOf (Schema.dictOf Schema.text))

/-- One row as data. -/
def rowData (row : List (String × String)) : Wire :=
  .object (row.map fun cell => (cell.1, .text cell.2))

/-- The table as data. -/
def view (t : Table) : RecordView :=
  ⟨"CsvTable", false, [.plain "columns" (Wire.texts t.columns),
    .plain "rows" (.list (t.rows.map rowData))]⟩

end Table

namespace Manifest

/-- Checks a manifest. -/
def check : Schema.Check Manifest :=
  Schema.record "CsvManifest" fun o =>
    Manifest.mk <$> o.required ["name"] Schema.text
      <*> o.required ["size"] Schema.integer
      <*> o.required ["checksum"] Schema.text
      <*> o.required ["columns"] (Schema.listOf Schema.text)
      <*> o.required ["row_count"] Schema.integer

/-- The manifest as data. -/
def view (m : Manifest) : RecordView :=
  ⟨"CsvManifest", false, [.plain "name" (.text m.name), .plain "size" (.int m.size),
    .plain "checksum" (.text m.checksum), .plain "columns" (Wire.texts m.columns),
    .plain "row_count" (.int m.rowCount)]⟩

end Manifest

end ChartScript.Attachment
