import ChartScript.Schema.Field
/-!
# Records as data

A checked record seen as a list of named values, from which its three printed forms
follow: by field name, by the name used on the wire, and the wire form itself, which
leaves out null fields and replaces infinite numbers by null.
-/

namespace ChartScript.Schema

/-- One field of a record. -/
structure FieldView where
  /-- The name of the field. -/
  name : String
  /-- The name on the wire. -/
  wireName : String
  /-- The value. -/
  value : Wire

/-- A record as a list of fields. -/
structure RecordView where
  /-- The name of the record type. -/
  typeName : String
  /-- Whether the fields of a record may change. -/
  frozen : Bool
  /-- The fields in order. -/
  fields : List FieldView

/-- A field whose wire name is its own name. -/
def FieldView.plain (name : String) (value : Wire) : FieldView := ⟨name, name, value⟩

namespace RecordView

/-- The record by field names. -/
def dump (r : RecordView) : Wire := .object (r.fields.map fun f => (f.name, f.value))

/-- The record by wire names. -/
def byAlias (r : RecordView) : Wire := .object (r.fields.map fun f => (f.wireName, f.value))

/-- Whether a value is null. -/
def isNull : Wire → Bool
  | .null => true
  | _ => false

/-- The fields that are not null, by field names. -/
def dumpPresent (r : RecordView) : Wire :=
  .object ((r.fields.filter fun f => !isNull f.value).map fun f => (f.name, f.value))

/-- The wire form: wire names, without null fields, numbers made finite. A number that
becomes null inside a field stays there as null, and so does a field that was a number. -/
def toWire (r : RecordView) : Wire :=
  .object ((r.fields.filter fun f => !isNull f.value).map fun f => (f.wireName, f.value.finite))

/-- The record after an assignment to a field: unchangeable records refuse it. -/
def assign (r : RecordView) (name : String) (value : Wire) : Checked RecordView :=
  if r.frozen then (Checked.refuse .frozen value).under (.field name)
  else
    .valid { r with fields := r.fields.map fun f => if f.name = name then { f with value } else f }

end RecordView

end ChartScript.Schema
