import ChartScript.Failure
/-!
# Data read as a mapping

Objects are mappings of themselves. Other data can be read as one when it is a
collection of pairs; what is no such collection is refused with the first element that
is at fault.
-/

namespace ChartScript.Wire

/-- Why data cannot be read as a mapping, or as a collection at all. -/
inductive MappingError where
  /-- A value of this kind has no elements. -/
  | notIterable (kind : String)
  /-- The element at an index has no elements of its own. -/
  | notSequence (index : Nat)
  /-- The element at an index is no pair. -/
  | notPair (index length : Nat)
  /-- A key of this kind cannot be looked up. -/
  | unhashable (kind : String)

/-- The failure of an error. -/
def MappingError.failure : MappingError → Failure
  | .notIterable kind => .type ("'" ++ kind ++ "' object is not iterable")
  | .notSequence index =>
    .type ("cannot convert dictionary update sequence element #" ++ toString index ++
      " to a sequence")
  | .notPair index length =>
    .value ("dictionary update sequence element #" ++ toString index ++ " has length " ++
      toString length ++ "; 2 is required")
  | .unhashable kind => .type ("unhashable type: '" ++ kind ++ "'")

/-- The elements of a collection: of a list its items, of a text its characters, of an
object its names. -/
def elements? : Wire → Option (List Wire)
  | .list items => some items
  | .text s => some (s.toList.map fun c => .text (String.singleton c))
  | .object fields => some (fields.map fun f => .text f.1)
  | _ => none

/-- The elements of a collection, or the refusal of anything else. -/
def elements (w : Wire) : Except MappingError (List Wire) :=
  match w.elements? with
  | some items => .ok items
  | none => .error (.notIterable w.kindName)

/-- Whether a value can be a key. -/
def isKey : Wire → Bool
  | .list _ => false
  | .object _ => false
  | _ => true

/-- One element of a collection of pairs. -/
def pairAt (index : Nat) (w : Wire) : Except MappingError (Wire × Wire) :=
  match w.elements? with
  | none => .error (.notSequence index)
  | some [key, value] => if key.isKey then .ok (key, value) else .error (.unhashable key.kindName)
  | some items => .error (.notPair index items.length)

/-- The pairs of a collection from an index on; a later pair replaces the value of an
earlier one of the same name. Keys that are no texts have no name and are left out. -/
def pairsFrom : Nat → List (String × Wire) → List Wire → Except MappingError (List (String × Wire))
  | _, found, [] => .ok found
  | index, found, w :: rest =>
    match pairAt index w with
    | .error e => .error e
    | .ok (.text name, value) => pairsFrom (index + 1) (Assoc.put found name value) rest
    | .ok _ => pairsFrom (index + 1) found rest

/-- Data as named values. -/
def toMapping (w : Wire) : Except MappingError (List (String × Wire)) :=
  match w with
  | .object fields => .ok fields
  | _ => do pairsFrom 0 [] (← w.elements)

end ChartScript.Wire
