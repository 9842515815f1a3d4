import ChartScript.Data.Assoc
import ChartScript.Number.Layout
import ChartScript.Text.Quoted
/-!
# Data that travels

The values that cross a boundary of the program: requests, messages between host and
context, chart data and answers. Integers are unbounded and distinct from floating
point numbers; the fields of an object keep their order.
-/

namespace ChartScript

/-- A value without identity or behaviour. -/
inductive Wire where
  /-- Absence of a value. -/
  | null
  /-- A truth value. -/
  | bool (b : Bool)
  /-- An integer of any size. -/
  | int (n : Int)
  /-- A floating point number. -/
  | float (x : Float)
  /-- A text. -/
  | text (s : String)
  /-- A list of values. -/
  | list (items : List Wire)
  /-- Named values in order. -/
  | object (fields : List (String × Wire))
  deriving Inhabited

namespace Wire

/-- The name of the kind of a value, as messages give it. -/
def kindName : Wire → String
  | null => "NoneType"
  | bool _ => "bool"
  | int _ => "int"
  | float _ => "float"
  | text _ => "str"
  | list _ => "list"
  | object _ => "dict"

/-- Whether a value counts as true: all do but null, false, zeros and empty ones. -/
def truthy : Wire → Bool
  | null => false
  | bool b => b
  | int n => n != 0
  | float x => x != 0
  | text s => !s.isEmpty
  | list items => !items.isEmpty
  | object fields => !fields.isEmpty

/-- The field of an object; nothing for other values. -/
def field? (w : Wire) (name : String) : Option Wire :=
  match w with
  | object fields => Assoc.get? fields name
  | _ => none

/-- Texts joined by a separator. -/
def joinWith (separator : String) : List String → String
  | [] => ""
  | [s] => s
  | s :: rest => s ++ separator ++ joinWith separator rest

mutual

/-- The text of a value inside another one: texts are quoted. -/
def inner : Wire → String
  | null => "None"
  | bool b => if b then "True" else "False"
  | int n => toString n
  | float x => Number.display x
  | text s => Text.Quoted.encode s
  | list items => "[" ++ joinWith ", " (innerItems items) ++ "]"
  | object fields => "\x7b" ++ joinWith ", " (innerFields fields) ++ "\x7d"

/-- The texts of the items of a list. -/
def innerItems : List Wire → List String
  | [] => []
  | w :: rest => inner w :: innerItems rest

/-- The texts of the fields of an object. -/
def innerFields : List (String × Wire) → List String
  | [] => []
  | (k, w) :: rest => (Text.Quoted.encode k ++ ": " ++ inner w) :: innerFields rest

end

/-- The text of a value on its own: a text stands for itself. -/
def display : Wire → String
  | text s => s
  | w => inner w

mutual

/-- The value with every infinity and NaN replaced by null, as the pipe carries it. -/
def finite : Wire → Wire
  | float x => if x.isFinite then float x else null
  | list items => list (finiteItems items)
  | object fields => object (finiteFields fields)
  | w => w

/-- The items of a list made finite. -/
def finiteItems : List Wire → List Wire
  | [] => []
  | w :: rest => finite w :: finiteItems rest

/-- The fields of an object made finite. -/
def finiteFields : List (String × Wire) → List (String × Wire)
  | [] => []
  | (k, w) :: rest => (k, finite w) :: finiteFields rest

end

mutual

/-- Whether some number inside is infinite or NaN. -/
def hasNonFinite : Wire → Bool
  | float x => !x.isFinite
  | list items => anyNonFinite items
  | object fields => fieldsNonFinite fields
  | _ => false

/-- Whether some item has an infinite number or NaN. -/
def anyNonFinite : List Wire → Bool
  | [] => false
  | w :: rest => hasNonFinite w || anyNonFinite rest

/-- Whether some field has an infinite number or NaN. -/
def fieldsNonFinite : List (String × Wire) → Bool
  | [] => false
  | (_, w) :: rest => hasNonFinite w || fieldsNonFinite rest

end

/-- A list of texts. -/
def texts (items : List String) : Wire := list (items.map text)

/-- A text, or null. -/
def ofText? : Option String → Wire
  | some s => text s
  | none => null

/-- A number, or null. -/
def ofFloat? : Option Float → Wire
  | some x => float x
  | none => null

end Wire

end ChartScript
