import ChartScript.Script.Method.Arity
import ChartScript.Failure
import ChartScript.Text.Utf8
/-!
# Values that travel

A value of a script as data and back. Containers become lists, keys become texts, and
numbers that are not finite become null. Functions and other values with behaviour do not
travel.
-/

namespace ChartScript.Script

/-- A value that does not travel. -/
def untransferable (h : Heap) (v : Value) : Raised :=
  let name := h.typeName v
  .of "PydanticSerializationError" ("Unable to serialize unknown type: <class '" ++ name ++ "'>")

/-- The field name that a key becomes. -/
def fieldName (h : Heap) (v : Value) : Except Raised String :=
  match v with
  | .none => .ok "None"
  | .bool b => .ok (if b then "true" else "false")
  | .tuple items => do
    let parts ← items.mapM h.display
    return joinTexts "," parts
  | v => h.display v

namespace Heap

/-- A value as data, down to a depth. -/
def transferWithin (h : Heap) : Nat → Value → Except Raised Wire
  | 0, _ => .error (.valueError "Circular reference detected (id repeated)")
  | depth + 1, v =>
    let each (items : List Value) : Except Raised Wire := do
      return .list (← items.mapM fun item => transferWithin h depth item)
    match v with
    | .none => .ok .null
    | .bool b => .ok (.bool b)
    | .int i => .ok (.int i)
    | .float x => .ok (if x.isFinite then .float x else .null)
    | .text s => .ok (.text s)
    | .bytes bs =>
      match Text.Utf8.decode bs with
      | .ok s => .ok (.text s)
      | .error _ => .error (untransferable h v)
    | .tuple items => each items
    | .object a =>
      match h.get? a with
      | some (.list items) => each items.toList
      | some (.set items) => each (setOrder items.toList)
      | some (.dict entries) => do
        let fields ← entries.toList.mapM fun e => do
          return (← fieldName h e.2.1, ← transferWithin h depth e.2.2)
        return .object (Assoc.putAll [] fields)
      | _ => .error (untransferable h v)
    | _ => .error (untransferable h v)

/-- A value as data. -/
def transfer (h : Heap) (v : Value) : Except Raised Wire := h.transferWithin 250 v

/-- An exception as a failure. -/
def failureOfRaised (h : Heap) (r : Raised) : Failure :=
  ⟨.ofTypeName r.type, (r.args.head?.map fun v => (h.display v).toOption.getD "").getD ""⟩

/-- An exception object as a failure. When its text cannot be made it is no failure that can be
told, and the failure to make the text is given. -/
def account (h : Heap) (e : Value) : Except Failure Failure :=
  match h.display e with
  | .ok text => .ok ⟨.ofTypeName (h.typeName e), text⟩
  | .error r => .error (h.failureOfRaised r)

/-- Named values as data. -/
def transferAll (h : Heap) (fields : List (String × Value)) :
    Except Failure (List (String × Wire)) :=
  let all : Except Raised (List (String × Wire)) :=
    fields.mapM fun f => do return (f.1, ← h.transfer f.2)
  all.mapError h.failureOfRaised

/-- A value as the data of a series or a period, if it is data; a number that is not finite
stays. -/
def dataWithin (h : Heap) : Nat → Value → Option Wire
  | 0, _ => none
  | depth + 1, v =>
    match v with
    | .none => some .null
    | .bool b => some (.bool b)
    | .int i => some (.int i)
    | .float x => some (.float x)
    | .text s => some (.text s)
    | .object a =>
      match h.get? a with
      | some (.dict entries) =>
        some (.object (entries.toList.map fun e => ((fieldName h e.2.1).toOption.getD "", .null)))
      | some (.list items) => (items.toList.mapM fun item => dataWithin h depth item).map .list
      | some (.array _ items) => (items.toList.mapM fun item => dataWithin h depth item).map .list
      | _ => none
    | .tuple items => (items.mapM fun item => dataWithin h depth item).map .list
    | .range a b c => (rangeItems a c (rangeSize a b c)).mapM (dataWithin h depth) |>.map .list
    | _ => none

/-- A value as the data of a series or a period, if it is data. -/
def data? (h : Heap) (v : Value) : Option Wire := h.dataWithin 100 v

end Heap

mutual

/-- Data as a value. -/
def receive : Wire → Op Value
  | .null => return .none
  | .bool b => return .bool b
  | .int n => return .int n
  | .float x => return .float x
  | .text s => return .text s
  | .list items => do Op.newList (← receiveItems items)
  | .object fields => do
    let entries ← receiveFields fields
    Op.alloc (.dict (entries.foldl (fun acc e => storeEntry acc (.text e.1) (.text e.1) e.2) #[]))

/-- The items of a list as values. -/
def receiveItems : List Wire → Op (List Value)
  | [] => return []
  | w :: rest => do
    let v ← receive w
    return v :: (← receiveItems rest)

/-- The fields of an object as values. -/
def receiveFields : List (String × Wire) → Op Keywords
  | [] => return []
  | (name, w) :: rest => do
    let v ← receive w
    return (name, v) :: (← receiveFields rest)

end

end ChartScript.Script
