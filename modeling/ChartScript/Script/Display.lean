import ChartScript.Script.Types
/-!
# Values as texts

The text of a value as it is printed, and its form inside of other values, in which texts
are quoted. Containers that hold themselves are shown by points.
-/

namespace ChartScript.Script

/-- Texts with a separator between them. -/
def joinTexts (separator : String) (items : List String) : String := separator.intercalate items

/-- An integer in digits, unless there are too many of them. -/
def intText (i : Int) : Except Raised String :=
  match intText? i with
  | some s => .ok s
  | none => .error (.valueError unwritableText)

/-- The address of an object as it is shown. -/
def addressText (a : Address) : String :=
  "0x7f" ++ String.ofList (Text.Quoted.hexDigits 10 (0x1000 + 16 * a))

/-- A range. -/
def rangeText (start stop step : Int) : String :=
  "range(" ++ toString start ++ ", " ++ toString stop ++
    (if step = 1 then "" else ", " ++ toString step) ++ ")"

/-- The order in which a set is shown: whole numbers ascending, then all else as it came. -/
def setOrder (items : List (Key × Value)) : List Value :=
  let numbers := items.filterMap fun
    | (.int i, v) => some (i, v)
    | _ => none
  let others := items.filterMap fun
    | (.int _, _) => none
    | (_, v) => some v
  (numbers.mergeSort fun a b => a.1 ≤ b.1).map Prod.snd ++ others

namespace Heap

/-- The name of a type as it is shown. -/
def typeText (name : String) : String := "<class '" ++ name ++ "'>"

/-- The form of a value inside of others, down to a depth; `open_` holds the containers
that are being shown. -/
def inner (h : Heap) : Nat → List Address → Value → Except Raised String
  | 0, _, _ => .error .recursion
  | depth + 1, open_, v =>
    let each (items : List Value) : Except Raised (List String) :=
      items.mapM fun item => inner h depth open_ item
    match v with
    | .none => .ok "None"
    | .bool b => .ok (if b then "True" else "False")
    | .int i => intText i
    | .float x => .ok (Number.display x)
    | .complex re im => .ok (complexText re im)
    | .text s => .ok (Text.Quoted.encode s)
    | .bytes bs => .ok (Text.Quoted.encodeBytes bs)
    | .ellipsis => .ok "Ellipsis"
    | .tuple [one] => do return "(" ++ (← inner h depth open_ one) ++ ",)"
    | .tuple items => do return "(" ++ joinTexts ", " (← each items) ++ ")"
    | .range a b c => .ok (rangeText a b c)
    | .slice a b c => do
      return "slice(" ++ (← inner h depth open_ a) ++ ", " ++ (← inner h depth open_ b) ++ ", " ++
        (← inner h depth open_ c) ++ ")"
    | .builtin name =>
      .ok ("<built-in function " ++ ((name.splitOn ".").getLast?.getD name) ++ ">")
    | .type name =>
      .ok (typeText (if name = "array" then "array.array" else name))
    | .method owner name =>
      .ok ("<built-in method " ++ name ++ " of " ++ h.typeName owner ++ " object at " ++
        addressText 0 ++ ">")
    | .module name => .ok ("<module '" ++ name ++ "' (built-in)>")
    | .host part =>
      .ok ("<sandbox.environment." ++ part.typeName ++ " object at " ++ addressText 0 ++ ">")
    | .future _ => .ok "<Future pending>"
    | .object a =>
      match h.get? a with
      | none => .ok "<object>"
      | some object =>
        let again : Bool := open_.contains a
        let each (items : List Value) : Except Raised (List String) :=
          items.mapM fun item => inner h depth (a :: open_) item
        let entry (e : Key × Value × Value) : Except Raised String := do
          return (← inner h depth (a :: open_) e.2.1) ++ ": " ++ (← inner h depth (a :: open_) e.2.2)
        match object with
        | .list items =>
          if again then .ok "[...]"
          else do return "[" ++ joinTexts ", " (← each items.toList) ++ "]"
        | .dict entries =>
          if again then .ok "\x7b...\x7d"
          else do return "\x7b" ++ joinTexts ", " (← entries.toList.mapM entry) ++ "\x7d"
        | .set items =>
          if items.isEmpty then .ok "set()"
          else if again then .ok "set(...)"
          else do return "\x7b" ++ joinTexts ", " (← each (setOrder items.toList)) ++ "\x7d"
        | .array code items =>
          let mark := "array('" ++ String.singleton code ++ "'"
          if items.isEmpty then .ok (mark ++ ")")
          else do return mark ++ ", [" ++ joinTexts ", " (← each items.toList) ++ "])"
        | .view kind dict =>
          match h.get? dict with
          | some (.dict entries) =>
            let items : List Value := entries.toList.map fun e =>
              match kind with
              | .keys => e.2.1
              | .values => e.2.2
              | .items => .tuple [e.2.1, e.2.2]
            let name :=
              match kind with
              | .keys => "dict_keys"
              | .values => "dict_values"
              | .items => "dict_items"
            do return name ++ "([" ++ joinTexts ", " (← each items) ++ "])"
          | _ => .ok "<view>"
        | .function closure =>
          .ok ("<function " ++ closure.code.qualname ++ " at " ++ addressText a ++ ">")
        | .generator name isAsync _ =>
          .ok ((if isAsync then "<async_generator object " else "<generator object ") ++ name ++ " at " ++
            addressText a ++ ">")
        | .coroutine name _ => .ok ("<coroutine object " ++ name ++ " at " ++ addressText a ++ ">")
        | .source type _ => .ok ("<" ++ type ++ " object at " ++ addressText a ++ ">")
        | .exception type args => do
          return type ++ "(" ++ joinTexts ", " (← each args) ++ ")"
        | .variables _ => .ok "<module>"

/-- How deep containers are shown. -/
def maxDepth : Nat := 1000

/-- The form of a value inside of others. -/
def quoted (h : Heap) (v : Value) : Except Raised String := h.inner maxDepth [] v

/-- The text of a value as it is printed. An exception is shown by its arguments: nothing,
the text of the only one, or all of them; the only argument of an absent key is quoted.
`depth` bounds exceptions inside of exceptions. -/
def displayWithin (h : Heap) : Nat → Value → Except Raised String
  | 0, v => h.quoted v
  | depth + 1, v =>
    match v with
    | .text s => .ok s
    | .object a =>
      match h.get? a with
      | some (.exception type args) =>
        match args with
        | [] => .ok ""
        | [only] => if type = "KeyError" then h.quoted only else displayWithin h depth only
        | several => h.quoted (.tuple several)
      | _ => h.quoted v
    | _ => h.quoted v

/-- The text of a value as it is printed. -/
def display (h : Heap) (v : Value) : Except Raised String := h.displayWithin 100 v

end Heap

/-- Lifts an outcome into work on the heap. -/
def Op.lift {α : Type} (r : Except Raised α) : Op α :=
  match r with
  | .ok a => return a
  | .error e => throw e

/-- The text of a value as it is printed. -/
def displayOf (v : Value) : Op String := do Op.lift ((← get).display v)

/-- The form of a value inside of others. -/
def quotedOf (v : Value) : Op String := do Op.lift ((← get).quoted v)

/-- The form of a value inside of others, in ASCII characters. -/
def asciiOf (v : Value) : Op String := do
  let s ← quotedOf v
  return String.ofList (s.toList.flatMap fun c =>
    if c.toNat < 128 then [c] else Text.Quoted.codeEscape c)

end ChartScript.Script
