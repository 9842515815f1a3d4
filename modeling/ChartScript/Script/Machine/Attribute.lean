import ChartScript.Script.Machine.Basic
/-!
# Attributes

Reading, assigning and removing attributes of values, and calling the methods that need
nothing to run.
-/

namespace ChartScript.Script

/-- The names of the methods of the values of a type. -/
def methodsOfType : String → List String
  | "str" => TextMethod.names
  | "bytes" => NumberMethod.bytesNames
  | "int" => NumberMethod.intNames
  | "bool" => NumberMethod.intNames
  | "float" => NumberMethod.floatNames
  | "complex" => ["conjugate"]
  | "list" => ListMethod.names
  | "tuple" => TupleMethod.names
  | "range" => TupleMethod.names
  | "dict" => DictMethod.names
  | "set" => SetMethod.names
  | "array.array" => ArrayMethod.names
  | "dict_keys" => ["isdisjoint"]
  | "dict_items" => ["isdisjoint"]
  | "generator" => ["close", "send", "throw"]
  | "coroutine" => ["close"]
  | "_asyncio.Future" => ["cancel", "cancelled", "done", "exception", "result",
      "set_exception", "set_result"]
  | _ => []

/-- The names of the methods of a value. -/
def methodsOf (h : Heap) (v : Value) : List String :=
  match v with
  | .object a =>
    match h.get? a with
    | some (.exception _ _) => ["add_note", "with_traceback"]
    | _ => methodsOfType (h.typeName v)
  | _ => methodsOfType (h.typeName v)

/-- The names of the parts of a value that can be read only. -/
def partsOf : Value → List String
  | .bool _ | .int _ => ["real", "imag", "numerator", "denominator"]
  | .float _ | .complex _ _ => ["real", "imag"]
  | .range _ _ _ | .slice _ _ _ => ["start", "stop", "step"]
  | _ => []

/-- The part of a value with a name. -/
def partOf? (h : Heap) (v : Value) (name : String) : Option Value :=
  match v, name with
  | .range a _ _, "start" => some (.int a)
  | .range _ b _, "stop" => some (.int b)
  | .range _ _ c, "step" => some (.int c)
  | .object a, _ =>
    match h.get? a, name with
    | some (.exception _ args), "args" => some (.tuple args)
    | some (.exception "StopIteration" args), "value" => some (args.headD .none)
    | some (.array code _), "typecode" => some (.text (String.singleton code))
    | some (.function closure), _ => closure.attributes.lookup name
    | _, _ => none
  | _, _ => NumberMethod.part? v name

/-- An attribute that a value does not have. -/
def absentAttribute (h : Heap) (v : Value) (name : String) : Raised :=
  .attributeError ("'" ++ h.typeName v ++ "' object has no attribute '" ++ name ++ "'")

/-- The value of an attribute. -/
def readAttribute (setting : Message.EnvSpec) (h : Heap) (v : Value) (name : String) :
    Except Raised Value :=
  match v with
  | .host part => Environment.member setting part name
  | .module m =>
    match Mathematics.constant? name with
    | some c => .ok c
    | none =>
      if Mathematics.hasFunction name then .ok (.builtin ("math." ++ name))
      else .error (.attributeError ("module '" ++ m ++ "' has no attribute '" ++ name ++ "'"))
  | .type t =>
    if (methodsOfType t).contains name then .ok (.method v name)
    else .error (.attributeError ("type object '" ++ t ++ "' has no attribute '" ++ name ++ "'"))
  | _ =>
    match partOf? h v name with
    | some part => .ok part
    | none =>
      if (methodsOf h v).contains name then .ok (.method v name)
      else .error (absentAttribute h v name)

/-- Assigns an attribute, or removes it if there is no value. -/
def assignAttribute (v : Value) (name : String) (value : Option Value) : Op Unit := do
  let h ← get
  match v with
  | .host part => throw (Environment.unassignable part name value.isNone)
  | .module _ => return ()
  | .type t =>
    throw (.typeError ("cannot set '" ++ name ++ "' attribute of immutable type '" ++ t ++ "'"))
  | _ =>
    let refuse : Op Unit :=
      if (methodsOf h v).contains name then
        throw (.attributeError ("'" ++ h.typeName v ++ "' object attribute '" ++ name ++
          "' is read-only"))
      else if (partsOf v).contains name then
        throw (.attributeError (
          match v with
          | .range _ _ _ | .slice _ _ _ => "readonly attribute"
          | _ =>
            "attribute '" ++ name ++ "' of '" ++ h.typeName v ++ "' objects is not writable"))
      else throw (absentAttribute h v name)
    match v with
    | .object a =>
      match h.get? a with
      | some (.function closure) =>
        match value with
        | some w =>
          Op.put a (.function { closure with attributes := Assoc.put closure.attributes name w })
        | none =>
          if (closure.attributes.lookup name).isNone then throw (absentAttribute h v name)
          Op.put a (.function { closure with attributes := Assoc.erase closure.attributes name })
      | some (.exception type _) =>
        match name, value with
        | "args", some w =>
          match h.elements? w with
          | some items => Op.put a (.exception type items)
          | none => throw (.typeError ("'" ++ h.typeName w ++ "' object is not iterable"))
        | _, _ => return ()
      | _ => refuse
    | _ => refuse

/-- A method that needs nothing to run is called. -/
def callMethod (owner : Value) (name : String) (args : List Value) (kws : Keywords) : Op Value := do
  let h ← get
  match owner with
  | .text s => TextMethod.call s name args kws
  | .bytes bs => NumberMethod.callBytes bs name args kws
  | .bool b => NumberMethod.callInt "bool" (if b then 1 else 0) name args kws
  | .int i => NumberMethod.callInt "int" i name args kws
  | .float x => NumberMethod.callFloat x name args kws
  | .complex re im =>
    Op.lift (Arity.none ("complex." ++ name) args kws)
    return .complex re (-im)
  | .tuple items => TupleMethod.call items name args kws
  | .range a b c => TupleMethod.callRange (rangeItems a c (rangeSize a b c)) name args kws
  | .type "dict" => DictMethod.call 0 #[] name args kws
  | .type _ => TextMethod.call "" name args kws
  | .object a =>
    match h.get? a with
    | some (.list items) => ListMethod.call a items name args kws
    | some (.dict entries) => DictMethod.call a entries name args kws
    | some (.set items) => SetMethod.call a items name args kws
    | some (.array code items) => ArrayMethod.call a code items name args kws
    | some (.view kind dict) =>
      let items ← elementsOf (h.viewItems kind dict)
      let others ← SetMethod.argument (← Op.lift (Arity.one (h.typeName owner ++ "." ++ name) args kws))
      return .bool (items.all fun e => (Heap.find? others e.1).isNone)
    | some (.exception _ _) =>
      let _ ← Op.lift (Arity.one (h.typeName owner ++ "." ++ name) args kws)
      return if name = "with_traceback" then owner else .none
    | _ => throw (absentAttribute h owner name)
  | _ => throw (absentAttribute h owner name)

end ChartScript.Script
