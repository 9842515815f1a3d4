import ChartScript.Script.Method.Arity
/-!
# Methods of containers

Lists, tuples, dictionaries, sets, ranges and arrays of numbers. Arguments that are gone
through are given as containers, so nothing runs here.
-/

namespace ChartScript.Script

/-- The position of the first item that equals a value. -/
def indexIn (h : Heap) (v : Value) : Nat → List Value → Except Raised (Option Nat)
  | _, [] => .ok none
  | i, item :: rest => do
    if Heap.same item v then return some i
    else if ← h.equals item v then return some i
    else indexIn h v (i + 1) rest

/-- How many items equal a value. -/
def countIn (h : Heap) (v : Value) (items : List Value) : Except Raised Nat :=
  items.foldlM (fun n item => do
    if Heap.same item v then return n + 1
    else if ← h.equals item v then return n + 1
    else return n) 0

/-- The position of a value between optional bounds of a sequence. -/
def indexBetween (h : Heap) (items : List Value) (args : List Value) (absent : String) :
    Except Raised Value := do
  Arity.between "index" 1 3 args
  let (first, last) ← boundsOf items.length args[1]? args[2]?
  match ← indexIn h ((args[0]?).getD .none) first ((items.take last).drop first) with
  | some i => return .int i
  | none => throw (.valueError absent)

namespace ListMethod

/-- The names of the methods. -/
def names : List String :=
  ["append", "clear", "copy", "count", "extend", "index", "insert", "pop", "remove", "reverse",
    "sort"]

/-- A method of a list is called. -/
def call (a : Address) (items : Array Value) (name : String) (args : List Value) (kws : Keywords) :
    Op Value := do
  let h ← get
  let full := "list." ++ name
  let store (xs : Array Value) : Op Value := do
    Op.put a (.list xs)
    return .none
  match name with
  | "append" => store (items.push (← Op.lift (Arity.one full args kws)))
  | "clear" =>
    Op.lift (Arity.none full args kws)
    store #[]
  | "copy" =>
    Op.lift (Arity.none full args kws)
    Op.alloc (.list items)
  | "count" => return .int (← Op.lift (countIn h (← Op.lift (Arity.one full args kws)) items.toList))
  | "extend" =>
    let more ← Op.lift (elementsOrRefuse h (← Op.lift (Arity.one full args kws)))
    store (items ++ more.toArray)
  | "index" =>
    Op.lift (Arity.noKeywords full kws)
    let absent ← quotedOf ((args[0]?).getD .none)
    Op.lift (indexBetween h items.toList args (absent ++ " is not in list"))
  | "insert" =>
    Op.lift (Arity.noKeywords full kws)
    Op.lift (Arity.between "insert" 2 2 args)
    let i ← Op.lift (asIndex h ((args[0]?).getD .none))
    let place := (if i < 0 then max (i + items.size) 0 else min i items.size).toNat
    store (items.toList.take place ++ (args[1]?).getD .none :: items.toList.drop place).toArray
  | "pop" =>
    Op.lift (Arity.noKeywords full kws)
    Op.lift (Arity.between "pop" 0 1 args)
    let i ← Op.lift (asIndex h ((args[0]?).getD (.int (-1))))
    if items.isEmpty then throw (.indexError "pop from empty list")
    match positionIn? items.size i with
    | some p =>
      Op.put a (.list (items.eraseIdxIfInBounds p))
      return (items[p]?).getD .none
    | none => throw (.indexError "pop index out of range")
  | "remove" =>
    match ← Op.lift (indexIn h (← Op.lift (Arity.one full args kws)) 0 items.toList) with
    | some p => store (items.eraseIdxIfInBounds p)
    | none => throw (.valueError "list.remove(x): x not in list")
  | _ =>
    Op.lift (Arity.none full args kws)
    store items.reverse

end ListMethod

namespace TupleMethod

/-- The names of the methods. -/
def names : List String := ["count", "index"]

/-- A method of a tuple is called. -/
def call (items : List Value) (name : String) (args : List Value) (kws : Keywords) : Op Value := do
  let h ← get
  if name = "count" then
    return .int (← Op.lift (countIn h (← Op.lift (Arity.one "tuple.count" args kws)) items))
  else
    Op.lift (Arity.noKeywords "tuple.index" kws)
    Op.lift (indexBetween h items args "tuple.index(x): x not in tuple")

/-- A method of a range is called. -/
def callRange (items : List Value) (name : String) (args : List Value) (kws : Keywords) :
    Op Value := do
  let h ← get
  let v ← Op.lift (Arity.one ("range." ++ name) args kws)
  if name = "count" then return .int (← Op.lift (countIn h v items))
  else
    match ← Op.lift (indexIn h v 0 items) with
    | some i => return .int i
    | none => throw (.valueError ((← quotedOf v) ++ " is not in range"))

end TupleMethod

namespace DictMethod

/-- The names of the methods. -/
def names : List String :=
  ["clear", "copy", "fromkeys", "get", "items", "keys", "pop", "popitem", "setdefault", "update",
    "values"]

/-- Entries with keywords stored in them. -/
def withKeywords (entries : Array (Key × Value × Value)) (kws : Keywords) :
    Array (Key × Value × Value) :=
  kws.foldl (fun acc k => storeEntry acc (.text k.1) (.text k.1) k.2) entries

/-- A method of a dictionary is called. -/
def call (a : Address) (entries : Array (Key × Value × Value)) (name : String) (args : List Value)
    (kws : Keywords) : Op Value := do
  let h ← get
  let full := "dict." ++ name
  let given (i : Nat) : Value := (args[i]?).getD .none
  match name with
  | "clear" =>
    Op.lift (Arity.none full args kws)
    Op.put a (.dict #[])
    return .none
  | "copy" =>
    Op.lift (Arity.none full args kws)
    Op.alloc (.dict entries)
  | "keys" | "values" | "items" =>
    Op.lift (Arity.none full args kws)
    Op.alloc (.view (if name = "keys" then .keys else if name = "values" then .values else .items) a)
  | "get" =>
    Op.lift (Arity.noKeywords full kws)
    Op.lift (Arity.between "get" 1 2 args)
    let k ← Op.lift (h.key (given 0))
    return ((Heap.find? entries k).map Prod.snd).getD (given 1)
  | "setdefault" =>
    Op.lift (Arity.noKeywords full kws)
    Op.lift (Arity.between "setdefault" 1 2 args)
    let k ← Op.lift (h.key (given 0))
    match Heap.find? entries k with
    | some e => return e.2
    | none =>
      Op.put a (.dict (storeEntry entries k (given 0) (given 1)))
      return given 1
  | "pop" =>
    Op.lift (Arity.noKeywords full kws)
    Op.lift (Arity.between "pop" 1 2 args)
    let k ← Op.lift (h.key (given 0))
    match Heap.position? entries k with
    | some i =>
      Op.put a (.dict (entries.eraseIdxIfInBounds i))
      return ((entries[i]?).map fun e => e.2.2).getD .none
    | none => if args.length = 2 then return given 1 else throw (absentKey (given 0))
  | "popitem" =>
    Op.lift (Arity.none full args kws)
    match entries.back? with
    | some e =>
      Op.put a (.dict entries.pop)
      return .tuple [e.2.1, e.2.2]
    | none => throw (.of "KeyError" "popitem(): dictionary is empty")
  | "update" =>
    Op.lift (Arity.between "update" 0 1 args)
    let merged ←
      match args with
      | [more] => Op.lift (mergeEntries h entries more)
      | _ => pure entries
    Op.put a (.dict (withKeywords merged kws))
    return .none
  | _ =>
    Op.lift (Arity.between "fromkeys" 1 2 args)
    let names ← Op.lift (elementsOrRefuse h (given 0))
    let fresh ← Op.lift (names.foldlM (fun acc v => do
      return storeEntry acc (← h.key v) v (given 1)) #[])
    Op.alloc (.dict fresh)

end DictMethod

namespace SetMethod

/-- The names of the methods. -/
def names : List String :=
  ["add", "clear", "copy", "difference", "difference_update", "discard", "intersection",
    "intersection_update", "isdisjoint", "issubset", "issuperset", "pop", "remove",
    "symmetric_difference", "symmetric_difference_update", "union", "update"]

/-- The operator behind a method, and whether it works in place. -/
def operator? : String → Option (BinaryOp × Bool)
  | "difference" => some (.sub, false)
  | "difference_update" => some (.sub, true)
  | "intersection" => some (.bitAnd, false)
  | "intersection_update" => some (.bitAnd, true)
  | "symmetric_difference" => some (.bitXor, false)
  | "symmetric_difference_update" => some (.bitXor, true)
  | "union" => some (.bitOr, false)
  | "update" => some (.bitOr, true)
  | _ => none

/-- The elements of an argument as a set. -/
def argument (v : Value) : Op (Array (Key × Value)) := do
  let h ← get
  elementsOf (← Op.lift (elementsOrRefuse h v))

/-- A method of a set is called. -/
def call (a : Address) (items : Array (Key × Value)) (name : String) (args : List Value)
    (kws : Keywords) : Op Value := do
  let h ← get
  let full := "set." ++ name
  Op.lift (Arity.noKeywords full kws)
  match operator? name with
  | some (op, inPlace) =>
    if op = .bitXor then Op.lift (do let _ ← Arity.one full args kws)
    let others ← args.mapM argument
    let outcome := others.foldl (fun acc ys => (combineSets? op acc ys).getD acc) items
    if inPlace then
      Op.put a (.set outcome)
      return .none
    else Op.alloc (.set outcome)
  | none =>
    match name with
    | "clear" =>
      Op.lift (Arity.none full args kws)
      Op.put a (.set #[])
      return .none
    | "copy" =>
      Op.lift (Arity.none full args kws)
      Op.alloc (.set items)
    | "pop" =>
      Op.lift (Arity.none full args kws)
      match setOrder items.toList with
      | v :: _ =>
        let k ← Op.lift (h.key v)
        Op.put a (.set (items.filter fun e => e.1 != k))
        return v
      | [] => throw (.of "KeyError" "pop from an empty set")
    | _ =>
      let v ← Op.lift (Arity.one full args kws)
      match name with
      | "add" =>
        let k ← Op.lift (h.key v)
        Op.put a (.set (addElement items k v))
        return .none
      | "discard" | "remove" =>
        let k ← Op.lift (h.key v)
        if name = "remove" && (Heap.find? items k).isNone then throw (absentKey v)
        Op.put a (.set (items.filter fun e => e.1 != k))
        return .none
      | _ =>
        let others ← argument v
        let within (xs ys : Array (Key × Value)) : Bool := xs.all fun e => (Heap.find? ys e.1).isSome
        match name with
        | "issubset" => return .bool (within items others)
        | "issuperset" => return .bool (within others items)
        | _ => return .bool (items.all fun e => (Heap.find? others e.1).isNone)

end SetMethod

namespace ArrayMethod

/-- The names of the methods. -/
def names : List String :=
  ["append", "count", "extend", "fromlist", "index", "insert", "pop", "remove", "reverse", "tolist"]

/-- A method of an array of numbers is called. -/
def call (a : Address) (code : Char) (items : Array Value) (name : String) (args : List Value)
    (kws : Keywords) : Op Value := do
  let h ← get
  let full := "array." ++ name
  Op.lift (Arity.noKeywords full kws)
  let store (xs : Array Value) : Op Value := do
    Op.put a (.array code xs)
    return .none
  match name with
  | "append" =>
    store (items.push (← Op.lift (arrayItem h code (← Op.lift (Arity.one full args kws)))))
  | "count" => return .int (← Op.lift (countIn h (← Op.lift (Arity.one full args kws)) items.toList))
  | "extend" | "fromlist" =>
    let more ← Op.lift (elementsOrRefuse h (← Op.lift (Arity.one full args kws)))
    let more ← Op.lift (more.mapM (arrayItem h code))
    store (items ++ more.toArray)
  | "index" => Op.lift (indexBetween h items.toList args "array.index(x): x not in array")
  | "insert" =>
    Op.lift (Arity.between "insert" 2 2 args)
    let i ← Op.lift (asIndex h ((args[0]?).getD .none))
    let item ← Op.lift (arrayItem h code ((args[1]?).getD .none))
    let place := (if i < 0 then max (i + items.size) 0 else min i items.size).toNat
    store (items.toList.take place ++ item :: items.toList.drop place).toArray
  | "pop" =>
    Op.lift (Arity.between "pop" 0 1 args)
    let i ← Op.lift (asIndex h ((args[0]?).getD (.int (-1))))
    if items.isEmpty then throw (.indexError "pop from empty array")
    match positionIn? items.size i with
    | some p =>
      Op.put a (.array code (items.eraseIdxIfInBounds p))
      return (items[p]?).getD .none
    | none => throw (.indexError "pop index out of range")
  | "remove" =>
    match ← Op.lift (indexIn h (← Op.lift (Arity.one full args kws)) 0 items.toList) with
    | some p => store (items.eraseIdxIfInBounds p)
    | none => throw (.valueError "array.remove(x): x not in array")
  | "reverse" =>
    Op.lift (Arity.none full args kws)
    store items.reverse
  | _ =>
    Op.lift (Arity.none full args kws)
    Op.alloc (.list items)

end ArrayMethod

end ChartScript.Script
