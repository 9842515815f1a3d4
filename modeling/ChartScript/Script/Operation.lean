import ChartScript.Script.Arithmetic
import ChartScript.Script.Format
import ChartScript.Script.Slice
/-!
# Operators and elements

Operators on values of all types, and reading, writing and removing the elements of
containers.
-/

namespace ChartScript.Script

/-- The items of a sequence that can be put together, with its kind. -/
inductive Joinable where
  /-- A text. -/
  | text (s : String)
  /-- Bytes. -/
  | bytes (bs : List Nat)
  /-- A tuple. -/
  | tuple (items : List Value)
  /-- A list. -/
  | list (items : List Value)
  /-- An array of numbers. -/
  | array (code : Char) (items : List Value)

/-- A value as a sequence that can be put together. -/
def joinable? (h : Heap) : Value → Option Joinable
  | .text s => some (.text s)
  | .bytes bs => some (.bytes bs)
  | .tuple items => some (.tuple items)
  | .object a =>
    match h.get? a with
    | some (.list items) => some (.list items.toList)
    | some (.array code items) => some (.array code items.toList)
    | _ => none
  | _ => none

/-- A dictionary with a value stored under a key. -/
def storeEntry (entries : Array (Key × Value × Value)) (key : Key) (name value : Value) :
    Array (Key × Value × Value) :=
  match Heap.position? entries key with
  | some i => entries.modify i fun e => (e.1, e.2.1, value)
  | none => entries.push (key, name, value)

/-- A dictionary with other entries stored in it. -/
def storeAll (entries more : Array (Key × Value × Value)) : Array (Key × Value × Value) :=
  more.foldl (fun acc e => storeEntry acc e.1 e.2.1 e.2.2) entries

/-- The elements of an argument that is gone through. -/
def elementsOrRefuse (h : Heap) (v : Value) : Except Raised (List Value) :=
  match h.elements? v with
  | some items => .ok items
  | none => .error (.typeError ("'" ++ h.typeName v ++ "' object is not iterable"))

/-- A sequence of two items as a key and a value. -/
def pairOf (h : Heap) (index : Nat) (v : Value) : Except Raised (Value × Value) :=
  match h.elements? v with
  | none =>
    .error (.typeError ("cannot convert dictionary update sequence element #" ++ toString index ++
      " to a sequence"))
  | some [a, b] => .ok (a, b)
  | some items =>
    .error (.valueError ("dictionary update sequence element #" ++ toString index ++ " has length " ++
      toString items.length ++ "; 2 is required"))

/-- Entries with those of a mapping or of pairs stored in them. -/
def mergeEntries (h : Heap) (entries : Array (Key × Value × Value)) (more : Value) :
    Except Raised (Array (Key × Value × Value)) := do
  let mapping : Option (Array (Key × Value × Value)) :=
    match more with
    | .object a => h.entries? a
    | _ => none
  match mapping with
  | some others => return storeAll entries others
  | none =>
    let items ← elementsOrRefuse h more
    let pairs ← items.zipIdx.mapM fun e => pairOf h e.2 e.1
    pairs.foldlM (fun acc e => do return storeEntry acc (← h.key e.1) e.1 e.2) entries

/-- A set with an element added. -/
def addElement (items : Array (Key × Value)) (key : Key) (v : Value) : Array (Key × Value) :=
  if (Heap.find? items key).isSome then items else items.push (key, v)

/-- The elements of values as a set, each once. -/
def elementsOf (items : List Value) : Op (Array (Key × Value)) := do
  let h ← get
  items.foldlM (fun acc v => do
    let k ← Op.lift (h.key v)
    return addElement acc k v) #[]

/-- The elements of a set or of a view of keys or entries. -/
def setElements? (h : Heap) (v : Value) : Option (Except Raised (Array (Key × Value))) :=
  match v with
  | .object a =>
    match h.get? a with
    | some (.set items) => some (.ok items)
    | some (.view .values _) => none
    | some (.view kind dict) =>
      some ((h.viewItems kind dict).foldlM (fun acc v => do
        return addElement acc (← h.key v) v) #[])
    | _ => none
  | _ => none

/-- An operator between sets. -/
def combineSets? (op : BinaryOp) (xs ys : Array (Key × Value)) : Option (Array (Key × Value)) :=
  let within (zs : Array (Key × Value)) (e : Key × Value) : Bool := (Heap.find? zs e.1).isSome
  match op with
  | .bitAnd => some (xs.filter (within ys))
  | .bitOr => some (xs ++ ys.filter fun e => !within xs e)
  | .sub => some (xs.filter fun e => !within ys e)
  | .bitXor => some ((xs.filter fun e => !within ys e) ++ ys.filter fun e => !within xs e)
  | _ => none

/-- The most items of a repeated sequence. -/
def maxRepeated : Nat := Nat.pow 10 8

/-- Items several times over. -/
def repeatItems {α : Type} (items : List α) (times : Int) : Except Raised (List α) :=
  if maxSize < times then
    .error (.overflow "cannot fit 'int' into an index-sized integer")
  else
    let n := times.toNat
    if maxRepeated < n * items.length then .error ⟨"MemoryError", []⟩
    else .ok ((List.replicate n items).flatten)

/-- A sequence several times over. -/
def repeated (s : Joinable) (times : Int) : Op Value :=
  match s with
  | .text t => do
    let cs ← Op.lift (repeatItems t.toList times)
    return .text (String.ofList cs)
  | .bytes bs => return .bytes (← Op.lift (repeatItems bs times))
  | .tuple items => return .tuple (← Op.lift (repeatItems items times))
  | .list items => do Op.newList (← Op.lift (repeatItems items times))
  | .array code items => do Op.alloc (.array code (← Op.lift (repeatItems items times)).toArray)

/-- A value that is no type to be part of a union, or the parts of a union. -/
def unionParts? : Value → Option (List Value)
  | .none => some [.none]
  | .type name => some [.type name]
  | .tuple (.type name :: rest) => some (.type name :: rest)
  | _ => none

/-- A value put after a sequence. -/
def concatenated (s : Joinable) (w : Value) : Op Value := do
  let h ← get
  let name := h.typeName w
  match s, joinable? h w with
  | .text a, some (.text b) => return .text (a ++ b)
  | .text _, _ => throw (.typeError ("can only concatenate str (not \"" ++ name ++ "\") to str"))
  | .bytes a, some (.bytes b) => return .bytes (a ++ b)
  | .bytes _, _ => throw (.typeError ("can't concat " ++ name ++ " to bytes"))
  | .tuple a, some (.tuple b) => return .tuple (a ++ b)
  | .tuple _, _ =>
    throw (.typeError ("can only concatenate tuple (not \"" ++ name ++ "\") to tuple"))
  | .list a, some (.list b) => Op.newList (a ++ b)
  | .list _, _ => throw (.typeError ("can only concatenate list (not \"" ++ name ++ "\") to list"))
  | .array c a, some (.array d b) =>
    if c = d then Op.alloc (.array c (a ++ b).toArray)
    else throw (.typeError "bad argument type for built-in operation")
  | .array _ _, _ => throw (.typeError ("can only append array (not \"" ++ name ++ "\") to array"))

/-- An operator between two values. -/
def binary (op : BinaryOp) (inPlace : Bool) (v w : Value) : Op Value := do
  let h ← get
  let refuse : Op Value := throw (unsupported op inPlace (h.typeName v) (h.typeName w))
  match Arithmetic.onNumbers? op v w with
  | some r => Op.lift r
  | none =>
    match op with
    | .add =>
      match joinable? h v with
      | some s => concatenated s w
      | none => refuse
    | .mul =>
      let times (s : Joinable) (count : Value) : Op Value :=
        match intOf? count with
        | some n => repeated s n
        | none =>
          throw (.typeError ("can't multiply sequence by non-int of type '" ++ h.typeName count ++ "'"))
      match joinable? h v, joinable? h w with
      | some s, _ => times s w
      | none, some s => times s v
      | none, none => refuse
    | .mod =>
      match v with
      | .text s => return .text (← Op.lift (Format.template h s w))
      | _ => refuse
    | _ =>
      match setElements? h v, setElements? h w with
      | some xs, some ys =>
        let xs ← Op.lift xs
        let ys ← Op.lift ys
        match combineSets? op xs ys with
        | some zs => Op.alloc (.set zs)
        | none => refuse
      | _, _ =>
        match op, v, w with
        | .bitOr, .object a, .object b =>
          match h.entries? a, h.entries? b with
          | some xs, some ys => Op.alloc (.dict (storeAll xs ys))
          | _, _ => refuse
        | .bitOr, _, _ =>
          match unionParts? v, unionParts? w with
          | some xs, some ys =>
            if xs.length = 1 && ys.length = 1 && Heap.same v w then return v
            else return .tuple (xs ++ ys)
          | _, _ => refuse
        | _, _, _ => refuse

/-- An operator between two values whose outcome may replace the first one in place. -/
def update (op : BinaryOp) (v w : Value) : Op Value := do
  let h ← get
  match v with
  | .object a =>
    match h.get? a, op with
    | some (.list items), .add =>
      match h.elements? w with
      | some more =>
        Op.put a (.list (items ++ more.toArray))
        return v
      | none => throw (.typeError ("'" ++ h.typeName w ++ "' object is not iterable"))
    | some (.list items), .mul =>
      match intOf? w with
      | some n =>
        Op.put a (.list (← Op.lift (repeatItems items.toList n)).toArray)
        return v
      | none => binary op true v w
    | some (.set items), _ =>
      match w with
      | .object b =>
        match h.get? b with
        | some (.set others) =>
          match combineSets? op items others with
          | some zs =>
            Op.put a (.set zs)
            return v
          | none => binary op true v w
        | _ => binary op true v w
      | _ => binary op true v w
    | some (.dict entries), .bitOr =>
      Op.put a (.dict (← Op.lift (mergeEntries h entries w)))
      return v
    | some (.array code items), .add =>
      match w with
      | .object b =>
        match h.get? b with
        | some (.array other more) =>
          if other = code then
            Op.put a (.array code (items ++ more))
            return v
          else throw (.typeError "bad argument type for built-in operation")
        | _ =>
          throw (.typeError ("can only extend with array (not \"" ++ h.typeName w ++ "\")"))
      | _ => throw (.typeError ("can only extend with array (not \"" ++ h.typeName w ++ "\")"))
    | _, _ => binary op true v w
  | _ => binary op true v w

/-- How the positions of a sequence are refused. -/
structure SequenceWording where
  /-- A position outside. -/
  outside : String
  /-- A position of another type, by the name of the type. -/
  badType : String → String

/-- The position in a sequence of `n` items that a value stands for. -/
def positionOf (h : Heap) (wording : SequenceWording) (n : Nat) (index : Value) :
    Except Raised Nat :=
  match intOf? index with
  | some i =>
    if maxSize < i || i < -maxSize - 1 then
      .error (.indexError "cannot fit 'int' into an index-sized integer")
    else
      match positionIn? n i with
      | some p => .ok p
      | none => .error (.indexError wording.outside)
  | none => .error (.typeError (wording.badType (h.typeName index)))

/-- Wording for a kind of sequence whose positions are integers or slices. -/
def sequenceWording (kind outside : String) : SequenceWording :=
  { outside, badType := fun t => kind ++ " indices must be integers or slices, not " ++ t }

/-- The types that can be given parameters. -/
def parametricTypes : List String := ["list", "dict", "tuple", "set", "enumerate", "array"]

/-- An absent key. -/
def absentKey (v : Value) : Raised := ⟨"KeyError", [v]⟩

/-- The element of a container at an index. -/
def getItem (v index : Value) : Op Value := do
  let h ← get
  let pick {α : Type} (items : List α) : Op (Option (List α)) :=
    match index with
    | .slice lower upper step => do
      let p ← Op.lift (Picked.ofValues items.length lower upper step)
      return some (p.items items)
    | _ => return none
  let place (wording : SequenceWording) (n : Nat) : Op Nat :=
    Op.lift (positionOf h wording n index)
  match v with
  | .text s =>
    let cs := s.toList
    match ← pick cs with
    | some part => return .text (String.ofList part)
    | none =>
      let i ← place ⟨"string index out of range", fun t =>
        "string indices must be integers, not '" ++ t ++ "'"⟩ cs.length
      return .text (String.singleton ((cs[i]?).getD ' '))
  | .bytes bs =>
    match ← pick bs with
    | some part => return .bytes part
    | none =>
      let i ← place (sequenceWording "byte" "index out of range") bs.length
      return .int ((bs[i]?).getD 0 : Nat)
  | .tuple items =>
    match ← pick items with
    | some part => return .tuple part
    | none =>
      let i ← place (sequenceWording "tuple" "tuple index out of range") items.length
      return (items[i]?).getD .none
  | .range a b c =>
    let n := rangeSize a b c
    match index with
    | .slice lower upper step =>
      let p ← Op.lift (Picked.ofValues n lower upper step)
      let last := p.start + p.step * p.count
      return .range (a + c * p.start) (a + c * last) (c * p.step)
    | _ =>
      let i ← place (sequenceWording "range" "range object index out of range") n
      return .int (a + c * i)
  | .type name =>
    if parametricTypes.contains name then return v
    else throw (.typeError ("type '" ++ name ++ "' is not subscriptable"))
  | .object a =>
    match h.get? a with
    | some (.list items) =>
      match ← pick items.toList with
      | some part => Op.newList part
      | none =>
        let i ← place (sequenceWording "list" "list index out of range") items.size
        return (items[i]?).getD .none
    | some (.array code items) =>
      match ← pick items.toList with
      | some part => Op.alloc (.array code part.toArray)
      | none =>
        let i ← place ⟨"array index out of range", fun _ => "array indices must be integers"⟩ items.size
        return (items[i]?).getD .none
    | some (.dict entries) =>
      let k ← Op.lift (h.key index)
      match Heap.find? entries k with
      | some e => return e.2
      | none => throw (absentKey index)
    | _ => throw (.typeError ("'" ++ h.typeName v ++ "' object is not subscriptable"))
  | _ => throw (.typeError ("'" ++ h.typeName v ++ "' object is not subscriptable"))

/-- Replaces the picked items of a list by others. -/
def replacePicked (p : Picked) (items : List Value) (more : List Value) :
    Except Raised (List Value) :=
  if p.step = 1 then
    let first := p.start.toNat
    .ok (items.take first ++ more ++ items.drop (first + p.count))
  else if more.length != p.count then
    .error (.valueError ("attempt to assign sequence of size " ++ toString more.length ++
      " to extended slice of size " ++ toString p.count))
  else
    .ok ((p.positions.zip more).foldl (fun (acc : Array Value) e => acc.setIfInBounds e.1 e.2)
      items.toArray).toList

/-- Removes the picked items of a list. -/
def removePicked {α : Type} (p : Picked) (items : List α) : List α :=
  let gone := p.positions
  (items.zipIdx.filter fun e => !gone.contains e.2).map Prod.fst

/-- A number as an element of an array of numbers. -/
def arrayItem (h : Heap) (code : Char) (v : Value) : Except Raised Value :=
  if code = 'd' || code = 'f' then
    match numberOf? v with
    | some (.float x) =>
      .ok (.float (if code = 'f' then x.toFloat32.toFloat else x))
    | some (.int i) => do
      let x ← Arithmetic.toFloat i
      return .float (if code = 'f' then x.toFloat32.toFloat else x)
    | none => .error (.typeError ("must be real number, not " ++ h.typeName v))
  else if code = 'u' then
    match v with
    | .text s =>
      if s.length = 1 then .ok v else .error (.typeError "array item must be unicode character")
    | _ => .error (.typeError "array item must be unicode character")
  else
    match intOf? v with
    | none =>
      .error (.typeError ("'" ++ h.typeName v ++ "' object cannot be interpreted as an integer"))
    | some i =>
      let (name, low, high) : String × Int × Int :=
        match code with
        | 'b' => ("signed char", -128, 127)
        | 'B' => ("unsigned byte integer", 0, 255)
        | 'h' => ("signed short integer", -32768, 32767)
        | 'H' => ("unsigned short", 0, 65535)
        | 'i' => ("signed int", -2147483648, 2147483647)
        | 'I' => ("unsigned int", 0, 4294967295)
        | 'l' => ("signed long", -9223372036854775808, 9223372036854775807)
        | 'L' => ("unsigned long", 0, 18446744073709551615)
        | 'q' => ("signed long long", -9223372036854775808, 9223372036854775807)
        | _ => ("unsigned long long", 0, 18446744073709551615)
      if i < low then .error (.overflow (name ++ " is less than minimum"))
      else if high < i then .error (.overflow (name ++ " is greater than maximum"))
      else .ok (.int i)

/-- Stores a value in a container at an index. -/
def setItem (v index value : Value) : Op Unit := do
  let h ← get
  let refuse : Op Unit :=
    throw (.typeError ("'" ++ h.typeName v ++ "' object does not support item assignment"))
  match v with
  | .object a =>
    match h.get? a with
    | some (.list items) =>
      match index with
      | .slice lower upper step =>
        let p ← Op.lift (Picked.ofValues items.size lower upper step)
        match h.elements? value with
        | some more => Op.put a (.list (← Op.lift (replacePicked p items.toList more)).toArray)
        | none =>
          throw (.typeError (if p.step = 1 then "can only assign an iterable"
            else "must assign iterable to extended slice"))
      | _ =>
        let i ← Op.lift (positionOf h (sequenceWording "list" "list assignment index out of range")
          items.size index)
        Op.put a (.list (items.setIfInBounds i value))
    | some (.array code items) =>
      let i ← Op.lift (positionOf h
        ⟨"array assignment index out of range", fun _ => "array indices must be integers"⟩ items.size index)
      let item ← Op.lift (arrayItem h code value)
      Op.put a (.array code (items.setIfInBounds i item))
    | some (.dict entries) =>
      let k ← Op.lift (h.key index)
      Op.put a (.dict (storeEntry entries k index value))
    | _ => refuse
  | _ => refuse

/-- The types of values with a length and an order whose elements stay. -/
def fixedSequences : List String :=
  ["str", "bytes", "tuple", "range", "set", "dict_keys", "dict_values", "dict_items"]

/-- The refusal to remove an element, which is worded in another way for an index into a
sequence. -/
def refuseDeletion (h : Heap) (v index : Value) : Raised :=
  let type := h.typeName v
  let isIndex : Bool := match index with | .int _ | .bool _ => true | _ => false
  let isPosition := isIndex && fixedSequences.contains type
  .typeError ("'" ++ type ++ "' object " ++ (if isPosition then "doesn't" else "does not") ++
    " support item deletion")

/-- Removes the element of a container at an index. -/
def deleteItem (v index : Value) : Op Unit := do
  let h ← get
  let refuse : Op Unit := throw (refuseDeletion h v index)
  match v with
  | .object a =>
    match h.get? a with
    | some (.list items) =>
      match index with
      | .slice lower upper step =>
        let p ← Op.lift (Picked.ofValues items.size lower upper step)
        Op.put a (.list (removePicked p items.toList).toArray)
      | _ =>
        let i ← Op.lift (positionOf h (sequenceWording "list" "list assignment index out of range")
          items.size index)
        Op.put a (.list (items.eraseIdxIfInBounds i))
    | some (.array code items) =>
      let i ← Op.lift (positionOf h
        ⟨"array assignment index out of range", fun _ => "array indices must be integers"⟩ items.size index)
      Op.put a (.array code (items.eraseIdxIfInBounds i))
    | some (.dict entries) =>
      let k ← Op.lift (h.key index)
      match Heap.position? entries k with
      | some i => Op.put a (.dict (entries.eraseIdxIfInBounds i))
      | none => throw (absentKey index)
    | _ => refuse
  | _ => refuse

end ChartScript.Script
