import ChartScript.Script.Machine.Attribute
import ChartScript.Script.Machine.Names
/-!
# Patterns

Whether a value has the form of a pattern, and what the names of the pattern are bound to
if it has.
-/

namespace ChartScript.Script.Machine

open Act

/-- The value of a constant. -/
def constantValue : Constant → Value
  | .none => .none
  | .bool b => .bool b
  | .int i => .int i
  | .float x => .float x
  | .imaginary x => .complex 0 x
  | .text s => .text s
  | .bytes bs => .bytes bs
  | .ellipsis => .ellipsis

/-- The value that a pattern compares with: a constant, or a name with attributes. -/
def patternValue : Expr → Act Value
  | .constant _ c => return constantValue c
  | .name _ id => readName id
  | .attribute _ owner name => do
    let v ← patternValue owner
    lift (readAttribute (← get).setting (← getHeap) v name)
  | .unary _ op e => do
    let v ← patternValue e
    lift (Arithmetic.unary (← getHeap) op v)
  | .binary _ a op b => do
    let v ← patternValue a
    let w ← patternValue b
    heap (binary op false v w)
  | _ => return .none

/-- The items of a value that counts as a sequence. -/
def sequenceItems? (h : Heap) (v : Value) : Option (List Value) :=
  match v with
  | .tuple items => some items
  | .range a b c => some (rangeItems a c (rangeSize a b c))
  | .object a =>
    match h.get? a with
    | some (.list items) => some items.toList
    | some (.array _ items) => some items.toList
    | _ => none
  | _ => none

/-- Names with their values, if a value has the form of a pattern. -/
abbrev Matched := Option Keywords

/-- Whether a pattern takes the rest of a sequence. -/
def isRest : Pattern → Bool
  | .star _ _ => true
  | _ => false

/-- Types whose only pattern by position is the value itself. -/
def plainTypes : List String :=
  ["bool", "bytes", "dict", "float", "int", "list", "set", "str", "tuple"]

mutual

/-- Compares a value with a pattern. -/
def matchPattern : Pattern → Value → Act Matched
  | .value e, v => do
    let w ← patternValue e
    if ← lift ((← getHeap).equals v w) then return some [] else return none
  | .constant _ c, v => return if Heap.same (constantValue c) v then some [] else none
  | .capture _ none, _ => return some []
  | .capture _ (some id), v => return some [(id, v)]
  | .star _ _, _ => return none
  | .sequence _ items, v => do
    match sequenceItems? (← getHeap) v with
    | none => return none
    | some values =>
      if items.any isRest then
        if values.length < items.length - 1 then return none
        else matchItems items values (values.length + 1 - items.length)
      else if values.length != items.length then return none
      else matchItems items values 0
  | .mapping _ keys items rest, v => do
    let h ← getHeap
    match v with
    | .object a =>
      match h.entries? a with
      | none => return none
      | some entries =>
        let names ← keys.mapM patternValue
        let found ← names.mapM fun k => do
          pure ((Heap.find? entries (← lift (h.key k))).map Prod.snd)
        if found.any Option.isNone then return none
        match ← matchEach items (found.filterMap id) with
        | none => return none
        | some bound =>
          match rest with
          | none => return some bound
          | some name =>
            let taken ← names.mapM fun k => lift (h.key k)
            let left ← heap (Op.alloc (.dict (entries.filter fun e => !taken.contains e.1)))
            return some (bound ++ [(name, left)])
    | _ => return none
  | .instance cls items names named, v => do
    let h ← getHeap
    match ← patternValue cls with
    | .type t =>
      if !Types.isInstance h v (if t = "array" then "array.array" else t) then return none
      let most := if plainTypes.contains t then 1 else 0
      if most < items.length then
        throw (.typeError (t ++ "() accepts " ++ toString most ++ " positional sub-pattern" ++
          Text.Prose.pluralLetter most ++ " (" ++ toString items.length ++ " given)"))
      match ← matchEach items [v] with
      | none => return none
      | some bound =>
        let setting := (← get).setting
        let parts := names.map fun n => (readAttribute setting h v n).toOption
        if parts.any Option.isNone then return none
        match ← matchEach named (parts.filterMap id) with
        | none => return none
        | some more => return some (bound ++ more)
    | _ => throw (.typeError "called match pattern must be a class")
  | .as _ pattern name, v => do
    match ← matchPattern pattern v with
    | none => return none
    | some bound => return some (bound ++ [(name, v)])
  | .or _ options, v => matchAny options v

/-- Compares values with patterns of which one takes so many of them. -/
def matchItems : List Pattern → List Value → Nat → Act Matched
  | [], _, _ => return some []
  | .star _ none :: rest, values, count => matchItems rest (values.drop count) count
  | .star _ (some id) :: rest, values, count => do
    let taken ← heap (Op.newList (values.take count))
    match ← matchItems rest (values.drop count) count with
    | none => return none
    | some bound => return some ((id, taken) :: bound)
  | p :: rest, v :: values, count => do
    match ← matchPattern p v with
    | none => return none
    | some bound =>
      match ← matchItems rest values count with
      | none => return none
      | some more => return some (bound ++ more)
  | _ :: _, [], _ => return none

/-- Compares values with as many patterns. -/
def matchEach : List Pattern → List Value → Act Matched
  | p :: rest, v :: values => do
    match ← matchPattern p v with
    | none => return none
    | some bound =>
      match ← matchEach rest values with
      | none => return none
      | some more => return some (bound ++ more)
  | _, _ => return some []

/-- Compares a value with patterns until one fits. -/
def matchAny : List Pattern → Value → Act Matched
  | [], _ => return none
  | p :: rest, v => do
    match ← matchPattern p v with
    | some bound => return some bound
    | none => matchAny rest v

end

end ChartScript.Script.Machine
