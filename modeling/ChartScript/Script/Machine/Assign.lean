import ChartScript.Script.Machine.Call
/-!
# Targets

Assigning values to targets and removing what targets name. Displays of targets take the
elements of a value apart.
-/

namespace ChartScript.Script.Machine

open Act

/-- Targets are assigned one by one. -/
def assignEach (pairs : List (Expr × Value)) : Act Unit := do
  push (.assignEach pairs)
  finish

/-- The elements of a value are given to targets, of which one may take the rest. -/
def assignItems (targets : List Expr) (items : List Value) : Act Unit := do
  let n := targets.length
  match targets.findIdx? Scope.isStarred with
  | none =>
    if n < items.length then
      throw (.valueError ("too many values to unpack (expected " ++ toString n ++ ")"))
    if items.length < n then
      throw (.valueError ("not enough values to unpack (expected " ++ toString n ++ ", got " ++
        toString items.length ++ ")"))
    assignEach (targets.zip items)
  | some i =>
    let after := n - i - 1
    if items.length < n - 1 then
      throw (.valueError ("not enough values to unpack (expected at least " ++ toString (n - 1) ++
        ", got " ++ toString items.length ++ ")"))
    let middle ← heap (Op.newList ((items.take (items.length - after)).drop i))
    let bare := targets.map fun
      | .starred _ e => e
      | e => e
    assignEach (bare.zip (items.take i ++ middle :: items.drop (items.length - after)))

/-- The elements of a value are taken apart for targets. -/
def unpack (targets : List Expr) (v : Value) : Act Unit := do
  let h ← getHeap
  match h.elements? v with
  | some items => assignItems targets items
  | none =>
    if isLazy h v then
      push (.unpack targets)
      gather (if targets.any Scope.isStarred then .all else .upTo (targets.length + 1)) v
    else throw (.typeError ("cannot unpack non-iterable " ++ h.typeName v ++ " object"))

/-- A value is assigned to a target. -/
def assignTo (target : Expr) (v : Value) : Act Unit :=
  match target with
  | .name _ id => do
    bindName id v
    finish
  | .attribute _ owner name => evalThen owner (.setAttribute name v)
  | .subscript _ owner index => evalThen owner (.setOwner index v)
  | .list _ items => unpack items v
  | .tuple _ items => unpack items v
  | .starred _ e => assignEach [(e, v)]
  | _ => finish

/-- A value is stored in a container at an index; elements that run are gathered first. -/
def storeItem (owner index value : Value) : Act Unit := do
  let h ← getHeap
  match index with
  | .slice _ _ _ =>
    if isLazy h value then
      push (.setSlice owner index)
      gather .all value
    else
      heap (setItem owner index value)
      finish
  | _ =>
    heap (setItem owner index value)
    finish

/-- What a target names is removed. -/
def deleteTarget (target : Expr) : Act Unit :=
  match target with
  | .name _ id => do
    deleteName id
    finish
  | .attribute _ owner name => evalThen owner (.deleteAttribute name)
  | .subscript _ owner index => evalThen owner (.deleteOwner index)
  | .list _ items | .tuple _ items => do
    push (.deleteRest items)
    finish
  | _ => finish

end ChartScript.Script.Machine
