/-!
# Keyed lists in insertion order

A list of key and value pairs with at most one entry per key, kept in the order in
which keys first came in. Storing under a present key keeps its place; moving a key to
the end is erasing and storing again.
-/

namespace ChartScript.Assoc

variable {κ : Type} {α : Type} [DecidableEq κ]

/-- The value stored under a key. -/
def get? (entries : List (κ × α)) (key : κ) : Option α :=
  (entries.find? fun e => decide (e.1 = key)).map Prod.snd

/-- Whether a key is present. -/
def has (entries : List (κ × α)) (key : κ) : Bool :=
  entries.any fun e => decide (e.1 = key)

/-- Stores a value, in place when the key is present and at the end otherwise. -/
def put (entries : List (κ × α)) (key : κ) (value : α) : List (κ × α) :=
  if has entries key then entries.map fun e => if e.1 = key then (key, value) else e
  else entries ++ [(key, value)]

/-- Removes a key. -/
def erase (entries : List (κ × α)) (key : κ) : List (κ × α) :=
  entries.filter fun e => decide (e.1 ≠ key)

/-- The keys in order. -/
def keys (entries : List (κ × α)) : List κ := entries.map Prod.fst

/-- Stores a value at the end, whether or not the key was present. -/
def putLast (entries : List (κ × α)) (key : κ) (value : α) : List (κ × α) :=
  erase entries key ++ [(key, value)]

/-- The list with every pair of `more` stored in turn. -/
def putAll (entries more : List (κ × α)) : List (κ × α) :=
  more.foldl (fun acc e => put acc e.1 e.2) entries

theorem keys_put_of_has {entries : List (κ × α)} {key : κ} {value : α}
    (h : has entries key = true) : keys (put entries key value) = keys entries := by
  simp only [put, h, if_true, keys, List.map_map]
  apply List.map_congr_left
  intro e _
  by_cases he : e.1 = key <;> simp [he]

theorem keys_put_of_not_has {entries : List (κ × α)} {key : κ} {value : α}
    (h : has entries key = false) : keys (put entries key value) = keys entries ++ [key] := by
  simp [put, h, keys]

theorem keys_erase (entries : List (κ × α)) (key : κ) :
    keys (erase entries key) = (keys entries).filter fun k => decide (k ≠ key) := by
  simp [keys, erase, List.filter_map, Function.comp_def]

end ChartScript.Assoc
