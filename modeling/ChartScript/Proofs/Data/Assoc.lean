import Mathlib.Data.List.Dedup
import ChartScript.Data.Assoc
/-!
# Lookups in keyed lists

What is found under a key after a store, a removal or a filter, and which keys are left.
Storing at the end keeps every key once and lists the keys in the order of their last
store, which is the order that `List.dedup` keeps.
-/

namespace ChartScript.Assoc

variable {κ α : Type} [DecidableEq κ]

@[simp] theorem get?_nil (k : κ) : get? ([] : List (κ × α)) k = none := rfl

/-- The first entry is looked at first. -/
theorem get?_cons (e : κ × α) (rest : List (κ × α)) (k : κ) :
    get? (e :: rest) k = if e.1 = k then some e.2 else get? rest k := by
  by_cases h : e.1 = k <;> simp [get?, h]

/-- Nothing is found exactly under the keys that are absent. -/
theorem get?_eq_none_iff (entries : List (κ × α)) (k : κ) :
    get? entries k = none ↔ k ∉ keys entries := by
  induction entries with
  | nil => simp [keys]
  | cons e rest ih =>
    rw [get?_cons]
    by_cases h : e.1 = k
    · simp [keys, h]
    · have hk : ¬k = e.1 := fun he => h he.symm
      rw [if_neg h, ih]
      simp [keys, hk]

/-- Something is found exactly under the keys that are present. -/
theorem isSome_get?_iff (entries : List (κ × α)) (k : κ) :
    (get? entries k).isSome = true ↔ k ∈ keys entries := by
  rw [Option.isSome_iff_ne_none, ne_eq, get?_eq_none_iff, not_not]

/-- What is found is an entry. -/
theorem mem_of_get? {entries : List (κ × α)} {k : κ} {value : α}
    (h : get? entries k = some value) : (k, value) ∈ entries := by
  induction entries with
  | nil => simp at h
  | cons e rest ih =>
    rw [get?_cons] at h
    by_cases he : e.1 = k
    · rw [if_pos he] at h
      obtain ⟨key, v⟩ := e
      cases he
      cases h
      exact List.mem_cons_self
    · rw [if_neg he] at h
      exact List.mem_cons_of_mem _ (ih h)

/-- Keys are present exactly when they are listed. -/
theorem has_iff_mem_keys (entries : List (κ × α)) (k : κ) :
    has entries k = true ↔ k ∈ keys entries := by
  simp [has, keys]

omit [DecidableEq κ] in
/-- The keys of two lists in a row. -/
theorem keys_append (first second : List (κ × α)) :
    keys (first ++ second) = keys first ++ keys second := List.map_append

/-- The second of two lists is looked at where the first has nothing. -/
theorem get?_append (first second : List (κ × α)) (k : κ) :
    get? (first ++ second) k = (get? first k).or (get? second k) := by
  induction first with
  | nil => simp
  | cons e rest ih =>
    rw [List.cons_append, get?_cons, get?_cons, ih]
    split <;> rfl

/-- A filter on keys takes away what it takes away and nothing else. -/
theorem get?_filter (keep : κ → Bool) (entries : List (κ × α)) (k : κ) :
    get? (entries.filter fun e => keep e.1) k = if keep k = true then get? entries k else none := by
  induction entries with
  | nil => simp
  | cons e rest ih =>
    rw [List.filter_cons, get?_cons]
    by_cases he : e.1 = k
    · subst he
      by_cases hk : keep e.1 = true
      · simp [hk, get?_cons]
      · rw [if_neg hk, ih]
        simp [hk]
    · rw [if_neg he, ← ih]
      split
      · rw [get?_cons, if_neg he]
      · rfl

/-- A removed key is gone and the others stay. -/
theorem get?_erase (entries : List (κ × α)) (key k : κ) :
    get? (erase entries key) k = if k = key then none else get? entries k := by
  rw [erase, get?_filter fun x => decide (x ≠ key)]
  by_cases h : k = key <;> simp [h]

/-- A stored value replaces what was under its key and nothing else. -/
theorem get?_put (entries : List (κ × α)) (key k : κ) (value : α) :
    get? (put entries key value) k = if k = key then some value else get? entries k := by
  by_cases hp : has entries key = true
  · rw [put, if_pos hp]
    have hm := (has_iff_mem_keys entries key).mp hp
    clear hp
    induction entries with
    | nil => simp [keys] at hm
    | cons e rest ih =>
      rw [List.map_cons, get?_cons, get?_cons]
      by_cases he : e.1 = key
      · by_cases hk : k = key
        · simp [he, hk]
        · have hke : ¬key = k := fun h => hk h.symm
          rw [if_pos he, if_neg hke, if_neg hk, he, if_neg hke]
          by_cases hr : key ∈ keys rest
          · rw [ih hr, if_neg hk]
          · rw [List.map_congr_left (g := id), List.map_id]
            intro x hx
            have hxk : ¬x.1 = key := fun h => hr (h ▸ List.mem_map_of_mem hx)
            simp [hxk]
      · have hr : key ∈ keys rest := by
          simp only [keys, List.map_cons, List.mem_cons] at hm
          exact hm.resolve_left fun h => he h.symm
        rw [if_neg he, ih hr]
        by_cases hk : k = key
        · simp [hk, he]
        · simp [hk]
  · rw [put, if_neg hp, get?_append, get?_cons]
    have hn := (get?_eq_none_iff entries key).mpr (fun hm => hp ((has_iff_mem_keys entries key).mpr hm))
    by_cases hk : k = key
    · simp [hk, hn]
    · have hke : ¬key = k := fun h => hk h.symm
      simp [hk, hke]

/-- The keys after a store. -/
theorem mem_keys_put (entries : List (κ × α)) (key k : κ) (value : α) :
    k ∈ keys (put entries key value) ↔ k = key ∨ k ∈ keys entries := by
  rw [← isSome_get?_iff, ← isSome_get?_iff, get?_put]
  by_cases h : k = key <;> simp [h]

/-- Lists with the same keys have the same keys after a store under one key. -/
theorem keys_put_congr {β : Type} {entries : List (κ × α)} {others : List (κ × β)}
    (h : keys entries = keys others) (key : κ) (value : α) (other : β) :
    keys (put entries key value) = keys (put others key other) := by
  have hhas : has entries key = has others key := by
    rw [Bool.eq_iff_iff, has_iff_mem_keys, has_iff_mem_keys, h]
  cases hother : has others key with
  | true => rw [keys_put_of_has (hhas.trans hother), keys_put_of_has hother, h]
  | false => rw [keys_put_of_not_has (hhas.trans hother), keys_put_of_not_has hother, h]

/-- Only the last store under a key counts. -/
theorem put_put (entries : List (κ × α)) (key : κ) (first second : α) :
    put (put entries key first) key second = put entries key second := by
  have hhas : has (put entries key first) key = true := by
    have hfound : (get? (put entries key first) key).isSome = true := by
      rw [get?_put, if_pos rfl]
      rfl
    exact (has_iff_mem_keys _ key).mpr ((isSome_get?_iff _ key).mp hfound)
  have hput : put (put entries key first) key second =
      (put entries key first).map fun e => if e.1 = key then (key, second) else e := by
    rw [put, if_pos hhas]
  rw [hput]
  unfold put
  split
  · rw [List.map_map]
    refine List.map_congr_left fun e _ => ?_
    by_cases he : e.1 = key <;> simp [he]
  · rename_i hno
    have hapart : ∀ e ∈ entries, ¬e.1 = key := by
      intro e hm he
      exact hno (List.any_eq_true.mpr ⟨e, hm, decide_eq_true he⟩)
    have hsame : entries.map (fun e => if e.1 = key then (key, second) else e) = entries :=
      (List.map_congr_left fun e hm => if_neg (hapart e hm)).trans (List.map_id entries)
    rw [List.map_append, hsame]
    simp

/-- A value stored at the end replaces what was under its key and nothing else. -/
theorem get?_putLast (entries : List (κ × α)) (key k : κ) (value : α) :
    get? (putLast entries key value) k = if k = key then some value else get? entries k := by
  rw [putLast, get?_append, get?_erase, get?_cons]
  by_cases h : k = key
  · simp [h]
  · have hk : ¬key = k := fun he => h he.symm
    simp [h, hk]

/-- A key that is stored at the end is the last one. -/
theorem keys_putLast (entries : List (κ × α)) (key : κ) (value : α) :
    keys (putLast entries key value) =
      (keys entries).filter (fun k => decide (k ≠ key)) ++ [key] := by
  rw [← keys_erase]
  simp [putLast, keys]

/-- Storing keeps every key once. -/
theorem nodup_keys_put {entries : List (κ × α)} (hn : (keys entries).Nodup) (key : κ) (value : α) :
    (keys (put entries key value)).Nodup := by
  cases hh : has entries key with
  | true => rwa [keys_put_of_has hh]
  | false =>
    have hk : key ∉ keys entries := by
      rw [← has_iff_mem_keys, hh]
      exact Bool.false_ne_true
    rw [keys_put_of_not_has hh, List.nodup_append]
    refine ⟨hn, List.nodup_singleton key, ?_⟩
    rintro k hm l hl rfl
    exact hk (List.mem_singleton.mp hl ▸ hm)

omit [DecidableEq κ] in
/-- A filter keeps every key once. -/
theorem nodup_keys_filter {entries : List (κ × α)} (hn : (keys entries).Nodup)
    (keep : κ × α → Bool) : (keys (entries.filter keep)).Nodup :=
  (List.Sublist.map Prod.fst List.filter_sublist).nodup hn

/-- An element that is looked up by its key, among those that are kept. -/
theorem get?_map_filter {ι : Type} (key : ι → κ) (value : ι → α) (keep : ι → Bool)
    {items : List ι} (hn : (items.map key).Nodup) {a : ι} (ha : a ∈ items) :
    get? ((items.filter keep).map fun a => (key a, value a)) (key a) =
      if keep a then some (value a) else none := by
  induction items with
  | nil => cases ha
  | cons b rest ih =>
    obtain ⟨hfresh, hrest⟩ := List.nodup_cons.mp hn
    rcases List.mem_cons.mp ha with rfl | ha
    · cases hk : keep a with
      | true =>
        rw [List.filter_cons_of_pos hk, List.map_cons, get?_cons, if_pos rfl]
        rfl
      | false =>
        rw [List.filter_cons_of_neg (by simp [hk])]
        refine (get?_eq_none_iff _ _).mpr fun hmem => hfresh ?_
        obtain ⟨entry, hentry, he⟩ := List.mem_map.mp hmem
        obtain ⟨c, hc, rfl⟩ := List.mem_map.mp hentry
        exact List.mem_map.mpr ⟨c, List.mem_of_mem_filter hc, he⟩
    · have hne : key b ≠ key a := fun he => hfresh (he ▸ List.mem_map_of_mem ha)
      rw [List.filter_cons]
      split
      · rw [List.map_cons, get?_cons, if_neg hne]
        exact ih hrest ha
      · exact ih hrest ha

end ChartScript.Assoc
