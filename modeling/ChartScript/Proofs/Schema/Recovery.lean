import ChartScript.Proofs.Data.Assoc
import ChartScript.Schema.Record
/-!
# Records that are recovered

What a check makes of a value that was written out as data: the value itself. Fields, items and
named values are recovered one by one, and from a record that leaves out its null fields those
are recovered by their defaults.
-/

namespace ChartScript.Schema

variable {α : Type}

/-- Whether a check takes what is written of a value for that value. -/
def Recovers (check : Check α) (write : α → Wire) : Prop := ∀ a, check (write a) = .valid a

/-- A text. -/
theorem recovers_text : Recovers text Wire.text := fun _ => rfl

/-- A text that need not be there. -/
theorem recovers_ofText? : Recovers (optional text) Wire.ofText? := by
  intro s
  cases s <;> rfl

/-- A number that need not be there. -/
theorem recovers_ofFloat? : Recovers (optional number) Wire.ofFloat? := by
  intro x
  cases x <;> rfl

/-- The items of a list. -/
theorem Recovers.items {check : Check α} {write : α → Wire} (h : Recovers check write) (as : List α)
    (i : Nat) : Schema.items check i (as.map write) = .valid as := by
  induction as generalizing i with
  | nil => rfl
  | cons a rest ih =>
    rw [List.map_cons, Schema.items, h a, ih (i + 1)]
    rfl

/-- A list. -/
theorem Recovers.listOf {check : Check α} {write : α → Wire} (h : Recovers check write) :
    Recovers (listOf check) fun as => .list (as.map write) :=
  fun as => h.items as 0

/-- Named values. -/
theorem Recovers.dictOf {check : Check α} {write : α → Wire} (h : Recovers check write) :
    Recovers (dictOf check) fun entries => .object (entries.map fun e => (e.1, write e.2)) := by
  intro entries
  induction entries with
  | nil => rfl
  | cons e rest ih =>
    unfold Schema.dictOf at ih ⊢
    dsimp only at ih ⊢
    rw [List.map_cons, Schema.values, h e.2, ih]
    rfl

namespace RecordView

/-- The only null is null. -/
theorem eq_null_of_isNull {w : Wire} (h : isNull w = true) : w = .null := by
  cases w with
  | null => rfl
  | _ => cases h

/-- The fields of a record that are not null, by their names. -/
def shown (fields : List FieldView) : List (String × Wire) :=
  (fields.filter fun f => !isNull f.value).map fun f => (f.name, f.value)

/-- A record without its null fields. -/
theorem dumpPresent_eq (r : RecordView) : r.dumpPresent = .object (shown r.fields) := rfl

variable {fields : List FieldView} {name : String} {w : Wire} {check : Check α} {a : α}

/-- A field that is looked up among those that are not null. -/
theorem get?_shown (h : (fields.map FieldView.name).Nodup) (hf : .plain name w ∈ fields) :
    Assoc.get? (shown fields) name = if isNull w then none else some w := by
  refine (Assoc.get?_map_filter FieldView.name FieldView.value (fun f => !isNull f.value) h hf).trans ?_
  by_cases hw : isNull w = true
  · exact (if_neg (by simp [FieldView.plain, hw])).trans (if_pos hw).symm
  · exact (if_pos (by simp [FieldView.plain, hw])).trans (if_neg hw).symm

/-- A field that is not null is read as it was written. -/
theorem required_shown (h : (fields.map FieldView.name).Nodup) (hf : .plain name w ∈ fields)
    (hw : isNull w = false) (hc : check w = .valid a) :
    Source.required ⟨shown fields⟩ [name] check = .valid a := by
  unfold Source.required Source.find?
  rw [get?_shown h hf, hw, if_neg Bool.false_ne_true]
  dsimp only
  rw [hc]
  rfl

/-- A null field, which is left out, is read as its default. -/
theorem withDefault_shown (h : (fields.map FieldView.name).Nodup) (hf : .plain name w ∈ fields)
    {fallback : α} (hc : check w = .valid a) (hw : isNull w = true → fallback = a) :
    Source.withDefault ⟨shown fields⟩ [name] fallback check = .valid a := by
  unfold Source.withDefault Source.find?
  rw [get?_shown h hf]
  cases hn : isNull w with
  | true =>
    rw [if_pos rfl, hw hn]
    rfl
  | false =>
    rw [if_neg Bool.false_ne_true]
    dsimp only
    rw [hc]
    rfl

/-- A null field that need not be there is read as the null that it is. -/
theorem withDefault_optional_shown (h : (fields.map FieldView.name).Nodup)
    (hf : .plain name w ∈ fields) {a : Option α} (hc : optional check w = .valid a) :
    Source.withDefault ⟨shown fields⟩ [name] none (optional check) = .valid a := by
  refine withDefault_shown h hf hc fun hn => ?_
  rw [eq_null_of_isNull hn] at hc
  cases hc
  rfl

end RecordView

end ChartScript.Schema
