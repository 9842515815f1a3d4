import ChartScript.Wire.Value
/-!
# Data made finite

The pipe replaces every infinity and NaN by null and keeps everything else. Data without such
numbers arrives as it is, nested nulls included, and nothing that arrives has any.
-/

namespace ChartScript.Wire

/-- The items of a list are made finite one by one. -/
theorem finiteItems_eq_map (items : List Wire) : finiteItems items = items.map finite := by
  induction items with
  | nil => rfl
  | cons w rest ih => rw [finiteItems, ih, List.map_cons]

/-- The fields of an object are made finite one by one. -/
theorem finiteFields_eq_map (fields : List (String × Wire)) :
    finiteFields fields = fields.map fun f => (f.1, f.2.finite) := by
  induction fields with
  | nil => rfl
  | cons f rest ih =>
    obtain ⟨k, w⟩ := f
    rw [finiteFields, ih, List.map_cons]

mutual

/-- A value without infinite numbers and NaN is its own finite form. -/
theorem finite_eq_self : ∀ w : Wire, w.hasNonFinite = false → w.finite = w
  | .null, _ | .bool _, _ | .int _, _ | .text _, _ => rfl
  | .float x, h => by
    have hx : x.isFinite = true := by simpa [hasNonFinite] using h
    rw [finite, if_pos hx]
  | .list items, h => by
    rw [hasNonFinite] at h
    rw [finite, finiteItems_eq_self items h]
  | .object fields, h => by
    rw [hasNonFinite] at h
    rw [finite, finiteFields_eq_self fields h]

/-- Items without infinite numbers and NaN are their own finite forms. -/
theorem finiteItems_eq_self : ∀ items : List Wire, anyNonFinite items = false → finiteItems items = items
  | [], _ => rfl
  | w :: rest, h => by
    have hparts : w.hasNonFinite = false ∧ anyNonFinite rest = false := by simpa [anyNonFinite] using h
    rw [finiteItems, finite_eq_self w hparts.1, finiteItems_eq_self rest hparts.2]

/-- Fields without infinite numbers and NaN are their own finite forms. -/
theorem finiteFields_eq_self :
    ∀ fields : List (String × Wire), fieldsNonFinite fields = false → finiteFields fields = fields
  | [], _ => rfl
  | (k, w) :: rest, h => by
    have hparts : w.hasNonFinite = false ∧ fieldsNonFinite rest = false := by
      simpa [fieldsNonFinite] using h
    rw [finiteFields, finite_eq_self w hparts.1, finiteFields_eq_self rest hparts.2]

end

mutual

/-- A finite form has no infinite number and no NaN. -/
theorem hasNonFinite_finite : ∀ w : Wire, w.finite.hasNonFinite = false
  | .null | .bool _ | .int _ | .text _ => rfl
  | .float x => by
    rw [finite]
    split
    · rename_i hx
      simpa [hasNonFinite] using hx
    · rfl
  | .list items => by rw [finite, hasNonFinite, anyNonFinite_finiteItems items]
  | .object fields => by rw [finite, hasNonFinite, fieldsNonFinite_finiteFields fields]

/-- Items that were made finite have no infinite number and no NaN. -/
theorem anyNonFinite_finiteItems : ∀ items : List Wire, anyNonFinite (finiteItems items) = false
  | [] => rfl
  | w :: rest => by
    rw [finiteItems, anyNonFinite, hasNonFinite_finite w, anyNonFinite_finiteItems rest]
    rfl

/-- Fields that were made finite have no infinite number and no NaN. -/
theorem fieldsNonFinite_finiteFields :
    ∀ fields : List (String × Wire), fieldsNonFinite (finiteFields fields) = false
  | [] => rfl
  | (k, w) :: rest => by
    rw [finiteFields, fieldsNonFinite, hasNonFinite_finite w, fieldsNonFinite_finiteFields rest]
    rfl

end

/-- What was made finite stays as it is when it is made finite again. -/
theorem finiteFields_finiteFields (fields : List (String × Wire)) :
    finiteFields (finiteFields fields) = finiteFields fields :=
  finiteFields_eq_self _ (fieldsNonFinite_finiteFields fields)

end ChartScript.Wire
