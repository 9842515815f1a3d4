import ChartScript.Artifact.Id
/-!
# Instances that share no id

Two instances are apart when neither prefix begins with the other one. An id begins with
the prefixes of both of them exactly when they are not apart: of two prefixes of one text
the shorter is a prefix of the longer.
-/

namespace ChartScript.Artifact

/-- A text begins with another one exactly when its characters do. -/
theorem startsWith_iff (start id : String) :
    startsWith start id = true ↔ start.toList <+: id.toList := by
  unfold startsWith
  exact List.isPrefixOf_iff_prefix

/-- Two instances neither of whose prefixes begins with the other one. -/
def Apart (i j : String) : Prop :=
  startsWith (ownPrefix i) (ownPrefix j) = false ∧ startsWith (ownPrefix j) (ownPrefix i) = false

instance (i j : String) : Decidable (Apart i j) := inferInstanceAs (Decidable (_ ∧ _))

namespace Apart

variable {i j : String}

/-- Being apart is mutual. -/
theorem symm (h : Apart i j) : Apart j i := ⟨h.2, h.1⟩

/-- No id begins with the prefixes of two instances that are apart. -/
theorem not_startsWith (h : Apart i j) {id : String} (hi : startsWith (ownPrefix i) id = true) :
    startsWith (ownPrefix j) id = false := by
  rw [Bool.eq_false_iff]
  intro hj
  rw [startsWith_iff] at hi hj
  rcases List.prefix_or_prefix_of_prefix hi hj with hp | hp
  · exact Bool.eq_false_iff.mp h.1 ((startsWith_iff _ _).mpr hp)
  · exact Bool.eq_false_iff.mp h.2 ((startsWith_iff _ _).mpr hp)

end Apart

/-- Of two instances that are not apart the prefix of one begins with that of the other. -/
theorem startsWith_or_of_not_apart {i j : String} (h : ¬Apart i j) :
    startsWith (ownPrefix i) (ownPrefix j) = true ∨ startsWith (ownPrefix j) (ownPrefix i) = true := by
  unfold Apart at h
  cases hij : startsWith (ownPrefix i) (ownPrefix j) with
  | true => exact .inl rfl
  | false =>
    cases hji : startsWith (ownPrefix j) (ownPrefix i) with
    | true => exact .inr rfl
    | false => exact absurd ⟨hij, hji⟩ h

end ChartScript.Artifact
