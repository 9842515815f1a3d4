import ChartScript.Proofs.Artifact.Apart
import ChartScript.Proofs.Artifact.Commit
/-!
# The ids that an instance can write

An instance writes an id under its prefix, and an id that is under the prefix already as it is. So
the ids that it can write are those that begin with its prefix, each of them is its own image, and
two ids are written as one exactly when one of them is the other one under the prefix. As instances
and ids may contain the separator themselves, an id can be under the prefix more than once; only
the first one counts. Clearing the prefix removes all that the instance can write, and nothing else.
-/

namespace ChartScript.Artifact

variable {i id x y : String}

/-- An id that is not under the prefix yet is put there. -/
theorem qualify_of_not_startsWith (h : startsWith (ownPrefix i) id = false) :
    qualify i id = ownPrefix i ++ id := by
  unfold qualify
  rw [if_neg (Bool.eq_false_iff.mp h)]

/-- An id that is under the prefix is not put there again. -/
theorem qualify_qualify (i x : String) : qualify i (qualify i x) = qualify i x :=
  qualify_of_startsWith (startsWith_qualify i x)

/-- What begins with a text is that text and a rest. -/
theorem exists_append_of_startsWith {start : String} (h : startsWith start id = true) :
    ∃ rest, id = start ++ rest := by
  obtain ⟨rest, hrest⟩ := (startsWith_iff _ _).mp h
  refine ⟨String.ofList rest, String.toList_injective ?_⟩
  rw [String.toList_append, String.toList_ofList, hrest]

/-- The ids that an instance can write are those under its prefix. -/
theorem exists_qualify_eq_iff (i id : String) :
    (∃ x, qualify i x = id) ↔ startsWith (ownPrefix i) id = true := by
  constructor
  · rintro ⟨x, rfl⟩
    exact startsWith_qualify i x
  · exact fun h => ⟨id, qualify_of_startsWith h⟩

/-- Two ids under the prefix differ behind it. -/
theorem ownPrefix_append_injective (i : String) : Function.Injective (ownPrefix i ++ ·) := by
  intro x y h
  have hlist := congrArg String.toList h
  simp only [String.toList_append, List.append_cancel_left_eq] at hlist
  exact String.toList_injective hlist

/-- No id is itself under a prefix, which is never empty. -/
theorem ownPrefix_append_ne (i x : String) : ownPrefix i ++ x ≠ x := by
  intro h
  have hlength := congrArg (List.length ∘ String.toList) h
  simp only [ownPrefix, separator, Function.comp_apply, String.toList_append, List.length_append] at hlength
  have hseparator : "::".toList.length = 2 := rfl
  omega

/-- Whether an id is another one under the prefix of an instance, where the other one is not. -/
def Covers (i x y : String) : Prop := x = ownPrefix i ++ y ∧ startsWith (ownPrefix i) y = false

/-- An id and the one that it covers are different, and are written as one. -/
theorem Covers.meet (h : Covers i x y) : qualify i x = qualify i y ∧ x ≠ y := by
  obtain ⟨rfl, hy⟩ := h
  refine ⟨?_, ownPrefix_append_ne i y⟩
  rw [qualify_of_startsWith (startsWith_append _ _), qualify_of_not_startsWith hy]

/-- Two different ids are written as one exactly if one of them covers the other one. -/
theorem meet_iff_covers (i x y : String) :
    qualify i x = qualify i y ∧ x ≠ y ↔ Covers i x y ∨ Covers i y x := by
  constructor
  · rintro ⟨hsame, hne⟩
    cases hx : startsWith (ownPrefix i) x with
    | true =>
      rw [qualify_of_startsWith hx] at hsame
      cases hy : startsWith (ownPrefix i) y with
      | true =>
        rw [qualify_of_startsWith hy] at hsame
        exact absurd hsame hne
      | false =>
        rw [qualify_of_not_startsWith hy] at hsame
        exact Or.inl ⟨hsame, hy⟩
    | false =>
      rw [qualify_of_not_startsWith hx] at hsame
      cases hy : startsWith (ownPrefix i) y with
      | true =>
        rw [qualify_of_startsWith hy] at hsame
        exact Or.inr ⟨hsame.symm, hx⟩
      | false =>
        rw [qualify_of_not_startsWith hy] at hsame
        exact absurd (ownPrefix_append_injective i hsame) hne
  · rintro (h | h)
    · exact h.meet
    · exact ⟨h.meet.1.symm, h.meet.2.symm⟩

/-- How an instance writes ids, and what clearing its prefix removes. -/
structure Writes (i : String) : Prop where
  /-- Every id is written under the prefix. -/
  owned : ∀ x, ∃ rest, qualify i x = ownPrefix i ++ rest
  /-- What is written is written again as it is. -/
  idempotent : ∀ x, qualify i (qualify i x) = qualify i x
  /-- Whatever begins with the prefix is written as it is. -/
  fixed : ∀ rest, qualify i (ownPrefix i ++ rest) = ownPrefix i ++ rest
  /-- Two different ids are written as one exactly if one of them is the other one under the
  prefix, and the other one is not. -/
  meets : ∀ x y, qualify i x = qualify i y ∧ x ≠ y ↔ Covers i x y ∨ Covers i y x
  /-- After a clear there is no artifact, of any kind, under an id that the instance can write. -/
  removed : ∀ {κ : Type} (g : Gallery κ Sink) (kind : Plot.Kind) (x : String),
    (g.clear Sink.ops i).1.sink.get? ⟨kind, qualify i x⟩ = none
  /-- An artifact under any other id stays. -/
  spared : ∀ {κ : Type} (g : Gallery κ Sink) (key : Key), (∀ x, qualify i x ≠ key.id) →
    (g.clear Sink.ops i).1.sink.get? key = g.sink.get? key

/-- Every instance writes the ids under its prefix, and a clear removes exactly these. -/
theorem writes_ownPrefix (i : String) : Writes i where
  owned x := exists_append_of_startsWith (startsWith_qualify i x)
  idempotent := qualify_qualify i
  fixed rest := qualify_of_startsWith (startsWith_append _ rest)
  meets := meet_iff_covers i
  removed g kind x := by
    obtain ⟨total, hclear⟩ := g.clear_memory i
    rw [hclear]
    dsimp only
    rw [Sink.get?_without_all, if_pos (startsWith_qualify i x)]
  spared g key hother := by
    obtain ⟨total, hclear⟩ := g.clear_memory i
    have hnot : ¬startsWith (ownPrefix i) key.id = true := by
      rw [← exists_qualify_eq_iff]
      rintro ⟨x, hx⟩
      exact hother x hx
    rw [hclear]
    dsimp only
    rw [Sink.get?_without_all, if_neg hnot]

/-- An id can be under the prefix twice, and is then written as it is. -/
example : qualify "i" "i::i::x" = "i::i::x" ∧ Covers "i" "i::x" "x" ∧ ¬Covers "i" "i::i::x" "i::x" := by
  refine ⟨by decide, ⟨by decide, by decide⟩, ?_⟩
  rintro ⟨-, h⟩
  exact absurd h (by decide)

end ChartScript.Artifact
