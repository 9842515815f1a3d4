import ChartScript.Indicator.Scalar
import Mathlib.Analysis.Real.Sqrt
import Mathlib.Topology.Order.Compact
/-!
# Exact numbers

The kernels are written for any number type, so they also run on real numbers. Next to these stand
the two infinite numbers and the missing one, with the laws that floating point numbers have for
them. A real number has no signed zero, so a quotient by zero is missing: a kernel that gives real
numbers has divided by no zero on the way.
-/

namespace ChartScript.Indicator

/-- A number without rounding. -/
inductive Exact where
  /-- A real number. -/
  | number (x : ℝ)
  /-- An infinite number. -/
  | infinite (negative : Bool)
  /-- The missing number. -/
  | missing

namespace Exact

/-- The number of the other sign. -/
noncomputable def opposite : Exact → Exact
  | number x => number (-x)
  | infinite negative => infinite !negative
  | missing => missing

/-- A sum; infinite numbers of different signs have none. -/
noncomputable def sum : Exact → Exact → Exact
  | number x, number y => number (x + y)
  | number _, infinite negative => infinite negative
  | infinite negative, number _ => infinite negative
  | infinite s, infinite t => if s = t then infinite s else missing
  | _, _ => missing

/-- An infinite number times a real one; zero times it is missing. -/
noncomputable def scaled (x : ℝ) (negative : Bool) : Exact :=
  if x = 0 then missing else infinite (negative != decide (x < 0))

/-- A product. -/
noncomputable def product : Exact → Exact → Exact
  | number x, number y => number (x * y)
  | number x, infinite negative => scaled x negative
  | infinite negative, number x => scaled x negative
  | infinite s, infinite t => infinite (s != t)
  | _, _ => missing

/-- A quotient; by zero there is none. -/
noncomputable def quotient : Exact → Exact → Exact
  | number x, number y => if y = 0 then missing else number (x / y)
  | number _, infinite _ => number 0
  | infinite negative, number y => scaled y negative
  | _, _ => missing

/-- A square root; a negative number has none. -/
noncomputable def root : Exact → Exact
  | number x => if x < 0 then missing else number √x
  | infinite false => infinite false
  | _ => missing

/-- Whether one number is below another. -/
noncomputable def less : Exact → Exact → Bool
  | number x, number y => decide (x < y)
  | number _, infinite negative => !negative
  | infinite negative, number _ => negative
  | infinite s, infinite t => s && !t
  | _, _ => false

/-- Whether two numbers are equal. -/
noncomputable def equals : Exact → Exact → Bool
  | number x, number y => decide (x = y)
  | infinite s, infinite t => s == t
  | _, _ => false

/-- Whether a number is the missing one. -/
def isAbsent : Exact → Bool
  | missing => true
  | _ => false

/-- Whether a number is a real one. -/
def isReal : Exact → Bool
  | number _ => true
  | _ => false

noncomputable instance : Scalar Exact where
  add := sum
  sub x y := sum x y.opposite
  mul := product
  div := quotient
  ofInt n := number n
  sqrt := root
  missing := missing
  isMissing := isAbsent
  isFinite := isReal
  below := less
  isZero x := equals x (number 0)
  same := equals

section Real

variable (x y : ℝ)

theorem ofInt_eq (n : Int) : Scalar.ofInt n = number n := rfl

theorem ofInt_zero : Scalar.ofInt 0 = number 0 := congrArg number Int.cast_zero

theorem ofInt_one : Scalar.ofInt 1 = number 1 := congrArg number Int.cast_one

theorem ofInt_ofNat (n : Nat) [n.AtLeastTwo] : Scalar.ofInt ofNat(n) = number ofNat(n) :=
  congrArg number (Int.cast_ofNat n)

theorem isFinite_number : Scalar.isFinite (number x) = true := rfl

/-- Only real numbers are finite. -/
theorem isFinite_of_ne {y : Exact} (h : ∀ x, y ≠ number x) : Scalar.isFinite y = false := by
  cases y with
  | number x => exact absurd rfl (h x)
  | infinite negative => rfl
  | missing => rfl

theorem number_add : number x + number y = number (x + y) := rfl

theorem number_sub : number x - number y = number (x - y) :=
  congrArg number (sub_eq_add_neg x y).symm

theorem number_mul : number x * number y = number (x * y) := rfl

theorem number_div {y : ℝ} (h : y ≠ 0) : number x / number y = number (x / y) := if_neg h

theorem below_number : Scalar.below (number x) (number y) = decide (x < y) := rfl

theorem isZero_number : Scalar.isZero (number x) = decide (x = 0) := rfl

/-- The sum of real numbers. -/
theorem total_number (xs : List ℝ) : total (xs.map number) = number xs.sum := by
  have hfrom (a : ℝ) (ys : List ℝ) : (ys.map number).foldl (· + ·) (number a) = number (a + ys.sum) := by
    induction ys generalizing a with
    | nil => rw [List.map_nil, List.foldl_nil, List.sum_nil, add_zero]
    | cons y rest ih => rw [List.map_cons, List.foldl_cons, number_add, ih, List.sum_cons, add_assoc]
  cases xs with
  | nil => exact congrArg number Int.cast_zero
  | cons x rest => rw [List.map_cons, total, hfrom, List.sum_cons]

end Real

section Special

variable {x y : Exact} {xs : List Exact}

/-- What is added to the missing number is missing. -/
theorem missing_add (x : Exact) : missing + x = missing := by cases x <;> rfl

/-- What the missing number is added to is missing. -/
theorem add_missing (x : Exact) : x + missing = missing := by cases x <;> rfl

/-- The sum of infinite numbers. -/
theorem infinite_add (s t : Bool) :
    infinite s + infinite t = if s = t then infinite s else missing := rfl

/-- A property that a sum has only if both parts have it is one that the sum of a list has only if
all of it has it. -/
theorem forall_of_total {P : Exact → Prop} (hparts : ∀ x y, P (x + y) → P x ∧ P y)
    (h : P (total xs)) : ∀ x ∈ xs, P x := by
  have hfrom (a : Exact) (ys : List Exact) (hsum : P (ys.foldl (· + ·) a)) : P a ∧ ∀ y ∈ ys, P y := by
    induction ys generalizing a with
    | nil => exact ⟨hsum, nofun⟩
    | cons y rest ih =>
      obtain ⟨hboth, hrest⟩ := ih (a + y) hsum
      obtain ⟨ha, hy⟩ := hparts a y hboth
      exact ⟨ha, List.forall_mem_cons.mpr ⟨hy, hrest⟩⟩
  cases xs with
  | nil => exact nofun
  | cons x rest => exact List.forall_mem_cons.mpr (hfrom x rest h)

/-- A sum with a missing number in it is missing. -/
theorem total_of_missing (h : missing ∈ xs) : total xs = missing := by
  by_contra hsome
  have hparts (x y : Exact) (hxy : x + y ≠ missing) : x ≠ missing ∧ y ≠ missing :=
    ⟨fun hx => hxy (hx ▸ missing_add y), fun hy => hxy (hy ▸ add_missing x)⟩
  exact forall_of_total (P := (· ≠ missing)) hparts hsome missing h rfl

/-- A sum is a real number only if all that is added is. -/
theorem forall_number_of_total {z : ℝ} (h : total xs = number z) : ∀ x ∈ xs, ∃ y, x = number y := by
  refine forall_of_total (fun x y hxy => ?_) ⟨z, h⟩
  obtain ⟨b, hb⟩ := hxy
  cases x with
  | number u =>
    cases y with
    | number v => exact ⟨⟨u, rfl⟩, v, rfl⟩
    | infinite t => cases hb
    | missing => cases hb
  | infinite s =>
    cases y with
    | number v => cases hb
    | infinite t =>
      rw [infinite_add] at hb
      split at hb <;> cases hb
    | missing => cases hb
  | missing =>
    rw [missing_add] at hb
    cases hb

/-- A sum is infinite only if all that is added is real or infinite of the same sign. -/
theorem forall_sign_of_total {s : Bool} (h : total xs = infinite s) :
    ∀ x ∈ xs, (∃ y, x = number y) ∨ x = infinite s := by
  refine forall_of_total (fun x y hxy => ?_)
    (.inr h)
  cases x with
  | number u =>
    refine ⟨.inl ⟨u, rfl⟩, ?_⟩
    cases y with
    | number v => exact .inl ⟨v, rfl⟩
    | infinite t => exact hxy
    | missing => exact hxy
  | infinite r =>
    cases y with
    | number v => exact ⟨hxy, .inl ⟨v, rfl⟩⟩
    | infinite t =>
      rw [infinite_add] at hxy
      by_cases hsame : r = t
      · rw [if_pos hsame] at hxy
        exact ⟨hxy, hsame ▸ hxy⟩
      · rw [if_neg hsame] at hxy
        rcases hxy with ⟨z, hz⟩ | hxy
        · cases hz
        · cases hxy
    | missing =>
      rcases hxy with ⟨z, hz⟩ | hxy
      · cases hz
      · cases hxy
  | missing =>
    rw [missing_add] at hxy
    rcases hxy with ⟨z, hz⟩ | hxy
    · cases hz
    · cases hxy

end Special

end Exact

/-- Some real numbers, if there are only finitely many, have a least and a greatest one. -/
theorem exists_least_greatest {s : Set ℝ} (hfinite : s.Finite) (hsome : s.Nonempty) :
    ∃ lo hi, IsLeast s lo ∧ IsGreatest s hi := by
  obtain ⟨lo, hlo⟩ := hfinite.isCompact.exists_isLeast hsome
  obtain ⟨hi, hhi⟩ := hfinite.isCompact.exists_isGreatest hsome
  exact ⟨lo, hi, hlo, hhi⟩

end ChartScript.Indicator
