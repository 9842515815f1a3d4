import ChartScript.Number.Binary64
import Mathlib
/-!
# Infinities and NaN

There is one NaN. Arithmetic with it gives NaN again, and it is neither below a number nor equal
to one. A number can be read as a fraction exactly if it is finite.
-/

namespace ChartScript.Number

open Float.Model (UnpackedFloat Format)

/-- What a number is made of. -/
def parts (x : Float) : UnpackedFloat := x.toModel.unpack

section Exponent

variable (x : Float)

/-- The bits of the exponent of a number. -/
def exponentBits : BitVec 11 := @UnpackedFloat.unpackExponent .binary64 x.toModel.toBits.toBitVec

theorem toNat_exponentBits : (exponentBits x).toNat = x.toBits.toNat / Nat.pow 2 52 % 2048 := by
  unfold exponentBits UnpackedFloat.unpackExponent
  simp [BitVec.extractLsb_toNat, Float.toBits, Nat.shiftRight_eq_div_pow]

/-- An infinite number or NaN is told by its exponent. -/
theorem isFinite_eq_decide : x.isFinite = decide (exponentBits x ≠ -1#11) := by
  have hread : x.isFinite = (parts x).isFinite := rfl
  rw [hread]
  unfold parts Float.Model.unpack UnpackedFloat.unpack exponentBits
  dsimp only
  by_cases h : @UnpackedFloat.unpackExponent .binary64 x.toModel.toBits.toBitVec = -1#11
  · rw [if_pos h, h]
    split <;> rfl
  · rw [if_neg h, decide_eq_true h]
    split
    · split <;> rfl
    · rfl

/-- Only a finite number is a fraction. -/
theorem Dyadic.ofFloat?_eq_none (h : x.isFinite = false) : Dyadic.ofFloat? x = none := by
  have hbits : exponentBits x = -1#11 := by
    rw [isFinite_eq_decide] at h
    simpa using h
  have hbiased : x.toBits.toNat / Nat.pow 2 52 % 2048 = 2047 := by
    rw [← toNat_exponentBits, hbits]
    rfl
  unfold Dyadic.ofFloat?
  exact if_pos hbiased

end Exponent

section NotANumber

variable {x : Float}

theorem isFinite_nan : nan.isFinite = false := rfl

theorem isNaN_nan : nan.isNaN = true := rfl

/-- There is only one NaN. -/
theorem eq_nan_of_isNaN (h : x.isNaN = true) : x = nan := by
  have hnan {y : Float} (hy : y.isNaN = true) : y = Float.nan := by
    rw [Float.isNaN_eq_decide_eq_nan] at hy
    exact of_decide_eq_true hy
  rw [hnan h, hnan isNaN_nan]

/-- A number that is neither finite nor infinite is NaN. -/
theorem eq_nan_of_not_isInf (hfinite : x.isFinite = false) (hinfinite : x.isInf = false) : x = nan := by
  have hf : (parts x).isFinite = false := hfinite
  have hi : (parts x).isInf = false := hinfinite
  have hnan : (parts x).isNaN = true := by
    cases hp : parts x with
    | notANumber => rfl
    | infinity s => rw [hp] at hi; cases hi
    | zero s => rw [hp] at hf; cases hf
    | finite s m e hm => rw [hp] at hf; cases hf
  exact eq_nan_of_isNaN hnan

theorem nan_add (y : Float) : nan + y = nan := rfl

theorem add_nan (y : Float) : y + nan = nan := by
  have hmodel : y + nan = .ofModel (.pack (UnpackedFloat.add .binary64 (parts y) .notANumber)) := rfl
  rw [hmodel]
  cases parts y <;> rfl

theorem nan_sub (y : Float) : nan - y = nan := rfl

theorem sub_nan (y : Float) : y - nan = nan := by
  have hmodel : y - nan = .ofModel (.pack (UnpackedFloat.sub .binary64 (parts y) .notANumber)) := rfl
  rw [hmodel]
  cases parts y <;> rfl

theorem nan_mul (y : Float) : nan * y = nan := rfl

theorem nan_div (y : Float) : nan / y = nan := rfl

theorem div_nan (y : Float) : y / nan = nan := by
  have hmodel : y / nan = .ofModel (.pack (UnpackedFloat.div .binary64 (parts y) .notANumber)) := rfl
  rw [hmodel]
  cases parts y <;> rfl

theorem not_nan_lt (y : Float) : ¬nan < y := by
  have hmodel : nan.lt y = false := rfl
  intro h
  have : nan.lt y = true := h
  rw [hmodel] at this
  cases this

theorem nan_beq (y : Float) : (nan == y) = false := rfl

end NotANumber

end ChartScript.Number
