import ChartScript.Indicator.Kernel
import ChartScript.Proofs.Number.Special
import Mathlib.Data.List.Basic
/-!
# Missing and infinite numbers in a series

A series that was sent has lost its infinite numbers: they are missing in it, as NaN. The two
means do not tell an infinite number from a missing one. The strength index does: a missing
number makes every value missing that comes after it, while an infinite one need not.
-/

namespace ChartScript.Indicator

open Number (nan)

/-- A number after it was sent: an infinite one is missing. -/
def sent (x : Float) : Float := if x.isFinite then x else nan

theorem sent_of_isFinite {x : Float} (h : x.isFinite = true) : sent x = x := if_pos h

theorem sent_of_not_isFinite {x : Float} (h : x.isFinite = false) : sent x = nan := by
  unfold sent
  rw [h]
  rfl

theorem isFinite_sent (x : Float) : (sent x).isFinite = x.isFinite := by
  cases h : x.isFinite with
  | true => rw [sent_of_isFinite h, h]
  | false => rw [sent_of_not_isFinite h, Number.isFinite_nan]

/-- Finite numbers stay. -/
theorem map_sent_eq_self {xs : List Float} (h : ∀ x ∈ xs, x.isFinite = true) : xs.map sent = xs :=
  (List.map_congr_left fun x hx => sent_of_isFinite (h x hx)).trans (List.map_id xs)

section Means

/-- A window has the same mean after it was sent. -/
theorem windowMean_sent (window : List Float) : windowMean (window.map sent) = windowMean window := by
  have hall : (window.map sent).all Scalar.isFinite = window.all Scalar.isFinite := by
    rw [List.all_map]
    exact congrArg window.all (funext isFinite_sent)
  unfold windowMean
  rw [hall]
  by_cases h : window.all Scalar.isFinite = true
  · rw [if_pos h, if_pos h, map_sent_eq_self (List.all_eq_true.mp h)]
  · rw [if_neg h, if_neg h]

/-- The moving mean is that of the series before it was sent. -/
theorem movingMean_sent (xs : List Float) (period : Int) :
    movingMean (xs.map sent) period = movingMean xs period := by
  have hwindows (n : Nat) : windows n (xs.map sent) = (windows n xs).map (List.map sent) := by
    unfold windows
    rw [List.map_map, List.length_map]
    refine List.map_congr_left fun i _ => ?_
    rw [Function.comp_apply, List.map_take, List.map_drop]
  unfold movingMean isShort
  rw [List.length_map, hwindows, List.map_map]
  have hmeans : windowMean ∘ List.map sent = windowMean := funext windowMean_sent
  rw [hmeans]

/-- A step of the exponential mean is the same for all numbers that are not finite. -/
theorem step_of_not_isFinite {α : Type} [Scalar α] (period : Int) (s : Smoothing α) {x y : α}
    (hx : Scalar.isFinite x = false) (hy : Scalar.isFinite y = false) :
    s.step period x = s.step period y := by
  unfold Smoothing.step
  rw [hx, hy]
  cases s <;> rfl

/-- A step of the exponential mean does not tell an infinite number from a missing one. -/
theorem step_sent (period : Int) (s : Smoothing Float) (x : Float) :
    s.step period (sent x) = s.step period x := by
  cases h : x.isFinite with
  | true => rw [sent_of_isFinite h]
  | false => exact step_of_not_isFinite period s ((isFinite_sent x).trans h) h

/-- The exponential mean is that of the series before it was sent. -/
theorem exponentialMean_sent (xs : List Float) (period : Int) :
    exponentialMean (xs.map sent) period = exponentialMean xs period := by
  have hsmooth (s : Smoothing Float) : smoothFrom period s (xs.map sent) = smoothFrom period s xs := by
    induction xs generalizing s with
    | nil => rfl
    | cons x rest ih =>
      rw [List.map_cons]
      unfold smoothFrom
      dsimp only
      rw [step_sent, ih]
  unfold exponentialMean isShort
  rw [List.length_map, hsmooth]

end Means

section Causality

variable {α : Type} [Scalar α]

/-- The differences of the first numbers. -/
theorem deltas_take (xs : List α) (n : Nat) : deltas (xs.take (n + 1)) = (deltas xs).take n := by
  induction xs generalizing n with
  | nil => simp [deltas]
  | cons x rest ih =>
    cases rest with
    | nil => simp [deltas]
    | cons y more =>
      cases n with
      | zero => simp [deltas]
      | succ n =>
        have htail := ih n
        rw [List.take_succ_cons] at htail
        rw [List.take_succ_cons, List.take_succ_cons]
        unfold deltas
        rw [htail, List.take_succ_cons]

/-- There is one difference less than there are numbers. -/
theorem length_deltas (xs : List α) : (deltas xs).length = xs.length - 1 := by
  induction xs with
  | nil => rfl
  | cons x rest ih =>
    cases rest with
    | nil => rfl
    | cons y more =>
      unfold deltas
      rw [List.length_cons, ih]
      rfl

/-- The strength after the first further deltas. -/
theorem strengthFrom_take (period : Int) (gain loss : α) (ds : List α) (n : Nat) :
    strengthFrom period gain loss (ds.take n) = (strengthFrom period gain loss ds).take n := by
  induction ds generalizing gain loss n with
  | nil => simp [strengthFrom]
  | cons d rest ih =>
    cases n with
    | zero => rfl
    | succ n =>
      rw [List.take_succ_cons]
      unfold strengthFrom
      dsimp only
      rw [ih, List.take_succ_cons]

/-- A series that is long enough has a strength index. -/
theorem strengthIndex_of_le {xs : List α} {n : Nat} (hn : 1 ≤ n) (hxs : n + 1 ≤ xs.length) :
    strengthIndex xs n =
      let ds := deltas xs
      let gain := plainMean ((ds.take n).map gainOf)
      let loss := plainMean ((ds.take n).map lossOf)
      strength gain loss :: strengthFrom n gain loss (ds.drop n) := by
  unfold strengthIndex
  rw [if_neg (by simp; omega)]
  rfl

/-- A series that is too short has none. -/
theorem strengthIndex_of_lt {xs : List α} {n : Nat} (hxs : xs.length < n + 1) :
    strengthIndex xs n = [] := by
  unfold strengthIndex
  rw [if_pos (by simp; omega)]

/-- A value of the strength index comes from the numbers up to its place alone. -/
theorem strengthIndex_take {n : Nat} (hn : 1 ≤ n) (xs : List α) (i : Nat) :
    (strengthIndex (xs.take (n + 1 + i)) n)[i]? = (strengthIndex xs n)[i]? := by
  by_cases hxs : n + 1 ≤ xs.length
  · have hlength : n + 1 ≤ (xs.take (n + 1 + i)).length := by
      rw [List.length_take]
      omega
    have hdeltas : deltas (xs.take (n + 1 + i)) = (deltas xs).take (n + i) := by
      have hcount : n + 1 + i = n + i + 1 := by omega
      rw [hcount, deltas_take]
    have hfirst : ((deltas xs).take (n + i)).take n = (deltas xs).take n := by
      rw [List.take_take, Nat.min_eq_left (Nat.le_add_right n i)]
    have hlater : ((deltas xs).take (n + i)).drop n = ((deltas xs).drop n).take i := by
      rw [List.drop_take, Nat.add_sub_cancel_left]
    rw [strengthIndex_of_le hn hlength, strengthIndex_of_le hn hxs]
    dsimp only
    rw [hdeltas, hfirst, hlater, strengthFrom_take]
    cases i with
    | zero => rfl
    | succ i =>
      rw [List.getElem?_cons_succ, List.getElem?_cons_succ, List.getElem?_take, if_pos (Nat.lt_succ_self i)]
  · rw [strengthIndex_of_lt (by rw [List.length_take]; omega), strengthIndex_of_lt (by omega)]

/-- There is one further value for every further delta. -/
theorem length_strengthFrom (period : Int) (gain loss : α) (ds : List α) :
    (strengthFrom period gain loss ds).length = ds.length := by
  induction ds generalizing gain loss with
  | nil => rfl
  | cons d rest ih =>
    unfold strengthFrom
    dsimp only
    rw [List.length_cons, ih, List.length_cons]

/-- The strength index has a value for every number after the first ones. -/
theorem length_strengthIndex {n : Nat} (hn : 1 ≤ n) (xs : List α) :
    (strengthIndex xs n).length = xs.length - n := by
  by_cases hxs : n + 1 ≤ xs.length
  · rw [strengthIndex_of_le hn hxs]
    dsimp only
    rw [List.length_cons, length_strengthFrom, List.length_drop, length_deltas]
    omega
  · rw [strengthIndex_of_lt (by omega), List.length_nil]
    omega

end Causality

section Missing

variable (period : Int)

/-- A missing average stays missing. -/
theorem averageStep_nan (sample : Float) : averageStep period nan sample = nan := by
  have hsum : nan * Scalar.ofInt (period - 1) + sample = nan := by
    rw [Number.nan_mul, Number.nan_add]
  unfold averageStep
  rw [hsum, Number.nan_div]

/-- A missing sample makes the average missing. -/
theorem averageStep_missing (average : Float) : averageStep period average nan = nan := by
  unfold averageStep
  rw [Number.add_nan, Number.nan_div]

/-- A missing difference is a missing gain and a missing loss. -/
theorem gainOf_nan : gainOf nan = nan ∧ lossOf nan = nan := by
  have hgain : gainOf nan = nan := by
    have hbelow : Scalar.below nan (Scalar.ofInt 0) = false := decide_eq_false (Number.not_nan_lt _)
    unfold gainOf
    rw [hbelow]
    rfl
  refine ⟨hgain, ?_⟩
  unfold lossOf
  rw [Number.sub_nan, hgain]

/-- Without averages there is no strength. -/
theorem strength_nan : strength nan nan = nan := by
  have hzero : Scalar.isZero nan = false := Number.nan_beq 0
  unfold strength
  rw [hzero, Number.nan_div, Number.add_nan, Number.div_nan, Number.sub_nan]
  rfl

/-- Once the averages are missing there is no strength any more. -/
theorem strengthFrom_nan (ds : List Float) : ∀ v ∈ strengthFrom period nan nan ds, v = nan := by
  induction ds with
  | nil => exact fun _ hv => by cases hv
  | cons d rest ih =>
    unfold strengthFrom
    dsimp only
    rw [averageStep_nan, averageStep_nan, strength_nan]
    exact List.forall_mem_cons.mpr ⟨rfl, ih⟩

/-- From a missing delta on there is no strength. -/
theorem strengthFrom_of_mem {gain loss v : Float} {ds : List Float} {i : Nat}
    (hnan : nan ∈ ds.take (i + 1)) (hv : (strengthFrom period gain loss ds)[i]? = some v) : v = nan := by
  induction ds generalizing gain loss i with
  | nil => cases hnan
  | cons d rest ih =>
    unfold strengthFrom at hv
    dsimp only at hv
    rw [List.take_succ_cons] at hnan
    rcases List.mem_cons.mp hnan with rfl | hlater
    · rw [gainOf_nan.1, gainOf_nan.2, averageStep_missing, averageStep_missing, strength_nan] at hv
      have hall : ∀ w ∈ nan :: strengthFrom period nan nan rest, w = nan :=
        List.forall_mem_cons.mpr ⟨rfl, strengthFrom_nan period rest⟩
      exact hall v (List.mem_of_getElem? hv)
    · cases i with
      | zero => cases hlater
      | succ i => exact ih hlater hv

/-- A list with a missing number has no sum. -/
theorem total_of_mem {xs : List Float} (h : nan ∈ xs) : total xs = nan := by
  have hstart (ys : List Float) : ys.foldl (· + ·) nan = nan := by
    induction ys with
    | nil => rfl
    | cons y rest ih => rw [List.foldl_cons, Number.nan_add, ih]
  have hlater (a : Float) (ys : List Float) (hys : nan ∈ ys) : ys.foldl (· + ·) a = nan := by
    induction ys generalizing a with
    | nil => cases hys
    | cons y rest ih =>
      rw [List.foldl_cons]
      rcases List.mem_cons.mp hys with rfl | hrest
      · rw [Number.add_nan, hstart]
      · exact ih _ hrest
  cases xs with
  | nil => cases h
  | cons x rest =>
    rcases List.mem_cons.mp h with rfl | hrest
    · exact hstart rest
    · exact hlater x rest hrest

/-- A list with a missing difference has no mean of gains or losses. -/
theorem plainMean_of_mem {ds : List Float} (h : nan ∈ ds) :
    plainMean (ds.map gainOf) = nan ∧ plainMean (ds.map lossOf) = nan := by
  have hgain : nan ∈ ds.map gainOf := List.mem_map.mpr ⟨nan, h, gainOf_nan.1⟩
  have hloss : nan ∈ ds.map lossOf := List.mem_map.mpr ⟨nan, h, gainOf_nan.2⟩
  unfold plainMean
  rw [total_of_mem hgain, total_of_mem hloss, Number.nan_div, Number.nan_div]
  exact ⟨rfl, rfl⟩

/-- A missing number is in a difference. -/
theorem nan_mem_deltas {xs : List Float} (h : nan ∈ xs) (hxs : 2 ≤ xs.length) : nan ∈ deltas xs := by
  induction xs with
  | nil => cases h
  | cons x rest ih =>
    cases rest with
    | nil => exact absurd hxs (by simp)
    | cons y more =>
      unfold deltas
      rcases List.mem_cons.mp h with rfl | hrest
      · rw [Number.sub_nan]
        exact List.mem_cons_self ..
      · cases more with
        | nil =>
          rcases List.mem_singleton.mp hrest with rfl
          rw [Number.nan_sub]
          exact List.mem_cons_self ..
        | cons z others => exact List.mem_cons_of_mem _ (ih hrest (by simp))

/-- After a missing number there is no strength index. -/
theorem strengthIndex_of_mem {n : Nat} (hn : 1 ≤ n) {xs : List Float} {i : Nat} {v : Float}
    (hnan : nan ∈ xs.take (n + 1 + i)) (hv : (strengthIndex xs n)[i]? = some v) : v = nan := by
  have hxs : n + 1 ≤ xs.length := by
    by_contra hshort
    rw [strengthIndex_of_lt (by omega)] at hv
    cases hv
  rw [strengthIndex_of_le hn hxs] at hv
  dsimp only at hv
  have hdelta : nan ∈ (deltas xs).take n ++ ((deltas xs).drop n).take i := by
    have hprefix := nan_mem_deltas hnan (by rw [List.length_take]; omega)
    have hlength : n + 1 + i = n + i + 1 := by omega
    rw [hlength, deltas_take, List.take_add] at hprefix
    exact hprefix
  rcases List.mem_append.mp hdelta with hfirst | hlater
  · rw [(plainMean_of_mem hfirst).1, (plainMean_of_mem hfirst).2, strength_nan] at hv
    have hall : ∀ w ∈ nan :: strengthFrom n nan nan ((deltas xs).drop n), w = nan :=
      List.forall_mem_cons.mpr ⟨rfl, strengthFrom_nan n _⟩
    exact hall v (List.mem_of_getElem? hv)
  · cases i with
    | zero => cases hlater
    | succ i => exact strengthFrom_of_mem n hlater hv

/-- The strength index of a series that was sent: it is that of the series before as long as all
numbers were finite, and missing from then on. -/
theorem strengthIndex_sent {n : Nat} (hn : 1 ≤ n) {xs : List Float} {i : Nat} {v : Float}
    (hv : (strengthIndex xs n)[i]? = some v) :
    (strengthIndex (xs.map sent) n)[i]? =
      some (if (xs.take (n + 1 + i)).all Float.isFinite then v else nan) := by
  by_cases hall : (xs.take (n + 1 + i)).all Float.isFinite = true
  · have hprefix : (xs.map sent).take (n + 1 + i) = xs.take (n + 1 + i) := by
      rw [← List.map_take, map_sent_eq_self (List.all_eq_true.mp hall)]
    rw [if_pos hall, ← strengthIndex_take hn, hprefix, strengthIndex_take hn, hv]
  · obtain ⟨x, hx, hinfinite⟩ : ∃ x ∈ xs.take (n + 1 + i), x.isFinite = false := by
      simpa using hall
    have hnan : nan ∈ (xs.map sent).take (n + 1 + i) := by
      rw [← List.map_take]
      exact List.mem_map.mpr ⟨x, hx, sent_of_not_isFinite hinfinite⟩
    have hlt : i < (strengthIndex (xs.map sent) n).length := by
      rw [length_strengthIndex hn, List.length_map, ← length_strengthIndex hn]
      exact (List.getElem?_eq_some_iff.mp hv).1
    have hw := List.getElem?_eq_getElem hlt
    rw [if_neg hall, hw, strengthIndex_of_mem hn hnan hw]

/-- What a strength index becomes when the series is sent, and what is left of it. -/
structure StrengthSent (xs : List Float) (period : Int) (before after : List Float) : Prop where
  /-- There are as many values. -/
  length : after.length = before.length
  /-- A value stays as long as all numbers up to its place are finite, and is missing from then
  on. -/
  value : ∀ i v, before[i]? = some v →
    after[i]? = some (if (xs.take (period.toNat + 1 + i)).all Float.isFinite then v else nan)
  /-- It was missing before if one of these numbers was missing. -/
  missing : ∀ i v, before[i]? = some v → nan ∈ xs.take (period.toNat + 1 + i) → v = nan
  /-- So nothing changes in a series without infinite numbers. -/
  same : (∀ x ∈ xs, x.isInf = false) → after = before

/-- The strength index before and after a series is sent. -/
theorem strengthSent (xs : List Float) (period : Int) :
    StrengthSent xs period (strengthIndex xs period) (strengthIndex (xs.map sent) period) := by
  by_cases hperiod : period < 1
  · have hnone (ys : List Float) : strengthIndex ys period = [] := by
      unfold strengthIndex
      rw [if_pos (by simp [hperiod])]
    rw [hnone, hnone]
    refine ⟨rfl, ?_, ?_, fun _ => rfl⟩
    · intro i v hv
      cases hv
    · intro i v hv
      cases hv
  · obtain ⟨n, rfl⟩ : ∃ n : Nat, period = n := Int.eq_ofNat_of_zero_le (by omega)
    have hn : 1 ≤ n := by omega
    have hlength : (strengthIndex (xs.map sent) n).length = (strengthIndex xs n).length := by
      rw [length_strengthIndex hn, length_strengthIndex hn, List.length_map]
    have hmissing : ∀ i v, (strengthIndex xs n)[i]? = some v → nan ∈ xs.take (n + 1 + i) → v = nan :=
      fun _ _ hv hnan => strengthIndex_of_mem hn hnan hv
    refine ⟨hlength, fun _ _ hv => strengthIndex_sent hn hv, hmissing, fun hinfinite => ?_⟩
    refine List.ext_getElem? fun i => ?_
    cases hv : (strengthIndex xs n)[i]? with
    | none =>
      rw [List.getElem?_eq_none_iff] at hv ⊢
      exact hlength ▸ hv
    | some v =>
      rw [strengthIndex_sent hn hv]
      by_cases hall : (xs.take (n + 1 + i)).all Float.isFinite = true
      · rw [if_pos hall]
      · obtain ⟨x, hx, hfinite⟩ : ∃ x ∈ xs.take (n + 1 + i), x.isFinite = false := by
          simpa using hall
        have hnan : x = nan :=
          Number.eq_nan_of_not_isInf hfinite (hinfinite x (List.mem_of_mem_take hx))
        rw [if_neg hall, hmissing i v hv (hnan ▸ hx)]

end Missing

end ChartScript.Indicator
