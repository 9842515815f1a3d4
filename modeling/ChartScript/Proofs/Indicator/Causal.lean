import ChartScript.Indicator.Series
import ChartScript.Proofs.Indicator.Missing
import Mathlib.Data.List.Basic
/-!
# Series that look back only

Every kernel gives its first value after a fixed number of numbers and keeps the values that it
has given when further numbers arrive. Such series can be composed and combined place by place,
so the indicators over bars inherit both facts from their kernels. The join by time is the
exception: it keeps its points as long as no later point has the time of an earlier one.
-/

namespace ChartScript.Indicator

/-- A series computed from another one: it starts `lag` places later and keeps its values when
the other one grows. -/
structure Causal {β γ : Type} (lag : Nat) (f : List β → List γ) : Prop where
  /-- There is a value for every place after the first ones. -/
  length : ∀ xs, (f xs).length = xs.length - lag
  /-- Values stay when further input is appended. -/
  grows : ∀ xs ys, f xs <+: f (xs ++ ys)

namespace Causal

variable {β γ δ : Type} {lag : Nat} {f : List β → List γ}

/-- A longer input has a longer output. -/
theorem mono (hf : Causal lag f) {xs ys : List β} (h : xs <+: ys) : f xs <+: f ys := by
  obtain ⟨more, rfl⟩ := h
  exact hf.grows xs more

/-- An input that is no longer than the lag has no output. -/
theorem eq_nil (hf : Causal lag f) {xs : List β} (h : xs.length ≤ lag) : f xs = [] := by
  have hlength : (f xs).length = 0 := by
    rw [hf.length]
    omega
  exact List.eq_nil_of_length_eq_zero hlength

/-- A series of a series. -/
theorem comp (hf : Causal lag f) {more : Nat} {g : List γ → List δ} (hg : Causal more g) :
    Causal (lag + more) fun xs => g (f xs) where
  length xs := by
    rw [hg.length, hf.length]
    omega
  grows xs ys := hg.mono (hf.grows xs ys)

/-- Two series with the same lag, combined place by place. -/
theorem zipWith {ε : Type} (hf : Causal lag f) {g : List β → List δ} (hg : Causal lag g)
    (combine : γ → δ → ε) : Causal lag fun xs => List.zipWith combine (f xs) (g xs) where
  length xs := by
    rw [List.length_zipWith, hf.length, hg.length, Nat.min_self]
  grows xs ys := by
    obtain ⟨as, has⟩ := hf.grows xs ys
    obtain ⟨bs, hbs⟩ := hg.grows xs ys
    have hlength : (f xs).length = (g xs).length := by rw [hf.length, hg.length]
    refine ⟨List.zipWith combine as bs, ?_⟩
    rw [← has, ← hbs, List.zipWith_append hlength]

/-- A series does not change when the inputs that have no output are set apart. -/
theorem gate (hf : Causal lag f) (short : List β → Prop) [DecidablePred short]
    (hshort : ∀ xs, short xs → xs.length ≤ lag) : (fun xs => if short xs then [] else f xs) = f := by
  funext xs
  by_cases h : short xs
  · rw [if_pos h, hf.eq_nil (hshort xs h)]
  · exact if_neg h

end Causal

/-- Values one by one. -/
theorem causal_map {β γ : Type} (g : β → γ) : Causal 0 (List.map g) where
  length _ := List.length_map g
  grows xs ys := by
    rw [List.map_append]
    exact List.prefix_append ..

/-- A list without its first items. -/
theorem causal_drop {β : Type} (n : Nat) : Causal n (List.drop n : List β → List β) where
  length _ := List.length_drop
  grows xs ys := (List.prefix_append xs ys).drop n

/-- A series of what is read off the items one by one. -/
theorem Causal.ofMap {β γ δ : Type} {lag : Nat} {f : List β → List γ} (hf : Causal lag f) (g : δ → β) :
    Causal lag fun xs => f (xs.map g) := by
  have hread := (causal_map g).comp hf
  rwa [Nat.zero_add] at hread

section Kernels

variable {α : Type}

/-- The windows of a length. -/
theorem causal_windows {n : Nat} (hn : 1 ≤ n) : Causal (n - 1) (windows n : List α → List (List α)) where
  length xs := by
    unfold windows
    rw [List.length_map, List.length_range]
    omega
  grows xs ys := by
    have hcount : (xs ++ ys).length + 1 - n =
        (xs.length + 1 - n) + ((xs ++ ys).length + 1 - n - (xs.length + 1 - n)) := by
      rw [List.length_append]
      omega
    have hsame : ∀ i ∈ List.range (xs.length + 1 - n),
        (xs.drop i).take n = ((xs ++ ys).drop i).take n := by
      intro i hi
      have hend : i + n ≤ xs.length := by
        have := List.mem_range.mp hi
        omega
      rw [List.drop_append_of_le_length (by omega), List.take_append_of_le_length]
      rw [List.length_drop]
      omega
    unfold windows
    rw [hcount, List.range_add, List.map_append, List.map_congr_left hsame]
    exact List.prefix_append ..

/-- A series that is too short for a positive period has fewer numbers than the period. -/
theorem length_le_of_isShort {xs : List α} {period : Int} (hperiod : 1 ≤ period)
    (h : isShort xs period = true) : xs.length ≤ period.toNat - 1 := by
  unfold isShort at h
  have hlength : (xs.length : Int) < period := by
    rcases (Bool.or_eq_true _ _).mp h with hlow | hlength
    · exact absurd (of_decide_eq_true hlow) (by omega)
    · exact of_decide_eq_true hlength
  omega

/-- A series with as many numbers as the period is long enough. -/
theorem isShort_of_le {xs : List α} {period : Int} (hperiod : 1 ≤ period)
    (h : period.toNat ≤ xs.length) : isShort xs period = false := by
  by_contra hshort
  have hle := length_le_of_isShort hperiod (Bool.eq_true_of_not_eq_false hshort)
  omega

/-- A period that is not positive makes every series too short. -/
theorem isShort_of_lt {xs : List α} {period : Int} (h : period < 1) : isShort xs period = true := by
  unfold isShort
  rw [decide_eq_true h, Bool.true_or]

/-- A series that has values only for input that is long enough. -/
theorem Causal.unlessShort {β : Type} {period : Int} (hperiod : 1 ≤ period) {f : List α → List β}
    (hf : Causal (period.toNat - 1) f) :
    Causal (period.toNat - 1) fun xs => if isShort xs period then [] else f xs := by
  have hgate := hf.gate (fun xs => isShort xs period = true) fun _ => length_le_of_isShort hperiod
  exact hgate.symm ▸ hf

variable [Scalar α]

/-- The moving mean. -/
theorem causal_movingMean {period : Int} (hperiod : 1 ≤ period) :
    Causal (period.toNat - 1) fun xs : List α => movingMean xs period := by
  have hmeans : Causal (period.toNat - 1)
      fun xs : List α => (windows period.toNat xs).map windowMean :=
    (causal_windows (by omega)).comp (causal_map windowMean)
  exact hmeans.unlessShort hperiod

/-- The moving mean stays when further numbers arrive, whatever the period. -/
theorem movingMean_stays (xs ys : List α) (period : Int) :
    movingMean xs period <+: movingMean (xs ++ ys) period := by
  by_cases hperiod : 1 ≤ period
  · exact (causal_movingMean hperiod).grows xs ys
  · have hnone (zs : List α) : movingMean zs period = [] := if_pos (isShort_of_lt (by omega))
    rw [hnone, hnone]

/-- The moving deviation. -/
theorem causal_movingDeviation {period : Int} (hperiod : 1 ≤ period) :
    Causal (period.toNat - 1) fun xs : List α => movingDeviation xs period := by
  have hdeviations : Causal (period.toNat - 1)
      fun xs : List α => (windows period.toNat xs).map windowDeviation :=
    (causal_windows (by omega)).comp (causal_map windowDeviation)
  exact hdeviations.unlessShort hperiod

/-- The exponential mean from a state on. -/
theorem causal_smoothFrom (period : Int) (s : Smoothing α) : Causal 0 (smoothFrom period s) where
  length xs := by
    induction xs generalizing s with
    | nil => rfl
    | cons x rest ih =>
      unfold smoothFrom
      dsimp only
      rw [List.length_cons, ih, List.length_cons, Nat.sub_zero, Nat.sub_zero]
  grows xs ys := by
    induction xs generalizing s with
    | nil => exact List.nil_prefix
    | cons x rest ih =>
      rw [List.cons_append]
      unfold smoothFrom
      dsimp only
      exact List.cons_prefix_cons.mpr ⟨rfl, ih _⟩

/-- The exponential mean. -/
theorem causal_exponentialMean {period : Int} (hperiod : 1 ≤ period) :
    Causal (period.toNat - 1) fun xs : List α => exponentialMean xs period := by
  have hmeans : Causal (0 + (period.toNat - 1))
      fun xs : List α => (smoothFrom period .empty xs).drop (period.toNat - 1) :=
    (causal_smoothFrom period .empty).comp (causal_drop (period.toNat - 1))
  rw [Nat.zero_add] at hmeans
  exact hmeans.unlessShort hperiod

/-- The strength index. -/
theorem causal_strengthIndex {n : Nat} (hn : 1 ≤ n) :
    Causal n fun xs : List α => strengthIndex xs n where
  length := length_strengthIndex hn
  grows xs ys := by
    refine List.prefix_iff_getElem?.mpr fun i hi => ?_
    have hplace : n + 1 + i ≤ xs.length := by
      rw [length_strengthIndex hn] at hi
      omega
    rw [← List.getElem?_eq_getElem hi, ← strengthIndex_take hn (xs ++ ys),
      List.take_append_of_le_length hplace, strengthIndex_take hn]

end Kernels

section Sessions

variable {α : Type} [Scalar α]

/-- The sessions of days. -/
theorem causal_sessionsFrom (previous : Option Int) (session : Nat) :
    Causal 0 (sessionsFrom previous session) where
  length days := by
    induction days generalizing previous session with
    | nil => rfl
    | cons d rest ih =>
      unfold sessionsFrom
      dsimp only
      rw [List.length_cons, ih, List.length_cons, Nat.sub_zero, Nat.sub_zero]
  grows days later := by
    induction days generalizing previous session with
    | nil => exact List.nil_prefix
    | cons d rest ih =>
      rw [List.cons_append]
      unfold sessionsFrom
      dsimp only
      exact List.cons_prefix_cons.mpr ⟨rfl, ih _ _⟩

/-- The running sums of labels. -/
theorem causal_runningSums (sums : List (Nat × α)) : Causal 0 (runningSums sums) where
  length entries := by
    induction entries generalizing sums with
    | nil => rfl
    | cons entry rest ih =>
      unfold runningSums
      split
      · rw [List.length_cons, ih, List.length_cons, Nat.sub_zero, Nat.sub_zero]
      · rw [List.length_cons, ih, List.length_cons, Nat.sub_zero, Nat.sub_zero]
  grows entries later := by
    induction entries generalizing sums with
    | nil => exact List.nil_prefix
    | cons entry rest ih =>
      rw [List.cons_append]
      unfold runningSums
      split
      · exact List.cons_prefix_cons.mpr ⟨rfl, ih _⟩
      · exact List.cons_prefix_cons.mpr ⟨rfl, ih _⟩

end Sessions

section Join

variable {β : Type} (combine : β → β → β) {xs ys : List (Timed β)}

/-- Partners of other times do not count. -/
theorem joinByTime_append_right {later : List (Timed β)}
    (h : ∀ p ∈ xs, ∀ q ∈ later, q.time ≠ p.time) :
    joinByTime combine xs (ys ++ later) = joinByTime combine xs ys := by
  unfold joinByTime
  refine List.filterMap_congr fun p hp => ?_
  have hnone : later.reverse.find? (fun q => q.time = p.time) = none :=
    List.find?_eq_none.mpr fun q hq => by
      simpa using h p hp q (List.mem_reverse.mp hq)
  rw [List.reverse_append, List.find?_append, hnone, Option.none_or]

/-- The joined points stay when both series grow by points of other times. -/
theorem joinByTime_stays {moreYs : List (Timed β)}
    (h : ∀ p ∈ xs, ∀ q ∈ moreYs, q.time ≠ p.time) (ys moreXs : List (Timed β)) :
    joinByTime combine xs ys <+: joinByTime combine (xs ++ moreXs) (ys ++ moreYs) := by
  rw [← joinByTime_append_right combine h]
  unfold joinByTime
  rw [List.filterMap_append]
  exact List.prefix_append ..

end Join

end ChartScript.Indicator
