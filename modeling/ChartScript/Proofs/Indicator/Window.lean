import ChartScript.Proofs.Indicator.Exact
import ChartScript.Proofs.Indicator.Settled
import Mathlib.Algebra.Order.BigOperators.Group.List
import Mathlib.Tactic.Ring
/-!
# Means and bands of windows in exact arithmetic

The moving mean, the moving deviation and the bands have one value for every full window. A window
of real numbers has their mean and the root of their population variance, and its bands lie on both
sides of the mean, at a distance of as many deviations as the factor says. A number that is missing
or infinite spoils the windows that it stands in and no other one.
-/

namespace ChartScript.Indicator

section Places

variable {α : Type}

/-- The numbers from a place on, as many as the period has. -/
def windowAt (xs : List α) (period : Int) (k : Nat) : List α := (xs.drop k).take period.toNat

/-- The number of full windows; there are none for a period that is not positive. -/
def windowCount (length : Nat) (period : Int) : Int :=
  if period < 1 then 0 else max 0 (length - period + 1)

/-- As many values as there are places after the first ones, if the period is positive. -/
theorem windowCount_of_le {period : Int} (hperiod : 1 ≤ period) (length : Nat) :
    windowCount length period = (length - (period.toNat - 1) : Nat) := by
  unfold windowCount
  rw [if_neg (by omega)]
  omega

/-- A kernel on windows has no value for a period that is not positive, and else one for every full
window. -/
theorem length_eq_windowCount {β : Type} {n : Nat} {period : Int} {values : List β}
    (hnone : period < 1 → values = [])
    (hsome : 1 ≤ period → values.length = n - (period.toNat - 1)) :
    (values.length : Int) = windowCount n period := by
  by_cases hperiod : 1 ≤ period
  · rw [hsome hperiod, windowCount_of_le hperiod]
  · rw [hnone (by omega)]
    exact (if_pos (by omega)).symm

/-- A place that has a value has a full window. -/
theorem full_of_getElem? {β : Type} {n : Nat} {period : Int} {values : List β} {k : Nat} {v : β}
    (hlength : (values.length : Int) = windowCount n period) (hv : values[k]? = some v) :
    1 ≤ period ∧ k + period.toNat ≤ n := by
  have hk := (List.getElem?_eq_some_iff.mp hv).1
  by_cases hperiod : 1 ≤ period
  · rw [windowCount_of_le hperiod] at hlength
    omega
  · unfold windowCount at hlength
    rw [if_pos (by omega)] at hlength
    omega

variable {period : Int} {xs : List α} {k : Nat}

/-- A full window has as many numbers as the period. -/
theorem length_windowAt (hk : k + period.toNat ≤ xs.length) :
    (windowAt xs period k).length = period.toNat := by
  unfold windowAt
  rw [List.length_take, List.length_drop]
  omega

/-- A kernel on windows has the value of the window at each place. -/
theorem getElem?_map_windows {β : Type} (hperiod : 1 ≤ period) (hk : k + period.toNat ≤ xs.length)
    (f : List α → β) :
    (if isShort xs period then [] else (windows period.toNat xs).map f)[k]? =
      some (f (windowAt xs period k)) := by
  have hlong : isShort xs period = false := isShort_of_le hperiod (by omega)
  rw [if_neg (Bool.eq_false_iff.mp hlong), List.getElem?_map]
  unfold windows windowAt
  rw [List.getElem?_map, List.getElem?_range (by omega)]
  rfl

theorem length_closes (bars : List (Sample α)) : (closes bars).length = bars.length :=
  List.length_map _

variable [Scalar α]

theorem getElem?_movingMean (hperiod : 1 ≤ period) (hk : k + period.toNat ≤ xs.length) :
    (movingMean xs period)[k]? = some (windowMean (windowAt xs period k)) :=
  getElem?_map_windows hperiod hk windowMean

theorem getElem?_movingDeviation (hperiod : 1 ≤ period) (hk : k + period.toNat ≤ xs.length) :
    (movingDeviation xs period)[k]? = some (windowDeviation (windowAt xs period k)) :=
  getElem?_map_windows hperiod hk windowDeviation

/-- The bands at a place are those of the window there, at the time of its last bar. -/
theorem getElem?_bollinger {bars : List (Sample α)} (hperiod : 1 ≤ period)
    (hk : k + period.toNat ≤ bars.length) (mult : α) :
    ∃ bar, bars[k + period.toNat - 1]? = some bar ∧
      (bollinger bars period mult)[k]? =
        some (band mult bar (windowMean (windowAt (closes bars) period k))
          (windowDeviation (windowAt (closes bars) period k))) := by
  have hcloses : k + period.toNat ≤ (closes bars).length := by rwa [length_closes]
  have hbar := List.getElem?_eq_getElem (show k + period.toNat - 1 < bars.length by omega)
  have hlast : (bars.drop (period.toNat - 1))[k]? = some (bars[k + period.toNat - 1]) := by
    have hplace : period.toNat - 1 + k = k + period.toNat - 1 := by omega
    rw [List.getElem?_drop, hplace, hbar]
  refine ⟨_, hbar, ?_⟩
  rw [bollinger_eq hperiod, List.getElem?_map, List.zip_eq_zipWith, List.zip_eq_zipWith,
    List.getElem?_zipWith, List.getElem?_zipWith, hlast, getElem?_movingMean hperiod hcloses,
    getElem?_movingDeviation hperiod hcloses]
  rfl

theorem length_movingMean (xs : List α) (period : Int) :
    ((movingMean xs period).length : Int) = windowCount xs.length period :=
  length_eq_windowCount (fun h => if_pos (isShort_of_lt h)) fun h => (causal_movingMean h).length xs

theorem length_movingDeviation (xs : List α) (period : Int) :
    ((movingDeviation xs period).length : Int) = windowCount xs.length period :=
  length_eq_windowCount (fun h => if_pos (isShort_of_lt h)) fun h => (causal_movingDeviation h).length xs

theorem length_bollinger (bars : List (Sample α)) (period : Int) (mult : α) :
    ((bollinger bars period mult).length : Int) = windowCount bars.length period :=
  length_eq_windowCount (fun h => bollinger_of_lt h bars mult)
    fun h => (causal_bollinger h mult).length bars

theorem length_sma (bars : List (Sample α)) (period : Int) :
    ((sma bars period).length : Int) = windowCount bars.length period := by
  refine length_eq_windowCount (fun h => ?_) fun h => (causal_movingMean h).timed.length bars
  have hmeans : movingMean (closes bars) period = [] := if_pos (isShort_of_lt h)
  unfold sma timed
  rw [hmeans, List.zipWith_nil_right]

end Places

section Moments

/-- The mean of real numbers. -/
noncomputable def realMean (ys : List ℝ) : ℝ := ys.sum / ys.length

/-- The mean square of the distances from the mean. -/
noncomputable def variance (ys : List ℝ) : ℝ :=
  (ys.map fun y => (y - realMean ys) ^ 2).sum / ys.length

theorem variance_nonneg (ys : List ℝ) : 0 ≤ variance ys :=
  div_nonneg (List.sum_nonneg (List.forall_mem_map.mpr fun _ _ => sq_nonneg _)) ys.length.cast_nonneg

/-- Whether a window has a number that is missing or infinite. -/
def Spoiled (window : List Exact) : Prop := ∃ x ∈ window, ∀ y, x ≠ .number y

/-- A window that is not spoiled consists of real numbers. -/
theorem exists_reals {window : List Exact} (h : ¬Spoiled window) :
    ∃ ys : List ℝ, window = ys.map .number := by
  induction window with
  | nil => exact ⟨[], rfl⟩
  | cons x rest ih =>
    obtain ⟨ys, rfl⟩ := ih fun ⟨y, hy, hbad⟩ => h ⟨y, List.mem_cons_of_mem x hy, hbad⟩
    by_cases hx : ∃ y, x = .number y
    · obtain ⟨y, rfl⟩ := hx
      exact ⟨y :: ys, rfl⟩
    · exact absurd ⟨x, List.mem_cons_self, not_exists.mp hx⟩ h

/-- A window of real numbers has finite numbers only. -/
theorem all_isFinite (ys : List ℝ) : (ys.map Exact.number).all Scalar.isFinite = true :=
  List.all_eq_true.mpr (List.forall_mem_map.mpr fun _ _ => rfl)

/-- A spoiled window has others. -/
theorem Spoiled.all_isFinite {window : List Exact} (h : Spoiled window) :
    window.all Scalar.isFinite = false := by
  obtain ⟨x, hx, hbad⟩ := h
  exact List.all_eq_false.mpr ⟨x, hx, by rw [Exact.isFinite_of_ne hbad]; decide⟩

/-- The number of items of a window is no zero. -/
theorem length_ne_zero {ys : List ℝ} (hys : ys ≠ []) : ((ys.length : Int) : ℝ) ≠ 0 := by
  have hpos := List.length_pos_iff.mpr hys
  exact Int.cast_ne_zero.mpr (by omega)

theorem windowMean_number {ys : List ℝ} (hys : ys ≠ []) :
    windowMean (ys.map Exact.number) = .number (realMean ys) := by
  unfold windowMean
  rw [if_pos (all_isFinite ys), Exact.total_number, List.length_map, Exact.ofInt_eq,
    Exact.number_div _ (length_ne_zero hys), Int.cast_natCast]
  rfl

theorem windowDeviation_number {ys : List ℝ} (hys : ys ≠ []) :
    windowDeviation (ys.map Exact.number) = .number √(variance ys) := by
  have hsquares : (ys.map Exact.number).map
      (fun x => (x - Exact.number (realMean ys)) * (x - .number (realMean ys))) =
        (ys.map fun y => (y - realMean ys) ^ 2).map .number := by
    rw [List.map_map, List.map_map]
    refine List.map_congr_left fun y _ => ?_
    dsimp only [Function.comp_apply]
    rw [Exact.number_sub, Exact.number_mul, sq]
  have hmean : Exact.number (ys.sum / ((ys.length : Int) : ℝ)) = .number (realMean ys) := by
    rw [Int.cast_natCast]
    rfl
  have hroot : Scalar.sqrt (Exact.number (variance ys)) = .number √(variance ys) :=
    if_neg (not_lt.mpr (variance_nonneg ys))
  unfold windowDeviation
  dsimp only
  rw [Exact.total_number, List.length_map, Exact.ofInt_eq, Exact.number_div _ (length_ne_zero hys),
    hmean, hsquares, Exact.total_number, Exact.number_div _ (length_ne_zero hys), Int.cast_natCast,
    ← variance, hroot]

theorem windowMean_spoiled {window : List Exact} (h : Spoiled window) :
    windowMean window = .missing :=
  if_neg (Bool.eq_false_iff.mp h.all_isFinite)

/-- The mean of a spoiled window, as the sum over the number of items, is missing, or infinite with
the sign of each infinite item, and then no item is missing. -/
theorem Spoiled.mean_cases {window : List Exact} (h : Spoiled window) :
    total window / Scalar.ofInt window.length = Exact.missing ∨
      ∃ s, total window / Scalar.ofInt window.length = Exact.infinite s ∧
        ∀ x ∈ window, (∃ y, x = .number y) ∨ x = .infinite s := by
  obtain ⟨x, hx, hbad⟩ := h
  cases htotal : total window with
  | number z =>
    obtain ⟨y, hy⟩ := Exact.forall_number_of_total htotal x hx
    exact absurd hy (hbad y)
  | missing => exact .inl rfl
  | infinite s =>
    have hcount : (0 : ℝ) < ((window.length : Int) : ℝ) := by
      have hpos := List.length_pos_of_mem hx
      exact Int.cast_pos.mpr (by omega)
    have hquotient : Exact.infinite s / Scalar.ofInt window.length = Exact.infinite s := by
      change Exact.scaled _ s = _
      unfold Exact.scaled
      rw [if_neg hcount.ne', decide_eq_false hcount.le.not_gt, Bool.bne_false]
    exact .inr ⟨s, hquotient, Exact.forall_sign_of_total htotal⟩

/-- The deviation of a spoiled window is missing: so is the distance of an item from a missing mean,
and that of an infinite item from an infinite mean. -/
theorem windowDeviation_spoiled {window : List Exact} (h : Spoiled window) :
    windowDeviation window = .missing := by
  obtain ⟨x, hx, hbad⟩ := h
  unfold windowDeviation
  dsimp only
  generalize hmean : total window / Scalar.ofInt window.length = mean
  have hdistance : (x - mean) * (x - mean) = Exact.missing := by
    have hcases := Spoiled.mean_cases ⟨x, hx, hbad⟩
    rw [hmean] at hcases
    rcases hcases with rfl | ⟨s, rfl, hsigns⟩
    · cases x <;> rfl
    · rcases hsigns x hx with ⟨y, hy⟩ | rfl
      · exact absurd hy (hbad y)
      · have hnone : Exact.infinite s - .infinite s = Exact.missing := by cases s <;> rfl
        rw [hnone]
        rfl
  rw [Exact.total_of_missing (List.mem_map.mpr ⟨x, hx, hdistance⟩)]
  rfl

end Moments

section Laws

/-- The mean of a window. -/
structure MeanOf (window : List Exact) (value : Exact) : Prop where
  /-- A window of real numbers has their mean. -/
  sound : ∀ ys : List ℝ, window = ys.map .number → value = .number (realMean ys)
  /-- It is missing exactly if the window is spoiled. -/
  missing_iff : value = .missing ↔ Spoiled window

/-- The deviation of a window. -/
structure DeviationOf (window : List Exact) (value : Exact) : Prop where
  /-- A window of real numbers has the root of their variance. -/
  sound : ∀ ys : List ℝ, window = ys.map .number →
    ∃ d, 0 ≤ d ∧ d ^ 2 = variance ys ∧ value = .number d
  /-- It is missing exactly if the window is spoiled. -/
  missing_iff : value = .missing ↔ Spoiled window

/-- The bands of a window. -/
structure BandOf (window : List Exact) (mult : ℝ) (bands : Banded Exact) : Prop where
  /-- A window of real numbers has their mean in the middle. The lines above and below lie equally
  far from it, and the square of that distance is the variance times the square of the factor. -/
  sound : ∀ ys : List ℝ, window = ys.map .number → ∃ upper lower,
    bands.upper = .number upper ∧ bands.basis = .number (realMean ys) ∧
      bands.lower = .number lower ∧ upper - realMean ys = realMean ys - lower ∧
      (upper - realMean ys) ^ 2 = mult ^ 2 * variance ys
  /-- Each of the lines is missing exactly if the window is spoiled. -/
  missing_iff : ∀ line, line = bands.upper ∨ line = bands.basis ∨ line = bands.lower →
    (line = .missing ↔ Spoiled window)

variable {window : List Exact}

/-- A window with items in it has a mean of this kind. -/
theorem meanOf (hne : window ≠ []) : MeanOf window (windowMean window) := by
  have hsound (ys : List ℝ) (h : window = ys.map .number) :
      windowMean window = .number (realMean ys) := by
    subst h
    exact windowMean_number (List.map_eq_nil_iff.not.mp hne)
  refine ⟨hsound, fun hmissing => ?_, windowMean_spoiled⟩
  by_contra hsome
  obtain ⟨ys, hys⟩ := exists_reals hsome
  rw [hsound ys hys] at hmissing
  cases hmissing

/-- A window with items in it has a deviation of this kind. -/
theorem deviationOf (hne : window ≠ []) : DeviationOf window (windowDeviation window) := by
  have hsound (ys : List ℝ) (h : window = ys.map .number) :
      windowDeviation window = .number √(variance ys) := by
    subst h
    exact windowDeviation_number (List.map_eq_nil_iff.not.mp hne)
  refine ⟨fun ys h => ⟨_, Real.sqrt_nonneg _, Real.sq_sqrt (variance_nonneg ys), hsound ys h⟩,
    fun hmissing => ?_, windowDeviation_spoiled⟩
  by_contra hsome
  obtain ⟨ys, hys⟩ := exists_reals hsome
  rw [hsound ys hys] at hmissing
  cases hmissing

/-- A window with items in it has bands of this kind. -/
theorem bandOf (hne : window ≠ []) (bar : Sample Exact) (mult : ℝ) :
    BandOf window mult (band (.number mult) bar (windowMean window) (windowDeviation window)) := by
  have hbands (ys : List ℝ) (h : window = ys.map .number) :
      band (.number mult) bar (windowMean window) (windowDeviation window) =
        ⟨bar.time, .number (realMean ys + mult * √(variance ys)), .number (realMean ys),
          .number (realMean ys - mult * √(variance ys))⟩ := by
    subst h
    have hys := List.map_eq_nil_iff.not.mp hne
    unfold band
    rw [windowMean_number hys, windowDeviation_number hys, Exact.number_mul, Exact.number_add,
      Exact.number_sub]
  constructor
  case sound =>
    intro ys h
    rw [hbands ys h]
    refine ⟨_, _, rfl, rfl, rfl, by ring, ?_⟩
    rw [add_sub_cancel_left, mul_pow, Real.sq_sqrt (variance_nonneg ys)]
  case missing_iff =>
    intro line hline
    constructor
    · intro hmissing
      by_contra hsome
      obtain ⟨ys, hys⟩ := exists_reals hsome
      rw [hbands ys hys] at hline
      rcases hline with rfl | rfl | rfl <;> cases hmissing
    · intro hspoiled
      unfold band at hline
      rw [windowMean_spoiled hspoiled, windowDeviation_spoiled hspoiled] at hline
      rcases hline with rfl | rfl | rfl <;> rfl

/-- The moving mean and deviation of a list of exact numbers. -/
structure Moves (xs : List Exact) (period : Int) : Prop where
  /-- There is a mean for every full window. -/
  means : ((movingMean xs period).length : Int) = windowCount xs.length period
  /-- There is a deviation for every full window. -/
  deviations : ((movingDeviation xs period).length : Int) = windowCount xs.length period
  /-- The mean at a place is that of the window from there on. -/
  mean : ∀ k v, (movingMean xs period)[k]? = some v → MeanOf (windowAt xs period k) v
  /-- So is the deviation. -/
  deviation : ∀ k v, (movingDeviation xs period)[k]? = some v → DeviationOf (windowAt xs period k) v

/-- The moving mean and the bands over bars. -/
structure Bands (bars : List (Sample Exact)) (period : Int) (mult : ℝ) : Prop where
  /-- There is a mean for every full window. -/
  means : ((sma bars period).length : Int) = windowCount bars.length period
  /-- There are bands for every full window. -/
  bands : ((bollinger bars period (.number mult)).length : Int) = windowCount bars.length period
  /-- The mean at a place is that of the window from there on, at the time of its last bar. -/
  mean : ∀ k p, (sma bars period)[k]? = some p →
    (∃ bar, bars[k + period.toNat - 1]? = some bar ∧ p.time = bar.time) ∧
      MeanOf (windowAt (closes bars) period k) p.value
  /-- So are the bands. -/
  band : ∀ k b, (bollinger bars period (.number mult))[k]? = some b →
    (∃ bar, bars[k + period.toNat - 1]? = some bar ∧ b.time = bar.time) ∧
      BandOf (windowAt (closes bars) period k) mult b

variable {period : Int}

/-- A full window has items in it. -/
theorem windowAt_ne_nil {α : Type} {xs : List α} {k : Nat} (hperiod : 1 ≤ period)
    (hk : k + period.toNat ≤ xs.length) : windowAt xs period k ≠ [] := by
  have hlength := length_windowAt hk
  exact List.ne_nil_of_length_pos (by omega)

/-- Every list of exact numbers has a moving mean and deviation of this kind. -/
theorem moves (xs : List Exact) (period : Int) : Moves xs period := by
  constructor
  case means => exact length_movingMean xs period
  case deviations => exact length_movingDeviation xs period
  case mean =>
    intro k v hv
    obtain ⟨hperiod, hk⟩ := full_of_getElem? (length_movingMean xs period) hv
    rw [getElem?_movingMean hperiod hk] at hv
    obtain rfl := Option.some.inj hv
    exact meanOf (windowAt_ne_nil hperiod hk)
  case deviation =>
    intro k v hv
    obtain ⟨hperiod, hk⟩ := full_of_getElem? (length_movingDeviation xs period) hv
    rw [getElem?_movingDeviation hperiod hk] at hv
    obtain rfl := Option.some.inj hv
    exact deviationOf (windowAt_ne_nil hperiod hk)

/-- Any bars have a moving mean and bands of this kind. -/
theorem bands (bars : List (Sample Exact)) (period : Int) (mult : ℝ) : Bands bars period mult := by
  constructor
  case means => exact length_sma bars period
  case bands => exact length_bollinger bars period (.number mult)
  case mean =>
    intro k p hp
    obtain ⟨hperiod, hk⟩ := full_of_getElem? (length_sma bars period) hp
    have hplace : period.toNat - 1 + k = k + period.toNat - 1 := by omega
    have hvalue : (movingMean (closes bars) period)[k]? = some p.value := by
      rw [← (causal_movingMean hperiod).timed_values bars, List.getElem?_map]
      exact congrArg (Option.map Timed.value) hp
    rw [← hplace]
    exact ⟨(causal_movingMean hperiod).time_of_getElem? hp, (moves _ _).mean k _ hvalue⟩
  case band =>
    intro k b hb
    obtain ⟨hperiod, hk⟩ := full_of_getElem? (length_bollinger bars period (.number mult)) hb
    obtain ⟨bar, hbar, hband⟩ := getElem?_bollinger hperiod hk (.number mult)
    rw [hband] at hb
    obtain rfl := Option.some.inj hb
    have hcloses : k + period.toNat ≤ (closes bars).length := by rwa [length_closes]
    exact ⟨⟨bar, hbar, rfl⟩, bandOf (windowAt_ne_nil hperiod hcloses) bar mult⟩

/-- In exact arithmetic, with any integer as period and any real number as factor, the moving mean
and deviation of any numbers and the moving mean and bands over any bars are of the kinds above. -/
theorem windows_exact (period : Int) :
    (∀ xs : List Exact, Moves xs period) ∧
    ∀ (bars : List (Sample Exact)) (mult : ℝ), Bands bars period mult :=
  ⟨fun xs => moves xs period, fun bars mult => bands bars period mult⟩

end Laws

end ChartScript.Indicator
