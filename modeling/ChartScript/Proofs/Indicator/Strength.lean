import ChartScript.Proofs.Indicator.Exact
import ChartScript.Proofs.Indicator.Settled
import Mathlib.Algebra.Order.BigOperators.Group.List
import Mathlib.Tactic.Positivity
/-!
# The strength index in exact arithmetic

Every value of the strength index is read off two averages, of the gains and of the losses that
came before it. An average is the plain mean of the first samples and then gives way to every
further one by a share of one in `period`; so it stays non-negative, and unless the period is one
it is zero only while all samples are. The index is a hundred exactly while there is no loss, zero
exactly while there are losses without a gain, and between the two otherwise.
-/

namespace ChartScript.Indicator

section Averages

variable {α : Type} [Scalar α]

/-- The average after some samples: the plain mean of the first ones, then a step for every other. -/
def average (n : Nat) (samples : List α) : α :=
  (samples.drop n).foldl (averageStep n) (plainMean (samples.take n))

/-- The further values are read off the averages after every delta. -/
theorem getElem?_strengthFrom (period : Int) (gain loss : α) {ds : List α} {k : Nat}
    (hk : k < ds.length) :
    (strengthFrom period gain loss ds)[k]? =
      some (strength (((ds.take (k + 1)).map gainOf).foldl (averageStep period) gain)
        (((ds.take (k + 1)).map lossOf).foldl (averageStep period) loss)) := by
  induction ds generalizing gain loss k with
  | nil => cases hk
  | cons d rest ih =>
    unfold strengthFrom
    dsimp only
    cases k with
    | zero => rfl
    | succ k =>
      rw [List.getElem?_cons_succ, ih _ _ (Nat.lt_of_succ_lt_succ hk)]
      rfl

/-- A value of the strength index is read off the average gain and loss of the deltas up to it. -/
theorem getElem?_strengthIndex {n : Nat} (hn : 1 ≤ n) {xs : List α} {k : Nat}
    (hk : n + k < xs.length) :
    (strengthIndex xs n)[k]? =
      some (strength (average n (((deltas xs).take (n + k)).map gainOf))
        (average n (((deltas xs).take (n + k)).map lossOf))) := by
  have hsplit (sampleOf : α → α) : average n (((deltas xs).take (n + k)).map sampleOf) =
      ((((deltas xs).drop n).take k).map sampleOf).foldl (averageStep n)
        (plainMean (((deltas xs).take n).map sampleOf)) := by
    unfold average
    rw [← List.map_take, ← List.map_drop, List.take_take, List.drop_take,
      Nat.min_eq_left (Nat.le_add_right n k), Nat.add_sub_cancel_left]
  rw [strengthIndex_of_le hn (by omega), hsplit, hsplit]
  cases k with
  | zero => rfl
  | succ k =>
    have hlater : k < ((deltas xs).drop n).length := by
      rw [List.length_drop, length_deltas]
      omega
    exact getElem?_strengthFrom n _ _ hlater

end Averages

section Smoothing

variable {n : Nat}

/-- A step of an average of real numbers. -/
noncomputable def smoothed (n : Nat) (average sample : ℝ) : ℝ := (average * (n - 1) + sample) / n

/-- The average of real numbers. -/
noncomputable def realAverage (n : Nat) (samples : List ℝ) : ℝ :=
  (samples.drop n).foldl (smoothed n) ((samples.take n).sum / n)

/-- A period is no zero. -/
theorem period_ne_zero (hn : 1 ≤ n) : (n : ℝ) ≠ 0 := Nat.cast_ne_zero.mpr (by omega)

/-- A step of an average divides by the period alone. -/
theorem averageStep_number (hn : 1 ≤ n) (a s : ℝ) :
    averageStep n (Exact.number a) (.number s) = .number (smoothed n a s) := by
  have hweight : Scalar.ofInt ((n : Int) - 1) = Exact.number (n - 1) := by
    rw [Exact.ofInt_eq]
    push_cast
    rfl
  unfold averageStep
  rw [hweight, Exact.number_mul, Exact.number_add]
  exact Exact.number_div _ (period_ne_zero hn)

/-- The average of real numbers is a real number. -/
theorem average_number (hn : 1 ≤ n) {samples : List ℝ} (hlength : n ≤ samples.length) :
    average n (samples.map Exact.number) = .number (realAverage n samples) := by
  have hfrom (a : ℝ) (later : List ℝ) :
      (later.map Exact.number).foldl (averageStep n) (.number a) =
        .number (later.foldl (smoothed n) a) := by
    induction later generalizing a with
    | nil => rfl
    | cons s rest ih => rw [List.map_cons, List.foldl_cons, averageStep_number hn, ih, List.foldl_cons]
  have hfirst : plainMean ((samples.take n).map Exact.number) = .number ((samples.take n).sum / n) := by
    unfold plainMean
    rw [Exact.total_number, List.length_map, List.length_take, Nat.min_eq_left hlength]
    exact Exact.number_div _ (period_ne_zero hn)
  unfold average
  rw [← List.map_take, ← List.map_drop, hfirst, hfrom]
  rfl

/-- A step keeps an average from becoming negative. -/
theorem smoothed_nonneg (hn : 1 ≤ n) {a s : ℝ} (ha : 0 ≤ a) (hs : 0 ≤ s) : 0 ≤ smoothed n a s := by
  have hweight : (0 : ℝ) ≤ n - 1 := sub_nonneg.mpr (Nat.one_le_cast.mpr hn)
  unfold smoothed
  positivity

/-- A step gives zero only from a zero sample and, unless the period is one, a zero average. -/
theorem smoothed_eq_zero_iff (hn : 2 ≤ n) {a s : ℝ} (ha : 0 ≤ a) (hs : 0 ≤ s) :
    smoothed n a s = 0 ↔ a = 0 ∧ s = 0 := by
  have hweight : (0 : ℝ) < n - 1 := sub_pos.mpr (Nat.one_lt_cast.mpr hn)
  unfold smoothed
  rw [div_eq_zero_iff, or_iff_left (period_ne_zero (by omega)),
    add_eq_zero_iff_of_nonneg (mul_nonneg ha hweight.le) hs, mul_eq_zero, or_iff_left hweight.ne']

/-- With period one a step forgets the average. -/
theorem smoothed_one (a s : ℝ) : smoothed 1 a s = s := by
  unfold smoothed
  rw [Nat.cast_one, sub_self, mul_zero, zero_add, div_one]

variable {samples : List ℝ}

/-- The mean of the first samples is not negative. -/
theorem firstMean_nonneg (hs : ∀ s ∈ samples, 0 ≤ s) : 0 ≤ (samples.take n).sum / n :=
  div_nonneg (List.sum_nonneg fun s hmem => hs s (List.mem_of_mem_take hmem)) n.cast_nonneg

/-- An average of samples that are not negative is not negative. -/
theorem realAverage_nonneg (hn : 1 ≤ n) (hs : ∀ s ∈ samples, 0 ≤ s) : 0 ≤ realAverage n samples := by
  have hfrom (a : ℝ) (later : List ℝ) (ha : 0 ≤ a) (hlater : ∀ s ∈ later, 0 ≤ s) :
      0 ≤ later.foldl (smoothed n) a := by
    induction later generalizing a with
    | nil => exact ha
    | cons s rest ih =>
      obtain ⟨hfirst, hrest⟩ := List.forall_mem_cons.mp hlater
      exact ih _ (smoothed_nonneg hn ha hfirst) hrest
  exact hfrom _ _ (firstMean_nonneg hs) fun s hmem => hs s (List.mem_of_mem_drop hmem)

/-- Unless the period is one, the average is zero only while all samples are. -/
theorem realAverage_eq_zero_iff (hn : 2 ≤ n) (hs : ∀ s ∈ samples, 0 ≤ s) :
    realAverage n samples = 0 ↔ ∀ s ∈ samples, s = 0 := by
  have hfrom (a : ℝ) (later : List ℝ) (ha : 0 ≤ a) (hlater : ∀ s ∈ later, 0 ≤ s) :
      later.foldl (smoothed n) a = 0 ↔ a = 0 ∧ ∀ s ∈ later, s = 0 := by
    induction later generalizing a with
    | nil => simp
    | cons s rest ih =>
      obtain ⟨hfirst, hrest⟩ := List.forall_mem_cons.mp hlater
      rw [List.foldl_cons, ih _ (smoothed_nonneg (by omega) ha hfirst) hrest,
        smoothed_eq_zero_iff hn ha hfirst, List.forall_mem_cons, and_assoc]
  have hmean : (samples.take n).sum / n = 0 ↔ ∀ s ∈ samples.take n, s = 0 := by
    rw [div_eq_zero_iff, or_iff_left (period_ne_zero (by omega))]
    refine ⟨?_, List.sum_eq_zero⟩
    exact List.all_zero_of_le_zero_le_of_sum_eq_zero fun s hmem => hs s (List.mem_of_mem_take hmem)
  unfold realAverage
  rw [hfrom _ _ (firstMean_nonneg hs) fun s hmem => hs s (List.mem_of_mem_drop hmem), hmean,
    ← List.forall_mem_append, List.take_append_drop]

/-- With period one the average is the last sample. -/
theorem realAverage_one (s : ℝ) : realAverage 1 (samples ++ [s]) = s := by
  cases samples with
  | nil => simp [realAverage]
  | cons first rest => simp [realAverage, smoothed_one]

end Smoothing

section Rates

/-- The strength index of real averages: a hundred when there is no loss. -/
noncomputable def rate (gain loss : ℝ) : ℝ := if loss = 0 then 100 else 100 - 100 / (1 + gain / loss)

variable {gain loss : ℝ}

/-- The relation of gain to loss is not a negative one. -/
theorem one_le_relation (hgain : 0 ≤ gain) (hloss : 0 ≤ loss) : 1 ≤ 1 + gain / loss :=
  le_add_of_nonneg_right (div_nonneg hgain hloss)

/-- The strength index of real averages divides by no zero. -/
theorem strength_number (hgain : 0 ≤ gain) (hloss : 0 ≤ loss) :
    strength (Exact.number gain) (.number loss) = .number (rate gain loss) := by
  have hundred : Scalar.ofInt 100 = Exact.number 100 := congrArg Exact.number (Int.cast_ofNat 100)
  have hone : Scalar.ofInt 1 = Exact.number 1 := congrArg Exact.number Int.cast_one
  have hrelation : 1 + gain / loss ≠ 0 := (one_pos.trans_le (one_le_relation hgain hloss)).ne'
  unfold strength rate
  rw [Exact.isZero_number, hundred, hone]
  by_cases hzero : loss = 0
  · rw [if_pos (decide_eq_true hzero), if_pos hzero]
  · rw [if_neg (by simpa using hzero), if_neg hzero, Exact.number_div _ hzero, Exact.number_add,
      Exact.number_div _ hrelation, Exact.number_sub]

/-- The index is not negative. -/
theorem rate_nonneg (hgain : 0 ≤ gain) (hloss : 0 ≤ loss) : 0 ≤ rate gain loss := by
  unfold rate
  split
  · norm_num
  · exact sub_nonneg.mpr (div_le_self (by norm_num) (one_le_relation hgain hloss))

/-- The index falls short of a hundred by a part of it, unless there is no loss. -/
theorem rate_lt (hgain : 0 ≤ gain) (hloss : 0 ≤ loss) (hne : loss ≠ 0) : rate gain loss < 100 := by
  unfold rate
  rw [if_neg hne]
  exact sub_lt_self _ (div_pos (by norm_num) (one_pos.trans_le (one_le_relation hgain hloss)))

/-- The index is a hundred exactly if there is no loss. -/
theorem rate_eq_hundred_iff (hgain : 0 ≤ gain) (hloss : 0 ≤ loss) : rate gain loss = 100 ↔ loss = 0 := by
  constructor
  · intro h
    by_contra hne
    exact (rate_lt hgain hloss hne).ne h
  · exact fun hzero => if_pos hzero

/-- The index is at most a hundred. -/
theorem rate_le (hgain : 0 ≤ gain) (hloss : 0 ≤ loss) : rate gain loss ≤ 100 := by
  by_cases hzero : loss = 0
  · exact ((rate_eq_hundred_iff hgain hloss).mpr hzero).le
  · exact (rate_lt hgain hloss hzero).le

/-- The index is zero exactly if there is a loss and no gain. -/
theorem rate_eq_zero_iff (hgain : 0 ≤ gain) (hloss : 0 ≤ loss) :
    rate gain loss = 0 ↔ gain = 0 ∧ loss ≠ 0 := by
  unfold rate
  by_cases hzero : loss = 0
  · rw [if_pos hzero]
    simp [hzero]
  · have hrelation : 1 + gain / loss ≠ 0 := (one_pos.trans_le (one_le_relation hgain hloss)).ne'
    rw [if_neg hzero, sub_eq_zero, eq_div_iff hrelation, mul_eq_left₀ (by norm_num), add_eq_left,
      div_eq_zero_iff, or_iff_left hzero, and_iff_left hzero]

end Rates

section Increments

/-- Differences of neighbouring real numbers. -/
noncomputable def increments (xs : List ℝ) : List ℝ := xs.tail.zipWith (· - ·) xs

/-- The differences of real numbers are real numbers. -/
theorem deltas_number (xs : List ℝ) :
    deltas (xs.map Exact.number) = (increments xs).map Exact.number := by
  induction xs with
  | nil => rfl
  | cons x rest ih =>
    cases rest with
    | nil => rfl
    | cons y more =>
      rw [List.map_cons] at ih ⊢
      rw [List.map_cons]
      unfold deltas
      rw [ih, Exact.number_sub]
      rfl

/-- There is one difference less than there are numbers. -/
theorem length_increments (xs : List ℝ) : (increments xs).length = xs.length - 1 := by
  unfold increments
  rw [List.length_zipWith, List.length_tail, Nat.min_eq_left (Nat.sub_le _ _)]

/-- The average gain of differences. -/
noncomputable def averageGain (n : Nat) (ds : List ℝ) : ℝ := realAverage n (ds.map fun d => max d 0)

/-- The average loss of differences. -/
noncomputable def averageLoss (n : Nat) (ds : List ℝ) : ℝ := realAverage n (ds.map fun d => max (-d) 0)

theorem gainOf_number (d : ℝ) : gainOf (Exact.number d) = .number (max d 0) := by
  have hzero : Scalar.ofInt 0 = Exact.number 0 := congrArg Exact.number Int.cast_zero
  unfold gainOf
  rw [hzero, Exact.below_number]
  by_cases hd : d < 0
  · rw [if_pos (decide_eq_true hd), max_eq_right hd.le]
  · rw [if_neg (by simpa using hd), max_eq_left (not_lt.mp hd)]

theorem lossOf_number (d : ℝ) : lossOf (Exact.number d) = .number (max (-d) 0) := by
  have hzero : Scalar.ofInt 0 = Exact.number 0 := congrArg Exact.number Int.cast_zero
  unfold lossOf
  rw [hzero, Exact.number_sub, zero_sub, gainOf_number]

variable {n : Nat} {ds : List ℝ}

/-- The average gain of real differences is a real number. -/
theorem average_gainOf (hn : 1 ≤ n) (hds : n ≤ ds.length) :
    average n ((ds.map Exact.number).map gainOf) = .number (averageGain n ds) := by
  have hgains : (ds.map Exact.number).map gainOf = (ds.map fun d => max d 0).map Exact.number := by
    rw [List.map_map, List.map_map]
    exact List.map_congr_left fun d _ => gainOf_number d
  rw [hgains]
  exact average_number hn (by rwa [List.length_map])

/-- The average loss of real differences is a real number. -/
theorem average_lossOf (hn : 1 ≤ n) (hds : n ≤ ds.length) :
    average n ((ds.map Exact.number).map lossOf) = .number (averageLoss n ds) := by
  have hlosses : (ds.map Exact.number).map lossOf = (ds.map fun d => max (-d) 0).map Exact.number := by
    rw [List.map_map, List.map_map]
    exact List.map_congr_left fun d _ => lossOf_number d
  rw [hlosses]
  exact average_number hn (by rwa [List.length_map])

theorem averageGain_nonneg (hn : 1 ≤ n) (ds : List ℝ) : 0 ≤ averageGain n ds :=
  realAverage_nonneg hn (List.forall_mem_map.mpr fun _ _ => le_max_right _ _)

theorem averageLoss_nonneg (hn : 1 ≤ n) (ds : List ℝ) : 0 ≤ averageLoss n ds :=
  realAverage_nonneg hn (List.forall_mem_map.mpr fun _ _ => le_max_right _ _)

/-- A difference that is not negative is no loss. -/
theorem loss_eq_zero_iff (d : ℝ) : max (-d) 0 = 0 ↔ 0 ≤ d := by
  rw [max_eq_right_iff, neg_nonpos]

/-- Unless the period is one, there is no average loss only while nothing falls. -/
theorem averageLoss_eq_zero_iff (hn : 2 ≤ n) : averageLoss n ds = 0 ↔ ∀ d ∈ ds, 0 ≤ d := by
  unfold averageLoss
  rw [realAverage_eq_zero_iff hn (List.forall_mem_map.mpr fun _ _ => le_max_right _ _),
    List.forall_mem_map]
  exact forall₂_congr fun d _ => loss_eq_zero_iff d

/-- With period one the average loss is that of the last difference. -/
theorem averageLoss_one_eq_zero_iff (d : ℝ) : averageLoss 1 (ds ++ [d]) = 0 ↔ 0 ≤ d := by
  unfold averageLoss
  rw [List.map_append, List.map_singleton, realAverage_one]
  exact loss_eq_zero_iff d

end Increments

section Laws

/-- A value of the strength index of real numbers at its place `k`, with the average gain and loss
of the differences up to it. -/
structure StrengthAt (xs : List ℝ) (n k : Nat) (gain loss : ℝ) (v : Exact) : Prop where
  /-- The average gain as the kernel has it is a real number. -/
  gain_number : average n (((deltas (xs.map Exact.number)).take (n + k)).map gainOf) = .number gain
  /-- So is the average loss. -/
  loss_number : average n (((deltas (xs.map Exact.number)).take (n + k)).map lossOf) = .number loss
  /-- The average gain is not negative. -/
  gain_nonneg : 0 ≤ gain
  /-- The average loss is not negative. -/
  loss_nonneg : 0 ≤ loss
  /-- The divisor next to an average loss is no zero. -/
  divisor : loss ≠ 0 → 1 + gain / loss ≠ 0
  /-- The value is the index of the two averages. -/
  value : v = .number (rate gain loss)
  /-- It lies between zero and a hundred. -/
  bounds : rate gain loss ∈ Set.Icc 0 100
  /-- It is a hundred exactly if there is no average loss. -/
  full : v = .number 100 ↔ loss = 0
  /-- Unless the period is one, this is so exactly while nothing has fallen. -/
  lossless : 2 ≤ n → (loss = 0 ↔ ∀ d ∈ (increments xs).take (n + k), 0 ≤ d)
  /-- With period one it is so exactly if the last difference is not negative. -/
  lossless_one : n = 1 → ∃ d, (increments xs)[k]? = some d ∧ (loss = 0 ↔ 0 ≤ d)
  /-- It is zero exactly if there is an average loss and no average gain. -/
  empty : v = .number 0 ↔ gain = 0 ∧ loss ≠ 0

/-- Every value of the strength index of real numbers is of this kind. -/
theorem strengthAt_of_getElem? {xs : List ℝ} {n k : Nat} {v : Exact} (hn : 1 ≤ n)
    (hv : (strengthIndex (xs.map Exact.number) n)[k]? = some v) :
    StrengthAt xs n k (averageGain n ((increments xs).take (n + k)))
      (averageLoss n ((increments xs).take (n + k))) v := by
  have hk : n + k < xs.length := by
    have hlt := (List.getElem?_eq_some_iff.mp hv).1
    rw [length_strengthIndex hn, List.length_map] at hlt
    omega
  have hds : n ≤ ((increments xs).take (n + k)).length := by
    rw [List.length_take, length_increments]
    omega
  have hdeltas : (deltas (xs.map Exact.number)).take (n + k) =
      ((increments xs).take (n + k)).map Exact.number := by
    rw [deltas_number, List.map_take]
  have hgain := average_gainOf hn hds
  have hloss := average_lossOf hn hds
  have hgain' := averageGain_nonneg hn ((increments xs).take (n + k))
  have hloss' := averageLoss_nonneg hn ((increments xs).take (n + k))
  rw [← hdeltas] at hgain hloss
  have hvalue : v = .number (rate (averageGain n ((increments xs).take (n + k)))
      (averageLoss n ((increments xs).take (n + k)))) := by
    rw [getElem?_strengthIndex hn (by rwa [List.length_map]), hgain, hloss,
      strength_number hgain' hloss'] at hv
    exact (Option.some.inj hv).symm
  constructor
  case gain_number => exact hgain
  case loss_number => exact hloss
  case gain_nonneg => exact hgain'
  case loss_nonneg => exact hloss'
  case divisor => exact fun _ => (one_pos.trans_le (one_le_relation hgain' hloss')).ne'
  case value => exact hvalue
  case bounds => exact ⟨rate_nonneg hgain' hloss', rate_le hgain' hloss'⟩
  case full =>
    rw [hvalue, Exact.number.injEq]
    exact rate_eq_hundred_iff hgain' hloss'
  case lossless => exact averageLoss_eq_zero_iff
  case lossless_one =>
    rintro rfl
    have hlast : k < (increments xs).length := by
      rw [length_increments]
      omega
    refine ⟨(increments xs)[k], List.getElem?_eq_getElem hlast, ?_⟩
    rw [Nat.add_comm, List.take_add_one, List.getElem?_eq_getElem hlast]
    exact averageLoss_one_eq_zero_iff _
  case empty =>
    rw [hvalue, Exact.number.injEq]
    exact rate_eq_zero_iff hgain' hloss'

/-- In exact arithmetic the strength index of a list of real numbers has a value for every one after
the first `period`, of the kind above. Over bars with numbers of any kind its points carry these
values at the times of the bars that they end with. -/
theorem strengthIndex_exact (period : Int) (hperiod : 1 ≤ period) :
    (∀ xs : List ℝ,
      ((strengthIndex (xs.map Exact.number) period).length : Int) = max 0 (xs.length - period) ∧
      ∀ k v, (strengthIndex (xs.map Exact.number) period)[k]? = some v →
        ∃ gain loss, StrengthAt xs period.toNat k gain loss v) ∧
    ∀ (α : Type) [Scalar α] (bars : List (Sample α)),
      (rsi bars period).map Timed.value = strengthIndex (closes bars) period ∧
      ∀ k p, (rsi bars period)[k]? = some p →
        ∃ bar, bars[k + period.toNat]? = some bar ∧ p.time = bar.time := by
  obtain ⟨n, rfl⟩ : ∃ n : Nat, period = n := Int.eq_ofNat_of_zero_le (by omega)
  have hn : 1 ≤ n := Int.ofNat_le.mp hperiod
  rw [Int.toNat_natCast]
  refine ⟨fun xs => ⟨?_, fun k v hv => ⟨_, _, strengthAt_of_getElem? hn hv⟩⟩, ?_⟩
  · rw [length_strengthIndex hn, List.length_map]
    omega
  · intro α _ bars
    have hcausal := causal_strengthIndex (α := α) hn
    refine ⟨hcausal.timed_values bars, fun k p hp => ?_⟩
    have htime : ((rsi bars n).map Timed.time)[k]? = some p.time := by
      rw [List.getElem?_map, hp, Option.map_some]
    unfold rsi at htime
    rw [hcausal.timed_times bars, List.getElem?_map, List.getElem?_drop, Nat.add_comm,
      Option.map_eq_some_iff] at htime
    obtain ⟨bar, hbar, htime⟩ := htime
    exact ⟨bar, hbar, htime.symm⟩

/-- Three rising numbers have the full strength of period two, three falling ones have not. -/
theorem strengthIndex_exact_rising :
    (1 : Int) ≤ 2 ∧ strengthIndex ([1, 2, 3].map Exact.number) 2 = [.number 100] ∧
      strengthIndex ([3, 2, 1].map Exact.number) 2 ≠ [.number 100] := by
  have hlaw := (strengthIndex_exact 2 (by decide)).1
  refine ⟨by decide, ?_, ?_⟩
  · have hlength : (strengthIndex ([1, 2, 3].map Exact.number) 2).length = 1 := by
      have := (hlaw [1, 2, 3]).1
      simpa using this
    obtain ⟨v, hv⟩ := List.length_eq_one_iff.mp hlength
    obtain ⟨gain, loss, hat⟩ := (hlaw [1, 2, 3]).2 0 v (by rw [hv]; rfl)
    have hrises : increments [1, 2, 3] = [1, 1] := by norm_num [increments]
    have hlossless : loss = 0 := (hat.lossless (by decide)).mpr (by simp [hrises])
    rw [hv, hat.full.mpr hlossless]
  · intro hfull
    obtain ⟨gain, loss, hat⟩ := (hlaw [3, 2, 1]).2 0 (.number 100) (by rw [hfull]; rfl)
    have hrising := (hat.lossless (by decide)).mp (hat.full.mp rfl)
    simp [increments] at hrising

end Laws

end ChartScript.Indicator
