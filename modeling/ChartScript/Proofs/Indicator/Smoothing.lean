import ChartScript.Proofs.Indicator.Exact
import ChartScript.Proofs.Indicator.Settled
import Mathlib.Analysis.Convex.Hull
/-!
# The exponential mean in exact arithmetic

The state of the exponential mean is a mean and the weight that the past has left. A number that is
missing or infinite lets the weight decay and leaves the mean; a valid one is blended with the mean,
each with a share, and the two shares never add up to zero, not even with period one, where the
weight of the past is gone after every number. So the mean is a convex combination of the valid
numbers so far, however they are interspersed with others; and when all of them are valid, the mean
follows the recurrence with a fixed share.
-/

namespace ChartScript.Indicator

section States

variable {α : Type} [Scalar α]

/-- The state of the exponential mean after some numbers. -/
def smoothedBy (period : Int) (xs : List α) : Smoothing α := xs.foldl (Smoothing.step period) .empty

/-- The exponential mean from a state on is that of the states after the numbers. -/
theorem getElem?_smoothFrom (period : Int) (s : Smoothing α) {xs : List α} {k : Nat}
    (hk : k < xs.length) :
    (smoothFrom period s xs)[k]? = some ((xs.take (k + 1)).foldl (Smoothing.step period) s).value := by
  induction xs generalizing s k with
  | nil => cases hk
  | cons x rest ih =>
    unfold smoothFrom
    dsimp only
    cases k with
    | zero => rfl
    | succ k =>
      rw [List.getElem?_cons_succ, ih _ (Nat.lt_of_succ_lt_succ hk)]
      rfl

/-- A value of the exponential mean is that of the state after the numbers up to it. -/
theorem getElem?_exponentialMean {period : Int} (hperiod : 1 ≤ period) {xs : List α} {k : Nat}
    (hk : k + period.toNat ≤ xs.length) :
    (exponentialMean xs period)[k]? = some (smoothedBy period (xs.take (k + period.toNat))).value := by
  have hlong : isShort xs period = false := isShort_of_le hperiod (by omega)
  have hplace : period.toNat - 1 + k + 1 = k + period.toNat := by omega
  unfold exponentialMean
  rw [if_neg (Bool.eq_false_iff.mp hlong), List.getElem?_drop,
    getElem?_smoothFrom _ _ (by omega), hplace]
  rfl

end States

section Shares

variable {period : Int}

/-- The share of a new number. -/
noncomputable def shareOf (period : Int) : ℝ := 2 / (period + 1)

/-- The divisor of the share of a new number. -/
theorem divisor_pos (hperiod : 1 ≤ period) : (0 : ℝ) < period + 1 := by
  have hone : (1 : ℝ) ≤ period := mod_cast hperiod
  linarith

theorem shareOf_pos (hperiod : 1 ≤ period) : 0 < shareOf period :=
  div_pos two_pos (divisor_pos hperiod)

theorem shareOf_le_one (hperiod : 1 ≤ period) : shareOf period ≤ 1 := by
  have hone : (1 : ℝ) ≤ period := mod_cast hperiod
  unfold shareOf
  rw [div_le_one (divisor_pos hperiod)]
  linarith

/-- With period three the share is a half. -/
theorem shareOf_three : shareOf 3 = 1 / 2 := by
  unfold shareOf
  norm_num

theorem newShare_number (hperiod : 1 ≤ period) : newShare period = Exact.number (shareOf period) := by
  unfold newShare shareOf
  rw [Exact.ofInt_ofNat, Exact.ofInt_one, Exact.ofInt_eq, Exact.number_add,
    Exact.number_div _ (divisor_pos hperiod).ne']

theorem oldShare_number (hperiod : 1 ≤ period) :
    oldShare period = Exact.number (1 - shareOf period) := by
  unfold oldShare
  rw [newShare_number hperiod, Exact.ofInt_one, Exact.number_sub]

/-- The weight of the past after one more number. -/
noncomputable def decayed (period : Int) (weight : ℝ) : ℝ := weight * (1 - shareOf period)

/-- The share of a new number next to a weight of the past. -/
noncomputable def besideShare (period : Int) (weight : ℝ) : ℝ :=
  if period = 3 then 1 - weight else shareOf period

theorem shareBeside_number (hperiod : 1 ≤ period) (weight : ℝ) :
    shareBeside period (Exact.number weight) = .number (besideShare period weight) := by
  unfold shareBeside besideShare
  split
  · rw [Exact.ofInt_one, Exact.number_sub]
  · exact newShare_number hperiod

variable {weight : ℝ}

/-- The weight of the past stays between zero and one. -/
theorem decayed_mem_Icc (hperiod : 1 ≤ period) (hweight : weight ∈ Set.Icc 0 1) :
    decayed period weight ∈ Set.Icc 0 (1 - shareOf period) := by
  have hold : 0 ≤ 1 - shareOf period := sub_nonneg.mpr (shareOf_le_one hperiod)
  exact ⟨mul_nonneg hweight.1 hold, mul_le_of_le_one_left hold hweight.2⟩

/-- A new number has its share or more. -/
theorem shareOf_le_besideShare (hweight : weight ≤ 1 - shareOf period) :
    shareOf period ≤ besideShare period weight := by
  unfold besideShare
  split
  · linarith
  · exact le_rfl

/-- The divisor of a step, the shares of the past and of a new number together, is above zero. -/
theorem shares_pos (hperiod : 1 ≤ period) (hweight : weight ∈ Set.Icc 0 1) :
    0 < decayed period weight + besideShare period (decayed period weight) := by
  have hdecayed := decayed_mem_Icc hperiod hweight
  exact add_pos_of_nonneg_of_pos hdecayed.1
    ((shareOf_pos hperiod).trans_le (shareOf_le_besideShare hdecayed.2))

/-- Next to a past of full weight a new number has its share. -/
theorem besideShare_one : besideShare period (decayed period 1) = shareOf period := by
  unfold besideShare decayed
  split
  next h =>
    rw [h, shareOf_three]
    norm_num
  next => rfl

end Shares

section Steps

variable {period : Int} {v w x : ℝ}

/-- A mean and a new number, each with its share. -/
noncomputable def blend (period : Int) (v w x : ℝ) : ℝ :=
  (decayed period w * v + besideShare period (decayed period w) * x) /
    (decayed period w + besideShare period (decayed period w))

/-- The first valid number is the mean, with full weight. -/
theorem step_empty_number (period : Int) (x : ℝ) :
    Smoothing.step period .empty (Exact.number x) = .mean (.number x) (.number 1) := by
  unfold Smoothing.step
  dsimp only
  rw [Exact.isFinite_number, if_pos rfl, Exact.ofInt_one]

/-- Any other number leaves an empty state. -/
theorem step_empty_invalid {y : Exact} (hy : ∀ x, y ≠ .number x) :
    Smoothing.step period .empty y = .empty := by
  unfold Smoothing.step
  dsimp only
  rw [Exact.isFinite_of_ne hy, if_neg (by decide)]

/-- A valid number is blended with the mean. -/
theorem step_number (hperiod : 1 ≤ period) (hw : w ∈ Set.Icc 0 1) (v x : ℝ) :
    Smoothing.step period (.mean (Exact.number v) (.number w)) (.number x) =
      .mean (.number (blend period v w x)) (.number 1) := by
  have hpos := shares_pos hperiod hw
  unfold Smoothing.step
  dsimp only
  rw [Exact.isFinite_number, if_neg (by decide), Exact.ofInt_one, oldShare_number hperiod,
    Exact.number_mul, ← decayed, shareBeside_number hperiod, Exact.number_mul, Exact.number_mul,
    Exact.number_add, Exact.number_add, Exact.number_div _ hpos.ne']
  split
  next hsame =>
    -- A number equal to the mean leaves it as it is, and so does the blend with it.
    obtain rfl : v = x := of_decide_eq_true hsame
    rw [blend, ← add_mul, mul_div_cancel_left₀ _ hpos.ne']
  next => rfl

/-- Any other number lets the weight of the past decay. -/
theorem step_invalid (hperiod : 1 ≤ period) {y : Exact} (hy : ∀ x, y ≠ .number x) (v w : ℝ) :
    Smoothing.step period (.mean (Exact.number v) (.number w)) y =
      .mean (.number v) (.number (decayed period w)) := by
  unfold Smoothing.step
  dsimp only
  rw [Exact.isFinite_of_ne hy, if_pos (show (!false) = true from rfl), oldShare_number hperiod,
    Exact.number_mul]
  rfl

end Steps

section Blends

/-- The valid numbers of a list. -/
def valid (xs : List Exact) : Set ℝ := {x | Exact.number x ∈ xs}

theorem valid_append (xs ys : List Exact) : valid xs ⊆ valid (xs ++ ys) :=
  fun _ hx => List.mem_append_left ys hx

/-- The valid numbers of a list are finitely many. -/
theorem finite_valid (xs : List Exact) : (valid xs).Finite :=
  (List.finite_toSet xs).preimage fun _ _ _ _ h => Exact.number.inj h

/-- A convex combination of valid numbers lies between the least and the greatest of them. -/
theorem exists_bounds_of_mem_convexHull {xs : List Exact} {v : ℝ} (hv : v ∈ convexHull ℝ (valid xs)) :
    ∃ lo hi, IsLeast (valid xs) lo ∧ IsGreatest (valid xs) hi ∧ v ∈ Set.Icc lo hi := by
  have hsome : (valid xs).Nonempty := convexHull_nonempty_iff.mp ⟨v, hv⟩
  obtain ⟨lo, hi, hlo, hhi⟩ := exists_least_greatest (finite_valid xs) hsome
  have hbetween : valid xs ⊆ Set.Icc lo hi := fun x hx => ⟨hlo.2 hx, hhi.2 hx⟩
  exact ⟨lo, hi, hlo, hhi, convexHull_min hbetween (convex_Icc lo hi) hv⟩

/-- A state of the exponential mean after some numbers: it is empty while none of them is valid,
and else holds a convex combination of the valid ones and a weight between zero and one. -/
inductive Blended (seen : List Exact) : Smoothing Exact → Prop where
  /-- No number so far is valid. -/
  | empty (h : valid seen = ∅) : Blended seen .empty
  /-- The mean is a convex combination of the valid numbers. -/
  | mean {v w : ℝ} (hv : v ∈ convexHull ℝ (valid seen)) (hw : w ∈ Set.Icc 0 1) :
      Blended seen (.mean (.number v) (.number w))

variable {period : Int}

/-- A blend of a mean and a new number is a convex combination of the numbers behind them. -/
theorem blend_mem_convexHull (hperiod : 1 ≤ period) {seen : List Exact} {v w x : ℝ}
    (hv : v ∈ convexHull ℝ (valid seen)) (hw : w ∈ Set.Icc 0 1) (hx : x ∈ valid seen) :
    blend period v w x ∈ convexHull ℝ (valid seen) := by
  have hdecayed := decayed_mem_Icc hperiod hw
  have hshare : 0 ≤ besideShare period (decayed period w) :=
    (shareOf_pos hperiod).le.trans (shareOf_le_besideShare hdecayed.2)
  have hdiv := convex_iff_div.mp (convex_convexHull ℝ (valid seen)) hv
    (subset_convexHull ℝ _ hx) hdecayed.1 hshare (shares_pos hperiod hw)
  unfold blend
  rw [add_div, mul_div_right_comm, mul_div_right_comm]
  exact hdiv

/-- One more number leaves the state of this kind. -/
theorem Blended.step (hperiod : 1 ≤ period) {seen : List Exact} {s : Smoothing Exact}
    (h : Blended seen s) (y : Exact) : Blended (seen ++ [y]) (s.step period y) := by
  have hlast {x : ℝ} : x ∈ valid (seen ++ [.number x]) := List.mem_append_right _ List.mem_cons_self
  have hfull : (1 : ℝ) ∈ Set.Icc 0 1 := ⟨zero_le_one, le_rfl⟩
  have hmore : convexHull ℝ (valid seen) ⊆ convexHull ℝ (valid (seen ++ [y])) :=
    convexHull_mono (valid_append seen [y])
  cases h with
  | empty h =>
    by_cases hy : ∃ x, y = .number x
    · obtain ⟨x, rfl⟩ := hy
      rw [step_empty_number]
      exact .mean (subset_convexHull ℝ _ hlast) hfull
    · rw [step_empty_invalid (not_exists.mp hy)]
      refine .empty (Set.eq_empty_iff_forall_notMem.mpr fun x hx => ?_)
      rcases List.mem_append.mp hx with hseen | hnew
      · exact h.subset hseen
      · exact hy ⟨x, (List.mem_singleton.mp hnew).symm⟩
  | mean hv hw =>
    by_cases hy : ∃ x, y = .number x
    · obtain ⟨x, rfl⟩ := hy
      rw [step_number hperiod hw]
      exact .mean (blend_mem_convexHull hperiod (hmore hv) hw hlast) hfull
    · rw [step_invalid hperiod (not_exists.mp hy)]
      have hdecayed := decayed_mem_Icc hperiod hw
      have hle : decayed period _ ≤ 1 := hdecayed.2.trans (sub_le_self 1 (shareOf_pos hperiod).le)
      exact .mean (hmore hv) ⟨hdecayed.1, hle⟩

/-- The state after any numbers is of this kind. -/
theorem blended_smoothedBy (hperiod : 1 ≤ period) (xs : List Exact) :
    Blended xs (smoothedBy period xs) := by
  induction xs using List.reverseRecOn with
  | nil => exact .empty (Set.eq_empty_iff_forall_notMem.mpr fun _ => List.not_mem_nil)
  | append_singleton seen y ih =>
    unfold smoothedBy at ih ⊢
    rw [List.foldl_append]
    exact ih.step hperiod y

end Blends

section Recurrence

/-- A mean of real numbers that gives way to every further number by a fixed share. -/
noncomputable def recurrenceFrom (share mean : ℝ) : List ℝ → List ℝ
  | [] => []
  | x :: rest =>
    let next := x * share + mean * (1 - share)
    next :: recurrenceFrom share next rest

/-- The mean that begins with the first number. -/
noncomputable def recurrence (share : ℝ) : List ℝ → List ℝ
  | [] => []
  | x :: rest => x :: recurrenceFrom share x rest

variable {period : Int}

/-- A past of full weight gives way by the share of a new number. -/
theorem blend_one (v x : ℝ) : blend period v 1 x = x * shareOf period + v * (1 - shareOf period) := by
  unfold blend
  rw [besideShare_one, decayed, one_mul, sub_add_cancel, div_one]
  ring

/-- Without gaps the past always has its full weight. -/
theorem smoothFrom_number (hperiod : 1 ≤ period) (v : ℝ) (ys : List ℝ) :
    smoothFrom period (.mean (Exact.number v) (.number 1)) (ys.map .number) =
      (recurrenceFrom (shareOf period) v ys).map .number := by
  induction ys generalizing v with
  | nil => rfl
  | cons y rest ih =>
    rw [List.map_cons]
    unfold smoothFrom recurrenceFrom
    dsimp only
    rw [step_number hperiod ⟨zero_le_one, le_rfl⟩, blend_one, ih, List.map_cons]
    rfl

/-- The exponential mean of real numbers follows the recurrence. -/
theorem exponentialMean_number (hperiod : 1 ≤ period) (ys : List ℝ) :
    exponentialMean (ys.map Exact.number) period =
      ((recurrence (shareOf period) ys).drop (period.toNat - 1)).map .number := by
  have hall : smoothFrom period .empty (ys.map Exact.number) =
      (recurrence (shareOf period) ys).map .number := by
    cases ys with
    | nil => rfl
    | cons y rest =>
      rw [List.map_cons]
      unfold smoothFrom recurrence
      dsimp only
      rw [step_empty_number, smoothFrom_number hperiod, List.map_cons]
      rfl
  have hshort : isShort (ys.map Exact.number) period = true →
      (smoothFrom period .empty (ys.map Exact.number)).length ≤ period.toNat - 1 := fun h => by
    rw [(causal_smoothFrom period .empty).length]
    exact length_le_of_isShort hperiod h
  rw [List.map_drop, ← hall]
  unfold exponentialMean
  split
  next h => exact (List.drop_eq_nil_of_le (hshort h)).symm
  next => rfl

end Recurrence

section Laws

/-- A value of the exponential mean after the numbers up to its place. -/
structure SmoothedAt (seen : List Exact) (value : Exact) : Prop where
  /-- It is missing exactly while no number so far is valid. -/
  missing : value = .missing ↔ valid seen = ∅
  /-- Otherwise it is a convex combination of the valid numbers so far. -/
  blend : valid seen ≠ ∅ → ∃ m ∈ convexHull ℝ (valid seen), value = .number m
  /-- So it lies between the least and the greatest of them. -/
  bounds : ∀ m, value = .number m →
    ∃ lo hi, IsLeast (valid seen) lo ∧ IsGreatest (valid seen) hi ∧ m ∈ Set.Icc lo hi

/-- The value of a state of this kind. -/
theorem Blended.smoothedAt {seen : List Exact} {s : Smoothing Exact} (h : Blended seen s) :
    SmoothedAt seen s.value := by
  cases h with
  | empty h =>
    exact ⟨⟨fun _ => h, fun _ => rfl⟩, fun hsome => absurd h hsome,
      fun m hm => absurd hm Exact.noConfusion⟩
  | @mean v w hv hw =>
    have hsome : valid seen ≠ ∅ := (convexHull_nonempty_iff.mp ⟨v, hv⟩).ne_empty
    refine ⟨⟨fun hmissing => absurd hmissing Exact.noConfusion, fun hnone => absurd hnone hsome⟩,
      fun _ => ⟨v, hv, rfl⟩, fun m hm => ?_⟩
    obtain rfl : v = m := Exact.number.inj hm
    exact exists_bounds_of_mem_convexHull hv

/-- The exponential mean of a list of exact numbers. -/
structure Smooths (xs : List Exact) (period : Int) : Prop where
  /-- There is a value for every place from the one on at which enough numbers have come in. -/
  length : ((exponentialMean xs period).length : Int) = max 0 (xs.length - period + 1)
  /-- The value at place `k` is that after the number at place `k + period - 1`. -/
  value : ∀ k v, (exponentialMean xs period)[k]? = some v →
    SmoothedAt (xs.take (k + period.toNat)) v
  /-- The share of a new number has a divisor above zero. -/
  shareDivisor : ∃ d, 0 < d ∧ Scalar.ofInt period + Scalar.ofInt 1 = Exact.number d
  /-- So has every step, whatever numbers came before it. -/
  stepDivisor : ∀ i mean weight, smoothedBy period (xs.take i) = .mean mean weight →
    ∃ d, 0 < d ∧
      weight * oldShare period + shareBeside period (weight * oldShare period) = .number d

variable {period : Int}

/-- Every list of exact numbers has an exponential mean of this kind. -/
theorem smooths (hperiod : 1 ≤ period) (xs : List Exact) : Smooths xs period := by
  have hlength := (causal_exponentialMean (α := Exact) hperiod).length xs
  constructor
  case length => omega
  case value =>
    intro k v hv
    have hk := (List.getElem?_eq_some_iff.mp hv).1
    rw [getElem?_exponentialMean hperiod (by omega)] at hv
    obtain rfl := Option.some.inj hv
    exact (blended_smoothedBy hperiod _).smoothedAt
  case shareDivisor =>
    refine ⟨period + 1, divisor_pos hperiod, ?_⟩
    rw [Exact.ofInt_eq, Exact.ofInt_one, Exact.number_add]
  case stepDivisor =>
    intro i mean weight hstate
    have hblended := blended_smoothedBy hperiod (xs.take i)
    rw [hstate] at hblended
    cases hblended with
    | @mean v w hv hw =>
      refine ⟨_, shares_pos hperiod hw, ?_⟩
      rw [oldShare_number hperiod, Exact.number_mul, ← decayed,
        shareBeside_number hperiod, Exact.number_add]

/-- In exact arithmetic the exponential mean of any numbers, missing and infinite ones among them,
is of the kind above, and that of real numbers alone follows the recurrence. Over bars with numbers
of any kind its points carry these values at the times of the bars that they end with. -/
theorem exponentialMean_exact (period : Int) (hperiod : 1 ≤ period) :
    (∀ xs : List Exact, Smooths xs period) ∧
    (∀ ys : List ℝ, exponentialMean (ys.map Exact.number) period =
      ((recurrence (2 / (period + 1)) ys).drop (period.toNat - 1)).map .number) ∧
    ∀ (α : Type) [Scalar α] (bars : List (Sample α)),
      (ema bars period).map Timed.value = exponentialMean (closes bars) period ∧
      ∀ k p, (ema bars period)[k]? = some p →
        ∃ bar, bars[k + period.toNat - 1]? = some bar ∧ p.time = bar.time := by
  refine ⟨smooths hperiod, exponentialMean_number hperiod, fun α _ bars => ?_⟩
  have hcausal := causal_exponentialMean (α := α) hperiod
  refine ⟨hcausal.timed_values bars, fun k p hp => ?_⟩
  have hplace : period.toNat - 1 + k = k + period.toNat - 1 := by omega
  rw [← hplace]
  exact hcausal.time_of_getElem? hp

/-- Two numbers with a gap in front of each. -/
def gappy : List Exact := [.missing, .number 2, .infinite true, .number 6]

/-- With period one the gap takes all weight from the first number, and still the mean behind it is
there and lies between the two; without gaps period three blends by halves. -/
theorem exponentialMean_exact_gappy :
    (1 : Int) ≤ 1 ∧ (1 : Int) ≤ 3 ∧ (exponentialMean gappy 1)[0]? = some .missing ∧
      (∃ m : ℝ, m ∈ Set.Icc 2 6 ∧ (exponentialMean gappy 1)[3]? = some (.number m)) ∧
      exponentialMean ([1, 2, 3, 4].map Exact.number) 3 = [.number (9 / 4), .number (25 / 8)] := by
  have hgap := (exponentialMean_exact 1 (by decide)).1 gappy
  have hlength : (exponentialMean gappy 1).length = 4 := by
    have hcount := hgap.length
    have hfour : gappy.length = 4 := rfl
    omega
  refine ⟨by decide, by decide, ?_, ?_, ?_⟩
  · have hfirst := List.getElem?_eq_getElem (hlength.symm ▸ (by decide : 0 < 4))
    have hnone : valid (gappy.take 1) = ∅ := by simp [valid, gappy]
    rw [hfirst, (hgap.value 0 _ hfirst).missing.mpr hnone]
  · have hlast := List.getElem?_eq_getElem (hlength.symm ▸ (by decide : 3 < 4))
    have hvalid : valid (gappy.take (3 + Int.toNat 1)) = {2, 6} := by
      ext x
      simp [valid, gappy]
    have hat := hgap.value 3 _ hlast
    obtain ⟨m, -, hm⟩ := hat.blend (hvalid ▸ (Set.insert_nonempty 2 {6}).ne_empty)
    obtain ⟨lo, hi, hlo, hhi, hbetween⟩ := hat.bounds m hm
    rw [hvalid] at hlo hhi
    have htwo : 2 ≤ lo := by rcases hlo.1 with rfl | rfl <;> norm_num
    have hsix : hi ≤ 6 := by rcases hhi.1 with rfl | rfl <;> norm_num
    exact ⟨m, ⟨htwo.trans hbetween.1, hbetween.2.trans hsix⟩, by rw [hlast, hm]⟩
  · have hdrop : Int.toNat 3 - 1 = 2 := rfl
    rw [(exponentialMean_exact 3 (by decide)).2.1, hdrop]
    norm_num [recurrence, recurrenceFrom]

end Laws

end ChartScript.Indicator
