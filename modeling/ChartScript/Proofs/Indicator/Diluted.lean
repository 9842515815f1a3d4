import ChartScript.Proofs.Indicator.SinglePass
import Mathlib.Algebra.Order.BigOperators.Group.List
import Mathlib.Algebra.BigOperators.Ring.List
import Mathlib.Data.ENNReal.BigOperators
/-!
# The volume-weighted price over bars without a price

A bar without a price adds nothing to what was paid in its session, but its volume counts. So the
price of a session is the mean of the prices in it, weighted by their volumes, only as long as its
bars without a price have no volume; otherwise it is diluted by the share that their volume has of
the whole, and leaves the range of the prices. Volumes here are not negative, may be missing, and
may be infinite; over an infinite volume the price is zero or none.
-/

namespace ChartScript.Indicator

open scoped ENNReal

namespace Exact

/-- A real number, or the missing one. -/
def ofReal? (x : Option ℝ) : Exact := x.elim .missing .number

/-- A number that is not negative, or infinite. -/
noncomputable def ofVolume (w : ℝ≥0∞) : Exact := if w = ⊤ then .infinite false else .number w.toReal

theorem ofVolume_top : ofVolume ⊤ = .infinite false := if_pos rfl

theorem ofVolume_of_ne {w : ℝ≥0∞} (h : w ≠ ⊤) : ofVolume w = .number w.toReal := if_neg h

theorem ofVolume_zero : ofVolume 0 = .number 0 := ofVolume_of_ne ENNReal.zero_ne_top

theorem isMissing_ofVolume (w : ℝ≥0∞) : Scalar.isMissing (ofVolume w) = false := by
  unfold ofVolume
  split <;> rfl

/-- Volumes add up as exact numbers do. -/
theorem ofVolume_add (v w : ℝ≥0∞) : ofVolume v + ofVolume w = ofVolume (v + w) := by
  by_cases hv : v = ⊤
  · subst hv
    rw [top_add, ofVolume_top]
    unfold ofVolume
    split <;> rfl
  · by_cases hw : w = ⊤
    · subst hw
      rw [add_top, ofVolume_top, ofVolume_of_ne hv]
      rfl
    · rw [ofVolume_of_ne hv, ofVolume_of_ne hw, ofVolume_of_ne (ENNReal.add_ne_top.mpr ⟨hv, hw⟩),
        ENNReal.toReal_add hv hw, number_add]

/-- The sum of volumes. -/
theorem total_ofVolume (ws : List ℝ≥0∞) : total (ws.map ofVolume) = ofVolume ws.sum := by
  have hfrom (v : ℝ≥0∞) (rest : List ℝ≥0∞) :
      (rest.map ofVolume).foldl (· + ·) (ofVolume v) = ofVolume (v + rest.sum) := by
    induction rest generalizing v with
    | nil => rw [List.map_nil, List.foldl_nil, List.sum_nil, add_zero]
    | cons w rest ih =>
      rw [List.map_cons, List.foldl_cons, ofVolume_add, ih, List.sum_cons, add_assoc]
  cases ws with
  | nil => rw [List.sum_nil, ofVolume_zero]; exact ofInt_zero
  | cons w rest => rw [List.map_cons, total, hfrom, List.sum_cons]

/-- A volume is above zero unless it is none. -/
theorem below_ofVolume (w : ℝ≥0∞) : Scalar.below (number 0) (ofVolume w) = decide (w ≠ 0) := by
  by_cases hw : w = ⊤
  · subst hw
    rw [ofVolume_top, decide_eq_true ENNReal.top_ne_zero]
    rfl
  · rw [ofVolume_of_ne hw, below_number]
    exact decide_eq_decide.mpr (by rw [ENNReal.toReal_pos_iff, pos_iff_ne_zero, lt_top_iff_ne_top,
      and_iff_left hw])

/-- Only real numbers add up to a real number. -/
theorem eq_number_of_add {a b : Exact} {z : ℝ} (h : a + b = .number z) :
    (∃ x, a = .number x) ∧ ∃ y, b = .number y := by
  have hsum : sum a b = .number z := h
  unfold sum at hsum
  split at hsum
  case h_1 => exact ⟨⟨_, rfl⟩, _, rfl⟩
  case h_4 => split at hsum <;> cases hsum
  all_goals cases hsum

/-- So do only real numbers in a list. -/
theorem eq_number_of_total {xs : List Exact} {z : ℝ} (h : total xs = .number z) :
    ∀ x ∈ xs, ∃ y, x = .number y := by
  have hfrom (a : Exact) (rest : List Exact) (hsum : rest.foldl (· + ·) a = .number z) :
      ∀ x ∈ a :: rest, ∃ y, x = .number y := by
    induction rest generalizing a with
    | nil => exact List.forall_mem_singleton.mpr ⟨z, hsum⟩
    | cons b rest ih =>
      obtain ⟨hboth, hrest⟩ := List.forall_mem_cons.mp (ih (a + b) hsum)
      obtain ⟨y, hy⟩ := hboth
      obtain ⟨ha, hb⟩ := eq_number_of_add hy
      exact List.forall_mem_cons.mpr ⟨ha, List.forall_mem_cons.mpr ⟨hb, hrest⟩⟩
  cases xs with
  | nil => exact List.forall_mem_nil _
  | cons x rest => exact hfrom x rest h

/-- A quotient by an infinite number is zero, if it is a real number. -/
theorem eq_number_of_div_infinite {a : Exact} {v : ℝ} (h : a / .infinite false = .number v) :
    (∃ x, a = .number x) ∧ v = 0 := by
  cases a with
  | number x => exact ⟨⟨x, rfl⟩, (Exact.number.inj h).symm⟩
  | infinite negative => cases h
  | missing => cases h

end Exact

/-- A bar whose numbers may be missing. Its volume is not negative and may be infinite. -/
structure Row where
  /-- Time in whole seconds. -/
  time : Int
  /-- Highest price. -/
  high : Option ℝ
  /-- Lowest price. -/
  low : Option ℝ
  /-- Last price. -/
  close : Option ℝ
  /-- Traded volume. -/
  volume : Option ℝ≥0∞

namespace Row

/-- A bar as the indicators see it. -/
noncomputable def sample (r : Row) : Sample Exact :=
  ⟨r.time, .ofReal? r.high, .ofReal? r.low, .ofReal? r.close, r.volume.elim .missing .ofVolume⟩

/-- The mean of its three prices, if it has them. -/
noncomputable def price (r : Row) : Option ℝ :=
  match r.high, r.low, r.close with
  | some high, some low, some close => some (typicalOf high low close)
  | _, _, _ => none

/-- Its volume; a missing one counts as zero. -/
def amount (r : Row) : ℝ≥0∞ := r.volume.getD 0

/-- The day that it is in, counted from the epoch. -/
def day (r : Row) : Int := ⌊(r.time : ℚ) / 86400⌋

/-- What was paid for its volume. -/
noncomputable def bill (r : Row) : Exact := .ofReal? r.price * .ofVolume r.amount

variable {r : Row} {p : ℝ}

theorem typical_sample (r : Row) : r.sample.typical = .ofReal? r.price := by
  unfold Sample.typical sample price
  dsimp only
  rw [Exact.ofInt_ofNat]
  cases r.high with
  | none => rfl
  | some high =>
    cases r.low with
    | none => rfl
    | some low =>
      cases r.close with
      | none => rfl
      | some close => exact Exact.number_div _ three_ne_zero

theorem countedVolume_sample (r : Row) : r.sample.countedVolume = .ofVolume r.amount := by
  unfold Sample.countedVolume sample amount
  cases r.volume with
  | none => exact Exact.ofInt_zero.trans Exact.ofVolume_zero.symm
  | some w => exact if_neg (Bool.eq_false_iff.mp (Exact.isMissing_ofVolume w))

/-- Without a price there is no bill. -/
theorem bill_of_none (hp : r.price = none) : r.bill = .missing := by
  unfold bill
  rw [hp]
  cases Exact.ofVolume r.amount <;> rfl

/-- A finite volume has its price. -/
theorem bill_of_ne (hp : r.price = some p) (hw : r.amount ≠ ⊤) :
    r.bill = .number (p * r.amount.toReal) := by
  unfold bill
  rw [hp, Exact.ofVolume_of_ne hw]
  rfl

/-- An infinite volume has an infinite bill, unless its price is zero. -/
theorem bill_of_top (hp : r.price = some p) (hw : r.amount = ⊤) (hne : p ≠ 0) :
    ∃ negative, r.bill = .infinite negative := by
  unfold bill
  rw [hp, hw, Exact.ofVolume_top]
  exact ⟨_, if_neg hne⟩

end Row

section Trades

/-- The bars of a session that have a price, each with its price and its volume. -/
noncomputable def trades (session : List Row) : List (ℝ × ℝ) :=
  session.filterMap fun r => r.price.map fun p => (p, r.amount.toReal)

/-- What was paid in trades. -/
noncomputable def paidFor (ts : List (ℝ × ℝ)) : ℝ := (ts.map fun t => t.1 * t.2).sum

/-- The volume of trades. -/
noncomputable def tradedVolume (ts : List (ℝ × ℝ)) : ℝ := (ts.map Prod.snd).sum

/-- The mean of the prices of trades, weighted by their volumes. -/
noncomputable def weightedMean (ts : List (ℝ × ℝ)) : ℝ := paidFor ts / tradedVolume ts

/-- The volume of a session, bars without a price included. -/
noncomputable def wholeVolume (session : List Row) : ℝ≥0∞ := (session.map Row.amount).sum

/-- Whether the bars of a session that have no price have no volume either. -/
def Undiluted (session : List Row) : Prop := ∀ r ∈ session, r.price = none → r.amount = 0

/-- The prices in a session. -/
def prices (session : List Row) : Set ℝ := {p | p ∈ session.filterMap Row.price}

/-- The volume of a bar without a price. -/
noncomputable def Row.unsold (r : Row) : ℝ := if r.price = none then r.amount.toReal else 0

/-- The volume of the bars of a session that have no price. -/
noncomputable def unsoldVolume (session : List Row) : ℝ := (session.map Row.unsold).sum

variable {session : List Row}

/-- A weighted mean lies within the bounds of the prices. -/
theorem weightedMean_mem_Icc {ts : List (ℝ × ℝ)} {lo hi : ℝ} (hvolume : ∀ t ∈ ts, 0 ≤ t.2)
    (hpos : 0 < tradedVolume ts) (hprice : ∀ t ∈ ts, t.1 ∈ Set.Icc lo hi) :
    weightedMean ts ∈ Set.Icc lo hi := by
  unfold weightedMean paidFor
  constructor
  · rw [le_div_iff₀ hpos]
    unfold tradedVolume
    rw [← List.sum_map_mul_left]
    exact List.sum_le_sum fun t ht => mul_le_mul_of_nonneg_right (hprice t ht).1 (hvolume t ht)
  · rw [div_le_iff₀ hpos]
    unfold tradedVolume
    rw [← List.sum_map_mul_left]
    exact List.sum_le_sum fun t ht => mul_le_mul_of_nonneg_right (hprice t ht).2 (hvolume t ht)

/-- A trade has the price of a bar, and a volume that is not negative. -/
theorem of_mem_trades {t : ℝ × ℝ} (ht : t ∈ trades session) : t.1 ∈ prices session ∧ 0 ≤ t.2 := by
  obtain ⟨r, hr, hprice⟩ := List.mem_filterMap.mp ht
  obtain ⟨p, hp, rfl⟩ := Option.map_eq_some_iff.mp hprice
  exact ⟨List.mem_filterMap.mpr ⟨r, hr, hp⟩, ENNReal.toReal_nonneg⟩

/-- The volume of a session is infinite exactly if that of a bar is. -/
theorem wholeVolume_eq_top_iff : wholeVolume session = ⊤ ↔ ∃ r ∈ session, r.amount = ⊤ := by
  induction session with
  | nil => simp [wholeVolume]
  | cons r rest ih =>
    unfold wholeVolume at ih ⊢
    rw [List.map_cons, List.sum_cons, ENNReal.add_eq_top, ih, List.exists_mem_cons_iff]

theorem wholeVolume_ne_top_iff : wholeVolume session ≠ ⊤ ↔ ∀ r ∈ session, r.amount ≠ ⊤ := by
  rw [Ne, wholeVolume_eq_top_iff]
  exact ⟨fun h r hr htop => h ⟨r, hr, htop⟩, fun h ⟨r, hr, htop⟩ => h r hr htop⟩

/-- A finite volume of a session is that of the trades and of the bars without a price. -/
theorem toReal_wholeVolume (hfinite : ∀ r ∈ session, r.amount ≠ ⊤) :
    (wholeVolume session).toReal = tradedVolume (trades session) + unsoldVolume session := by
  induction session with
  | nil => simp [wholeVolume, trades, tradedVolume, unsoldVolume]
  | cons r rest ih =>
    obtain ⟨hfirst, hrest⟩ := List.forall_mem_cons.mp hfinite
    have hwhole := wholeVolume_ne_top_iff.mpr hrest
    have hsplit : (wholeVolume (r :: rest)).toReal = r.amount.toReal + (wholeVolume rest).toReal :=
      ENNReal.toReal_add hfirst hwhole
    have hunsold : unsoldVolume (r :: rest) = r.unsold + unsoldVolume rest := List.sum_cons
    rw [hsplit, ih hrest, hunsold]
    unfold Row.unsold trades tradedVolume
    cases hp : r.price with
    | none =>
      rw [if_pos rfl, List.filterMap_cons_none (by rw [hp]; rfl)]
      ring
    | some p =>
      rw [if_neg (Option.some_ne_none p), List.filterMap_cons_some (by rw [hp]; rfl), List.map_cons,
        List.sum_cons]
      ring

theorem Row.unsold_nonneg (r : Row) : 0 ≤ r.unsold := by
  unfold unsold
  split
  · exact ENNReal.toReal_nonneg
  · exact le_rfl

/-- Bars without a price have no volume together exactly if none of them has one. -/
theorem unsoldVolume_eq_zero_iff (hfinite : ∀ r ∈ session, r.amount ≠ ⊤) :
    unsoldVolume session = 0 ↔ Undiluted session := by
  constructor
  · intro hzero r hr hp
    have hshare : r.unsold = 0 := List.all_zero_of_le_zero_le_of_sum_eq_zero
      (List.forall_mem_map.mpr fun s _ => s.unsold_nonneg) hzero (List.mem_map_of_mem hr)
    unfold Row.unsold at hshare
    rw [if_pos hp, ENNReal.toReal_eq_zero_iff] at hshare
    exact hshare.resolve_right (hfinite r hr)
  · intro hundiluted
    refine List.sum_eq_zero (List.forall_mem_map.mpr fun r hr => ?_)
    unfold Row.unsold
    split
    next hp => rw [hundiluted r hr hp, ENNReal.toReal_zero]
    next => rfl

/-- Over the whole volume the trades have their weighted mean exactly if all of it is theirs, or
there is nothing to dilute. -/
theorem paidFor_div_wholeVolume_eq_iff (hwhole : wholeVolume session ≠ ⊤)
    (hpos : 0 < tradedVolume (trades session)) :
    paidFor (trades session) / (wholeVolume session).toReal = weightedMean (trades session) ↔
      Undiluted session ∨ weightedMean (trades session) = 0 := by
  have hfinite := wholeVolume_ne_top_iff.mp hwhole
  have hunsold : 0 ≤ unsoldVolume session :=
    List.sum_nonneg (List.forall_mem_map.mpr fun r _ => r.unsold_nonneg)
  have hsum : 0 < tradedVolume (trades session) + unsoldVolume session := by linarith
  rw [← unsoldVolume_eq_zero_iff hfinite, toReal_wholeVolume hfinite]
  unfold weightedMean
  rw [div_eq_div_iff hsum.ne' hpos.ne', div_eq_zero_iff, or_iff_left hpos.ne']
  constructor
  · intro h
    have hproduct : unsoldVolume session * paidFor (trades session) = 0 := by linarith
    exact mul_eq_zero.mp hproduct
  · rintro (h | h) <;> rw [h]
    · rw [add_zero]
    · rw [zero_mul, zero_mul]

/-- An undiluted session with a finite volume has traded it. -/
theorem tradedVolume_pos (hundiluted : Undiluted session) (hsome : wholeVolume session ≠ 0)
    (hwhole : wholeVolume session ≠ ⊤) : 0 < tradedVolume (trades session) := by
  have hfinite := wholeVolume_ne_top_iff.mp hwhole
  have hsplit := toReal_wholeVolume hfinite
  rw [(unsoldVolume_eq_zero_iff hfinite).mpr hundiluted, add_zero] at hsplit
  rw [← hsplit]
  exact ENNReal.toReal_pos hsome hwhole

end Trades

section Sessions

variable {earlier session : List Row} {row : Row}

/-- A running sum of volumes gives out their sum. -/
theorem runningTotal_ofVolume (ws : List ℝ≥0∞) :
    runningTotal (ws.map Exact.ofVolume) = .ofVolume ws.sum := by
  rw [runningTotal_eq_total (List.forall_mem_map.mpr fun w _ => Exact.isMissing_ofVolume w),
    Exact.total_ofVolume]

/-- The price of a session with a volume is what its bills come to, over that volume. -/
theorem sessionPrice_row (session : List Row) :
    sessionPrice (session.map Row.sample) =
      if wholeVolume session = 0 then none
      else some (runningTotal (session.map Row.bill) / .ofVolume (wholeVolume session)) := by
  have hbill (r : Row) : r.sample.typical * r.sample.countedVolume = r.bill := by
    rw [r.typical_sample, r.countedVolume_sample]
    rfl
  have hvolume : runningTotal (session.map fun r => Exact.ofVolume r.amount) =
      .ofVolume (wholeVolume session) := by
    unfold wholeVolume
    rw [← runningTotal_ofVolume, List.map_map]
    rfl
  rw [sessionPrice_map hbill Row.countedVolume_sample, hvolume, Exact.ofInt_zero,
    Exact.below_ofVolume]
  by_cases hzero : wholeVolume session = 0
  · rw [if_pos hzero, if_neg (by simpa using hzero)]
  · rw [if_neg hzero, if_pos (decide_eq_true hzero)]

/-- Nothing is given out at a bar without a price. -/
theorem runningTotal_bill_of_none (hp : row.price = none) :
    runningTotal ((earlier ++ [row]).map Row.bill) = .missing := by
  have hmissing : Scalar.isMissing row.bill = true := by
    rw [Row.bill_of_none hp]
    rfl
  rw [List.map_append, List.map_singleton, runningTotal_concat_missing _ hmissing]
  rfl

/-- The bills that are not missing are those of the trades. -/
theorem present_bill (hfinite : ∀ r ∈ session, r.amount ≠ ⊤) :
    present (session.map Row.bill) =
      ((trades session).map fun t => t.1 * t.2).map Exact.number := by
  induction session with
  | nil => rfl
  | cons r rest ih =>
    obtain ⟨hfirst, hrest⟩ := List.forall_mem_cons.mp hfinite
    unfold present trades at ih ⊢
    cases hp : r.price with
    | none =>
      rw [List.map_cons, Row.bill_of_none hp, List.filterMap_cons_none (by rw [hp]; rfl), ← ih hrest]
      exact List.filter_cons_of_neg (by decide)
    | some p =>
      rw [List.map_cons, Row.bill_of_ne hp hfirst, List.filterMap_cons_some (by rw [hp]; rfl),
        List.map_cons, List.map_cons, ← ih hrest]
      exact List.filter_cons_of_pos rfl

/-- What is given out at a bar with a price is what was paid in the trades. -/
theorem runningTotal_bill (hfinite : ∀ r ∈ earlier ++ [row], r.amount ≠ ⊤)
    (hp : row.price ≠ none) :
    runningTotal ((earlier ++ [row]).map Row.bill) = .number (paidFor (trades (earlier ++ [row]))) := by
  obtain ⟨p, hp⟩ := Option.ne_none_iff_exists'.mp hp
  have hlast : ((earlier ++ [row]).map Row.bill).getLast?.any Scalar.isMissing = false := by
    rw [List.map_append, List.map_singleton, List.getLast?_concat,
      Row.bill_of_ne hp (hfinite row (List.mem_append_right _ List.mem_cons_self))]
    rfl
  unfold runningTotal
  rw [hlast, if_neg Bool.false_ne_true, present_bill hfinite, Exact.total_number]
  rfl

/-- If a real number is given out, the prices of infinite volumes are zero. -/
theorem eq_zero_of_runningTotal_eq_number {z : ℝ}
    (h : runningTotal (session.map Row.bill) = .number z) :
    ∀ r ∈ session, r.amount = ⊤ → ∀ p, r.price = some p → p = 0 := by
  intro r hr hw p hp
  by_contra hne
  obtain ⟨negative, hbill⟩ := Row.bill_of_top hp hw hne
  unfold runningTotal at h
  split at h
  next => cases h
  next =>
    have hpresent : r.bill ∈ present (session.map Row.bill) :=
      List.mem_filter.mpr ⟨List.mem_map_of_mem hr, by rw [hbill]; rfl⟩
    obtain ⟨y, hy⟩ := Exact.eq_number_of_total h _ hpresent
    rw [hbill] at hy
    cases hy

end Sessions

section Laws

variable {earlier session : List Row} {row : Row} {v : ℝ}

theorem sessionPrice_eq_none_iff :
    sessionPrice (session.map Row.sample) = none ↔ wholeVolume session = 0 := by
  rw [sessionPrice_row, ite_eq_left_iff]
  constructor
  · intro h
    by_contra hsome
    exact Option.some_ne_none _ (h hsome)
  · intro h hsome
    exact absurd h hsome

theorem wholeVolume_ne_zero {price : Exact}
    (hprice : sessionPrice (session.map Row.sample) = some price) : wholeVolume session ≠ 0 :=
  fun hzero => by
    rw [sessionPrice_eq_none_iff.mpr hzero] at hprice
    cases hprice

/-- At a bar without a price there is no number. -/
theorem sessionPrice_ne_number (hp : row.price = none) :
    sessionPrice ((earlier ++ [row]).map Row.sample) ≠ some (.number v) := by
  intro h
  rw [sessionPrice_row, runningTotal_bill_of_none hp] at h
  split at h
  next => cases h
  next => cases Option.some.inj h

/-- At any other bar of a session with a finite volume there is one. -/
theorem sessionPrice_of_ne (hp : row.price ≠ none) (hsome : wholeVolume (earlier ++ [row]) ≠ 0)
    (hwhole : wholeVolume (earlier ++ [row]) ≠ ⊤) :
    sessionPrice ((earlier ++ [row]).map Row.sample) = some (.number
      (paidFor (trades (earlier ++ [row])) / (wholeVolume (earlier ++ [row])).toReal)) := by
  have hpos : 0 < (wholeVolume (earlier ++ [row])).toReal := ENNReal.toReal_pos hsome hwhole
  rw [sessionPrice_row, if_neg hsome, runningTotal_bill (wholeVolume_ne_top_iff.mp hwhole) hp,
    Exact.ofVolume_of_ne hwhole, Exact.number_div _ hpos.ne']

/-- So a number over a finite volume is that one. -/
theorem eq_of_sessionPrice_eq_number (hwhole : wholeVolume (earlier ++ [row]) ≠ ⊤)
    (hv : sessionPrice ((earlier ++ [row]).map Row.sample) = some (.number v)) :
    v = paidFor (trades (earlier ++ [row])) / (wholeVolume (earlier ++ [row])).toReal := by
  have hp : row.price ≠ none := fun hp => sessionPrice_ne_number hp hv
  rw [sessionPrice_of_ne hp (wholeVolume_ne_zero hv) hwhole] at hv
  exact (Exact.number.inj (Option.some.inj hv)).symm

/-- Over an infinite volume a number is zero, and so is every price that an infinite volume has. -/
theorem eq_zero_of_sessionPrice_eq_number (hwhole : wholeVolume session = ⊤)
    (hv : sessionPrice (session.map Row.sample) = some (.number v)) :
    v = 0 ∧ ∀ r ∈ session, r.amount = ⊤ → ∀ p, r.price = some p → p = 0 := by
  have hsome := wholeVolume_ne_zero hv
  rw [sessionPrice_row, if_neg hsome, hwhole, Exact.ofVolume_top] at hv
  obtain ⟨⟨x, hx⟩, hzero⟩ := Exact.eq_number_of_div_infinite (Option.some.inj hv)
  exact ⟨hzero, eq_zero_of_runningTotal_eq_number hx⟩

/-- A number of an undiluted session is in the range of its prices. -/
theorem exists_mem_Icc_of_undiluted (hundiluted : Undiluted (earlier ++ [row]))
    (hv : sessionPrice ((earlier ++ [row]).map Row.sample) = some (.number v)) :
    ∃ lo hi, IsLeast (prices (earlier ++ [row])) lo ∧ IsGreatest (prices (earlier ++ [row])) hi ∧
      v ∈ Set.Icc lo hi := by
  have hp : row.price ≠ none := fun hp => sessionPrice_ne_number hp hv
  obtain ⟨p, hp⟩ := Option.ne_none_iff_exists'.mp hp
  have hmem {r : Row} {q : ℝ} (hr : r ∈ earlier ++ [row]) (hq : r.price = some q) :
      q ∈ prices (earlier ++ [row]) := List.mem_filterMap.mpr ⟨r, hr, hq⟩
  have hrow : p ∈ prices (earlier ++ [row]) := hmem (List.mem_append_right _ List.mem_cons_self) hp
  obtain ⟨lo, hi, hlo, hhi⟩ := exists_least_greatest (List.finite_toSet _) ⟨p, hrow⟩
  refine ⟨lo, hi, hlo, hhi, ?_⟩
  by_cases hwhole : wholeVolume (earlier ++ [row]) = ⊤
  · -- The infinite volume is that of a bar with a price, and this price can only be zero.
    obtain ⟨hzero, hprices⟩ := eq_zero_of_sessionPrice_eq_number hwhole hv
    obtain ⟨r, hr, hamount⟩ := wholeVolume_eq_top_iff.mp hwhole
    have hq : r.price ≠ none := fun hq => by
      rw [hundiluted r hr hq] at hamount
      exact ENNReal.zero_ne_top hamount
    obtain ⟨q, hq⟩ := Option.ne_none_iff_exists'.mp hq
    have hfree := hmem hr hq
    rw [hprices r hr hamount q hq] at hfree
    rw [hzero]
    exact ⟨hlo.2 hfree, hhi.2 hfree⟩
  · have hpos := tradedVolume_pos hundiluted (wholeVolume_ne_zero hv) hwhole
    rw [eq_of_sessionPrice_eq_number hwhole hv,
      (paidFor_div_wholeVolume_eq_iff hwhole hpos).mpr (.inl hundiluted)]
    exact weightedMean_mem_Icc (fun t ht => (of_mem_trades ht).2) hpos fun t ht =>
      ⟨hlo.2 (of_mem_trades ht).1, hhi.2 (of_mem_trades ht).1⟩

/-- What the volume-weighted price at the last bar of a session is. -/
structure PricedAt (session : List Row) (row : Row) (price : Option Exact) : Prop where
  /-- There is none exactly if nothing was traded in the session. -/
  silent : price = none ↔ wholeVolume session = 0
  /-- At a bar without a price it is not a number. -/
  unpriced : row.price = none → ∀ v, price ≠ some (.number v)
  /-- At any other bar it is what was paid in the trades over the whole volume of the session, also
  that of the bars without a price. -/
  value : row.price ≠ none → wholeVolume session ≠ 0 → wholeVolume session ≠ ⊤ →
    price = some (.number (paidFor (trades session) / (wholeVolume session).toReal))
  /-- Over an infinite volume a number is zero, and so is every price that an infinite volume
  has. -/
  endless : wholeVolume session = ⊤ → ∀ v, price = some (.number v) →
    v = 0 ∧ ∀ r ∈ session, r.amount = ⊤ → ∀ p, r.price = some p → p = 0
  /-- A number is the weighted mean of the prices exactly if nothing dilutes it, or there is nothing
  to dilute. -/
  mean_iff : wholeVolume session ≠ ⊤ → 0 < tradedVolume (trades session) → ∀ v,
    price = some (.number v) →
      (v = weightedMean (trades session) ↔ Undiluted session ∨ weightedMean (trades session) = 0)
  /-- It is in the range of the prices as long as nothing dilutes it. -/
  bounds : Undiluted session → ∀ v, price = some (.number v) →
    ∃ lo hi, IsLeast (prices session) lo ∧ IsGreatest (prices session) hi ∧ v ∈ Set.Icc lo hi

/-- The price at the last bar of a session. -/
theorem pricedAt_concat (earlier : List Row) (row : Row) :
    PricedAt (earlier ++ [row]) row (sessionPrice ((earlier ++ [row]).map Row.sample)) where
  silent := sessionPrice_eq_none_iff
  unpriced hp _ := sessionPrice_ne_number hp
  value := sessionPrice_of_ne
  endless hwhole _ := eq_zero_of_sessionPrice_eq_number hwhole
  mean_iff hwhole hpos v hv := by
    rw [eq_of_sessionPrice_eq_number hwhole hv]
    exact paidFor_div_wholeVolume_eq_iff hwhole hpos
  bounds hundiluted _ := exists_mem_Icc_of_undiluted hundiluted

/-- In exact arithmetic the volume-weighted price at a bar is what was paid in its session so far,
over all of the volume of this session. It is the mean of the prices, weighted by their volumes, and
lies in their range, as long as the bars of the session that have no price have no volume; where
they have one it is diluted. -/
theorem vwap_diluted {rows : List Row} {k : Nat} {row : Row} (hrow : rows[k]? = some row) :
    ∃ price, (vwap (rows.map Row.sample))[k]? = some ⟨row.time, price⟩ ∧
      PricedAt (sessionOf Row.day (rows.take (k + 1))) row price := by
  have hbar : (rows.map Row.sample)[k]? = some row.sample := by
    rw [List.getElem?_map, hrow, Option.map_some]
  refine ⟨sessionPrice (sessionOf sampleDay ((rows.map Row.sample).take (k + 1))),
    getElem?_vwap hbar, ?_⟩
  rw [← List.map_take, sessionOf_samples]
  show PricedAt (sessionOf Row.day _) row (sessionPrice ((sessionOf Row.day _).map Row.sample))
  rw [List.take_add_one, hrow, Option.toList_some, sessionOf_concat]
  exact pricedAt_concat _ row

/-- A bar with a volume and no price. -/
def unpricedRow : Row := ⟨0, none, none, none, some 1⟩

/-- A bar of the same day, with a price. -/
def pricedRow : Row := ⟨60, some 10, some 10, some 10, some 1⟩

/-- A bar without a price halves the price after it, and takes it out of the range of the prices. -/
theorem vwap_diluted_unpriced :
    [unpricedRow, pricedRow][1]? = some pricedRow ∧
      (vwap ([unpricedRow, pricedRow].map Row.sample))[1]? = some ⟨60, some (.number 5)⟩ ∧
      weightedMean (trades [unpricedRow, pricedRow]) = 10 ∧
      prices [unpricedRow, pricedRow] = {10} ∧ ¬ Undiluted [unpricedRow, pricedRow] := by
  obtain ⟨price, hvwap, hprice⟩ :=
    vwap_diluted (show [unpricedRow, pricedRow][1]? = some pricedRow from rfl)
  have hday : lastDay Row.day [unpricedRow] = some pricedRow.day := by
    unfold lastDay Row.day
    rw [← dayOf_eq_floor]
    exact congrArg some (dayOf_eq_floor unpricedRow.time).symm
  have hsession : sessionOf Row.day ([unpricedRow, pricedRow].take 2) = [unpricedRow, pricedRow] := by
    have hfirst : sessionOf Row.day [unpricedRow] = [unpricedRow] := sessionOf_concat _ [] _
    have hsecond := sessionOf_concat Row.day [unpricedRow] pricedRow
    rw [hday, if_pos rfl, hfirst] at hsecond
    exact hsecond
  have hnone : unpricedRow.price = none := rfl
  have hten : pricedRow.price = some 10 := by
    unfold Row.price pricedRow typicalOf
    norm_num
  have htrades : trades [unpricedRow, pricedRow] = [(10, 1)] := by
    unfold trades
    rw [List.filterMap_cons_none (by rw [hnone]; rfl),
      List.filterMap_cons_some (by rw [hten]; rfl)]
    rfl
  have hprices : prices [unpricedRow, pricedRow] = {10} := by
    unfold prices
    rw [List.filterMap_cons_none hnone, List.filterMap_cons_some hten]
    simp
  have hwhole : wholeVolume [unpricedRow, pricedRow] = 2 := by
    unfold wholeVolume
    simp only [List.map_cons, List.map_nil, List.sum_cons, List.sum_nil]
    show (1 : ℝ≥0∞) + (1 + 0) = 2
    norm_num
  rw [hsession] at hprice
  have hvalue := hprice.value (by rw [hten]; exact Option.some_ne_none _)
    (by rw [hwhole]; norm_num) (by rw [hwhole]; exact ENNReal.ofNat_ne_top)
  rw [hvwap, hvalue, htrades, hwhole]
  refine ⟨rfl, ?_, ?_, hprices, fun h => ?_⟩
  · unfold paidFor
    norm_num
    rfl
  · unfold weightedMean paidFor tradedVolume
    norm_num
  · exact absurd (h unpricedRow List.mem_cons_self hnone) (by unfold Row.amount unpricedRow; norm_num)

end Laws

end ChartScript.Indicator
