import ChartScript.Proofs.Indicator.Exact
import ChartScript.Proofs.Indicator.Session
import Mathlib.Data.Rat.Floor
/-!
# The volume-weighted price as a single pass

In exact arithmetic the volume-weighted price of bars with real prices is that of a single pass that
keeps the day of the bar before, what has been paid in its session and the volume of its session,
and starts the two sums anew whenever the day changes. The tally of the pass after some bars and the
numbered running sums are both sums over the session that the last bar is in.
-/

namespace ChartScript.Indicator

/-- The mean of the highest, the lowest and the last price of a bar. -/
noncomputable def typicalOf (high low close : ℝ) : ℝ := (high + low + close) / 3

/-- A bar with real prices. Its volume may be missing. -/
structure Quote where
  /-- Time in whole seconds. -/
  time : Int
  /-- Highest price. -/
  high : ℝ
  /-- Lowest price. -/
  low : ℝ
  /-- Last price. -/
  close : ℝ
  /-- Traded volume. -/
  volume : Option ℝ

namespace Quote

/-- A bar as the indicators see it. -/
def sample (q : Quote) : Sample Exact :=
  ⟨q.time, .number q.high, .number q.low, .number q.close, q.volume.elim .missing .number⟩

/-- The mean of its three prices. -/
noncomputable def price (q : Quote) : ℝ := typicalOf q.high q.low q.close

/-- Its volume; a missing one counts as zero. -/
def amount (q : Quote) : ℝ := q.volume.getD 0

/-- The day that it is in, counted from the epoch. -/
def day (q : Quote) : Int := ⌊(q.time : ℚ) / 86400⌋

end Quote

/-- What a single pass keeps of the bars so far. -/
structure Tally where
  /-- The day of the last bar. -/
  day : Option Int
  /-- The sum of price times volume in its session. -/
  paid : ℝ
  /-- The sum of the volume in its session. -/
  volume : ℝ

namespace Tally

/-- Before the first bar. -/
def start : Tally := ⟨none, 0, 0⟩

/-- One more bar. The sums begin anew if its day is not that of the bar before. -/
noncomputable def add (t : Tally) (q : Quote) : Tally :=
  if t.day = some q.day then ⟨some q.day, t.paid + q.price * q.amount, t.volume + q.amount⟩
  else ⟨some q.day, q.price * q.amount, q.amount⟩

/-- The price so far, if there is a volume. -/
noncomputable def value (t : Tally) : Option ℝ :=
  if 0 < t.volume then some (t.paid / t.volume) else none

end Tally

/-- The price so far after every bar, in a single pass. -/
noncomputable def singlePass (t : Tally) : List Quote → List (Timed (Option ℝ))
  | [] => []
  | q :: rest =>
    let next := t.add q
    ⟨q.time, next.value⟩ :: singlePass next rest

section Days

/-- The day of a time is the whole number of days since the epoch, rounded down. -/
theorem dayOf_eq_floor (time : Int) : dayOf time = ⌊(time : ℚ) / 86400⌋ := by
  have hfloor := Rat.floor_intCast_div_natCast time 86400
  unfold dayOf secondsPerDay
  rw [Int.fdiv_eq_ediv_of_nonneg _ (by decide)]
  exact hfloor.symm

/-- The sessions of bars that are made of others are those of the others. -/
theorem sessionOf_samples {α γ : Type} (sample : γ → Sample α) (items : List γ) :
    sessionOf sampleDay (items.map sample) =
      (sessionOf (fun c => ⌊((sample c).time : ℚ) / 86400⌋) items).map sample := by
  have hday : (fun c => sampleDay (sample c)) = fun c => ⌊((sample c).time : ℚ) / 86400⌋ :=
    funext fun c => dayOf_eq_floor (sample c).time
  rw [sessionOf_map, hday]

end Days

section Sums

/-- A running sum of real numbers gives out their sum. -/
theorem runningTotal_number (ys : List ℝ) : runningTotal (ys.map Exact.number) = .number ys.sum := by
  rw [runningTotal_eq_total (List.forall_mem_map.mpr fun _ _ => rfl), Exact.total_number]

theorem Quote.typical_sample (q : Quote) : q.sample.typical = .number q.price := by
  unfold Sample.typical Quote.sample Quote.price typicalOf
  dsimp only
  rw [Exact.number_add, Exact.number_add, Exact.ofInt_ofNat, Exact.number_div _ three_ne_zero]

theorem Quote.countedVolume_sample (q : Quote) : q.sample.countedVolume = .number q.amount := by
  unfold Sample.countedVolume Quote.sample Quote.amount
  cases q.volume with
  | none => exact Exact.ofInt_zero
  | some v => rfl

/-- What was paid in a session. -/
noncomputable def paidIn (session : List Quote) : ℝ :=
  (session.map fun q => q.price * q.amount).sum

/-- The volume of a session. -/
noncomputable def volumeOf (session : List Quote) : ℝ := (session.map Quote.amount).sum

/-- The price of a session is the quotient of the two, if its volume is above zero. -/
theorem sessionPrice_sample (session : List Quote) :
    sessionPrice (session.map Quote.sample) =
      (if 0 < volumeOf session then some (paidIn session / volumeOf session) else none).map
        Exact.number := by
  have hbill (q : Quote) :
      q.sample.typical * q.sample.countedVolume = .number (q.price * q.amount) := by
    rw [q.typical_sample, q.countedVolume_sample, Exact.number_mul]
  have hpaid : runningTotal (session.map fun q => Exact.number (q.price * q.amount)) =
      .number (paidIn session) := by
    unfold paidIn
    rw [← runningTotal_number, List.map_map]
    rfl
  have hvolume : runningTotal (session.map fun q => Exact.number q.amount) =
      .number (volumeOf session) := by
    unfold volumeOf
    rw [← runningTotal_number, List.map_map]
    rfl
  rw [sessionPrice_map hbill Quote.countedVolume_sample, hpaid, hvolume, Exact.ofInt_zero,
    Exact.below_number]
  by_cases hpos : 0 < volumeOf session
  · rw [if_pos (decide_eq_true hpos), if_pos hpos, Exact.number_div _ hpos.ne', Option.map_some]
  · rw [if_neg (by simpa using hpos), if_neg hpos, Option.map_none]

end Sums

section Passes

/-- The tally of a pass is that of the session that its last bar is in. -/
theorem foldl_add (quotes : List Quote) :
    quotes.foldl Tally.add .start =
      ⟨lastDay Quote.day quotes, paidIn (sessionOf Quote.day quotes),
        volumeOf (sessionOf Quote.day quotes)⟩ := by
  induction quotes using List.reverseRecOn with
  | nil => rfl
  | append_singleton quotes q ih =>
    have hpaid (session : List Quote) :
        paidIn (session ++ [q]) = paidIn session + q.price * q.amount := by
      unfold paidIn
      rw [List.map_append, List.sum_append, List.map_singleton, List.sum_singleton]
    have hvolume (session : List Quote) : volumeOf (session ++ [q]) = volumeOf session + q.amount := by
      unfold volumeOf
      rw [List.map_append, List.sum_append, List.map_singleton, List.sum_singleton]
    rw [List.foldl_append, ih, lastDay_concat, sessionOf_concat, hpaid, hvolume]
    unfold Tally.add
    dsimp only [List.foldl_cons, List.foldl_nil]
    split
    · rfl
    · have hempty : paidIn [] = 0 ∧ volumeOf [] = 0 := ⟨rfl, rfl⟩
      rw [hempty.1, hempty.2, zero_add, zero_add]

/-- The pass has a point for every bar, at its time. -/
theorem times_singlePass (t : Tally) (quotes : List Quote) :
    (singlePass t quotes).map Timed.time = quotes.map Quote.time := by
  induction quotes generalizing t with
  | nil => rfl
  | cons q rest ih => exact congrArg (q.time :: ·) (ih _)

/-- The pass has the price of the tally so far after every bar. -/
theorem getElem?_singlePass (t : Tally) {quotes : List Quote} {k : Nat} {q : Quote}
    (hq : quotes[k]? = some q) :
    (singlePass t quotes)[k]? = some ⟨q.time, ((quotes.take (k + 1)).foldl Tally.add t).value⟩ := by
  induction quotes generalizing t k with
  | nil => cases hq
  | cons first rest ih =>
    unfold singlePass
    dsimp only
    cases k with
    | zero =>
      cases hq
      rfl
    | succ k => exact ih _ hq

/-- The volume-weighted price at a bar is that of the tally so far. -/
theorem getElem?_vwap_sample {quotes : List Quote} {k : Nat} {q : Quote} (hq : quotes[k]? = some q) :
    (vwap (quotes.map Quote.sample))[k]? =
      some ⟨q.time, (((quotes.take (k + 1)).foldl Tally.add .start).value).map .number⟩ := by
  have hbar : (quotes.map Quote.sample)[k]? = some q.sample := by
    rw [List.getElem?_map, hq, Option.map_some]
  rw [getElem?_vwap hbar, ← List.map_take, sessionOf_samples, sessionPrice_sample, foldl_add]
  rfl

/-- In exact arithmetic the volume-weighted price over bars with real prices has a point for every
bar, in order and at its time, and its values are those of the single pass, whatever the times and
the volumes are. -/
theorem vwap_eq_singlePass (quotes : List Quote) :
    (vwap (quotes.map Quote.sample)).map Timed.time = quotes.map Quote.time ∧
      vwap (quotes.map Quote.sample) =
        (singlePass .start quotes).map fun p => ⟨p.time, p.value.map .number⟩ := by
  have hpass : vwap (quotes.map Quote.sample) =
      (singlePass .start quotes).map fun p => ⟨p.time, p.value.map .number⟩ := by
    refine List.ext_getElem? fun k => ?_
    cases hq : quotes[k]? with
    | none =>
      have hend := List.getElem?_eq_none_iff.mp hq
      have hcount := congrArg List.length (times_singlePass .start quotes)
      rw [List.length_map, List.length_map] at hcount
      rw [List.getElem?_eq_none, List.getElem?_eq_none]
      · rwa [List.length_map, hcount]
      · rwa [causal_vwap.length, List.length_map]
    | some q =>
      rw [getElem?_vwap_sample hq, List.getElem?_map, getElem?_singlePass _ hq, Option.map_some]
  refine ⟨?_, hpass⟩
  rw [hpass, List.map_map]
  exact times_singlePass .start quotes

end Passes

end ChartScript.Indicator
