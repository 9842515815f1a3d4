import ChartScript.Proofs.Indicator.Causal
import ChartScript.Proofs.Indicator.Shared
/-!
# Points that stay once drawn

Later bars do not change a point of a built-in indicator: over a longer list of bars every series
begins with the series over the shorter one. Only the convergence indicator needs the times of the
bars to increase, since it joins two means by time. The host computes the same series by name, so
what it answers over the longer list begins with what it answered before.
-/

namespace ChartScript.Indicator

open Market (Bar)
open Plot (LinePoint)

section Series

variable {α : Type}

/-- The last items of a list, as many as there are after the first ones. -/
theorem lastItems_eq_drop {β : Type} {n lag : Nat} {xs : List β} (h : n = xs.length - lag) :
    lastItems n xs = xs.drop lag := by
  unfold lastItems
  by_cases hlag : lag ≤ xs.length
  · have hcount : xs.length - n = lag := by omega
    rw [hcount]
  · rw [List.drop_eq_nil_of_le (by omega), List.drop_eq_nil_of_le (by omega)]

/-- A series combined with the last items that it was computed from. -/
theorem Causal.aligned {β γ δ : Type} {lag : Nat} {f : List β → List γ} (hf : Causal lag f)
    (combine : β → γ → δ) :
    Causal lag fun xs => (lastItems (f xs).length xs).zipWith combine (f xs) := by
  have hlast : (fun xs => (lastItems (f xs).length xs).zipWith combine (f xs)) =
      fun xs => (xs.drop lag).zipWith combine (f xs) := by
    funext xs
    rw [lastItems_eq_drop (hf.length xs)]
  rw [hlast]
  exact (causal_drop lag).zipWith hf combine

/-- A kernel applied to the last prices, at the times of the last bars. -/
theorem Causal.timed {β : Type} {lag : Nat} {kernel : List α → List β} (hk : Causal lag kernel) :
    Causal lag fun bars : List (Sample α) => timed bars (kernel (closes bars)) :=
  (hk.ofMap Sample.close).aligned _

/-- The times of such a series are those of the bars after the first ones. -/
theorem Causal.timed_times {β : Type} {lag : Nat} {kernel : List α → List β} (hk : Causal lag kernel)
    (bars : List (Sample α)) :
    (Indicator.timed bars (kernel (closes bars))).map Timed.time =
      (bars.drop lag).map Sample.time := by
  have hlength : (kernel (closes bars)).length = bars.length - lag := by
    unfold closes
    rw [hk.length, List.length_map]
  have htimes : ((bars.drop lag).zip (kernel (closes bars))).map Prod.fst = bars.drop lag :=
    List.map_fst_zip (by rw [hlength, List.length_drop])
  unfold Indicator.timed
  rw [lastItems_eq_drop hlength, ← List.map_uncurry_zip_eq_zipWith, List.map_map, ← htimes,
    List.map_map, htimes]
  rfl

/-- The values of such a series are those of the kernel. -/
theorem Causal.timed_values {β : Type} {lag : Nat} {kernel : List α → List β} (hk : Causal lag kernel)
    (bars : List (Sample α)) :
    (Indicator.timed bars (kernel (closes bars))).map Timed.value = kernel (closes bars) := by
  have hlength : (kernel (closes bars)).length = bars.length - lag := by
    unfold closes
    rw [hk.length, List.length_map]
  have hvalues : ((bars.drop lag).zip (kernel (closes bars))).map Prod.snd = kernel (closes bars) :=
    List.map_snd_zip (by rw [hlength, List.length_drop])
  unfold Indicator.timed
  rw [lastItems_eq_drop hlength, ← List.map_uncurry_zip_eq_zipWith, List.map_map]
  exact hvalues

/-- A point of such a series stands at the time of the bar at its place. -/
theorem Causal.time_of_getElem? {β : Type} {lag : Nat} {kernel : List α → List β}
    (hk : Causal lag kernel) {bars : List (Sample α)} {k : Nat} {p : Timed β}
    (hp : (Indicator.timed bars (kernel (closes bars)))[k]? = some p) :
    ∃ bar, bars[lag + k]? = some bar ∧ p.time = bar.time := by
  have htime : ((Indicator.timed bars (kernel (closes bars))).map Timed.time)[k]? = some p.time := by
    rw [List.getElem?_map, hp, Option.map_some]
  rw [hk.timed_times, List.getElem?_map, List.getElem?_drop, Option.map_eq_some_iff] at htime
  obtain ⟨bar, hbar, htime⟩ := htime
  exact ⟨bar, hbar, htime.symm⟩

/-- Over further bars such a series grows by points at their times. -/
theorem Causal.timed_append {β : Type} {lag : Nat} {kernel : List α → List β} (hk : Causal lag kernel)
    (bars later : List (Sample α)) :
    ∃ more, Indicator.timed (bars ++ later) (kernel (closes (bars ++ later))) =
        Indicator.timed bars (kernel (closes bars)) ++ more ∧
      ∀ p ∈ more, p.time ∈ later.map Sample.time := by
  obtain ⟨more, hmore⟩ := hk.timed.grows bars later
  have htimes := congrArg (List.map Timed.time) hmore
  rw [List.map_append, hk.timed_times, hk.timed_times, List.drop_append, List.map_append] at htimes
  have hlater : more.map Timed.time = (later.drop (lag - bars.length)).map Sample.time :=
    List.append_cancel_left htimes
  refine ⟨more, hmore.symm, fun p hp => ?_⟩
  have hp' : p.time ∈ (later.drop (lag - bars.length)).map Sample.time :=
    hlater ▸ List.mem_map_of_mem hp
  exact (List.drop_sublist _ later).map Sample.time |>.subset hp'

/-- A series without output for a period that is not positive stays, whatever the period. -/
theorem timed_stays {β : Type} (lag : Int → Nat) {kernel : List α → Int → List β}
    (hcausal : ∀ period, 1 ≤ period → Causal (lag period) fun xs => kernel xs period)
    (hnone : ∀ xs period, period < 1 → kernel xs period = []) (bars later : List (Sample α))
    (period : Int) :
    timed bars (kernel (closes bars) period) <+:
      timed (bars ++ later) (kernel (closes (bars ++ later)) period) := by
  by_cases hperiod : 1 ≤ period
  · exact (hcausal period hperiod).timed.grows bars later
  · have hempty (longer : List (Sample α)) : timed longer (kernel (closes longer) period) = [] := by
      unfold timed
      rw [hnone _ _ (by omega), List.zipWith_nil_right]
    rw [hempty, hempty]

variable [Scalar α]

/-- The moving mean stays. -/
theorem sma_stays (bars later : List (Sample α)) (period : Int) :
    sma bars period <+: sma (bars ++ later) period :=
  timed_stays (fun period => period.toNat - 1) (fun _ => causal_movingMean)
    (fun _ _ h => if_pos (isShort_of_lt h)) bars later period

/-- The exponential mean stays. -/
theorem ema_stays (bars later : List (Sample α)) (period : Int) :
    ema bars period <+: ema (bars ++ later) period :=
  timed_stays (fun period => period.toNat - 1) (fun _ => causal_exponentialMean)
    (fun _ _ h => if_pos (isShort_of_lt h)) bars later period

/-- The strength index stays. -/
theorem rsi_stays (bars later : List (Sample α)) (period : Int) :
    rsi bars period <+: rsi (bars ++ later) period := by
  refine timed_stays Int.toNat (fun n hn => ?_) (fun xs n hn => ?_) bars later period
  · obtain ⟨k, rfl⟩ := Int.eq_ofNat_of_zero_le (Int.le_of_lt hn)
    exact causal_strengthIndex (Int.ofNat_le.mp hn)
  · unfold strengthIndex
    rw [decide_eq_true hn, Bool.true_or, if_pos rfl]

/-- The bands are made bar by bar, from the bar on at which the first window is full. -/
theorem bollinger_eq {period : Int} (hperiod : 1 ≤ period) (bars : List (Sample α)) (mult : α) :
    bollinger bars period mult =
      ((bars.drop (period.toNat - 1)).zip ((movingMean (closes bars) period).zip
        (movingDeviation (closes bars) period))).map
          fun entry => band mult entry.1 entry.2.1 entry.2.2 := by
  have hlength := ((causal_movingMean hperiod).ofMap Sample.close).length bars
  unfold bollinger
  dsimp only
  split
  next hempty =>
    change (movingMean (closes bars) period).length = _ at hlength
    rw [List.isEmpty_iff.mp hempty, List.length_nil] at hlength
    rw [List.drop_eq_nil_of_le (by omega)]
  next => rfl

/-- The bands. -/
theorem causal_bollinger {period : Int} (hperiod : 1 ≤ period) (mult : α) :
    Causal (period.toNat - 1) fun bars : List (Sample α) => bollinger bars period mult := by
  have hmeans : Causal (period.toNat - 1)
      fun bars : List (Sample α) => movingMean (closes bars) period :=
    (causal_movingMean hperiod).ofMap Sample.close
  have hdeviations : Causal (period.toNat - 1)
      fun bars : List (Sample α) => movingDeviation (closes bars) period :=
    (causal_movingDeviation hperiod).ofMap Sample.close
  have hbands := ((causal_drop (period.toNat - 1)).zipWith
    (hmeans.zipWith hdeviations Prod.mk) Prod.mk).comp
      (causal_map fun entry => band mult entry.1 entry.2.1 entry.2.2)
  have hsame : (fun bars : List (Sample α) => bollinger bars period mult) = _ :=
    funext fun bars => bollinger_eq hperiod bars mult
  rw [hsame]
  exact hbands

/-- There are no bands for a period that is not positive. -/
theorem bollinger_of_lt {period : Int} (hperiod : period < 1) (bars : List (Sample α)) (mult : α) :
    bollinger bars period mult = [] := by
  have hmeans : movingMean (closes bars) period = [] := if_pos (isShort_of_lt hperiod)
  unfold bollinger
  rw [hmeans]
  rfl

/-- The bands stay, whatever the factor. -/
theorem bollinger_stays (bars later : List (Sample α)) (period : Int) (mult : α) :
    bollinger bars period mult <+: bollinger (bars ++ later) period mult := by
  by_cases hperiod : 1 ≤ period
  · exact (causal_bollinger hperiod mult).grows bars later
  · rw [bollinger_of_lt (by omega), bollinger_of_lt (by omega)]

/-- The running sums of an amount over the sessions of bars. -/
def sessionSums (amount : Sample α → α) (bars : List (Sample α)) : List α :=
  runningSums [] ((sessionsFrom none 0 (bars.map fun b => dayOf b.time)).zip (bars.map amount))

/-- There is a running sum for every bar. -/
theorem causal_sessionSums (amount : Sample α → α) : Causal 0 (sessionSums amount) := by
  have hsessions : Causal 0 fun bars : List (Sample α) =>
      sessionsFrom none 0 (bars.map fun b => dayOf b.time) :=
    (causal_sessionsFrom none 0).ofMap _
  exact (hsessions.zipWith (causal_map amount) Prod.mk).comp (causal_runningSums [])

/-- The volume-weighted price. -/
theorem causal_vwap : Causal 0 fun bars : List (Sample α) => vwap bars := by
  have hvalues := (causal_sessionSums fun b : Sample α => b.typical * b.countedVolume).zipWith
    (causal_sessionSums Sample.countedVolume)
    fun pv vol => if Scalar.below (Scalar.ofInt 0) vol then some (pv / vol) else none
  exact hvalues.aligned fun b v => (⟨b.time, v⟩ : Timed (Option α))

/-- The volume-weighted price stays. -/
theorem vwap_stays (bars later : List (Sample α)) : vwap bars <+: vwap (bars ++ later) :=
  causal_vwap.grows bars later

end Series

section Convergence

variable {α : Type}

/-- Bars whose times increase from one to the next. -/
def Increasing (bars : List (Sample α)) : Prop := (bars.map Sample.time).Pairwise (· < ·)

/-- A later bar has another time than an earlier one. -/
theorem Increasing.ne {bars later : List (Sample α)} (h : Increasing (bars ++ later)) {s t : Int}
    (hs : s ∈ bars.map Sample.time) (ht : t ∈ later.map Sample.time) : t ≠ s := by
  unfold Increasing at h
  rw [List.map_append] at h
  have hlt : s < t := (List.pairwise_append.mp h).2.2 s hs t ht
  omega

variable [Scalar α]

/-- The difference of the two means. -/
def differences (bars : List (Sample α)) (fast slow : Int) : List (Timed α) :=
  joinByTime (· - ·) (ema bars fast) (ema bars slow)

/-- The difference of the two means stays. -/
theorem differences_stays {bars later : List (Sample α)} (h : Increasing (bars ++ later))
    {fast slow : Int} (hfast : 1 ≤ fast) (hslow : 1 ≤ slow) :
    differences bars fast slow <+: differences (bars ++ later) fast slow := by
  have hquick : Causal (fast.toNat - 1) fun xs : List α => exponentialMean xs fast :=
    causal_exponentialMean hfast
  have hgentle : Causal (slow.toNat - 1) fun xs : List α => exponentialMean xs slow :=
    causal_exponentialMean hslow
  obtain ⟨moreFast, hfaster, -⟩ := hquick.timed_append bars later
  obtain ⟨moreSlow, hslower, hlater⟩ := hgentle.timed_append bars later
  have hapart : ∀ p ∈ ema bars fast, ∀ q ∈ moreSlow, q.time ≠ p.time := by
    intro p hp q hq
    have htime : p.time ∈ (bars.drop (fast.toNat - 1)).map Sample.time :=
      hquick.timed_times bars ▸ List.mem_map_of_mem hp
    exact h.ne (((List.drop_sublist _ bars).map Sample.time).subset htime) (hlater q hq)
  have hjoined := joinByTime_stays (· - ·) hapart (ema bars slow) moreFast
  unfold differences
  unfold ema at hjoined ⊢
  rw [hfaster, hslower]
  exact hjoined

/-- The series over a longer list begin with those over a shorter one. -/
structure Convergence.Begins (c d : Convergence α) : Prop where
  /-- The difference stays. -/
  macd : c.macd <+: d.macd
  /-- Its smoothing stays. -/
  signal : c.signal <+: d.signal
  /-- Their difference stays. -/
  histogram : c.histogram <+: d.histogram

/-- The convergence indicator has no series with a period that is not positive or with too few
bars. -/
theorem macd_of_few {bars : List (Sample α)} {fast slow signal : Int}
    (h : ¬(1 ≤ fast ∧ 1 ≤ slow ∧ 1 ≤ signal ∧ slow + signal ≤ bars.length)) :
    macd bars fast slow signal = ⟨[], [], []⟩ := by
  refine if_pos ?_
  simp only [Bool.or_eq_true, decide_eq_true_eq]
  omega

/-- Otherwise its three series come from the difference of the means. -/
theorem macd_of_enough {bars : List (Sample α)} {fast slow signal : Int} (hfast : 1 ≤ fast)
    (hslow : 1 ≤ slow) (hsignal : 1 ≤ signal) (hbars : slow + signal ≤ bars.length) :
    macd bars fast slow signal =
      let line := differences bars fast slow
      let smoothed := exponentialMean (line.map Timed.value) signal
      let aligned := lastItems smoothed.length line
      ⟨line, aligned.zipWith (fun p s => ⟨p.time, s⟩) smoothed,
        aligned.zipWith (fun p s => ⟨p.time, p.value - s⟩) smoothed⟩ := by
  refine if_neg ?_
  simp only [Bool.or_eq_true, decide_eq_true_eq]
  omega

/-- The series of the convergence indicator stay over bars with increasing times. -/
theorem macd_begins {bars later : List (Sample α)} (h : Increasing (bars ++ later))
    (fast slow signal : Int) :
    (macd bars fast slow signal).Begins (macd (bars ++ later) fast slow signal) := by
  by_cases henough : 1 ≤ fast ∧ 1 ≤ slow ∧ 1 ≤ signal ∧ slow + signal ≤ bars.length
  · obtain ⟨hfast, hslow, hsignal, hbars⟩ := henough
    have hmore : slow + signal ≤ (bars ++ later).length := by
      rw [List.length_append]
      omega
    have hline := differences_stays h hfast hslow
    have hsmoothed : Causal (signal.toNat - 1) fun line : List (Timed α) =>
        exponentialMean (line.map Timed.value) signal :=
      (causal_exponentialMean hsignal).ofMap Timed.value
    rw [macd_of_enough hfast hslow hsignal hbars, macd_of_enough hfast hslow hsignal hmore]
    exact ⟨hline, (hsmoothed.aligned _).mono hline, (hsmoothed.aligned _).mono hline⟩
  · rw [macd_of_few henough]
    exact ⟨List.nil_prefix, List.nil_prefix, List.nil_prefix⟩

end Convergence

section Host

/-- A call of a built-in indicator by name. Its parameters are integers, but for the factor of the
bands, which can be any data. -/
inductive IntegerCall where
  /-- The moving mean. -/
  | sma (period : Int)
  /-- The exponential mean. -/
  | ema (period : Int)
  /-- The strength index. -/
  | rsi (period : Int)
  /-- The bands around the moving mean. -/
  | bollinger (period : Int) (mult : Wire)
  /-- The convergence of two exponential means. -/
  | macd (fast slow signal : Int)
  /-- The volume-weighted price. -/
  | vwap

namespace IntegerCall

/-- The indicator that is called. -/
def builtin : IntegerCall → Builtin
  | sma _ => .sma
  | ema _ => .ema
  | rsi _ => .rsi
  | bollinger _ _ => .bollinger
  | macd _ _ _ => .macd
  | vwap => .vwap

/-- The parameters by name. -/
def params : IntegerCall → List (String × Wire)
  | sma period => [("period", .int period)]
  | ema period => [("period", .int period)]
  | rsi period => [("period", .int period)]
  | bollinger period mult => [("period", .int period), ("mult", mult)]
  | macd fast slow signal => [("fast", .int fast), ("slow", .int slow), ("signal", .int signal)]
  | vwap => []

/-- What the host computes over bars. -/
def compute (c : IntegerCall) (bars : List Bar) : Except Refusal Result :=
  computeNamed c.builtin.name (bars.map fun bar => bar.view.dump) c.params

/-- The factor of the bands as data: null stands for the default. -/
def effectiveMult (mult : Wire) : Wire := if Schema.RecordView.isNull mult then .float 2 else mult

/-- The parameters in order. -/
def arguments : IntegerCall → List Wire
  | sma period => [.int period]
  | ema period => [.int period]
  | rsi period => [.int period]
  | bollinger period mult => [.int period, effectiveMult mult]
  | macd fast slow signal => [.int fast, .int slow, .int signal]
  | vwap => []

/-- A call by name runs the indicator with the parameters in order. -/
theorem compute_eq (c : IntegerCall) (bars : List Bar) : c.compute bars = c.builtin.run bars c.arguments := by
  have hchecked : c.compute bars =
      (checkBars (bars.map fun bar => bar.view.dump)).bind fun checked =>
        c.builtin.run checked c.arguments := by
    cases c with
    | bollinger period mult => cases mult <;> rfl
    | _ => rfl
  rw [hchecked, checkBars_dump]
  rfl

/-- Whether the factor of the bands is a number. -/
def HasFactor : IntegerCall → Prop
  | bollinger _ mult => ∃ x, factorOf (effectiveMult mult) = .ok x
  | _ => True

end IntegerCall

/-- A result over a longer list begins with one over a shorter list. -/
inductive Result.Begins : Result → Result → Prop where
  /-- Every point of the line stays. -/
  | line {p q : List LinePoint} (h : p <+: q) : Begins (.line p) (.line q)
  /-- Every point of the bands stays. -/
  | bands {p q : List Plot.BandPoint} (h : p <+: q) : Begins (.bands p) (.bands q)
  /-- Every point of the three series stays. -/
  | convergence {c d : Plot.Convergence} (hmacd : c.macd <+: d.macd) (hsignal : c.signal <+: d.signal)
      (hhistogram : c.histogram <+: d.histogram) : Begins (.convergence c) (.convergence d)

/-- A kernel over bars, at the times of the last ones. -/
theorem kernelLine_int (k : Kernel) (samples : List (Sample Float)) (period : Int) :
    kernelLine k samples (.int period) = .ok (timed samples (k.run (closes samples) period)) := by
  have hcall : k.call (.list ((closes samples).map .float)) (.int period) =
      .ok (k.run (closes samples) period) :=
    Kernel.call_list (List.forall₂_map_left_iff.mpr (List.forall₂_same.mpr fun _ _ => rfl))
  unfold kernelLine
  rw [hcall]
  rfl

/-- The bands over bars: no output when the mean has none, whatever the factor. -/
theorem bandsOf_int (samples : List (Sample Float)) (period : Int) (mult : Wire) :
    bandsOf samples (.int period) mult =
      if (movingMean (closes samples) period).isEmpty then .ok []
      else (factorOf mult).map fun factor =>
        (bollinger samples period factor).map fun b => ⟨b.time, b.upper, b.basis, b.lower⟩ := by
  have hcall (k : Kernel) : k.call (.list ((closes samples).map .float)) (.int period) =
      .ok (k.run (closes samples) period) :=
    Kernel.call_list (List.forall₂_map_left_iff.mpr (List.forall₂_same.mpr fun _ _ => rfl))
  unfold bandsOf
  rw [hcall, hcall]
  rfl

/-- The convergence indicator over bars, with integers as data. -/
theorem convergenceOf_int (samples : List (Sample Float)) (fast slow signal : Int) :
    convergenceOf samples (.int fast) (.int slow) (.int signal) =
      let c := macd samples fast slow signal
      .ok ⟨toLine c.macd, toLine c.signal, toLine c.histogram⟩ := by
  have hleast (a b : Int) : smaller (.int a) (.int b) = .ok (.int (min a b)) := by
    have hbelow : smaller (.int a) (.int b) = .ok (if decide (b < a) then .int b else .int a) := rfl
    rw [hbelow]
    by_cases h : b < a
    · rw [decide_eq_true h, if_pos rfl, min_eq_right (le_of_lt h)]
    · rw [decide_eq_false h, if_neg Bool.false_ne_true, min_eq_left (not_lt.mp h)]
  have hgates : convergenceOf samples (.int fast) (.int slow) (.int signal) =
      (smaller (.int fast) (.int slow)).bind fun a => (smaller a (.int signal)).bind fun least =>
        (amountOf least).bind fun amount =>
          if amount.below (.whole 1) then .ok ⟨[], [], []⟩
          else if (Amount.whole samples.length).below (.whole (slow + signal)) then .ok ⟨[], [], []⟩
          else
            let c := macd samples fast slow signal
            .ok ⟨toLine c.macd, toLine c.signal, toLine c.histogram⟩ := rfl
  have hbelow (m n : Int) : (Amount.whole m).below (.whole n) = decide (m < n) := rfl
  rw [hgates, hleast]
  dsimp only [Except.bind]
  rw [hleast]
  dsimp only [amountOf, Amount.ofWire?]
  rw [hbelow, hbelow]
  by_cases henough : 1 ≤ fast ∧ 1 ≤ slow ∧ 1 ≤ signal ∧ slow + signal ≤ samples.length
  · rw [if_neg (by simp; omega), if_neg (by simp; omega)]
  · rw [macd_of_few henough]
    by_cases hlow : min (min fast slow) signal < 1
    · rw [if_pos (decide_eq_true hlow)]
      rfl
    · rw [if_neg (by simpa using hlow), if_pos (by simp; omega)]
      rfl

/-- What the host answers to a call over a shorter and a longer list of bars. -/
structure IntegerCall.Settles (c : IntegerCall) (bars longer : List Bar) : Prop where
  /-- The result over the longer list begins with the one over the shorter list, and there is one
  over the shorter list if there is one over the longer list. -/
  kept : ∀ after, c.compute longer = .ok after →
    ∃ before, c.compute bars = .ok before ∧ before.Begins after
  /-- There is a result over the longer list, unless the factor of the bands is no number. -/
  computed : c.HasFactor → ∃ after, c.compute longer = .ok after

/-- A call that has a result over every list of bars. -/
theorem IntegerCall.Settles.of_eq {c : IntegerCall} {bars longer : List Bar} {result : List Bar → Result}
    (heq : ∀ bars, c.compute bars = .ok (result bars)) (h : (result bars).Begins (result longer)) :
    c.Settles bars longer where
  kept after hafter := by
    rw [heq longer] at hafter
    cases hafter
    exact ⟨result bars, heq bars, h⟩
  computed _ := ⟨result longer, heq longer⟩

/-- A kernel by name settles. -/
theorem IntegerCall.Settles.of_kernel {c : IntegerCall} {bars longer : List Bar} {k : Kernel}
    {period : Int}
    (hrun : ∀ bars, c.compute bars =
      (kernelLine k (bars.map Sample.ofBar) (.int period)).map fun ps => .line (toLine ps))
    (h : timed (bars.map Sample.ofBar) (k.run (closes (bars.map Sample.ofBar)) period) <+:
      timed (longer.map Sample.ofBar) (k.run (closes (longer.map Sample.ofBar)) period)) :
    c.Settles bars longer := by
  have heq (bars : List Bar) : c.compute bars =
      .ok (.line (toLine (timed (bars.map Sample.ofBar)
        (k.run (closes (bars.map Sample.ofBar)) period)))) := by
    rw [hrun, kernelLine_int]
    rfl
  exact .of_eq heq (.line (h.map _))

/-- The bands settle, also when their factor is no number: there is no result then as soon as there
is something to multiply. -/
theorem IntegerCall.settles_bollinger (bars later : List Bar) (period : Int) (mult : Wire) :
    (IntegerCall.bollinger period mult).Settles bars (bars ++ later) := by
  have hrun (bars : List Bar) : (IntegerCall.bollinger period mult).compute bars =
      (bandsOf (bars.map Sample.ofBar) (.int period) (effectiveMult mult)).map .bands :=
    IntegerCall.compute_eq _ bars
  cases hfactor : factorOf (effectiveMult mult) with
  | ok factor =>
    have hbands (samples : List (Sample Float)) :
        bandsOf samples (.int period) (effectiveMult mult) =
          .ok ((Indicator.bollinger samples period factor).map fun b => ⟨b.time, b.upper, b.basis, b.lower⟩) := by
      rw [bandsOf_int, hfactor]
      split
      next hempty =>
        unfold Indicator.bollinger
        rw [List.isEmpty_iff.mp hempty]
        rfl
      next => rfl
    refine .of_eq (fun bars => by rw [hrun, hbands]; rfl) (.bands ?_)
    rw [List.map_append]
    exact (bollinger_stays _ _ period factor).map _
  | error refusal =>
    refine ⟨fun after hafter => ?_, fun ⟨factor, hok⟩ => ?_⟩
    · rw [hrun, bandsOf_int, hfactor] at hafter
      split at hafter
      next hempty =>
        cases hafter
        have hmeans := movingMean_stays (closes (bars.map Sample.ofBar))
          (closes (later.map Sample.ofBar)) period
        have hcloses : closes ((bars ++ later).map Sample.ofBar) =
            closes (bars.map Sample.ofBar) ++ closes (later.map Sample.ofBar) := by
          unfold closes
          rw [List.map_append, List.map_append]
        rw [← hcloses, List.isEmpty_iff.mp hempty] at hmeans
        refine ⟨.bands [], ?_, .bands List.nil_prefix⟩
        rw [hrun, bandsOf_int, List.prefix_nil.mp hmeans]
        rfl
      next => cases hafter
    · rw [hfactor] at hok
      cases hok

/-- Every call settles. -/
theorem IntegerCall.settles {bars later : List Bar}
    (h : Increasing ((bars ++ later).map Sample.ofBar)) (c : IntegerCall) :
    c.Settles bars (bars ++ later) := by
  rw [List.map_append] at h
  cases c with
  | sma period =>
    refine .of_kernel (k := .sma) (IntegerCall.compute_eq _) ?_
    rw [List.map_append]
    exact sma_stays _ _ period
  | ema period =>
    refine .of_kernel (k := .ema) (IntegerCall.compute_eq _) ?_
    rw [List.map_append]
    exact ema_stays _ _ period
  | rsi period =>
    refine .of_kernel (k := .rsi) (IntegerCall.compute_eq _) ?_
    rw [List.map_append]
    exact rsi_stays _ _ period
  | bollinger period mult => exact settles_bollinger bars later period mult
  | macd fast slow signal =>
    have heq (bars : List Bar) : (IntegerCall.macd fast slow signal).compute bars =
        .ok (.convergence
          (let c := Indicator.macd (bars.map Sample.ofBar) fast slow signal
          ⟨toLine c.macd, toLine c.signal, toLine c.histogram⟩)) := by
      have hrun : (IntegerCall.macd fast slow signal).compute bars =
          (convergenceOf (bars.map Sample.ofBar) (.int fast) (.int slow) (.int signal)).map
            .convergence := IntegerCall.compute_eq _ bars
      rw [hrun, convergenceOf_int]
      rfl
    have hbegins := macd_begins h fast slow signal
    refine .of_eq heq ?_
    rw [List.map_append]
    exact .convergence (hbegins.macd.map _) (hbegins.signal.map _) (hbegins.histogram.map _)
  | vwap =>
    have heq (bars : List Bar) : IntegerCall.vwap.compute bars =
        .ok (.line ((Indicator.vwap (bars.map Sample.ofBar)).map fun p => ⟨p.time, p.value⟩)) :=
      IntegerCall.compute_eq _ bars
    refine .of_eq heq (.line ?_)
    rw [List.map_append]
    exact (vwap_stays _ _).map _

end Host

/-- The built-in indicators over a shorter and a longer list of bars. -/
structure Settled {α : Type} [Scalar α] (bars longer : List (Sample α)) : Prop where
  /-- The moving mean stays. -/
  sma : ∀ period, sma bars period <+: sma longer period
  /-- The exponential mean stays. -/
  ema : ∀ period, ema bars period <+: ema longer period
  /-- The strength index stays. -/
  rsi : ∀ period, rsi bars period <+: rsi longer period
  /-- The bands stay, whatever their factor. -/
  bollinger : ∀ period mult, bollinger bars period mult <+: bollinger longer period mult
  /-- The three series of the convergence indicator stay. -/
  macd : ∀ fast slow signal, (macd bars fast slow signal).Begins (macd longer fast slow signal)
  /-- The volume-weighted price stays. -/
  vwap : vwap bars <+: vwap longer

/-- Further bars at later times change no point of a built-in indicator, with numbers of any kind
and with any integers as periods; and what the host answers by name over all the bars begins with
what it answers over the first of them. -/
theorem settled_of_increasing :
    (∀ (α : Type) [Scalar α] (bars later : List (Sample α)), Increasing (bars ++ later) →
      Settled bars (bars ++ later)) ∧
    ∀ (bars later : List Bar), Increasing ((bars ++ later).map Sample.ofBar) →
      ∀ c : IntegerCall, c.Settles bars (bars ++ later) :=
  ⟨fun _ _ bars later h =>
    ⟨sma_stays bars later, ema_stays bars later, rsi_stays bars later, bollinger_stays bars later,
      macd_begins h, vwap_stays bars later⟩,
    fun _ _ h c => c.settles h⟩

/-- A bar a minute after the leap to infinity. -/
def calmBar : Bar := ⟨120, 1, 1, 1, Number.ofInt 1, 1⟩

/-- After a leap to infinity the strength index of one period has a point, and a calm bar adds
another one behind it. -/
theorem settled_of_increasing_leapingBars :
    Increasing ((leapingBars ++ [calmBar]).map Sample.ofBar) ∧
      (rsi (leapingBars.map Sample.ofBar) 1).length = 1 ∧
      (rsi ((leapingBars ++ [calmBar]).map Sample.ofBar) 1).length = 2 ∧
      Settled (leapingBars.map Sample.ofBar)
        (leapingBars.map Sample.ofBar ++ [calmBar].map Sample.ofBar) ∧
      (IntegerCall.macd 1 1 1).Settles leapingBars (leapingBars ++ [calmBar]) := by
  have htimes : Increasing ((leapingBars ++ [calmBar]).map Sample.ofBar) := by
    unfold Increasing
    decide
  have hlater : Increasing (leapingBars.map Sample.ofBar ++ [calmBar].map Sample.ofBar) := htimes
  exact ⟨htimes, rfl, rfl, settled_of_increasing.1 Float _ _ hlater,
    settled_of_increasing.2 leapingBars [calmBar] htimes (.macd 1 1 1)⟩

end ChartScript.Indicator
