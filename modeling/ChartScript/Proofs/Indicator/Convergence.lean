import ChartScript.Proofs.Indicator.Settled
/-!
# The convergence indicator over bars of increasing times

Joining two means by time is combining them bar by bar when no time occurs twice: the points of the
mean that begins earlier have no partner and drop out. So the difference of the means has a point
for every bar from the one on at which both are there, its smoothing and their difference have one
for every point of it but the first ones, and all of them stand at the times of the last bars. A
direct call with integers computes just these series, whatever the integers are.
-/

namespace ChartScript.Indicator

open Market (Bar)

section Join

variable {β : Type} (combine : β → β → β) {xs ys : List (Timed β)}

/-- Partners of other times do not count, in front of the others either. -/
theorem joinByTime_append_left {earlier : List (Timed β)}
    (h : ∀ p ∈ xs, ∀ q ∈ earlier, q.time ≠ p.time) :
    joinByTime combine xs (earlier ++ ys) = joinByTime combine xs ys := by
  unfold joinByTime
  refine List.filterMap_congr fun p hp => ?_
  have hnone : earlier.reverse.find? (fun q => q.time = p.time) = none :=
    List.find?_eq_none.mpr fun q hq => by
      simpa using h p hp q (List.mem_reverse.mp hq)
  rw [List.reverse_append, List.find?_append, hnone, Option.or_none]

/-- Points without a partner drop out. -/
theorem joinByTime_append_lone {earlier : List (Timed β)}
    (h : ∀ p ∈ earlier, ∀ q ∈ ys, q.time ≠ p.time) :
    joinByTime combine (earlier ++ xs) ys = joinByTime combine xs ys := by
  have hlone : joinByTime combine earlier ys = [] := by
    unfold joinByTime
    refine List.filterMap_eq_nil_iff.mpr fun p hp => ?_
    have hnone : ys.reverse.find? (fun q => q.time = p.time) = none :=
      List.find?_eq_none.mpr fun q hq => by
        simpa using h p hp q (List.mem_reverse.mp hq)
    rw [hnone]
    rfl
  unfold joinByTime at hlone ⊢
  rw [List.filterMap_append, hlone, List.nil_append]

/-- Two points of one time, combined. -/
def Timed.join (p q : Timed β) : Timed β := ⟨p.time, combine p.value q.value⟩

/-- Series with the same times, of which none occurs twice, are combined place by place. -/
theorem joinByTime_aligned (htimes : xs.map Timed.time = ys.map Timed.time)
    (hn : (ys.map Timed.time).Nodup) :
    joinByTime combine xs ys = xs.zipWith (Timed.join combine) ys := by
  induction xs generalizing ys with
  | nil => rfl
  | cons p xs ih =>
    cases ys with
    | nil => cases htimes
    | cons q ys =>
      obtain ⟨htime, hrest⟩ := List.cons.inj htimes
      obtain ⟨hq, hn⟩ := List.nodup_cons.mp hn
      have hnone : ys.reverse.find? (fun r => r.time = p.time) = none :=
        List.find?_eq_none.mpr fun r hr => by
          have hmem : r.time ∈ ys.map Timed.time := List.mem_map_of_mem (List.mem_reverse.mp hr)
          have hne : r.time ≠ p.time := fun he => hq (htime ▸ he ▸ hmem)
          simpa using hne
      have hpartner : (q :: ys).reverse.find? (fun r => r.time = p.time) = some q := by
        rw [List.reverse_cons, List.find?_append, hnone, Option.none_or]
        exact List.find?_cons_of_pos (decide_eq_true htime.symm)
      have hlater : joinByTime combine xs (q :: ys) = joinByTime combine xs ys := by
        change joinByTime combine xs ([q] ++ ys) = joinByTime combine xs ys
        refine joinByTime_append_left combine fun r hr s hs => ?_
        have hmem : r.time ∈ ys.map Timed.time := hrest ▸ List.mem_map_of_mem hr
        rw [List.mem_singleton.mp hs]
        exact fun he => hq (he ▸ hmem)
      have hcons : joinByTime combine (p :: xs) (q :: ys) =
          p.join combine q :: joinByTime combine xs (q :: ys) := by
        unfold joinByTime
        rw [List.filterMap_cons, hpartner]
        rfl
      rw [hcons, hlater, ih hrest hn, List.zipWith_cons_cons]

end Join

section Pairs

variable {β γ δ : Type}

/-- Points that take their times from a series have the times of the series. -/
theorem times_zipWith {xs : List (Timed β)} {ys : List γ} (h : xs.length ≤ ys.length)
    (value : Timed β → γ → δ) :
    (xs.zipWith (fun p y => (⟨p.time, value p y⟩ : Timed δ)) ys).map Timed.time =
      xs.map Timed.time := by
  induction xs generalizing ys with
  | nil => rfl
  | cons p xs ih =>
    cases ys with
    | nil => simp at h
    | cons y ys =>
      rw [List.zipWith_cons_cons, List.map_cons, List.map_cons, ih (by simpa using h)]

/-- Points that take their values from a list have the values of the list. -/
theorem values_zipWith {xs : List (Timed β)} {ys : List γ} (h : ys.length ≤ xs.length) :
    (xs.zipWith (fun p y => (⟨p.time, y⟩ : Timed γ)) ys).map Timed.value = ys := by
  induction ys generalizing xs with
  | nil => rw [List.zipWith_nil_right, List.map_nil]
  | cons y ys ih =>
    cases xs with
    | nil => simp at h
    | cons p xs => rw [List.zipWith_cons_cons, List.map_cons, ih (by simpa using h)]

/-- As many last items as asked for, if there are enough. -/
theorem length_lastItems {n : Nat} {xs : List β} (h : n ≤ xs.length) :
    (lastItems n xs).length = n := by
  unfold lastItems
  rw [List.length_drop]
  omega

end Pairs

section Times

variable {α : Type} {bars : List (Sample α)}

/-- The times of bars are distinct. -/
theorem Increasing.nodup (h : Increasing bars) : (bars.map Sample.time).Nodup :=
  List.Pairwise.imp (fun hlt => ne_of_lt hlt) h

/-- Some of the bars, and those after them, have different times. -/
theorem Increasing.ne_drop (h : Increasing bars) (lag more : Nat) {s t : Int}
    (hs : s ∈ ((bars.drop lag).take more).map Sample.time)
    (ht : t ∈ (bars.drop (lag + more)).map Sample.time) : t ≠ s := by
  have hparts : (bars.drop lag).take more ++ bars.drop (lag + more) = bars.drop lag := by
    rw [← List.drop_drop, List.take_append_drop]
  have hlater : Increasing (bars.drop lag) := by
    unfold Increasing
    rw [List.map_drop]
    exact List.Pairwise.drop h
  exact (hparts.symm ▸ hlater : Increasing (_ ++ _)).ne hs ht

end Times

section Means

variable {α : Type} [Scalar α] {bars : List (Sample α)} {period fast slow : Int}

/-- The times of the exponential mean. -/
theorem ema_times (hperiod : 1 ≤ period) (bars : List (Sample α)) :
    (ema bars period).map Timed.time = (bars.drop (period.toNat - 1)).map Sample.time :=
  (causal_exponentialMean hperiod).timed_times bars

/-- The number of points of the exponential mean. -/
theorem length_ema (hperiod : 1 ≤ period) (bars : List (Sample α)) :
    (ema bars period).length = bars.length - (period.toNat - 1) := by
  rw [← List.length_map Timed.time, ema_times hperiod, List.length_map, List.length_drop]

/-- The bar from which on both means are there, counted from zero. -/
def firstJoint (fast slow : Int) : Nat := max fast.toNat slow.toNat - 1

/-- The fast mean begins no later than that. -/
theorem fast_le_firstJoint (fast slow : Int) : fast.toNat - 1 ≤ firstJoint fast slow := by
  unfold firstJoint
  omega

/-- Nor does the slow one. -/
theorem slow_le_firstJoint (fast slow : Int) : slow.toNat - 1 ≤ firstJoint fast slow := by
  unfold firstJoint
  omega

/-- The points of a mean before both means are there. -/
def alone (bars : List (Sample α)) (fast slow period : Int) : List (Timed α) :=
  (ema bars period).take (firstJoint fast slow - (period.toNat - 1))

/-- The points of a mean from where on both means are there. -/
def jointly (bars : List (Sample α)) (fast slow period : Int) : List (Timed α) :=
  (ema bars period).drop (firstJoint fast slow - (period.toNat - 1))

/-- A mean is what it has alone and what it has with the other one. -/
theorem alone_append_jointly (bars : List (Sample α)) (fast slow period : Int) :
    alone bars fast slow period ++ jointly bars fast slow period = ema bars period :=
  List.take_append_drop _ _

/-- The mean that begins last is never alone. -/
theorem jointly_of_le (h : firstJoint fast slow ≤ period.toNat - 1) :
    jointly bars fast slow period = ema bars period := by
  unfold jointly
  rw [Nat.sub_eq_zero_of_le h, List.drop_zero]

/-- Both means together stand at the times of the same bars. -/
theorem jointly_times (hperiod : 1 ≤ period) (hle : period.toNat - 1 ≤ firstJoint fast slow)
    (bars : List (Sample α)) : (jointly bars fast slow period).map Timed.time =
      (bars.drop (firstJoint fast slow)).map Sample.time := by
  unfold jointly
  rw [List.map_drop, ema_times hperiod, ← List.map_drop, List.drop_drop, Nat.add_sub_cancel' hle]

/-- A mean that is alone stands at other times than both together. -/
theorem ne_of_alone (h : Increasing bars) (hperiod : 1 ≤ period)
    (hle : period.toNat - 1 ≤ firstJoint fast slow) {p : Timed α}
    (hp : p ∈ alone bars fast slow period) {t : Int}
    (ht : t ∈ (bars.drop (firstJoint fast slow)).map Sample.time) : t ≠ p.time := by
  have htime := List.mem_map_of_mem (f := Timed.time) hp
  unfold alone at htime
  rw [List.map_take, ema_times hperiod, ← List.map_take] at htime
  refine h.ne_drop (period.toNat - 1) _ htime ?_
  rwa [Nat.add_sub_cancel' hle]

/-- The difference of the means, bar by bar. -/
theorem differences_eq (h : Increasing bars) (hfast : 1 ≤ fast) (hslow : 1 ≤ slow) :
    differences bars fast slow =
      (jointly bars fast slow fast).zipWith (Timed.join (· - ·)) (jointly bars fast slow slow) := by
  have hquick := fast_le_firstJoint fast slow
  have hgentle := slow_le_firstJoint fast slow
  have hfastTimes := jointly_times hfast hquick bars
  have hslowTimes := jointly_times hslow hgentle bars
  -- Only one of the means can have points alone, and these find no partner.
  have hjoint : joinByTime (· - ·) (ema bars fast) (ema bars slow) =
      joinByTime (· - ·) (jointly bars fast slow fast) (jointly bars fast slow slow) := by
    rcases le_total slow.toNat fast.toNat with hle | hle
    · have hwhole : jointly bars fast slow fast = ema bars fast := jointly_of_le (by
        unfold firstJoint
        omega)
      rw [← alone_append_jointly bars fast slow slow, ← hwhole]
      refine joinByTime_append_left _ fun p hp q hq he => ?_
      exact ne_of_alone h hslow hgentle hq (hfastTimes ▸ List.mem_map_of_mem hp) he.symm
    · have hwhole : jointly bars fast slow slow = ema bars slow := jointly_of_le (by
        unfold firstJoint
        omega)
      rw [← alone_append_jointly bars fast slow fast, ← hwhole]
      refine joinByTime_append_lone _ fun p hp q hq he => ?_
      exact ne_of_alone h hfast hquick hp (hslowTimes ▸ List.mem_map_of_mem hq) he
  have hdistinct : ((jointly bars fast slow slow).map Timed.time).Nodup := by
    rw [hslowTimes, List.map_drop]
    exact h.nodup.sublist (List.drop_sublist _ _)
  unfold differences
  rw [hjoint]
  exact joinByTime_aligned _ (hfastTimes.trans hslowTimes.symm) hdistinct

/-- The number of differences. -/
theorem length_differences (h : Increasing bars) (hfast : 1 ≤ fast) (hslow : 1 ≤ slow) :
    (differences bars fast slow).length = bars.length + 1 - max fast.toNat slow.toNat := by
  rw [differences_eq h hfast hslow, List.length_zipWith]
  unfold jointly firstJoint
  rw [List.length_drop, List.length_drop, length_ema hfast, length_ema hslow]
  omega

/-- The times of the differences are those of the last bars. -/
theorem differences_times (h : Increasing bars) (hfast : 1 ≤ fast) (hslow : 1 ≤ slow) :
    (differences bars fast slow).map Timed.time =
      (lastItems (differences bars fast slow).length bars).map Sample.time := by
  have hquick := fast_le_firstJoint fast slow
  have hgentle := slow_le_firstJoint fast slow
  have hlength := congrArg List.length
    ((jointly_times hfast hquick bars).trans (jointly_times hslow hgentle bars).symm)
  rw [List.length_map, List.length_map] at hlength
  have hcount : (differences bars fast slow).length = bars.length - firstJoint fast slow := by
    rw [length_differences h hfast hslow]
    unfold firstJoint
    omega
  rw [lastItems_eq_drop hcount, ← jointly_times hfast hquick, differences_eq h hfast hslow]
  exact times_zipWith hlength.le _

/-- Whether a series has one point at a time, and which value it has there. -/
def OnlyAt {β : Type} (points : List (Timed β)) (time : Int) (value : β) : Prop :=
  ∀ p, p ∈ points ∧ p.time = time ↔ p = ⟨time, value⟩

/-- A point of a mean is the only one at its time. -/
theorem onlyAt_of_mem_ema (h : Increasing bars) (hperiod : 1 ≤ period) {p : Timed α}
    (hp : p ∈ ema bars period) : OnlyAt (ema bars period) p.time p.value := by
  have hdistinct : ((ema bars period).map Timed.time).Nodup := by
    rw [ema_times hperiod, List.map_drop]
    exact h.nodup.sublist (List.drop_sublist _ _)
  intro q
  constructor
  · rintro ⟨hq, htime⟩
    exact List.inj_on_of_nodup_map hdistinct hq hp htime
  · rintro rfl
    exact ⟨hp, rfl⟩

/-- A difference is that of the only points of the two means at its time. -/
theorem exists_means_of_mem_differences (h : Increasing bars) (hfast : 1 ≤ fast) (hslow : 1 ≤ slow)
    {p : Timed α} (hp : p ∈ differences bars fast slow) :
    ∃ x y, OnlyAt (ema bars fast) p.time x ∧ OnlyAt (ema bars slow) p.time y ∧ p.value = x - y := by
  have hquick := fast_le_firstJoint fast slow
  have hgentle := slow_le_firstJoint fast slow
  have htimes := (jointly_times hfast hquick bars).trans (jointly_times hslow hgentle bars).symm
  rw [differences_eq h hfast hslow] at hp
  obtain ⟨k, hk, rfl⟩ := List.mem_iff_getElem.mp hp
  rw [List.length_zipWith, Nat.lt_min] at hk
  have htime : ((jointly bars fast slow fast)[k]).time = ((jointly bars fast slow slow)[k]).time := by
    have hget := congrArg (fun ts : List Int => ts[k]?) htimes
    simpa [hk.1, hk.2] using hget
  have hfirst := onlyAt_of_mem_ema h hfast (List.mem_of_mem_drop (List.getElem_mem hk.1))
  have hsecond := onlyAt_of_mem_ema h hslow (List.mem_of_mem_drop (List.getElem_mem hk.2))
  rw [List.getElem_zipWith]
  exact ⟨_, _, hfirst, htime ▸ hsecond, rfl⟩

end Means

section Laws

variable {α : Type} [Scalar α]

/-- The three series of the convergence indicator over bars that are enough for its periods. -/
structure Converges (bars : List (Sample α)) (fast slow signal : Int) (c : Convergence α) : Prop where
  /-- There is a difference for every bar from the one on at which both means are there. -/
  length : (c.macd.length : Int) = max 0 (bars.length - max fast slow + 1)
  /-- The differences stand at the times of the last bars. -/
  times : c.macd.map Timed.time = (lastItems c.macd.length bars).map Sample.time
  /-- A difference is that of the two means at its bar. -/
  difference : ∀ p ∈ c.macd, ∃ x y, OnlyAt (ema bars fast) p.time x ∧
    OnlyAt (ema bars slow) p.time y ∧ p.value = x - y
  /-- The smoothing begins once as many differences have come in as it has periods. -/
  signalLength : (c.signal.length : Int) = max 0 (c.macd.length - signal + 1)
  /-- It stands at the times of the last differences. -/
  signalTimes : c.signal.map Timed.time = (lastItems c.signal.length c.macd).map Timed.time
  /-- Its values are the exponential mean of the differences. -/
  smoothing : c.signal.map Timed.value = exponentialMean (c.macd.map Timed.value) signal
  /-- The rest stands at the times of the smoothing. -/
  restTimes : c.histogram.map Timed.time = c.signal.map Timed.time
  /-- It is what the difference exceeds its smoothing by at the same place. -/
  rest : ∀ k < c.histogram.length, ∃ p s, c.macd[k + signal.toNat - 1]? = some p ∧
    c.signal[k]? = some s ∧ c.histogram[k]? = some ⟨p.time, p.value - s.value⟩

section Smoothing

variable {signal : Int}

/-- The smoothing of a series. -/
def smoothingOf (points : List (Timed α)) (signal : Int) : List α :=
  exponentialMean (points.map Timed.value) signal

/-- The last points of a series, at which it has a smoothing. -/
def smoothedPart (points : List (Timed α)) (signal : Int) : List (Timed α) :=
  lastItems (smoothingOf points signal).length points

/-- The smoothing begins once as many points have come in as it has periods. -/
theorem length_smoothingOf (hsignal : 1 ≤ signal) (points : List (Timed α)) :
    (smoothingOf points signal).length = points.length - (signal.toNat - 1) := by
  unfold smoothingOf
  rw [(causal_exponentialMean hsignal).length, List.length_map]

/-- There is a value of the smoothing for each of these points. -/
theorem length_smoothedPart (hsignal : 1 ≤ signal) (points : List (Timed α)) :
    (smoothedPart points signal).length = (smoothingOf points signal).length := by
  refine length_lastItems ?_
  rw [length_smoothingOf hsignal]
  exact Nat.sub_le _ _

/-- The points that are smoothed, by their place in the series. -/
theorem getElem?_smoothedPart (hsignal : 1 ≤ signal) (points : List (Timed α)) (k : Nat) :
    (smoothedPart points signal)[k]? = points[k + signal.toNat - 1]? := by
  have hplace : signal.toNat - 1 + k = k + signal.toNat - 1 := by omega
  unfold smoothedPart
  rw [lastItems_eq_drop (length_smoothingOf hsignal points), List.getElem?_drop, hplace]

/-- What is made of the smoothed points and their smoothing has a value for each of them. -/
theorem length_zipWith_smoothing {β : Type} (hsignal : 1 ≤ signal) (points : List (Timed α))
    (make : Timed α → α → β) :
    ((smoothedPart points signal).zipWith make (smoothingOf points signal)).length =
      (smoothingOf points signal).length := by
  rw [List.length_zipWith, length_smoothedPart hsignal, Nat.min_self]

end Smoothing

/-- Over enough bars of increasing times the convergence indicator has these series. -/
theorem converges_of_enough {bars : List (Sample α)} (h : Increasing bars) {fast slow signal : Int}
    (hfast : 1 ≤ fast) (hslow : 1 ≤ slow) (hsignal : 1 ≤ signal)
    (hbars : slow + signal ≤ bars.length) :
    Converges bars fast slow signal (macd bars fast slow signal) := by
  have hseries : macd bars fast slow signal =
      let points := differences bars fast slow
      let part := smoothedPart points signal
      ⟨points, part.zipWith (fun p s => ⟨p.time, s⟩) (smoothingOf points signal),
        part.zipWith (fun p s => ⟨p.time, p.value - s⟩) (smoothingOf points signal)⟩ :=
    macd_of_enough hfast hslow hsignal hbars
  rw [hseries]
  have hpoints := length_differences h hfast hslow
  have hsmoothing := length_smoothingOf hsignal (differences bars fast slow)
  have hpart := length_smoothedPart hsignal (differences bars fast slow)
  constructor
  case length =>
    dsimp only
    omega
  case times => exact differences_times h hfast hslow
  case difference => exact fun p hp => exists_means_of_mem_differences h hfast hslow hp
  case signalLength =>
    dsimp only
    rw [length_zipWith_smoothing hsignal]
    omega
  case signalTimes =>
    dsimp only
    rw [length_zipWith_smoothing hsignal]
    exact times_zipWith hpart.le _
  case smoothing => exact values_zipWith hpart.ge
  case restTimes => exact (times_zipWith hpart.le _).trans (times_zipWith hpart.le _).symm
  case rest =>
    intro k hk
    dsimp only at hk ⊢
    rw [length_zipWith_smoothing hsignal] at hk
    have hpoint := List.getElem?_eq_getElem (hpart.symm ▸ hk)
    have hvalue := List.getElem?_eq_getElem hk
    rw [← getElem?_smoothedPart hsignal]
    exact ⟨_, _, hpoint, List.getElem?_zipWith_eq_some.mpr ⟨_, _, hpoint, hvalue, rfl⟩,
      List.getElem?_zipWith_eq_some.mpr ⟨_, _, hpoint, hvalue, rfl⟩⟩

/-- A direct call with integers computes the convergence indicator over the bars, and is never
refused. -/
theorem callDirect_macd (bars : List Bar) (fast slow signal : Int) :
    callDirect .macd (bars.map fun bar => bar.view.dump) [.int fast, .int slow, .int signal] =
      let c := macd (bars.map Sample.ofBar) fast slow signal
      .ok (.convergence ⟨toLine c.macd, toLine c.signal, toLine c.histogram⟩) := by
  have hchecked : callDirect .macd (bars.map fun bar => bar.view.dump)
      [.int fast, .int slow, .int signal] =
        (checkBars (bars.map fun bar => bar.view.dump)).bind fun checked =>
          Builtin.macd.run checked [.int fast, .int slow, .int signal] := rfl
  have hrun : Builtin.macd.run bars [.int fast, .int slow, .int signal] =
      (convergenceOf (bars.map Sample.ofBar) (.int fast) (.int slow) (.int signal)).map
        .convergence := rfl
  rw [hchecked, checkBars_dump]
  dsimp only [Except.bind]
  rw [hrun, convergenceOf_int]
  rfl

/-- With numbers of any kind, over bars of increasing times and with any integers as periods, the
convergence indicator has no series if a period is not positive or the bars are too few, and else
the joined, smoothed and remaining series of the two means. A direct call is answered with the
series over the bars, whatever the bars and the integers are. -/
theorem converges_macd :
    (∀ (α : Type) [Scalar α] (bars : List (Sample α)), Increasing bars →
      ∀ fast slow signal : Int,
        (fast < 1 ∨ slow < 1 ∨ signal < 1 ∨ (bars.length : Int) < slow + signal →
          macd bars fast slow signal = ⟨[], [], []⟩) ∧
        (1 ≤ fast ∧ 1 ≤ slow ∧ 1 ≤ signal ∧ slow + signal ≤ bars.length →
          Converges bars fast slow signal (macd bars fast slow signal))) ∧
    ∀ (bars : List Bar) (fast slow signal : Int),
      callDirect .macd (bars.map fun bar => bar.view.dump) [.int fast, .int slow, .int signal] =
        let c := macd (bars.map Sample.ofBar) fast slow signal
        .ok (.convergence ⟨toLine c.macd, toLine c.signal, toLine c.histogram⟩) := by
  refine ⟨fun α _ bars h fast slow signal => ⟨fun hfew => macd_of_few (by omega), ?_⟩, callDirect_macd⟩
  rintro ⟨hfast, hslow, hsignal, hbars⟩
  exact converges_of_enough h hfast hslow hsignal hbars

/-- Three bars of increasing times, the second one of which leaps to infinity. -/
def calmedBars : List Bar := leapingBars ++ [calmBar]

/-- With a fast period above the slow one two differences are left of three bars, each with its
smoothing; with a fast period above their number there is none. -/
theorem converges_macd_calmedBars :
    Increasing (calmedBars.map Sample.ofBar) ∧
      Converges (calmedBars.map Sample.ofBar) 2 1 1 (macd (calmedBars.map Sample.ofBar) 2 1 1) ∧
      (macd (calmedBars.map Sample.ofBar) 2 1 1).signal.map Timed.time = [60, 120] ∧
      Converges (calmedBars.map Sample.ofBar) 4 1 1 (macd (calmedBars.map Sample.ofBar) 4 1 1) ∧
      (macd (calmedBars.map Sample.ofBar) 4 1 1).macd.length = 0 ∧
      macd (calmedBars.map Sample.ofBar) 1 3 1 = ⟨[], [], []⟩ := by
  have htimes : Increasing (calmedBars.map Sample.ofBar) := by
    unfold Increasing
    decide
  have hlaw := converges_macd.1 Float _ htimes
  exact ⟨htimes, (hlaw 2 1 1).2 (by decide), rfl, (hlaw 4 1 1).2 (by decide), rfl,
    (hlaw 1 3 1).1 (by decide)⟩

end Laws

end ChartScript.Indicator
