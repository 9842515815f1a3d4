import ChartScript.Indicator.Catalogue
import ChartScript.Proofs.Host.Answer
import ChartScript.Proofs.Indicator.Causal
import ChartScript.Proofs.Indicator.Missing
import ChartScript.Proofs.Script.Transfer
/-!
# One indicator on both sides

The host computes its built-in indicators over the bars of a provider, and a script computes the
same kernels over the prices that it received. Both means agree at every place, whatever the
prices are. The strength index agrees as long as no price was infinite: from the first price that
was not finite on it is missing in the script.
-/

namespace ChartScript.Indicator

open Market (Bar)
open Message (Reply)
open Number (nan)
open Plot (LinePoint)
open Script (Holds)

section Kernels

variable {k : Kernel} {xs : List Float} {period : Int}

/-- A series that is too short has no values. -/
theorem Kernel.run_of_isShort (h : k.isShort xs.length (.whole period) = true) :
    k.run xs period = [] := by
  cases k with
  | sma => exact if_pos h
  | ema => exact if_pos h
  | stdev => exact if_pos h
  | rsi => exact if_pos h

/-- A period of a series that is long enough is positive. -/
theorem Kernel.one_le_of_not_isShort (h : k.isShort xs.length (.whole period) = false) : 1 ≤ period := by
  have hbelow : decide (period < 1) = false := (Bool.or_eq_false_iff.mp h).1
  exact Int.not_lt.mp (of_decide_eq_false hbelow)

/-- The numbers that data stands for. -/
theorem Kernel.numbers_list {ws : List Wire}
    (h : List.Forall₂ (fun w x => seriesItem w = .ok x) ws xs) : k.numbers (.list ws) = .ok xs := by
  have hitems : ws.mapM seriesItem = .ok xs := by
    have hall := mapM_eq_ok h (g := id) fun _ _ hx => hx
    rw [List.map_id] at hall
    exact hall
  cases k <;> exact hitems

/-- A kernel is called with data as it is run on the numbers that the data stands for. -/
theorem Kernel.call_list {ws : List Wire} (h : List.Forall₂ (fun w x => seriesItem w = .ok x) ws xs) :
    k.call (.list ws) (.int period) = .ok (k.run xs period) := by
  have hcall : k.call (.list ws) (.int period) =
      if (Amount.whole period).below (.whole 1) then .ok []
      else if k.isShort ws.length (.whole period) then .ok []
      else (do
        let xs ← k.numbers (.list ws)
        let n ← k.period (.whole period)
        return k.run xs n) := rfl
  have hperiod : k.period (.whole period) = .ok period := by cases k <;> rfl
  rw [hcall, Kernel.numbers_list h, hperiod, h.length_eq]
  cases hshort : k.isShort xs.length (.whole period) with
  | true => rw [if_pos rfl, run_of_isShort hshort, ite_self]
  | false =>
    have hlong : (Amount.whole period).below (.whole 1) = false := (Bool.or_eq_false_iff.mp hshort).1
    rw [hlong]
    rfl

/-- A kernel has at most one value for every number. -/
theorem Kernel.length_run_le : (k.run xs period).length ≤ xs.length := by
  cases hshort : k.isShort xs.length (.whole period) with
  | true =>
    rw [run_of_isShort hshort]
    exact Nat.zero_le _
  | false =>
    have hperiod := one_le_of_not_isShort hshort
    have hwindows : (windows period.toNat xs).length ≤ xs.length := by
      unfold windows
      rw [List.length_map, List.length_range]
      omega
    cases k with
    | sma =>
      have hrun : Kernel.sma.run xs period = (windows period.toNat xs).map windowMean :=
        if_neg (Bool.eq_false_iff.mp hshort)
      rwa [hrun, List.length_map]
    | ema =>
      have hrun : Kernel.ema.run xs period =
          (smoothFrom period .empty xs).drop (period.toNat - 1) := if_neg (Bool.eq_false_iff.mp hshort)
      rw [hrun, List.length_drop, (causal_smoothFrom period .empty).length]
      exact Nat.sub_le _ _
    | stdev =>
      have hrun : Kernel.stdev.run xs period = (windows period.toNat xs).map windowDeviation :=
        if_neg (Bool.eq_false_iff.mp hshort)
      rwa [hrun, List.length_map]
    | rsi =>
      obtain ⟨n, rfl⟩ := Int.eq_ofNat_of_zero_le (Int.le_of_lt hperiod)
      have hrun : Kernel.rsi.run xs n = strengthIndex xs n := rfl
      rw [hrun, length_strengthIndex (Int.ofNat_le.mp hperiod)]
      exact Nat.sub_le _ _

end Kernels

section Host

/-- The values of a built-in indicator with a period, over the bars that a provider returned. -/
def hosted? (b : Builtin) (bars : List Bar) (period : Int) : Option (List (Option Float)) :=
  match computeNamed b.name (bars.map fun bar => bar.view.dump) [("period", .int period)] with
  | .ok (.line points) => some (points.map LinePoint.value)
  | _ => none

/-- A bar is checked as the data that it is. -/
theorem check_dump (bar : Bar) : Bar.check bar.view.dump = .valid bar := rfl

/-- Bars are checked as the data that they are. -/
theorem checkBars_dump (bars : List Bar) : checkBars (bars.map fun bar => bar.view.dump) = .ok bars := by
  induction bars with
  | nil => rfl
  | cons bar rest ih =>
    rw [List.map_cons]
    unfold checkBars
    rw [check_dump, ih]
    rfl

/-- The built-in indicator of a kernel. -/
def builtinOf? : Kernel → Option Builtin
  | .sma => some .sma
  | .ema => some .ema
  | .stdev => none
  | .rsi => some .rsi

/-- A kernel over bars has the values that it has for their last prices. -/
theorem kernelLine_eq (k : Kernel) (bars : List Bar) (period : Int) :
    ∃ points, kernelLine k (bars.map Sample.ofBar) (.int period) = .ok points ∧
      points.map Timed.value = k.run (bars.map Bar.close) period := by
  have hcloses : closes (bars.map Sample.ofBar) = bars.map Bar.close := by
    unfold closes
    rw [List.map_map]
    rfl
  have hcall : k.call (.list ((closes (bars.map Sample.ofBar)).map .float)) (.int period) =
      .ok (k.run (bars.map Bar.close) period) := by
    rw [hcloses]
    refine Kernel.call_list (List.forall₂_map_left_iff.mpr (List.forall₂_same.mpr fun x _ => rfl))
  refine ⟨timed (bars.map Sample.ofBar) (k.run (bars.map Bar.close) period), ?_, ?_⟩
  · unfold kernelLine
    rw [hcall]
    rfl
  · have hlength : (k.run (bars.map Bar.close) period).length ≤ (bars.map Sample.ofBar).length := by
      rw [List.length_map, ← List.length_map Bar.close]
      exact Kernel.length_run_le
    unfold timed lastItems
    rw [List.map_zipWith, ← List.map_uncurry_zip_eq_zipWith]
    refine List.map_snd_zip ?_
    rw [List.length_drop]
    omega

/-- A built-in indicator has the values that its kernel has for the last prices. -/
theorem hosted?_eq {k : Kernel} {b : Builtin} (hb : builtinOf? k = some b) (bars : List Bar)
    (period : Int) :
    hosted? b bars period = some ((k.run (bars.map Bar.close) period).map some) := by
  obtain ⟨points, hline, hvalues⟩ := kernelLine_eq k bars period
  have hnamed : computeNamed b.name (bars.map fun bar => bar.view.dump) [("period", .int period)] =
      (checkBars (bars.map fun bar => bar.view.dump)).bind fun checked =>
        (kernelLine k (checked.map Sample.ofBar) (.int period)).map fun ps => .line (toLine ps) := by
    cases k <;> cases hb <;> rfl
  unfold hosted?
  rw [hnamed, checkBars_dump]
  dsimp only [Except.bind]
  rw [hline, ← hvalues]
  dsimp only [Except.map]
  unfold toLine
  rw [List.map_map, List.map_map]
  rfl

end Host

section Script

open Script (Value Environment.call)

/-- A kernel has the given values for data as its series, also when a script calls the function
of this name with values that hold the data. -/
structure Computes (k : Kernel) (series : List Wire) (period : Int) (xs : List Float) : Prop where
  /-- The kernel has these values. -/
  called : k.call (.list series) (.int period) = .ok xs
  /-- The function returns a list of them. -/
  invoked : ∀ setting heap v, Holds heap 100 v (.list series) → ∃ a next,
    Script.Environment.call setting .utils k.name [v, .int period] [] heap = .ok (.value (.object a)) next ∧
      next.get? a = some (.list (xs.map Value.float).toArray)

/-- A value that holds flat data is read as this data. -/
theorem data?_of_holds {heap : Script.Heap} {v : Value} {series : List Wire}
    (hv : Holds heap 100 v (.list series))
    (hflat : ∀ w ∈ series, w = .null ∨ ∃ x, w = .float x) : heap.data? v = some (.list series) := by
  obtain ⟨a, items, rfl, ha, hitems⟩ := hv
  have hread : items.toList.mapM (heap.dataWithin 99) = some series := by
    generalize items.toList = values at hitems
    induction hitems with
    | nil => rfl
    | @cons u w values series hu _ ih =>
      have hw : heap.dataWithin 99 u = some w := by
        obtain rfl | ⟨x, rfl⟩ := hflat w (List.mem_cons_self ..)
        · cases (hu : u = _)
          rfl
        · cases (hu : u = _)
          rfl
      rw [List.mapM_cons, hw, ih fun w hw => hflat w (List.mem_cons_of_mem _ hw)]
      rfl
  unfold Script.Heap.data? Script.Heap.dataWithin
  dsimp only
  rw [ha]
  dsimp only
  rw [hread]
  rfl

/-- A function that is named after a kernel computes it. -/
theorem computes {k : Kernel} {series : List Wire} {xs : List Float}
    (hflat : ∀ w ∈ series, w = .null ∨ ∃ x, w = .float x)
    (hnumbers : List.Forall₂ (fun w x => seriesItem w = .ok x) series xs) (period : Int) :
    Computes k series period (k.run xs period) := by
  have hcall : k.call (.list series) (.int period) = .ok (k.run xs period) :=
    Kernel.call_list hnumbers
  refine ⟨hcall, fun setting heap v hv => ?_⟩
  have hrun : Script.Environment.call setting .utils k.name [v, .int period] [] heap = (do
      return .value (← Script.Environment.compute k v (.int period)) : Script.Op _) heap := by
    cases k <;> rfl
  have hdata := data?_of_holds hv hflat
  have hperiod : heap.data? (.int period) = some (.int period) := rfl
  have hcompute : Script.Environment.compute k v (.int period) heap =
      Script.Op.newList ((k.run xs period).map .float) heap := by
    unfold Script.Environment.compute
    simp only [bind, EStateM.bind, get, getThe, MonadStateOf.get, EStateM.get, hperiod, hdata, hcall]
  have hnext := Script.get?_alloc (h := heap) (.list ((k.run xs period).map Value.float).toArray)
  refine ⟨_, _, ?_, hnext⟩
  rw [hrun]
  simp only [bind, EStateM.bind, hcompute]
  rfl

end Script

section Received

/-- The last prices in bars that were received. -/
def receivedCloses (items : List Wire) : List Wire :=
  items.map fun w => (w.field? "close").getD .null

/-- A bar that was received has its last price, made finite. -/
theorem receivedCloses_map (bars : List Bar) :
    receivedCloses (bars.map fun bar => bar.view.dump.finite) =
      (bars.map Bar.close).map fun x => (Wire.float x).finite := by
  unfold receivedCloses
  rw [List.map_map, List.map_map]
  rfl

/-- A price that was received is a number or null. -/
theorem flat_finite (x : Float) :
    (Wire.float x).finite = .null ∨ ∃ y, (Wire.float x).finite = .float y := by
  unfold Wire.finite
  split
  · exact .inr ⟨x, rfl⟩
  · exact .inl rfl

/-- A price that was received counts as the price after it was sent. -/
theorem seriesItem_finite (x : Float) : seriesItem (Wire.float x).finite = .ok (sent x) := by
  unfold Wire.finite sent
  split <;> rfl

/-- A kernel computes over prices that were received what it computes over those that were sent. -/
theorem computes_received (k : Kernel) (xs : List Float) (period : Int) :
    Computes k (xs.map fun x => (Wire.float x).finite) period (k.run (xs.map sent) period) := by
  refine computes (fun w hw => ?_) ?_ period
  · obtain ⟨x, -, rfl⟩ := List.mem_map.mp hw
    exact flat_finite x
  · rw [List.forall₂_map_left_iff, List.forall₂_map_right_iff, List.forall₂_same]
    exact fun x _ => seriesItem_finite x

/-- Bars that a provider has are answered as they are. -/
theorem dispatch_getBars {c : Host.Collaborators} {symbol timeframe : String} {bars : List Bar}
    (hc : c.fetch (.bars symbol timeframe) = .ok (.list (bars.map fun bar => bar.view.dump)))
    (stage : Artifact.Stage) :
    (Host.dispatch c (.getBars symbol timeframe) stage).2 =
      .ok (.list (bars.map fun bar => bar.view.dump)) := by
  have hserved : (Host.dispatch c (.getBars symbol timeframe) stage).2 =
      (Host.Fetch.bars symbol timeframe).answer (c.fetch (.bars symbol timeframe)) := rfl
  have hchecked : (bars.map fun bar => bar.view.dump).mapM (Host.checkedData Bar.check Bar.view) =
      .ok (bars.map fun bar => bar.view.dump) :=
    mapM_eq_ok (List.forall₂_map_left_iff.mpr (List.forall₂_same.mpr fun _ _ => rfl))
      fun w bar (hw : w = bar.view.dump) => by
        subst hw
        rfl
  rw [hserved, hc]
  cases bars with
  | nil => rfl
  | cons bar rest =>
    have hread : (Host.Fetch.bars symbol timeframe).answer
        (.ok (.list ((bar :: rest).map fun bar => bar.view.dump))) =
          (((bar :: rest).map fun bar => bar.view.dump).mapM (Host.checkedData Bar.check Bar.view)).bind
            fun ws => .ok (.list ws) := rfl
    rw [hread, hchecked]
    rfl

/-- The built-in indicators over bars, and the kernels over the prices that were received from
these bars. -/
structure SharesMath (bars : List Bar) (period : Int) (closes : List Wire) : Prop where
  /-- The moving mean has the same values on both sides. -/
  sma : ∃ xs, hosted? .sma bars period = some (xs.map some) ∧ Computes .sma closes period xs
  /-- The exponential mean has the same values on both sides. -/
  ema : ∃ xs, hosted? .ema bars period = some (xs.map some) ∧ Computes .ema closes period xs
  /-- The strength index has the same values as long as all prices are finite. From then on it is
  missing in the script. -/
  rsi : ∃ xs heard, hosted? .rsi bars period = some (xs.map some) ∧ Computes .rsi closes period heard ∧
    StrengthSent (bars.map Bar.close) period xs heard

/-- A script that is answered with the bars of a provider computes what the host computes over
them, but for the strength index after an infinite price. -/
theorem sharesMath_of_deliver {b : Bridge} {p : PendingCall} (hp : b.find? p.id = some p)
    (hopen : b.futures[p.future]? = some none) {c : Host.Collaborators} {symbol timeframe : String}
    {bars : List Bar}
    (hc : c.fetch (.bars symbol timeframe) = .ok (.list (bars.map fun bar => bar.view.dump)))
    (stage : Artifact.Stage) (period : Int) :
    let answer := (Host.dispatch c (.getBars symbol timeframe) stage).2
    ∃ items, (b.deliver (Reply.of p.id answer).view.toWire).1.settlement? p.future =
        some (.ok (.list items)) ∧
      SharesMath bars period (receivedCloses items) := by
  refine ⟨bars.map fun bar => bar.view.dump.finite, ?_, ?_⟩
  · have hid := Bridge.replyId?_of p.id (.ok (.list (bars.map fun bar => bar.view.dump)))
    rw [dispatch_getBars hc, (Bridge.deliver_waiting hid.1 hp hid.2 hopen).2.1, Bridge.carried_of]
    unfold Bridge.received Wire.finite
    dsimp only
    rw [Wire.finiteItems_eq_map, List.map_map]
    rfl
  · rw [receivedCloses_map]
    refine ⟨⟨_, hosted?_eq (k := .sma) rfl bars period, ?_⟩,
      ⟨_, hosted?_eq (k := .ema) rfl bars period, ?_⟩,
      ⟨_, _, hosted?_eq (k := .rsi) rfl bars period, computes_received .rsi _ period,
        strengthSent _ period⟩⟩
    · have hsame : Kernel.sma.run ((bars.map Bar.close).map sent) period =
          Kernel.sma.run (bars.map Bar.close) period := movingMean_sent _ period
      exact hsame ▸ computes_received .sma _ period
    · have hsame : Kernel.ema.run ((bars.map Bar.close).map sent) period =
          Kernel.ema.run (bars.map Bar.close) period := exponentialMean_sent _ period
      exact hsame ▸ computes_received .ema _ period

/-- A bar whose last price is infinite after one whose last price is one. -/
def leapingBars : List Bar :=
  [⟨0, 1, 1, 1, Number.ofInt 1, 1⟩, ⟨60, 1, 1, 1, Number.infinity, 1⟩]

/-- The host has a full strength index for a leap to infinity, and a script that was answered with
the same bars has none. -/
theorem sharesMath_of_deliver_leapingBars :
    let b : Bridge := ⟨[⟨"1", 0⟩], [none], false⟩
    let c : Host.Collaborators :=
      ⟨fun _ => .ok (.list (leapingBars.map fun bar => bar.view.dump)), false⟩
    let answer := (Host.dispatch c (.getBars "SPY" "1d") (.forInstance "i")).2
    ∃ items, (b.deliver (Reply.of "1" answer).view.toWire).1.settlement? 0 =
        some (.ok (.list items)) ∧
      hosted? .rsi leapingBars 1 = some [some (Number.ofInt 100)] ∧
      Computes .rsi (receivedCloses items) 1 [nan] := by
  intro b c answer
  have hfetched : c.fetch (.bars "SPY" "1d") =
      .ok (.list (leapingBars.map fun bar => bar.view.dump)) := rfl
  obtain ⟨items, hsettled, hshares⟩ := sharesMath_of_deliver (b := b) (p := ⟨"1", 0⟩) rfl rfl hfetched
    (.forInstance "i") 1
  have hhost : hosted? .rsi leapingBars 1 = some [some (Number.ofInt 100)] := by
    rw [hosted?_eq (k := .rsi) rfl leapingBars 1]
    rfl
  refine ⟨items, hsettled, hhost, ?_⟩
  obtain ⟨xs, heard, hxs, hheard, hsent⟩ := hshares.rsi
  obtain rfl : xs = [Number.ofInt 100] := by
    rw [hhost] at hxs
    exact List.map_injective_iff.mpr (fun _ _ => Option.some.inj) (Option.some.inj hxs).symm
  have hvalue : heard[0]? = some nan := hsent.value 0 (Number.ofInt 100) rfl
  obtain ⟨v, rfl⟩ := List.length_eq_one_iff.mp hsent.length
  rwa [Option.some.inj hvalue] at hheard

end Received

end ChartScript.Indicator
