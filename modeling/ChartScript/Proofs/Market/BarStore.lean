import Mathlib.Data.List.Nodup
import ChartScript.Market.BarStore
import ChartScript.Proofs.Data.Assoc
import ChartScript.Proofs.Data.Basic
import ChartScript.Proofs.Host.Answer
/-!
# What a bar store keeps

Under every key there are the bars of the last load under it, in order of time. Times are brought
to whole seconds before the bars are sorted, and no bar is left out: bars that were given at
different times, or in different units, can come to the same second, and then all of them stay, in
the order in which they were given. So the bars of a load are in strict order of time exactly if
no two of them come to the same second.
-/

namespace ChartScript.Market

/-- The time that a bar is given with, in seconds or milliseconds. -/
def givenTime? (w : Wire) : Option Int := do
  let fields ← w.toMapping.toOption
  let time ← Assoc.get? fields "time"
  (Number.toInt time).toOption

/-- A bar that was checked has the time in its fields. -/
theorem time_of_check {fields : List (String × Wire)} {seconds : Int} {bar : Bar}
    (h : Bar.check (.object (Assoc.put fields "time" (.int seconds))) = .valid bar) :
    bar.time = seconds := by
  obtain ⟨ofVolume, volume, hvolume, -, rfl⟩ := Schema.Checked.seq_eq_valid h
  obtain ⟨ofClose, close, hclose, -, rfl⟩ := Schema.Checked.seq_eq_valid hvolume
  obtain ⟨ofLow, low, hlow, -, rfl⟩ := Schema.Checked.seq_eq_valid hclose
  obtain ⟨ofHigh, high, hhigh, -, rfl⟩ := Schema.Checked.seq_eq_valid hlow
  obtain ⟨ofOpening, opening, hopening, -, rfl⟩ := Schema.Checked.seq_eq_valid hhigh
  obtain ⟨time, htime, rfl⟩ := Schema.Checked.map_eq_valid hopening
  unfold Schema.Source.required Schema.Source.find? at htime
  dsimp only at htime
  rw [Assoc.get?_put, if_pos rfl] at htime
  cases htime
  rfl

/-- A bar that is read has its given time, in seconds. -/
theorem time_of_readBar {w : Wire} {bar : Bar} (h : readBar w = .ok bar) :
    ∃ t, givenTime? w = some t ∧ bar.time = toSeconds t := by
  obtain ⟨fields, hfields, h⟩ := ok_of_bind h
  have hmapping := ok_of_mapError hfields
  cases hgiven : Assoc.get? fields "time" with
  | none =>
    rw [hgiven] at h
    cases h
  | some given =>
    rw [hgiven] at h
    obtain ⟨seconds, hseconds, h⟩ := ok_of_bind h
    obtain ⟨t, ht, rfl⟩ := ok_of_map (ok_of_mapError hseconds)
    refine ⟨t, ?_, ?_⟩
    · unfold givenTime?
      rw [hmapping]
      dsimp only [Except.toOption, bind, Option.bind]
      rw [hgiven]
      dsimp only
      rw [ht]
    · cases hcheck : Bar.check (.object (Assoc.put fields "time" (.int (toSeconds t)))) with
      | invalid vs =>
        rw [hcheck] at h
        cases h
      | valid checked =>
        rw [hcheck] at h
        cases h
        exact time_of_check hcheck

section Sorting

/-- Times are compared transitively. -/
theorem earlier_trans (a b c : Bar) (hab : decide (a.time ≤ b.time) = true)
    (hbc : decide (b.time ≤ c.time) = true) : decide (a.time ≤ c.time) = true := by
  simp only [decide_eq_true_eq] at hab hbc ⊢
  omega

/-- Any two times can be compared. -/
theorem earlier_total (a b : Bar) : (decide (a.time ≤ b.time) || decide (b.time ≤ a.time)) = true := by
  simp only [Bool.or_eq_true, decide_eq_true_eq]
  omega

variable (given : List Bar)

/-- Sorting keeps all bars. -/
theorem sortByTime_perm : (sortByTime given).Perm given := List.mergeSort_perm _ _

/-- Sorted bars are in order of time. -/
theorem sortByTime_ascending : (sortByTime given).Pairwise fun a b => a.time ≤ b.time := by
  have hsorted : (sortByTime given).Pairwise fun a b => decide (a.time ≤ b.time) = true :=
    List.pairwise_mergeSort earlier_trans earlier_total given
  simpa using hsorted

/-- Bars of one time keep their order. -/
theorem sortByTime_stable (t : Int) :
    (sortByTime given).filter (fun b => b.time = t) = given.filter fun b => b.time = t := by
  have hsame : (given.filter fun b => b.time = t).Pairwise fun a b => decide (a.time ≤ b.time) = true := by
    refine List.pairwise_of_forall_mem_list fun a ha b hb => ?_
    have htimeA := (List.mem_filter.mp ha).2
    have htimeB := (List.mem_filter.mp hb).2
    simp only [decide_eq_true_eq] at htimeA htimeB ⊢
    omega
  have hsub : (given.filter fun b => b.time = t).Sublist (sortByTime given) :=
    List.sublist_mergeSort earlier_trans earlier_total hsame List.filter_sublist
  have hfiltered := hsub.filter fun b => decide (b.time = t)
  rw [List.filter_filter] at hfiltered
  simp only [Bool.and_self] at hfiltered
  exact (hfiltered.eq_of_length ((sortByTime_perm given).filter _).length_eq.symm).symm

/-- Sorted bars are in strict order of time exactly if no two of them have the same time. -/
theorem sortByTime_strict_iff :
    (sortByTime given).Pairwise (fun a b => a.time < b.time) ↔ (given.map Bar.time).Nodup := by
  rw [← ((sortByTime_perm given).map Bar.time).nodup_iff, List.Nodup, List.pairwise_map]
  constructor
  · intro h
    exact h.imp fun {a b} hlt => by omega
  · intro h
    refine ((sortByTime_ascending given).and h).imp fun {a b} hboth => ?_
    obtain ⟨hle, hne⟩ := hboth
    omega

end Sorting

/-- The last load under a key. -/
def lastLoad? (loads : List (String × String × Wire)) (key : ShelfKey) : Option Wire :=
  (loads.reverse.find? fun load => ShelfKey.of load.1 load.2.1 = key).map fun load => load.2.2

namespace BarStore

/-- A load puts the bars that it reads under its key, and changes nothing else. -/
theorem get?_load {store next : BarStore} {symbol timeframe : String} {w : Wire} {n : Nat}
    (h : store.load symbol timeframe w = .ok (next, n)) :
    ∃ kept, readBars w = .ok kept ∧ n = kept.length ∧ ∀ key,
      Assoc.get? next.shelves key =
        if key = ShelfKey.of symbol timeframe then some kept else Assoc.get? store.shelves key := by
  obtain ⟨kept, hkept, h⟩ := ok_of_bind h
  cases h
  exact ⟨kept, hkept, rfl, fun key => Assoc.get?_put _ _ _ _⟩

/-- After several loads there are under a key the bars of the last load under it. -/
theorem get?_loadAll {store next : BarStore} {loads : List (String × String × Wire)}
    (h : store.loadAll loads = .ok next) (key : ShelfKey) :
    (lastLoad? loads key = none ∧ Assoc.get? next.shelves key = Assoc.get? store.shelves key) ∨
      ∃ w kept, lastLoad? loads key = some w ∧ readBars w = .ok kept ∧
        Assoc.get? next.shelves key = some kept := by
  induction loads generalizing store with
  | nil =>
    cases h
    exact Or.inl ⟨rfl, rfl⟩
  | cons load rest ih =>
    obtain ⟨symbol, timeframe, w⟩ := load
    obtain ⟨⟨after, n⟩, hload, hrest⟩ := ok_of_bind h
    obtain ⟨kept, hkept, -, hget⟩ := get?_load hload
    have hlast : lastLoad? ((symbol, timeframe, w) :: rest) key =
        (lastLoad? rest key).or
          (if key = ShelfKey.of symbol timeframe then some w else none) := by
      unfold lastLoad?
      rw [List.reverse_cons, List.find?_append, Option.map_or]
      by_cases hkey : key = ShelfKey.of symbol timeframe <;> simp [hkey, eq_comm]
    rw [hlast]
    rcases ih hrest with ⟨hnone, hsame⟩ | ⟨v, found, hv, hfound, hthere⟩
    · rw [hnone, hsame, hget key]
      by_cases hkey : key = ShelfKey.of symbol timeframe
      · rw [if_pos hkey, if_pos hkey]
        exact Or.inr ⟨w, kept, rfl, hkept, rfl⟩
      · rw [if_neg hkey, if_neg hkey]
        exact Or.inl ⟨rfl, rfl⟩
    · rw [hv]
      exact Or.inr ⟨v, found, rfl, hfound, hthere⟩

end BarStore

/-- What is kept of bars that were given, in this order, at certain times in seconds or
milliseconds. -/
structure Kept (times : List Int) (given kept : List Bar) : Prop where
  /-- Every bar has its given time, in seconds. -/
  times_eq : given.map Bar.time = times.map toSeconds
  /-- No bar is left out. -/
  complete : kept.Perm given
  /-- Bars are in order of time. -/
  ascending : kept.Pairwise fun a b => a.time ≤ b.time
  /-- Bars of one time are in the order in which they were given. -/
  stable : ∀ t, kept.filter (fun b => b.time = t) = given.filter fun b => b.time = t
  /-- The order is strict exactly if no two times come to the same second. -/
  strict_iff : kept.Pairwise (fun a b => a.time < b.time) ↔ (times.map toSeconds).Nodup

/-- What is kept is sorted. -/
theorem kept_sortByTime {times : List Int} {given : List Bar}
    (h : given.map Bar.time = times.map toSeconds) : Kept times given (sortByTime given) where
  times_eq := h
  complete := sortByTime_perm given
  ascending := sortByTime_ascending given
  stable := sortByTime_stable given
  strict_iff := h ▸ sortByTime_strict_iff given

/-- Bars that are read have their given times, in seconds. -/
theorem times_of_readBars {items : List Wire} {given : List Bar}
    (h : List.Forall₂ (fun item bar => readBar item = .ok bar) items given) :
    ∃ times : List Int, items.map givenTime? = times.map some ∧
      given.map Bar.time = times.map toSeconds := by
  induction h with
  | nil => exact ⟨[], rfl, rfl⟩
  | cons hbar _ ih =>
    obtain ⟨times, htimes, hseconds⟩ := ih
    obtain ⟨t, ht, hbar⟩ := time_of_readBar hbar
    refine ⟨t :: times, ?_, ?_⟩
    · rw [List.map_cons, List.map_cons, ht, htimes]
    · rw [List.map_cons, List.map_cons, hbar, hseconds]

/-- The bars of a load are those that were given, each at its given time. -/
theorem kept_of_readBars {w : Wire} {kept : List Bar} (h : BarStore.readBars w = .ok kept) :
    ∃ items times given, w.elements = .ok items ∧
      List.Forall₂ (fun item bar => readBar item = .ok bar) items given ∧
        items.map givenTime? = times.map some ∧ Kept times given kept := by
  obtain ⟨items, hitems, h⟩ := ok_of_bind h
  obtain ⟨given, hgiven, h⟩ := ok_of_bind h
  cases h
  have hread := forall₂_of_mapM hgiven
  obtain ⟨times, htimes, hseconds⟩ := times_of_readBars hread
  exact ⟨items, times, given, ok_of_mapError hitems, hread, htimes, kept_sortByTime hseconds⟩

/-- After any loads that succeeded, the bars of a symbol, in any letter case, and a timeframe are
those of the last load under its key, sorted by the second that each given time comes to. -/
theorem BarStore.bars_of_loadAll {loads : List (String × String × Wire)} {store : BarStore}
    (h : BarStore.empty.loadAll loads = .ok store) (symbol timeframe : String) :
    (lastLoad? loads (ShelfKey.of symbol timeframe) = none ∧ store.bars symbol timeframe = []) ∨
      ∃ w items times given, lastLoad? loads (ShelfKey.of symbol timeframe) = some w ∧
        w.elements = .ok items ∧ List.Forall₂ (fun item bar => readBar item = .ok bar) items given ∧
          items.map givenTime? = times.map some ∧ Kept times given (store.bars symbol timeframe) := by
  unfold BarStore.bars
  rcases get?_loadAll h (ShelfKey.of symbol timeframe) with ⟨hnone, hsame⟩ | ⟨w, kept, hw, hkept, hthere⟩
  · rw [hsame]
    exact Or.inl ⟨hnone, rfl⟩
  · obtain ⟨items, times, given, hitems, hread, htimes, hall⟩ := kept_of_readBars hkept
    rw [hthere]
    exact Or.inr ⟨w, items, times, given, hw, hitems, hread, htimes, hall⟩

/-- A bar at a time. -/
def barAt (time : Int) : Wire :=
  .object [("time", .int time), ("open", .float 1), ("high", .float 1), ("low", .float 1),
    ("close", .float 1)]

/-- One second, once in seconds and once in milliseconds. -/
def sameSecond : List (String × String × Wire) :=
  [("SPY", "1d", .list [barAt 1700000000, barAt 1700000000000])]

/-- Two bars that were given in different units are kept under the same second. -/
theorem BarStore.bars_of_loadAll_sameSecond :
    ∃ store, BarStore.empty.loadAll sameSecond = .ok store ∧
      (store.bars "spy" "1d").map Bar.time = [1700000000, 1700000000] ∧
        ¬(store.bars "spy" "1d").Pairwise fun a b => a.time < b.time := by
  have hload : ∃ store, BarStore.empty.loadAll sameSecond = .ok store := ⟨_, rfl⟩
  obtain ⟨store, hload⟩ := hload
  have hlast : lastLoad? sameSecond (ShelfKey.of "spy" "1d") =
      some (.list [barAt 1700000000, barAt 1700000000000]) := rfl
  refine ⟨store, hload, ?_⟩
  obtain ⟨hnone, -⟩ | ⟨w, items, times, given, hw, hitems, -, htimes, hkept⟩ :=
    BarStore.bars_of_loadAll hload "spy" "1d"
  · rw [hlast] at hnone
    cases hnone
  · rw [hlast] at hw
    cases hw
    cases hitems
    have hgiven : times = [1700000000, 1700000000000] :=
      List.map_injective_iff.mpr (fun _ _ => Option.some.inj) (htimes.symm.trans rfl)
    subst hgiven
    have hsame : (store.bars "spy" "1d").map Bar.time = List.replicate 2 1700000000 := by
      refine List.perm_replicate.mp ((hkept.complete.map Bar.time).trans ?_)
      rw [hkept.times_eq]
      rfl
    refine ⟨hsame, fun hstrict => ?_⟩
    exact absurd (hkept.strict_iff.mp hstrict) (by decide)

end ChartScript.Market
