import ChartScript.Proofs.Data.Assoc
import ChartScript.Proofs.Indicator.Settled
import Mathlib.Data.List.DropRight
/-!
# The session that a running sum is in

Sums that run by the number of their session are sums over the bars at the end that share the
calendar day of the last one: a day that differs from the one before has a number of its own, so
nothing is found under it, also when the same day has been there before. This holds of numbers of
any kind; a missing one gives a missing result at its own place and is left out of later ones.
-/

namespace ChartScript.Indicator

section Sessions

variable {β : Type} (day : β → Int)

/-- The day of the last item. -/
def lastDay (items : List β) : Option Int := items.getLast?.map day

/-- The session after some items: those at the end that have the day of the last one. -/
def sessionOf (items : List β) : List β :=
  match items.getLast? with
  | none => []
  | some last => items.rtakeWhile fun b => decide (day b = day last)

theorem lastDay_concat (items : List β) (b : β) : lastDay day (items ++ [b]) = some (day b) := by
  unfold lastDay
  rw [List.getLast?_concat, Option.map_some]

/-- One more item goes on with the session if it has its day, and begins a new one otherwise. -/
theorem sessionOf_concat (items : List β) (b : β) :
    sessionOf day (items ++ [b]) =
      (if lastDay day items = some (day b) then sessionOf day items else []) ++ [b] := by
  have hlast : sessionOf day (items ++ [b]) =
      (items ++ [b]).rtakeWhile fun c => decide (day c = day b) := by
    unfold sessionOf
    rw [List.getLast?_concat]
  rw [hlast, List.rtakeWhile_concat_pos (fun c => decide (day c = day b)) items b
    (decide_eq_true rfl)]
  congr 1
  cases hend : items.getLast? with
  | none =>
    rw [List.getLast?_eq_none_iff.mp hend, List.rtakeWhile_nil]
    rfl
  | some last =>
    unfold lastDay sessionOf
    rw [hend, Option.map_some]
    dsimp only
    by_cases hday : day last = day b
    · rw [if_pos (congrArg some hday), hday]
    · rw [if_neg fun h => hday (Option.some.inj h)]
      refine List.rtakeWhile_eq_nil_iff.mpr fun hne => ?_
      have hitem : items.getLast hne = last := by
        rwa [List.getLast?_eq_some_getLast hne, Option.some.injEq] at hend
      rw [hitem]
      simpa using hday

/-- The session of items that are read off others. -/
theorem sessionOf_map {γ : Type} (f : γ → β) (items : List γ) :
    sessionOf day (items.map f) = (sessionOf (fun c => day (f c)) items).map f := by
  induction items using List.reverseRecOn with
  | nil => rfl
  | append_singleton items c ih =>
    have hlast : lastDay day (items.map f) = lastDay (fun c => day (f c)) items := by
      unfold lastDay
      rw [List.getLast?_map, Option.map_map]
      rfl
    rw [List.map_append, List.map_singleton, sessionOf_concat, sessionOf_concat, ih, hlast,
      List.map_append, List.map_singleton]
    split <;> rfl

end Sessions

section Sums

variable {α : Type} [Scalar α]

/-- The numbers that are not missing. -/
def present (xs : List α) : List α := xs.filter fun x => !Scalar.isMissing x

/-- The sum of the numbers that are not missing, if there are any. -/
def sum? (xs : List α) : Option α :=
  match present xs with
  | [] => none
  | x :: rest => some (total (x :: rest))

/-- A sum with one more number. -/
def extended (sum : Option α) (x : α) : α :=
  match sum with
  | some s => s + x
  | none => x

/-- What a running sum gives out at the last of its numbers: nothing if that one is missing, and
else the sum of all that are not. -/
def runningTotal (xs : List α) : α :=
  if xs.getLast?.any Scalar.isMissing then Scalar.missing else total (present xs)

theorem present_concat_missing (xs : List α) {x : α} (hx : Scalar.isMissing x = true) :
    present (xs ++ [x]) = present xs := by
  unfold present
  rw [List.filter_append, List.filter_singleton, hx]
  exact List.append_nil _

theorem present_concat (xs : List α) {x : α} (hx : Scalar.isMissing x = false) :
    present (xs ++ [x]) = present xs ++ [x] := by
  unfold present
  rw [List.filter_append, List.filter_singleton, hx]
  rfl

/-- The sum with one more number that is there. -/
theorem total_present_concat (xs : List α) {x : α} (hx : Scalar.isMissing x = false) :
    total (present (xs ++ [x])) = extended (sum? xs) x := by
  rw [present_concat xs hx]
  unfold sum?
  cases present xs with
  | nil => rfl
  | cons y rest => exact List.foldl_append

theorem sum?_concat_missing (xs : List α) {x : α} (hx : Scalar.isMissing x = true) :
    sum? (xs ++ [x]) = sum? xs := by
  unfold sum?
  rw [present_concat_missing xs hx]

theorem sum?_concat (xs : List α) {x : α} (hx : Scalar.isMissing x = false) :
    sum? (xs ++ [x]) = some (extended (sum? xs) x) := by
  rw [← total_present_concat xs hx]
  unfold sum?
  rw [present_concat xs hx]
  cases present xs with
  | nil => rfl
  | cons y rest => rfl

/-- With no number missing it gives out the sum of all. -/
theorem runningTotal_eq_total {xs : List α} (hall : ∀ x ∈ xs, Scalar.isMissing x = false) :
    runningTotal xs = total xs := by
  have hpresent : present xs = xs := List.filter_eq_self.mpr fun x hx => by
    rw [hall x hx, Bool.not_false]
  have hlast : xs.getLast?.any Scalar.isMissing = false := by
    cases hend : xs.getLast? with
    | none => rfl
    | some x => exact hall x (List.mem_of_getLast? hend)
  unfold runningTotal
  rw [hlast, if_neg Bool.false_ne_true, hpresent]

theorem runningTotal_concat_missing (xs : List α) {x : α} (hx : Scalar.isMissing x = true) :
    runningTotal (xs ++ [x]) = Scalar.missing := by
  unfold runningTotal
  rw [List.getLast?_concat]
  exact if_pos hx

theorem runningTotal_concat (xs : List α) {x : α} (hx : Scalar.isMissing x = false) :
    runningTotal (xs ++ [x]) = extended (sum? xs) x := by
  rw [← total_present_concat xs hx]
  unfold runningTotal
  rw [List.getLast?_concat]
  exact if_neg (Bool.eq_false_iff.mp hx)

end Sums

section Runs

variable {α : Type} [Scalar α] {β : Type} (day : β → Int) (amount : β → α)

/-- What the running sums hold after some items. -/
structure Kept (seen : List β) (session : Nat) (sums : List (Nat × α)) : Prop where
  /-- Under the number of the session stands the sum over it. -/
  current : Assoc.get? sums session = sum? ((sessionOf day seen).map amount)
  /-- Nothing stands under the numbers of later sessions. -/
  fresh : ∀ label, session < label → Assoc.get? sums label = none

/-- The number of the session of one more item. -/
def nextSession (seen : List β) (session : Nat) (b : β) : Nat :=
  if lastDay day seen = some (day b) then session else session + 1

variable {day amount} {seen : List β} {session : Nat} {sums : List (Nat × α)}

namespace Kept

/-- What stands under the number of the next item is the sum over the session that it goes on
with. -/
theorem next (h : Kept day amount seen session sums) (b : β) :
    Assoc.get? sums (nextSession day seen session b) =
      sum? ((if lastDay day seen = some (day b) then sessionOf day seen else []).map amount) := by
  unfold nextSession
  split
  · exact h.current
  · exact h.fresh _ (Nat.lt_succ_self session)

/-- Numbers after that of the next item are later ones. -/
theorem later (h : Kept day amount seen session sums) {b : β} {label : Nat}
    (hlabel : nextSession day seen session b < label) : Assoc.get? sums label = none := by
  refine h.fresh label (Nat.lt_of_le_of_lt ?_ hlabel)
  unfold nextSession
  split
  · exact Nat.le_refl session
  · exact Nat.le_succ session

/-- An item without a number leaves the sums as they are. -/
theorem skip (h : Kept day amount seen session sums) {b : β}
    (hb : Scalar.isMissing (amount b) = true) :
    Kept day amount (seen ++ [b]) (nextSession day seen session b) sums where
  current := by
    rw [h.next, sessionOf_concat, List.map_append, List.map_singleton, sum?_concat_missing _ hb]
  fresh _ hlabel := h.later hlabel

/-- Any other item is added to the sum of its session. -/
theorem add (h : Kept day amount seen session sums) {b : β}
    (hb : Scalar.isMissing (amount b) = false) :
    Kept day amount (seen ++ [b]) (nextSession day seen session b)
      (Assoc.put sums (nextSession day seen session b)
        (extended (Assoc.get? sums (nextSession day seen session b)) (amount b))) where
  current := by
    rw [Assoc.get?_put, if_pos rfl, h.next, sessionOf_concat, List.map_append, List.map_singleton,
      sum?_concat _ hb]
  fresh label hlabel := by
    rw [Assoc.get?_put, if_neg (Nat.ne_of_gt hlabel)]
    exact h.later hlabel

/-- From then on every running sum is that of the session that its item is in. -/
theorem getElem?_runningSums (h : Kept day amount seen session sums) {items : List β} {k : Nat}
    (hk : k < items.length) :
    (runningSums sums ((sessionsFrom (lastDay day seen) session (items.map day)).zip
      (items.map amount)))[k]? =
        some (runningTotal ((sessionOf day (seen ++ items.take (k + 1))).map amount)) := by
  induction items generalizing seen session sums k with
  | nil => cases hk
  | cons b rest ih =>
    have hsessions : sessionsFrom (lastDay day seen) session ((b :: rest).map day) =
        nextSession day seen session b ::
          sessionsFrom (lastDay day (seen ++ [b])) (nextSession day seen session b)
            (rest.map day) := by
      rw [lastDay_concat]
      rfl
    have hfirst : (sessionOf day (seen ++ [b])).map amount =
        (if lastDay day seen = some (day b) then sessionOf day seen else []).map amount ++
          [amount b] := by
      rw [sessionOf_concat, List.map_append, List.map_singleton]
    have hsplit (n : Nat) : seen ++ (b :: rest).take (n + 1) = (seen ++ [b]) ++ rest.take n := by
      rw [List.take_succ_cons, List.append_assoc, List.singleton_append]
    rw [hsessions, List.map_cons, List.zip_cons_cons]
    unfold runningSums
    cases hb : Scalar.isMissing (amount b) with
    | true =>
      rw [if_pos rfl, hsplit]
      cases k with
      | zero =>
        rw [List.take_zero, List.append_nil, hfirst, runningTotal_concat_missing _ hb]
        rfl
      | succ k => exact ih (h.skip hb) (Nat.lt_of_succ_lt_succ hk)
    | false =>
      rw [if_neg Bool.false_ne_true, hsplit]
      cases k with
      | zero =>
        rw [List.take_zero, List.append_nil, hfirst, runningTotal_concat _ hb, ← h.next]
        rfl
      | succ k => exact ih (h.add hb) (Nat.lt_of_succ_lt_succ hk)

end Kept

end Runs

section Price

variable {α : Type} [Scalar α]

/-- The day of a bar. -/
def sampleDay (b : Sample α) : Int := dayOf b.time

/-- The price of a session: what was paid in it over its volume, if there is a volume. -/
def sessionPrice (session : List (Sample α)) : Option α :=
  let volume := runningTotal (session.map Sample.countedVolume)
  if Scalar.below (Scalar.ofInt 0) volume then
    some (runningTotal (session.map fun b => b.typical * b.countedVolume) / volume)
  else none

/-- The price of a session of bars that are made of others, by what was paid and traded in those. -/
theorem sessionPrice_map {γ : Type} {sample : γ → Sample α} {bill amount : γ → α}
    (hbill : ∀ c, (sample c).typical * (sample c).countedVolume = bill c)
    (hamount : ∀ c, (sample c).countedVolume = amount c) (session : List γ) :
    sessionPrice (session.map sample) =
      if Scalar.below (Scalar.ofInt 0) (runningTotal (session.map amount)) then
        some (runningTotal (session.map bill) / runningTotal (session.map amount))
      else none := by
  have hbills : (session.map sample).map (fun b => b.typical * b.countedVolume) =
      session.map bill := by
    rw [List.map_map]
    exact List.map_congr_left fun c _ => hbill c
  have hamounts : (session.map sample).map Sample.countedVolume = session.map amount := by
    rw [List.map_map]
    exact List.map_congr_left fun c _ => hamount c
  unfold sessionPrice
  dsimp only
  rw [hbills, hamounts]

/-- A running sum over the sessions of bars is that of the session so far. -/
theorem getElem?_sessionSums (amount : Sample α → α) {bars : List (Sample α)} {k : Nat}
    (hk : k < bars.length) :
    (sessionSums amount bars)[k]? =
      some (runningTotal ((sessionOf sampleDay (bars.take (k + 1))).map amount)) := by
  have hnone : Kept sampleDay amount [] 0 [] := ⟨rfl, fun _ _ => rfl⟩
  exact hnone.getElem?_runningSums hk

/-- The volume-weighted price at a bar is that of its session so far, at its time. -/
theorem getElem?_vwap {bars : List (Sample α)} {k : Nat} {bar : Sample α}
    (hbar : bars[k]? = some bar) :
    (vwap bars)[k]? = some ⟨bar.time, sessionPrice (sessionOf sampleDay (bars.take (k + 1)))⟩ := by
  have hk := (List.getElem?_eq_some_iff.mp hbar).1
  have hvwap : vwap bars = timed bars
      ((sessionSums (fun b => b.typical * b.countedVolume) bars).zipWith
        (fun pv vol => if Scalar.below (Scalar.ofInt 0) vol then some (pv / vol) else none)
        (sessionSums Sample.countedVolume bars)) := rfl
  have hlength : ((sessionSums (fun b => b.typical * b.countedVolume) bars).zipWith
      (fun pv vol => if Scalar.below (Scalar.ofInt 0) vol then some (pv / vol) else none)
      (sessionSums Sample.countedVolume bars)).length = bars.length - 0 := by
    rw [List.length_zipWith, (causal_sessionSums _).length, (causal_sessionSums _).length,
      Nat.min_self]
  rw [hvwap]
  unfold timed
  rw [lastItems_eq_drop hlength, List.drop_zero, List.getElem?_zipWith, hbar, List.getElem?_zipWith,
    getElem?_sessionSums _ hk, getElem?_sessionSums _ hk]
  rfl

end Price

end ChartScript.Indicator
