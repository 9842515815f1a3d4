import Mathlib.Data.List.Induction
import ChartScript.Proofs.Bridge.Pending
/-!
# Correlation of calls and replies

A bridge over its life: it is called, data is delivered to it and it is closed, in any order.
While it is open the calls that wait are those whose request went out and that no reply has
named since. A delivery settles the future of the one call that it names and no other, and
what a future was settled with stays. Closing rejects what waits, and afterwards nothing is
posted and nothing delivered any more.
-/

namespace ChartScript.Bridge

open Message (Request replyId?)

/-- The ids of the waiting calls, oldest first. -/
def pendingIds (b : Bridge) : List String := b.pending.map PendingCall.id

/-- The message that asks for a call. -/
def asked (id method : String) (params : List (String × Wire)) : Wire :=
  (Request.view ⟨id, method, params⟩).toWire

/-- A call under an id, whose encoded request is handed to what posts it. -/
def issue (b : Bridge) (id method : String) (params : List (String × Wire)) (post : Wire → Posting) :
    Bridge × Option Wire × Except Failure Nat :=
  b.call id (encode id (.text method) (.object params)) post

/-- The bridge with one more future, which is settled from the start. -/
def decided (v : Settlement) (b : Bridge) : Bridge := { b with futures := b.futures ++ [some v] }

/-- Whether the kind of error that data names, if any, is named by a text. -/
def namesKind (raw : Wire) : Bool :=
  match (raw.field? "errorKind").getD .null with
  | .null => true
  | .text _ => true
  | _ => false

/-- What a reply settles the call with that it names: its result, or its error as a failure of
the named kind. -/
def carried (raw : Wire) : Settlement :=
  match (raw.field? "error").getD .null with
  | .null => .ok ((raw.field? "result").getD .null)
  | error =>
    match (raw.field? "errorKind").getD .null with
    | .text name => .error (.sandbox (SandboxKind.ofWireName name) error.display)
    | _ => .error (.sandbox .capability error.display)

/-- What is done with a bridge. -/
inductive Use where
  /-- A capability is called under an id. -/
  | call (id method : String) (params : List (String × Wire)) (post : Wire → Posting)
  /-- Data is delivered. -/
  | deliver (raw : Wire)
  /-- The bridge is closed. -/
  | close (reason : String)

namespace Use

/-- The id under which a call is made. -/
def calledId? : Use → Option String
  | .call id _ _ _ => some id
  | _ => none

/-- The id of a call whose request goes out. -/
def postedId? : Use → Option String
  | .call id method params post =>
    match post (asked id method params) with
    | .posted => some id
    | .failed _ => none
  | _ => none

/-- The id that a delivered reply names. -/
def answeredId? : Use → Option String
  | .deliver raw => replyId? raw
  | _ => none

/-- Whether the bridge is closed. -/
def closes : Use → Bool
  | .close _ => true
  | _ => false

/-- Whether a request that is not posted fails because the connection is lost, and whether a
kind of error is named by a text. -/
def IsRegular : Use → Prop
  | .call _ _ _ post => ∀ w f, post w = .failed f → isConnectionLoss f.kind = true
  | .deliver raw => namesKind raw = true
  | .close _ => True

end Use

/-- The bridge after a use. -/
def use (b : Bridge) : Use → Bridge
  | .call id method params post => (b.issue id method params post).1
  | .deliver raw => (b.deliver raw).1
  | .close reason => b.close reason

/-- The bridge after uses in turn. -/
def useAll (b : Bridge) (uses : List Use) : Bridge := uses.foldl use b

/-- The ids under which calls were made. -/
def calledIds (uses : List Use) : List String := uses.filterMap Use.calledId?

/-- Uses as they happen: every id is fresh, and all of them are regular. -/
structure Orderly (uses : List Use) : Prop where
  /-- No id is used for two calls. -/
  fresh : (calledIds uses).Nodup
  /-- Every use is regular. -/
  regular : ∀ u ∈ uses, u.IsRegular

/-- Whether the request under an id went out and no reply has named it since. -/
def WaitsAfter (uses : List Use) (id : String) : Prop :=
  ∃ before u after, uses = before ++ u :: after ∧ u.postedId? = some id ∧
    ∀ v ∈ after, v.answeredId? ≠ some id

section Uses

variable {b : Bridge}

/-- A request can always be encoded. -/
theorem issue_eq (b : Bridge) (id method : String) (params : List (String × Wire))
    (post : Wire → Posting) :
    b.issue id method params post = b.call id (.ok (asked id method params)) post := by
  unfold issue
  rw [Message.encode_eq]
  rfl

/-- A call on an open bridge waits, until it is known what happened to its request. -/
theorem call_of_open (hb : b.closed = false) (id : String) (w : Wire) (post : Wire → Posting) :
    b.call id (.ok w) post =
      match post w with
      | .posted => (b.waiting id, some w, .ok b.futures.length)
      | .failed f =>
        (((b.waiting id).conclude id b.futures.length (.failed f)).1, none,
          ((b.waiting id).conclude id b.futures.length (.failed f)).2) := by
  have hopen : ¬b.closed = true := by simp [hb]
  have hregister : b.register id = (b.waiting id, b.futures.length) := by
    unfold register
    rw [if_neg hopen]
    rfl
  unfold call
  rw [hregister]
  dsimp only
  refine (if_neg hopen).trans ?_
  cases post w <;> rfl

/-- A call whose request goes out waits. -/
theorem issue_of_posted (hb : b.closed = false) {id method : String}
    {params : List (String × Wire)} {post : Wire → Posting}
    (hp : post (asked id method params) = .posted) :
    b.issue id method params post =
      (b.waiting id, some (asked id method params), .ok b.futures.length) := by
  rw [issue_eq, call_of_open hb, hp]

/-- A call on a closed bridge fails, and nothing goes out. -/
theorem issue_of_closed (hb : b.closed = true) (id method : String)
    (params : List (String × Wire)) (post : Wire → Posting) :
    b.issue id method params post =
      (b.decided (.error closedFailure), none, .ok b.futures.length) := by
  rw [issue_eq]
  unfold call register
  dsimp only
  rw [if_pos hb, if_pos hb]
  rfl

/-- The waiting calls of other ids stay when an id is dropped. -/
theorem pending_forget_waiting {id : String} (hid : id ∉ b.pendingIds) :
    ((b.waiting id).forget id).pending = b.pending := by
  have hkeep : b.pending.filter (fun p => p.id ≠ id) = b.pending := by
    refine List.filter_eq_self.mpr fun p hp => decide_eq_true fun he => hid ?_
    exact he ▸ List.mem_map_of_mem hp
  unfold forget waiting
  dsimp only
  rw [List.filter_append, hkeep]
  simp

/-- A new future that is settled at once. -/
theorem futures_settle_waiting (id : String) (v : Settlement) :
    (((b.waiting id).forget id).settle b.futures.length v).futures = b.futures ++ [some v] := by
  refine List.ext_getElem? fun i => ?_
  unfold settle forget waiting
  dsimp only
  rw [List.getElem?_mapIdx, List.getElem?_append, List.getElem?_append]
  by_cases hi : i < b.futures.length
  · have hne : ¬i = b.futures.length := by omega
    simp [hi, hne]
  · by_cases he : i = b.futures.length
    · simp [he]
    · have hgt : i - b.futures.length ≠ 0 := by omega
      obtain ⟨k, hk⟩ := Nat.exists_eq_succ_of_ne_zero hgt
      simp [hi, hk]

/-- A waiting call under a fresh id that is given up at once leaves a future that is settled. -/
theorem settle_forget_waiting {id : String} (hid : id ∉ b.pendingIds) (v : Settlement) :
    ((b.waiting id).forget id).settle b.futures.length v = b.decided v := by
  have hpending : (((b.waiting id).forget id).settle b.futures.length v).pending = b.pending :=
    pending_forget_waiting hid
  have hfutures := futures_settle_waiting (b := b) id v
  exact congrArg₂ (Bridge.mk · · b.closed) hpending hfutures

/-- A call whose connection is lost is rejected, and does not wait. -/
theorem issue_of_lost (hb : b.closed = false) {id method : String}
    {params : List (String × Wire)} {post : Wire → Posting} {f : Failure}
    (hid : id ∉ b.pendingIds) (hp : post (asked id method params) = .failed f)
    (hf : isConnectionLoss f.kind = true) :
    b.issue id method params post =
      (b.decided (.error (lostFailure f)), none, .ok b.futures.length) := by
  rw [issue_eq, call_of_open hb, hp]
  dsimp only
  unfold conclude
  dsimp only
  rw [if_pos hf, settle_forget_waiting hid]

/-- Data that names no waiting call changes nothing. -/
theorem deliver_of_unknown {raw : Wire} (h : ∀ p ∈ b.pending, replyId? raw ≠ some p.id) :
    b.deliver raw = (b, .ok false) := by
  unfold replyId? at h
  unfold deliver
  cases raw with
  | object fields =>
    dsimp only at h ⊢
    split
    · rename_i hm
      simp only [if_pos hm] at h
      have hnone : b.find? ((Assoc.get? fields "id").getD .null).display = none := by
        refine List.find?_eq_none.mpr fun p hp he => h p hp ?_
        rw [of_decide_eq_true he]
      rw [hnone]
    · rfl
  | _ => rfl

/-- A reply settles the future of the call that it names. -/
theorem deliver_of_found {raw : Wire} {p : PendingCall} (hid : replyId? raw = some p.id)
    (hp : b.find? p.id = some p) (hk : namesKind raw = true) :
    b.deliver raw = ((b.forget p.id).settle p.future (carried raw), .ok true) := by
  unfold replyId? at hid
  unfold namesKind at hk
  unfold deliver carried
  cases raw with
  | object fields =>
    dsimp only [Wire.field?] at hid hk ⊢
    by_cases hm : Message.isMark (Assoc.get? fields "rpc") = true
    · rw [if_pos hm] at hid ⊢
      rw [Option.some.inj hid, hp]
      generalize (Assoc.get? fields "error").getD .null = error
      generalize (Assoc.get? fields "errorKind").getD .null = kind at hk ⊢
      cases error with
      | null => rfl
      | _ =>
        cases kind with
        | null => rfl
        | text name => rfl
        | _ => cases hk
    · rw [if_neg hm] at hid
      cases hid
  | _ => cases hid

/-- A reply settles the future that waits for it and no other one. -/
theorem deliver_waiting {raw : Wire} {p : PendingCall} (hid : replyId? raw = some p.id)
    (hp : b.find? p.id = some p) (hk : namesKind raw = true) (hf : b.futures[p.future]? = some none) :
    (b.deliver raw).2 = .ok true ∧
      (b.deliver raw).1.settlement? p.future = some (carried raw) ∧
      ∀ other, other ≠ p.future →
        (b.deliver raw).1.settlement? other = b.settlement? other := by
  have hlt : p.future < b.futures.length := (List.getElem?_eq_some_iff.mp hf).1
  have hopen : b.settlement? p.future = none := by
    unfold settlement?
    rw [hf]
    rfl
  have hsettled : ∀ other, ((b.forget p.id).settle p.future (carried raw)).settlement? other =
      if other = p.future ∧ other < b.futures.length then
        some ((b.settlement? other).getD (carried raw))
      else b.settlement? other := fun other => settlement?_settle (b.forget p.id) _ other _
  rw [deliver_of_found hid hp hk]
  refine ⟨rfl, ?_, ?_⟩
  · rw [hsettled, if_pos ⟨rfl, hlt⟩, hopen]
    rfl
  · intro other hne
    rw [hsettled, if_neg fun hc => hne hc.1]

end Uses

section Futures

/-- One more future takes nothing from those before. -/
theorem settlement?_append {b c : Bridge} {more : List (Option Settlement)} {future : Nat}
    {v : Settlement} (hc : c.futures = b.futures ++ more) (h : b.settlement? future = some v) :
    c.settlement? future = some v := by
  unfold settlement? at h ⊢
  cases hf : b.futures[future]? with
  | none =>
    rw [hf] at h
    cases h
  | some s =>
    have hlt := (List.getElem?_eq_some_iff.mp hf).1
    rw [hc, List.getElem?_append_left hlt, ← h]

/-- What a future was settled with stays when some future is settled. -/
theorem settlement?_settle_of_some {b : Bridge} {future : Nat} {v : Settlement}
    (h : b.settlement? future = some v) (other : Nat) (w : Settlement) :
    (b.settle other w).settlement? future = some v := by
  rw [settlement?_settle, h]
  split <;> rfl

/-- Futures that are rejected in turn: those among them that were not settled fail. -/
theorem settlement?_rejected (f : Failure) (calls : List Nat) (b : Bridge) (future : Nat) :
    (calls.foldl (fun acc c => acc.settle c (.error f)) b).settlement? future =
      if future ∈ calls ∧ future < b.futures.length then
        some ((b.settlement? future).getD (.error f))
      else b.settlement? future := by
  induction calls generalizing b with
  | nil => simp
  | cons c rest ih =>
    have hlength : (b.settle c (.error f)).futures.length = b.futures.length := List.length_mapIdx
    rw [List.foldl_cons, ih, hlength, settlement?_settle]
    by_cases hlt : future < b.futures.length
    · by_cases hc : future = c
      · subst hc
        simp [hlt]
      · simp [hlt, hc]
    · simp [hlt]

/-- What becomes of the futures when the bridge closes. -/
theorem settlement?_close (b : Bridge) (reason : String) (future : Nat) :
    (b.close reason).settlement? future =
      if future ∈ b.outstanding ∧ future < b.futures.length then
        some ((b.settlement? future).getD (.error (.sandbox .contextTerminated reason)))
      else b.settlement? future :=
  settlement?_rejected (.sandbox .contextTerminated reason) b.outstanding b future

/-- No use takes a settlement back or replaces it. -/
theorem settlement?_use {b : Bridge} {future : Nat} {v : Settlement}
    (h : b.settlement? future = some v) (u : Use) : (b.use u).settlement? future = some v := by
  cases u with
  | call id method params post =>
    unfold use
    dsimp only
    cases hb : b.closed with
    | true =>
      rw [issue_of_closed hb]
      exact settlement?_append rfl h
    | false =>
      have hwaiting := settlement?_append (c := b.waiting id) rfl h
      rw [issue_eq]
      rcases call_cases hb id (.ok (asked id method params)) post with
        ⟨-, -, -, he, -⟩ | ⟨-, he | ⟨f, he⟩, -⟩
      · rw [he]
        exact hwaiting
      · rw [he]
        exact hwaiting
      · rw [he]
        exact settlement?_settle_of_some (b := (b.waiting id).forget id) hwaiting _ _
  | deliver raw =>
    unfold use
    dsimp only
    rcases b.deliver_cases raw with he | ⟨p, -, -, he | ⟨w, he⟩⟩
    · rw [he]
      exact h
    · rw [he]
      exact h
    · rw [he]
      exact settlement?_settle_of_some (b := b.forget p.id) h _ _
  | close reason =>
    unfold use
    dsimp only
    rw [settlement?_close, h]
    split <;> rfl

/-- What a future was settled with stays. -/
theorem settlement?_useAll {b : Bridge} {future : Nat} {v : Settlement}
    (h : b.settlement? future = some v) (later : List Use) :
    (b.useAll later).settlement? future = some v := by
  induction later generalizing b with
  | nil => exact h
  | cons u rest ih => exact ih (settlement?_use h u)

end Futures

/-- What holds of the table of waiting calls and of the futures at every moment. -/
structure Consistent (b : Bridge) : Prop where
  /-- No two waiting calls have the same id. -/
  ids : b.pendingIds.Nodup
  /-- No two have the same future. -/
  distinct : b.outstanding.Nodup
  /-- The futures of the waiting calls are those that are not settled. -/
  unsettled : ∀ future, future ∈ b.outstanding ↔
    future < b.futures.length ∧ b.settlement? future = none
  /-- A closed bridge has no waiting calls. -/
  closed : b.closed = true → b.pending = []

namespace Consistent

variable {b : Bridge}

/-- Two waiting calls of the same id are one. -/
theorem eq_of_id_eq (h : Consistent b) {p q : PendingCall} (hp : p ∈ b.pending)
    (hq : q ∈ b.pending) (he : p.id = q.id) : p = q := List.inj_on_of_nodup_map h.ids hp hq he

/-- A waiting call is the one that waits under its id. -/
theorem find?_eq (h : Consistent b) {p : PendingCall} (hp : p ∈ b.pending) :
    b.find? p.id = some p := by
  cases hf : b.find? p.id with
  | none =>
    have hnone := List.find?_eq_none.mp hf p hp
    exact absurd (decide_eq_true rfl) hnone
  | some q =>
    have hq := List.mem_of_find?_eq_some hf
    have hid : q.id = p.id := by simpa using List.find?_some hf
    rw [h.eq_of_id_eq hq hp hid]

/-- A bridge before its first call is consistent. -/
theorem empty : Consistent Bridge.empty :=
  ⟨List.nodup_nil, List.nodup_nil, by simp [Bridge.empty, outstanding], fun _ => rfl⟩

/-- One more waiting call under a fresh id. -/
theorem waiting (h : Consistent b) (hb : b.closed = false) {id : String} (hid : id ∉ b.pendingIds) :
    Consistent (b.waiting id) := by
  have hids : (b.waiting id).pendingIds = b.pendingIds ++ [id] := by
    simp [pendingIds, Bridge.waiting]
  have hout : (b.waiting id).outstanding = b.outstanding ++ [b.futures.length] := by
    simp [outstanding, Bridge.waiting]
  have hlength : (b.waiting id).futures.length = b.futures.length + 1 := by simp [Bridge.waiting]
  refine ⟨?ids, ?distinct, ?unsettled, ?closed⟩
  case ids =>
    rw [hids]
    exact List.nodup_append.mpr ⟨h.ids, List.nodup_singleton _, fun x hx y hy he => hid (by
      rw [← List.mem_singleton.mp hy, ← he]
      exact hx)⟩
  case distinct =>
    rw [hout]
    refine List.nodup_append.mpr ⟨h.distinct, List.nodup_singleton _, fun x hx y hy he => ?_⟩
    have hlt := ((h.unsettled x).mp hx).1
    rw [he, List.mem_singleton.mp hy] at hlt
    exact absurd hlt (Nat.lt_irrefl _)
  case unsettled =>
    intro future
    rw [hout, List.mem_append, List.mem_singleton, h.unsettled, hlength, settlement?_waiting]
    constructor
    · rintro (⟨hlt, hnone⟩ | rfl)
      · exact ⟨by omega, hnone⟩
      · refine ⟨Nat.lt_succ_self _, ?_⟩
        unfold settlement?
        rw [List.getElem?_eq_none (Nat.le_refl _)]
        rfl
    · rintro ⟨hlt, hnone⟩
      by_cases hold : future < b.futures.length
      · exact .inl ⟨hold, hnone⟩
      · exact .inr (by omega)
  case closed =>
    intro hc
    exact absurd (hb.symm.trans hc) Bool.false_ne_true

/-- One more future that is settled from the start. -/
theorem decided (h : Consistent b) (v : Settlement) : Consistent (b.decided v) := by
  refine ⟨h.ids, h.distinct, ?_, h.closed⟩
  intro future
  have hlength : (b.decided v).futures.length = b.futures.length + 1 := by simp [Bridge.decided]
  change future ∈ b.outstanding ↔ _
  rw [h.unsettled, hlength]
  unfold settlement? Bridge.decided
  dsimp only
  rw [List.getElem?_append]
  by_cases hold : future < b.futures.length
  · simp only [if_pos hold]
    exact ⟨fun hn => ⟨by omega, hn.2⟩, fun hn => ⟨hold, hn.2⟩⟩
  · simp only [if_neg hold]
    constructor
    · exact fun hn => absurd hn.1 hold
    · rintro ⟨hlt, hnone⟩
      have hlast : future - b.futures.length = 0 := by omega
      rw [hlast] at hnone
      cases hnone

/-- A waiting call that is answered. -/
theorem answer (h : Consistent b) {p : PendingCall} (hp : p ∈ b.pending) (v : Settlement) :
    Consistent ((b.forget p.id).settle p.future v) := by
  have hpending : ((b.forget p.id).settle p.future v).pending =
      b.pending.filter (fun q => q.id ≠ p.id) := rfl
  have hlength : ((b.forget p.id).settle p.future v).futures.length = b.futures.length :=
    List.length_mapIdx
  have hmem : ∀ future, future ∈ ((b.forget p.id).settle p.future v).outstanding ↔
      future ∈ b.outstanding ∧ future ≠ p.future := by
    intro future
    constructor
    · intro hm
      obtain ⟨q, hq, rfl⟩ := List.mem_map.mp hm
      obtain ⟨hqb, hne⟩ := List.mem_filter.mp hq
      refine ⟨List.mem_map_of_mem hqb, fun he => of_decide_eq_true hne ?_⟩
      rw [List.inj_on_of_nodup_map h.distinct hqb hp he]
    · rintro ⟨hm, hne⟩
      obtain ⟨q, hq, rfl⟩ := List.mem_map.mp hm
      refine List.mem_map_of_mem (List.mem_filter.mpr ⟨hq, decide_eq_true fun he => hne ?_⟩)
      rw [h.eq_of_id_eq hq hp he]
  refine ⟨?ids, ?distinct, ?unsettled, ?closed⟩
  case ids => exact h.ids.sublist (List.Sublist.map _ List.filter_sublist)
  case distinct => exact h.distinct.sublist (List.Sublist.map _ List.filter_sublist)
  case unsettled =>
    intro future
    rw [hmem, h.unsettled, hlength, settlement?_settle]
    change _ ↔ _ ∧ (if future = p.future ∧ future < b.futures.length then
      some ((b.settlement? future).getD v) else b.settlement? future) = none
    constructor
    · rintro ⟨⟨hlt, hnone⟩, hne⟩
      rw [if_neg fun hc => hne hc.1]
      exact ⟨hlt, hnone⟩
    · rintro ⟨hlt, hnone⟩
      by_cases he : future = p.future
      · rw [if_pos ⟨he, hlt⟩] at hnone
        cases hnone
      · rw [if_neg fun hc => he hc.1] at hnone
        exact ⟨⟨hlt, hnone⟩, he⟩
  case closed =>
    intro hc
    rw [hpending, h.closed hc]
    rfl

/-- A bridge that is closed. -/
theorem close (h : Consistent b) (reason : String) : Consistent (b.close reason) := by
  have hlength : (b.close reason).futures.length = b.futures.length := by
    change (b.outstanding.foldl _ b).futures.length = _
    generalize b.outstanding = calls
    clear h
    induction calls generalizing b with
    | nil => rfl
    | cons c rest ih =>
      rw [List.foldl_cons, ih]
      exact List.length_mapIdx
  refine ⟨List.nodup_nil, List.nodup_nil, ?_, fun _ => rfl⟩
  intro future
  rw [hlength, settlement?_close]
  refine iff_of_false List.not_mem_nil ?_
  rintro ⟨hlt, hnone⟩
  split at hnone
  · cases hnone
  · rename_i hno
    exact hno ⟨(h.unsettled future).mpr ⟨hlt, hnone⟩, hlt⟩

/-- A reply to a waiting call settles the future of that call alone. -/
theorem deliver_answer (h : Consistent b) {p : PendingCall} (hp : p ∈ b.pending) {raw : Wire}
    (hid : replyId? raw = some p.id) (hk : namesKind raw = true) :
    (b.deliver raw).2 = .ok true ∧ b.settlement? p.future = none ∧
      (b.deliver raw).1.settlement? p.future = some (carried raw) ∧
      (∀ other, other ≠ p.future → (b.deliver raw).1.settlement? other = b.settlement? other) ∧
      ∀ q, q ∈ (b.deliver raw).1.pending ↔ q ∈ b.pending ∧ q ≠ p := by
  obtain ⟨hlt, hnone⟩ := (h.unsettled p.future).mp (List.mem_map_of_mem hp)
  have hsettled : ∀ other, ((b.forget p.id).settle p.future (carried raw)).settlement? other =
      if other = p.future ∧ other < b.futures.length then
        some ((b.settlement? other).getD (carried raw))
      else b.settlement? other := fun other => settlement?_settle (b.forget p.id) _ other _
  rw [deliver_of_found hid (h.find?_eq hp) hk]
  refine ⟨rfl, hnone, ?_, ?_, ?_⟩
  · rw [hsettled, if_pos ⟨rfl, hlt⟩, hnone]
    rfl
  · intro other hne
    rw [hsettled, if_neg fun hc => hne hc.1]
  · intro q
    change q ∈ b.pending.filter (fun q => q.id ≠ p.id) ↔ _
    rw [List.mem_filter, decide_eq_true_iff]
    refine and_congr_right fun hq => not_congr ⟨h.eq_of_id_eq hq hp, ?_⟩
    exact congrArg PendingCall.id

end Consistent

/-- What uses have made of a bridge. -/
structure Follows (uses : List Use) (b : Bridge) : Prop where
  /-- Table and futures are consistent. -/
  consistent : Consistent b
  /-- It is closed exactly when a use has closed it. -/
  closed_iff : b.closed = true ↔ ∃ u ∈ uses, u.closes = true
  /-- Only calls that were made wait. -/
  made : ∀ id ∈ b.pendingIds, id ∈ calledIds uses
  /-- While it is open, those wait whose request went out and that no reply has named since. -/
  waits : b.closed = false → ∀ id, id ∈ b.pendingIds ↔ WaitsAfter uses id

/-- What has happened with nothing of a kind since, after one more event: it is that event, or
it had happened and the event is not of the kind. -/
theorem exists_since_concat {α : Type} (P Q : α → Prop) (xs : List α) (x : α) :
    (∃ before u after, xs ++ [x] = before ++ u :: after ∧ P u ∧ ∀ v ∈ after, Q v) ↔
      P x ∨ (∃ before u after, xs = before ++ u :: after ∧ P u ∧ ∀ v ∈ after, Q v) ∧ Q x := by
  constructor
  · rintro ⟨before, v, after, he, hv, hquiet⟩
    rcases List.eq_nil_or_concat after with rfl | ⟨rest, last, rfl⟩
    · have hlast : [x] = [v] := List.append_inj_right' he rfl
      rw [(List.cons.inj hlast).1]
      exact .inl hv
    · have hassoc : xs ++ [x] = (before ++ v :: rest) ++ [last] := by simpa using he
      obtain ⟨hxs, hlast⟩ := List.append_inj' hassoc rfl
      rw [List.cons.inj hlast |>.1]
      refine .inr ⟨⟨before, v, rest, hxs, hv, ?_⟩, ?_⟩
      · exact fun w hw => hquiet w (by simp [hw])
      · exact hquiet last (by simp)
  · rintro (hx | ⟨⟨before, v, after, rfl, hv, hquiet⟩, hlast⟩)
    · exact ⟨xs, x, [], rfl, hx, fun _ hw => absurd hw List.not_mem_nil⟩
    · refine ⟨before, v, after ++ [x], by simp, hv, ?_⟩
      intro w hw
      rcases List.mem_append.mp hw with hw | hw
      · exact hquiet w hw
      · rw [List.mem_singleton.mp hw]
        exact hlast

/-- A request waits after one more use: it is the one that goes out, or it waited and is not
named by a reply. -/
theorem waitsAfter_concat (uses : List Use) (u : Use) (id : String) :
    WaitsAfter (uses ++ [u]) id ↔
      u.postedId? = some id ∨ WaitsAfter uses id ∧ u.answeredId? ≠ some id :=
  exists_since_concat (fun v : Use => v.postedId? = some id) (fun v => v.answeredId? ≠ some id) uses u

namespace Follows

variable {uses : List Use} {b : Bridge}

/-- At first nothing has been done. -/
theorem empty : Follows [] Bridge.empty := by
  refine ⟨Consistent.empty, by simp [Bridge.empty], fun _ h => absurd h List.not_mem_nil, ?_⟩
  intro _ id
  refine iff_of_false List.not_mem_nil ?_
  rintro ⟨before, u, after, he, -⟩
  have hlength := congrArg List.length he
  simp at hlength

/-- The ids of the calls after one more use. -/
theorem mem_calledIds_concat {u : Use} {id : String} (h : id ∈ calledIds uses) :
    id ∈ calledIds (uses ++ [u]) := by
  unfold calledIds at h ⊢
  rw [List.filterMap_append]
  exact List.mem_append_left _ h

/-- One more call. -/
theorem call (h : Follows uses b) {id method : String} {params : List (String × Wire)}
    {post : Wire → Posting} (hfresh : id ∉ calledIds uses)
    (hr : (Use.call id method params post).IsRegular) :
    Follows (uses ++ [.call id method params post]) (b.use (.call id method params post)) := by
  have hid : id ∉ b.pendingIds := fun hm => hfresh (h.made id hm)
  have hclosed : b.closed = true ↔
      ∃ u ∈ uses ++ [Use.call id method params post], u.closes = true := by
    rw [h.closed_iff]
    simp [Use.closes]
  have hmade : ∀ old ∈ b.pendingIds, old ∈ calledIds (uses ++ [Use.call id method params post]) :=
    fun old hold => mem_calledIds_concat (h.made old hold)
  have hquiet : ∀ other, (Use.call id method params post).answeredId? ≠ some other := by
    simp [Use.answeredId?]
  unfold use
  dsimp only
  cases hb : b.closed with
  | true =>
    rw [issue_of_closed hb]
    exact ⟨h.consistent.decided _, hclosed, hmade, fun ho => absurd (hb.symm.trans ho) (by decide)⟩
  | false =>
    cases hp : post (asked id method params) with
    | posted =>
      rw [issue_of_posted hb hp]
      have hposted : (Use.call id method params post).postedId? = some id := by
        unfold Use.postedId?
        dsimp only
        rw [hp]
      have hids : (b.waiting id).pendingIds = b.pendingIds ++ [id] := by
        simp [pendingIds, Bridge.waiting]
      refine ⟨h.consistent.waiting hb hid, hclosed, ?_, ?_⟩
      · intro other hother
        rw [hids] at hother
        rcases List.mem_append.mp hother with hold | hnew
        · exact hmade other hold
        · rw [List.mem_singleton.mp hnew]
          simp [calledIds, Use.calledId?]
      · intro _ other
        rw [hids, List.mem_append, List.mem_singleton, waitsAfter_concat, hposted, h.waits hb,
          Option.some_inj]
        constructor
        · rintro (hold | rfl)
          · exact .inr ⟨hold, hquiet other⟩
          · exact .inl rfl
        · rintro (rfl | ⟨hold, -⟩)
          · exact .inr rfl
          · exact .inl hold
    | failed f =>
      rw [issue_of_lost hb hid hp (hr _ f hp)]
      have hposted : (Use.call id method params post).postedId? = none := by
        unfold Use.postedId?
        dsimp only
        rw [hp]
      refine ⟨h.consistent.decided _, hclosed, hmade, ?_⟩
      intro _ other
      change other ∈ b.pendingIds ↔ _
      rw [waitsAfter_concat, hposted, h.waits hb]
      constructor
      · exact fun hold => .inr ⟨hold, hquiet other⟩
      · rintro (he | ⟨hold, -⟩)
        · cases he
        · exact hold

/-- One more delivery. -/
theorem deliver (h : Follows uses b) {raw : Wire} (hk : namesKind raw = true) :
    Follows (uses ++ [.deliver raw]) (b.use (.deliver raw)) := by
  have hclosed : b.closed = true ↔ ∃ u ∈ uses ++ [Use.deliver raw], u.closes = true := by
    rw [h.closed_iff]
    simp [Use.closes]
  have hwaits : b.closed = false → ∀ id,
      WaitsAfter (uses ++ [.deliver raw]) id ↔ id ∈ b.pendingIds ∧ replyId? raw ≠ some id := by
    intro hb id
    rw [waitsAfter_concat, h.waits hb]
    constructor
    · rintro (he | hold)
      · cases he
      · exact hold
    · exact .inr
  unfold use
  dsimp only
  by_cases hfound : ∃ p ∈ b.pending, replyId? raw = some p.id
  · obtain ⟨p, hp, hid⟩ := hfound
    rw [deliver_of_found hid (h.consistent.find?_eq hp) hk]
    have hids : ∀ id, id ∈ ((b.forget p.id).settle p.future (carried raw)).pendingIds ↔
        id ∈ b.pendingIds ∧ id ≠ p.id := by
      intro id
      change id ∈ (b.pending.filter fun q => q.id ≠ p.id).map PendingCall.id ↔ _
      simp [pendingIds]
      grind
    refine ⟨h.consistent.answer hp _, hclosed, ?_, ?_⟩
    · exact fun id hm => mem_calledIds_concat (h.made id ((hids id).mp hm).1)
    · intro hb id
      rw [hids, hwaits hb, hid]
      refine and_congr_right fun _ => not_congr ?_
      rw [Option.some_inj]
      exact eq_comm
  · have hnone : ∀ p ∈ b.pending, replyId? raw ≠ some p.id := fun p hp he => hfound ⟨p, hp, he⟩
    rw [deliver_of_unknown hnone]
    refine ⟨h.consistent, hclosed, fun id hm => mem_calledIds_concat (h.made id hm), ?_⟩
    intro hb id
    rw [hwaits hb]
    refine ⟨fun hm => ⟨hm, ?_⟩, And.left⟩
    obtain ⟨p, hp, rfl⟩ := List.mem_map.mp hm
    exact hnone p hp

/-- The bridge is closed. -/
theorem close (h : Follows uses b) (reason : String) :
    Follows (uses ++ [.close reason]) (b.use (.close reason)) := by
  refine ⟨h.consistent.close reason, ?_, fun _ hm => absurd hm List.not_mem_nil, ?_⟩
  · exact iff_of_true rfl ⟨.close reason, by simp, rfl⟩
  · intro ho
    cases ho

/-- One more use. -/
theorem step (h : Follows uses b) {u : Use} (hfresh : ∀ id, u.calledId? = some id →
    id ∉ calledIds uses) (hr : u.IsRegular) : Follows (uses ++ [u]) (b.use u) := by
  cases u with
  | call id method params post => exact h.call (hfresh id rfl) hr
  | deliver raw => exact h.deliver hr
  | close reason => exact h.close reason

/-- Orderly uses of a new bridge, however many. -/
theorem run (uses : List Use) (h : Orderly uses) : Follows uses (Bridge.empty.useAll uses) := by
  induction uses using List.reverseRecOn with
  | nil => exact empty
  | append_singleton before u ih =>
    have hids : calledIds (before ++ [u]) = calledIds before ++ calledIds [u] :=
      List.filterMap_append
    have hnodup := h.fresh
    rw [hids, List.nodup_append] at hnodup
    obtain ⟨hbefore, -, hapart⟩ := hnodup
    have hprevious := ih ⟨hbefore, fun v hv => h.regular v (List.mem_append_left _ hv)⟩
    have hfresh : ∀ id, u.calledId? = some id → id ∉ calledIds before := by
      intro id hid hm
      refine hapart id hm id ?_ rfl
      simp [calledIds, hid]
    unfold useAll
    rw [List.foldl_append]
    exact hprevious.step hfresh (h.regular u (by simp))

end Follows

/-- What a bridge guarantees after uses. -/
structure Correlated (uses : List Use) (b : Bridge) : Prop where
  /-- It is closed exactly when a use has closed it. -/
  closed_iff : b.closed = true ↔ ∃ u ∈ uses, u.closes = true
  /-- While it is open, those calls wait whose request went out and that no reply has named
  since. -/
  waits : b.closed = false → ∀ id, id ∈ b.pendingIds ↔ WaitsAfter uses id
  /-- Every waiting call has an id and a future of its own, and these futures are the ones
  that are not settled. -/
  single : b.pendingIds.Nodup ∧ b.outstanding.Nodup ∧
    ∀ future, future ∈ b.outstanding ↔ future < b.futures.length ∧ b.settlement? future = none
  /-- While it is open, a call under a fresh id whose request goes out waits. -/
  posts : b.closed = false → ∀ id method params post, post (asked id method params) = .posted →
    b.issue id method params post =
      (b.waiting id, some (asked id method params), .ok b.futures.length)
  /-- While it is open, a call under a fresh id whose connection is lost is rejected and does
  not wait. -/
  loses : b.closed = false → ∀ id method params post f, id ∉ calledIds uses →
    post (asked id method params) = .failed f → isConnectionLoss f.kind = true →
    b.issue id method params post =
      (b.decided (.error (lostFailure f)), none, .ok b.futures.length)
  /-- A reply that names a waiting call settles its future, which was not settled, with what
  it carries, and no other future; that call alone waits no longer. -/
  answers : ∀ p ∈ b.pending, ∀ raw, replyId? raw = some p.id → namesKind raw = true →
    (b.deliver raw).2 = .ok true ∧ b.settlement? p.future = none ∧
      (b.deliver raw).1.settlement? p.future = some (carried raw) ∧
      (∀ other, other ≠ p.future → (b.deliver raw).1.settlement? other = b.settlement? other) ∧
      ∀ q, q ∈ (b.deliver raw).1.pending ↔ q ∈ b.pending ∧ q ≠ p
  /-- Any other data changes nothing. -/
  passes : ∀ raw, (∀ id, replyId? raw = some id → id ∉ b.pendingIds) →
    b.deliver raw = (b, .ok false)
  /-- What a future was settled with stays, whatever is done later. -/
  keeps : ∀ future v, b.settlement? future = some v →
    ∀ later, (b.useAll later).settlement? future = some v
  /-- Closing rejects the futures of the waiting calls and no other, and no call waits then. -/
  rejects : ∀ reason, (b.close reason).closed = true ∧ (b.close reason).pending = [] ∧
    ∀ future, (b.close reason).settlement? future =
      if future ∈ b.outstanding then some (.error (.sandbox .contextTerminated reason))
      else b.settlement? future
  /-- Once it is closed every call fails, nothing goes out and nothing is delivered. -/
  refuses : b.closed = true →
    (∀ id method params post, b.issue id method params post =
      (b.decided (.error closedFailure), none, .ok b.futures.length)) ∧
    ∀ raw, b.deliver raw = (b, .ok false)

namespace Follows

variable {uses : List Use} {b : Bridge}

/-- Closing rejects what is not settled yet. -/
theorem settlement?_closed (h : Follows uses b) (reason : String) (future : Nat) :
    (b.close reason).settlement? future =
      if future ∈ b.outstanding then some (.error (.sandbox .contextTerminated reason))
      else b.settlement? future := by
  rw [settlement?_close]
  by_cases hm : future ∈ b.outstanding
  · obtain ⟨hlt, hnone⟩ := (h.consistent.unsettled future).mp hm
    rw [if_pos ⟨hm, hlt⟩, if_pos hm, hnone]
    rfl
  · rw [if_neg hm, if_neg fun hc => hm hc.1]

/-- What follows from uses is what a bridge guarantees. -/
theorem correlated (h : Follows uses b) : Correlated uses b where
  closed_iff := h.closed_iff
  waits := h.waits
  single := ⟨h.consistent.ids, h.consistent.distinct, h.consistent.unsettled⟩
  posts hb _ _ _ _ hp := issue_of_posted hb hp
  loses hb id _ _ _ _ hfresh hp hf := issue_of_lost hb (fun hm => hfresh (h.made id hm)) hp hf
  answers _ hp _ hid hk := h.consistent.deliver_answer hp hid hk
  passes raw hraw := by
    refine deliver_of_unknown fun p hp he => hraw p.id he ?_
    exact List.mem_map_of_mem hp
  keeps _ _ hv later := settlement?_useAll hv later
  rejects reason := ⟨rfl, rfl, h.settlement?_closed reason⟩
  refuses hb := by
    refine ⟨issue_of_closed hb, fun raw => deliver_of_unknown fun p hp => ?_⟩
    rw [h.consistent.closed hb] at hp
    exact absurd hp List.not_mem_nil

end Follows

/-- Whatever is done with a new bridge, every reply finds its call and every future is settled
at most once. -/
theorem correlated_useAll (uses : List Use) (h : Orderly uses) :
    Correlated uses (empty.useAll uses) := (Follows.run uses h).correlated

/-- A reply that carries a result. -/
def resultFor (id : String) (result : Wire) : Wire := (Message.Reply.success id result).view.toWire

/-- Two calls, of which the second is answered twice; a call whose connection is lost; and the
answer to the first call, which comes after the bridge is closed. -/
def lateAnswer : List Use :=
  [.call "a" "plot" [] fun _ => .posted,
    .call "b" "getBars" [] fun _ => .posted,
    .deliver (resultFor "b" (.int 1)),
    .deliver (resultFor "b" (.int 2)),
    .call "c" "plot" [] fun _ => .failed .brokenPipe,
    .close defaultReason,
    .deliver (resultFor "a" (.int 3))]

/-- The first call is rejected, the second has its first result and the third is rejected too. -/
theorem correlated_lateAnswer :
    Orderly lateAnswer ∧ Correlated lateAnswer (empty.useAll lateAnswer) ∧
      (empty.useAll lateAnswer).futures =
        [some (.error (.sandbox .contextTerminated defaultReason)), some (.ok (.int 1)),
          some (.error (lostFailure .brokenPipe))] := by
  have horderly : Orderly lateAnswer := by
    refine ⟨by decide, ?_⟩
    have hposts : ∀ w f, (fun _ : Wire => Posting.posted) w = .failed f →
        isConnectionLoss f.kind = true := by
      rintro - f ⟨⟩
    have hlost : ∀ w f, (fun _ : Wire => Posting.failed .brokenPipe) w = .failed f →
        isConnectionLoss f.kind = true := by
      rintro - f ⟨⟩
      decide
    unfold lateAnswer
    simp only [List.forall_mem_cons]
    exact ⟨hposts, hposts, rfl, rfl, hlost, trivial, rfl, nofun⟩
  exact ⟨horderly, correlated_useAll lateAnswer horderly, by rfl⟩

end ChartScript.Bridge
