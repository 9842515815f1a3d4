import ChartScript.Proofs.Bridge.Pending
/-!
# What a bridge is without one call

A bridge that keeps nothing of what one of its calls has come to. As soon as no reply is
waited for under a call, no operation of the bridge but one on the call itself tells the two
apart.
-/

namespace ChartScript.Bridge

open Message (replyId?)

variable {b : Bridge} {k : Nat}

/-- The bridge without what a call has come to. -/
def blank (k : Nat) (b : Bridge) : Bridge := { b with futures := b.futures.set k none }

/-- A call that was made and is not waited for. -/
structure Spent (k : Nat) (b : Bridge) : Prop where
  /-- It was made. -/
  made : k < b.futures.length
  /-- No reply to it is waited for. -/
  quiet : k ∉ b.outstanding

/-- The waiting calls are the same. -/
@[simp] theorem outstanding_blank (k : Nat) (b : Bridge) : (b.blank k).outstanding = b.outstanding := rfl

/-- Whether a call is spent does not depend on what it has come to. -/
theorem Spent.of_blank_eq {c : Bridge} (h : Spent k b) (he : b.blank k = c.blank k) : Spent k c := by
  have hout : b.outstanding = c.outstanding := by simpa using congrArg outstanding he
  have hlength : (b.blank k).futures.length = (c.blank k).futures.length :=
    congrArg (fun b => b.futures.length) he
  refine ⟨?_, hout ▸ h.quiet⟩
  simp only [blank, List.length_set] at hlength
  rw [← hlength]
  exact h.made

/-- The other calls have come to the same. -/
theorem settlement?_blank {c : Nat} (h : c ≠ k) : (b.blank k).settlement? c = b.settlement? c := by
  have hne : k ≠ c := fun he => h he.symm
  unfold settlement? blank
  dsimp only
  rw [List.getElem?_set_ne hne]

/-- Nothing is left of a settlement of the call. -/
theorem blank_settle (k : Nat) (b : Bridge) (v : Settlement) : (b.settle k v).blank k = b.blank k := by
  have hfutures : (b.settle k v).futures.set k none = b.futures.set k none := by
    refine List.ext_getElem? fun c => ?_
    unfold settle
    by_cases hc : k = c
    · subst hc
      simp [List.getElem?_set]
    · have hne : ¬c = k := fun he => hc he.symm
      rw [List.getElem?_set_ne hc, List.getElem?_set_ne hc, List.getElem?_mapIdx]
      simp [hne]
  exact congrArg (Bridge.mk b.pending · b.closed) hfutures

/-- Another call is settled all the same. -/
theorem settle_blank {c : Nat} (h : c ≠ k) (v : Settlement) :
    (b.settle c v).blank k = (b.blank k).settle c v := by
  have hfutures : (b.settle c v).futures.set k none = ((b.blank k).settle c v).futures := by
    refine List.ext_getElem? fun i => ?_
    unfold settle blank
    dsimp only
    rw [List.getElem?_mapIdx]
    by_cases hi : k = i
    · subst hi
      have hne : ¬k = c := fun he => h he.symm
      simp only [List.getElem?_set_self', List.getElem?_mapIdx, if_neg hne]
      cases b.futures[k]? <;> rfl
    · rw [List.getElem?_set_ne hi, List.getElem?_set_ne hi, List.getElem?_mapIdx]
  exact congrArg (Bridge.mk b.pending · b.closed) hfutures

/-- A settlement leaves a spent call spent. -/
theorem Spent.settle (h : Spent k b) (c : Nat) (v : Settlement) : Spent k (b.settle c v) := by
  refine ⟨?_, h.quiet⟩
  have hlength : (b.settle c v).futures.length = b.futures.length := List.length_mapIdx
  rw [hlength]
  exact h.made

/-- A spent call is spent when another call is not waited for any more. -/
theorem Spent.forget (h : Spent k b) (id : String) : Spent k (b.forget id) := by
  refine ⟨h.made, fun hm => h.quiet ?_⟩
  obtain ⟨q, hq, rfl⟩ := List.mem_map.mp hm
  exact List.mem_map_of_mem (List.mem_of_mem_filter hq)

/-- A call that is taken from the waiting ones is spent. -/
theorem Sound.spent_forget {own : List Nat} (h : b.Sound own) {q : PendingCall} (hq : q ∈ b.pending) :
    Spent q.future (b.forget q.id) := ⟨h.bound q hq, h.notMem_forget hq⟩

/-- A new call has a future of its own, and begins all the same without a spent call. -/
theorem Spent.register (h : Spent k b) (id : String) :
    Spent k (b.register id).1 ∧ (b.register id).2 ≠ k ∧
      (b.blank k).register id = ((b.register id).1.blank k, (b.register id).2) := by
  have hmade := h.made
  have hset : ∀ v : Option Settlement,
      (b.futures ++ [v]).set k none = b.futures.set k none ++ [v] := by
    intro v
    rw [List.set_append, if_pos hmade]
  have hlength : (b.futures.set k none).length = b.futures.length := List.length_set
  unfold Bridge.register blank
  dsimp only
  rw [hlength]
  by_cases hb : b.closed = true
  · simp only [if_pos hb, hset]
    refine ⟨⟨?_, h.quiet⟩, by omega, trivial⟩
    rw [List.length_append]
    omega
  · simp only [if_neg hb, hset]
    refine ⟨⟨?_, fun hm => ?_⟩, by omega, trivial⟩
    · rw [List.length_append]
      omega
    · obtain ⟨q, hq, hk⟩ := List.mem_map.mp hm
      rcases List.mem_append.mp hq with hq | hq
      · exact h.quiet (hk ▸ List.mem_map_of_mem hq)
      · have hlast : b.futures.length = k := by
          rw [List.mem_singleton.mp hq] at hk
          exact hk
        omega

/-- The end of a call leaves a spent call spent, and comes to the same without it. -/
theorem Spent.conclude (h : Spent k b) (id : String) {c : Nat} (hc : c ≠ k) (posting : Posting) :
    Spent k (b.conclude id c posting).1 ∧ (b.blank k).conclude id c posting =
      ((b.conclude id c posting).1.blank k, (b.conclude id c posting).2) := by
  unfold Bridge.conclude
  cases posting with
  | posted => exact ⟨h, rfl⟩
  | failed f =>
    dsimp only
    split
    · refine ⟨(h.forget id).settle c _, ?_⟩
      rw [settle_blank hc]
      rfl
    · exact ⟨h, rfl⟩

/-- A call leaves a spent call spent, and comes to the same without it. -/
theorem Spent.call (h : Spent k b) (id : String) (message : Except Failure Wire)
    (post : Wire → Posting) :
    Spent k (b.call id message post).1 ∧ (b.blank k).call id message post =
      ((b.call id message post).1.blank k, (b.call id message post).2) := by
  obtain ⟨hspent, hne, hregister⟩ := h.register id
  have hconclude := fun f => hspent.conclude id hne (.failed f)
  have hclosed : (b.blank k).closed = b.closed := rfl
  unfold Bridge.call
  rw [hregister, hclosed]
  dsimp only
  split
  · exact ⟨hspent, rfl⟩
  · cases message with
    | error f =>
      dsimp only
      rw [(hconclude f).2]
      exact ⟨(hconclude f).1, rfl⟩
    | ok w =>
      dsimp only
      cases post w with
      | posted => exact ⟨hspent, rfl⟩
      | failed f =>
        dsimp only
        rw [(hconclude f).2]
        exact ⟨(hconclude f).1, rfl⟩

/-- A delivery leaves a spent call spent. -/
theorem Spent.deliver (h : Spent k b) (raw : Wire) : Spent k (b.deliver raw).1 := by
  rcases b.deliver_cases raw with he | ⟨q, -, -, he | ⟨v, he⟩⟩
  · rw [he]
    exact h
  · rw [he]
    exact h.forget q.id
  · rw [he]
    exact (h.forget q.id).settle q.future v

/-- A delivery comes to the same without a spent call. -/
theorem Spent.deliver_blank (h : Spent k b) (raw : Wire) :
    (b.deliver raw).1.blank k = ((b.blank k).deliver raw).1 := by
  unfold Bridge.deliver
  cases raw with
  | object fields =>
    dsimp only
    split
    · have hfind : (b.blank k).find? ((Assoc.get? fields "id").getD .null).display =
          b.find? ((Assoc.get? fields "id").getD .null).display := rfl
      rw [hfind]
      cases hq : b.find? ((Assoc.get? fields "id").getD .null).display with
      | none => rfl
      | some q =>
        have hne : q.future ≠ k := by
          rintro rfl
          exact h.quiet (List.mem_map_of_mem (List.mem_of_find?_eq_some hq))
        dsimp only
        split
        · rw [settle_blank hne]
          rfl
        · split
          · rw [settle_blank hne]
            rfl
          · rfl
    · rfl
  | _ => rfl

/-- A reply to a waiting call takes it from the table, and settles it if the reply makes sense. -/
theorem deliver_of_find {q : PendingCall} {raw : Wire} (hid : replyId? raw = some q.id)
    (hq : b.find? q.id = some q) : (b.deliver raw).1 = b.forget q.id ∨
      ∃ v, (b.deliver raw).1 = (b.forget q.id).settle q.future v := by
  unfold Bridge.deliver
  unfold replyId? at hid
  cases raw with
  | object fields =>
    dsimp only at hid ⊢
    by_cases hm : Message.isMark (Assoc.get? fields "rpc") = true
    · rw [if_pos hm] at hid ⊢
      rw [Option.some.inj hid, hq]
      dsimp only
      split
      · exact .inr ⟨_, rfl⟩
      · split
        · exact .inr ⟨_, rfl⟩
        · exact .inl rfl
    · rw [if_neg hm] at hid
      cases hid
  | _ => cases hid

/-- Whatever a waiting call comes to by a reply, nothing else depends on it. -/
theorem blank_deliver {q : PendingCall} {raw : Wire} (hid : replyId? raw = some q.id)
    (hq : b.find? q.id = some q) : (b.deliver raw).1.blank q.future = (b.forget q.id).blank q.future := by
  rcases deliver_of_find hid hq with he | ⟨v, he⟩
  · rw [he]
  · rw [he, blank_settle]

/-- A settlement of what is settled changes nothing. -/
theorem settle_of_settled {v : Settlement} (h : b.settlement? k = some v) (w : Settlement) :
    b.settle k w = b := by
  have hfutures : (b.futures.mapIdx fun i old => if i = k then some (old.getD w) else old) = b.futures := by
    refine List.ext_getElem? fun i => ?_
    rw [List.getElem?_mapIdx]
    by_cases hi : i = k
    · subst hi
      unfold settlement? at h
      obtain ⟨old, hold, rfl⟩ := Option.bind_eq_some_iff.mp h
      simp [hold]
    · simp [hi]
  exact congrArg (fun futures => ({ b with futures } : Bridge)) hfutures

/-- A reply to a waiting call that is settled only takes it from the table. -/
theorem deliver_of_settled {q : PendingCall} {raw : Wire} {v : Settlement}
    (hid : replyId? raw = some q.id) (hq : b.find? q.id = some q)
    (hv : b.settlement? q.future = some v) : (b.deliver raw).1 = b.forget q.id := by
  have hforgotten : (b.forget q.id).settlement? q.future = some v := hv
  rcases deliver_of_find hid hq with he | ⟨w, he⟩
  · exact he
  · rw [he, settle_of_settled hforgotten]

/-- Closing the bridge comes to the same without a spent call. -/
theorem Spent.close_blank (h : Spent k b) (reason : String) :
    (b.close reason).blank k = (b.blank k).close reason := by
  have hfold : ∀ (calls : List Nat) (b : Bridge), k ∉ calls →
      (calls.foldl (fun acc c => acc.settle c (.error (.sandbox .contextTerminated reason))) b).blank k =
        calls.foldl (fun acc c => acc.settle c (.error (.sandbox .contextTerminated reason)))
          (b.blank k) := by
    intro calls
    induction calls with
    | nil => exact fun _ _ => rfl
    | cons c rest ih =>
      intro b hk
      rw [List.mem_cons, not_or] at hk
      have hne : c ≠ k := fun he => hk.1 he.symm
      rw [List.foldl_cons, List.foldl_cons, ih _ hk.2, settle_blank hne]
  have hrejected := hfold b.outstanding b h.quiet
  unfold Bridge.close
  rw [outstanding_blank]
  dsimp only
  rw [← hrejected]
  rfl

/-- Closing the bridge leaves a spent call spent. -/
theorem Spent.close (h : Spent k b) (reason : String) : Spent k (b.close reason) := by
  have hlength : ∀ (calls : List Nat) (b : Bridge), (calls.foldl (fun acc c =>
      acc.settle c (.error (.sandbox .contextTerminated reason))) b).futures.length =
        b.futures.length := by
    intro calls
    induction calls with
    | nil => exact fun _ => rfl
    | cons c rest ih =>
      intro b
      rw [List.foldl_cons, ih]
      exact List.length_mapIdx
  refine ⟨?_, List.not_mem_nil⟩
  change k < (b.outstanding.foldl _ b).futures.length
  rw [hlength]
  exact h.made

end ChartScript.Bridge
