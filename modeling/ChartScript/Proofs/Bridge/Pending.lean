import Mathlib.Data.List.Nodup
import ChartScript.Proofs.Message.Transit
/-!
# Calls that wait

The table of waiting calls of a bridge. Every waiting call has a future of its own. A reply
settles it and takes it from the table, so that a call that waits and has a result was given
it by its owner. What a call, a delivery and a settlement make of the table is said once here.
-/

namespace ChartScript.Bridge

open Message (replyId?)

/-- What holds of the waiting calls at every moment, when their owner has settled some futures
itself. -/
structure Sound (own : List Nat) (b : Bridge) : Prop where
  /-- No two of them have the same future. -/
  distinct : b.outstanding.Nodup
  /-- Every one has a future. -/
  bound : ∀ p ∈ b.pending, p.future < b.futures.length
  /-- One that has come to a result was given it by the owner. -/
  given : ∀ p ∈ b.pending, ∀ w, b.settlement? p.future = some (.ok w) → p.future ∈ own

variable {own : List Nat}

/-- There is no call before the first one. -/
theorem sound_empty : empty.Sound own :=
  ⟨List.nodup_nil, fun _ h => absurd h List.not_mem_nil, fun _ h => absurd h List.not_mem_nil⟩

/-- A future is settled once, and the others stay as they are. -/
theorem settlement?_settle (b : Bridge) (future other : Nat) (v : Settlement) :
    (b.settle future v).settlement? other =
      if other = future ∧ other < b.futures.length then some ((b.settlement? other).getD v)
      else b.settlement? other := by
  unfold settle settlement?
  dsimp only
  rw [List.getElem?_mapIdx]
  by_cases hlt : other < b.futures.length
  · rw [List.getElem?_eq_getElem hlt]
    by_cases ho : other = future
    · subst ho
      simp [hlt]
    · simp [ho]
  · rw [List.getElem?_eq_none (by omega)]
    simp [hlt]

/-- A future has a result after a settlement if it had it before, or by the settlement. -/
theorem result_of_settlement?_settle {b : Bridge} {future other : Nat} {v : Settlement} {w : Wire}
    (h : (b.settle future v).settlement? other = some (.ok w)) :
    b.settlement? other = some (.ok w) ∨ other = future ∧ v = .ok w := by
  rw [settlement?_settle] at h
  split at h
  · rename_i ho
    cases hs : b.settlement? other with
    | none =>
      rw [hs] at h
      exact .inr ⟨ho.1, by simpa using h⟩
    | some s =>
      rw [hs] at h
      exact .inl h
  · exact .inl h

/-- A settlement makes no future. -/
@[simp] theorem length_futures_settle (b : Bridge) (future : Nat) (v : Settlement) :
    (b.settle future v).futures.length = b.futures.length := List.length_mapIdx

/-- Settling a future keeps the waiting calls sound, unless a waiting call is given a result that
is not the owner's. -/
theorem Sound.settle_of {b : Bridge} (h : b.Sound own) {future : Nat} {v : Settlement}
    (hf : ∀ w, v = .ok w → future ∈ b.outstanding → future ∈ own) : (b.settle future v).Sound own := by
  refine ⟨h.distinct, fun p hp => ?_, fun p hp w hw => ?_⟩
  · rw [length_futures_settle]
    exact h.bound p hp
  · rcases result_of_settlement?_settle hw with hw | ⟨he, hv⟩
    · exact h.given p hp w hw
    · have hmem : p.future ∈ b.outstanding := List.mem_map_of_mem hp
      rw [he] at hmem ⊢
      exact hf w hv hmem

/-- Settling a future with a failure keeps the waiting calls sound. -/
theorem Sound.settle_error {b : Bridge} (h : b.Sound own) (future : Nat) (f : Failure) :
    (b.settle future (.error f)).Sound own := h.settle_of nofun

/-- Settling a future for which no call waits keeps the waiting calls sound. -/
theorem Sound.settle {b : Bridge} (h : b.Sound own) {future : Nat} (v : Settlement)
    (hf : future ∉ b.outstanding) : (b.settle future v).Sound own :=
  h.settle_of fun _ _ hm => absurd hm hf

/-- The owner may have settled more. -/
theorem Sound.mono {b : Bridge} (h : b.Sound own) {more : List Nat} (hm : own ⊆ more) :
    b.Sound more :=
  ⟨h.distinct, h.bound, fun p hp w hw => hm (h.given p hp w hw)⟩

/-- Fewer waiting calls are sound. -/
theorem Sound.forget {b : Bridge} (h : b.Sound own) (id : String) : (b.forget id).Sound own := by
  refine ⟨?_, fun p hp => h.bound p (List.mem_of_mem_filter hp), fun p hp =>
    h.given p (List.mem_of_mem_filter hp)⟩
  exact h.distinct.sublist (List.Sublist.map _ List.filter_sublist)

/-- A forgotten call has a future of its own. -/
theorem Sound.notMem_forget {b : Bridge} (h : b.Sound own) {p : PendingCall} (hp : p ∈ b.pending) :
    p.future ∉ (b.forget p.id).outstanding := by
  intro hm
  obtain ⟨q, hq, hf⟩ := List.mem_map.mp hm
  have hqb : q ∈ b.pending := List.mem_of_mem_filter hq
  have hqp : q = p := List.inj_on_of_nodup_map h.distinct hqb hp hf
  have hid := (List.mem_filter.mp hq).2
  rw [hqp] at hid
  simp at hid

/-- The bridge with one more waiting call, whose future is new. -/
def waiting (b : Bridge) (id : String) : Bridge :=
  { b with
    pending := b.pending ++ [⟨id, b.futures.length⟩]
    futures := b.futures ++ [none] }

/-- A new future takes nothing from the others. -/
theorem settlement?_waiting (b : Bridge) (id : String) (other : Nat) :
    (b.waiting id).settlement? other = b.settlement? other := by
  unfold settlement? waiting
  dsimp only
  rw [List.getElem?_append]
  split
  · rfl
  · rename_i hlt
    have hnone : b.futures[other]? = none := List.getElem?_eq_none (by omega)
    rw [hnone]
    rcases other - b.futures.length with _ | n <;> rfl

/-- One more waiting call is sound. -/
theorem Sound.waiting {b : Bridge} (h : b.Sound own) (id : String) : (b.waiting id).Sound own := by
  refine ⟨?_, ?_, ?_⟩
  · have hout : (b.waiting id).outstanding = b.outstanding ++ [b.futures.length] := by
      simp [outstanding, Bridge.waiting]
    rw [hout, List.nodup_append]
    refine ⟨h.distinct, List.nodup_singleton _, ?_⟩
    rintro f hf g hg rfl
    obtain ⟨p, hp, rfl⟩ := List.mem_map.mp hf
    have hb := h.bound p hp
    have he := List.mem_singleton.mp hg
    omega
  · intro p hp
    have hlength : (b.waiting id).futures.length = b.futures.length + 1 := by simp [Bridge.waiting]
    rw [hlength]
    rcases List.mem_append.mp hp with hp | hp
    · have hb := h.bound p hp
      omega
    · rw [List.mem_singleton.mp hp]
      exact Nat.lt_succ_self _
  · intro p hp w
    rw [settlement?_waiting]
    rcases List.mem_append.mp hp with hp | hp
    · exact h.given p hp w
    · rw [List.mem_singleton.mp hp, settlement?, List.getElem?_eq_none (Nat.le_refl _)]
      exact nofun

/-- What a call makes of an open bridge: its message goes out and it waits, or nothing goes
out and it waits for ever or fails. -/
theorem call_cases {b : Bridge} (hb : b.closed = false) (id : String) (message : Except Failure Wire)
    (post : Wire → Posting) :
    (∃ w, message = .ok w ∧ post w = .posted ∧ (b.call id message post).1 = b.waiting id ∧
        (b.call id message post).2.1 = some w) ∨
      (b.call id message post).2.1 = none ∧
        ((b.call id message post).1 = b.waiting id ∨ ∃ f, (b.call id message post).1 =
          ((b.waiting id).forget id).settle b.futures.length (.error f)) ∧
        (∀ w, message = .ok w → ∃ f, post w = .failed f) := by
  have hregister : b.register id = (b.waiting id, b.futures.length) := by
    have hopen : ¬b.closed = true := by
      rw [hb]
      exact Bool.false_ne_true
    unfold register
    rw [if_neg hopen]
    rfl
  have hconclude : ∀ f, ((b.waiting id).conclude id b.futures.length (.failed f)).1 = b.waiting id ∨
      ∃ g, ((b.waiting id).conclude id b.futures.length (.failed f)).1 =
        ((b.waiting id).forget id).settle b.futures.length (.error g) := by
    intro f
    unfold conclude
    dsimp only
    split
    · exact .inr ⟨_, rfl⟩
    · exact .inl rfl
  unfold call
  rw [hregister, hb]
  dsimp only
  rw [if_neg Bool.false_ne_true]
  cases message with
  | error f => exact .inr ⟨rfl, hconclude f, nofun⟩
  | ok w =>
    dsimp only
    cases hp : post w with
    | posted => exact .inl ⟨w, rfl, hp, rfl, rfl⟩
    | failed f =>
      refine .inr ⟨rfl, hconclude f, ?_⟩
      rintro v ⟨rfl⟩
      exact ⟨f, hp⟩

/-- A call posts nothing but its message. -/
theorem posted_of_call {b : Bridge} {id : String} {message : Except Failure Wire}
    {post : Wire → Posting} {w : Wire} (h : (b.call id message post).2.1 = some w) :
    message = .ok w ∧ post w = .posted := by
  unfold call at h
  dsimp only at h
  split at h
  · cases h
  · split at h
    · cases h
    · split at h
      · rename_i hp
        cases h
        exact ⟨rfl, hp⟩
      · cases h

/-- A call keeps the waiting calls sound. -/
theorem Sound.call {b : Bridge} (h : b.Sound own) (hb : b.closed = false) (id : String)
    (message : Except Failure Wire) (post : Wire → Posting) :
    (b.call id message post).1.Sound own := by
  rcases call_cases hb id message post with ⟨w, -, -, he, -⟩ | ⟨-, he | ⟨f, he⟩, -⟩
  · rw [he]
    exact h.waiting id
  · rw [he]
    exact h.waiting id
  · rw [he]
    exact ((h.waiting id).forget id).settle_error _ f

/-- What a delivery makes of a bridge: nothing, or the waiting call of the id is taken from
the table, and its future is settled if the reply makes sense. -/
theorem deliver_cases (b : Bridge) (raw : Wire) :
    (b.deliver raw).1 = b ∨ ∃ p ∈ b.pending, replyId? raw = some p.id ∧
      ((b.deliver raw).1 = b.forget p.id ∨
        ∃ v, (b.deliver raw).1 = (b.forget p.id).settle p.future v) := by
  unfold deliver
  split
  · rename_i fields
    split
    · rename_i hmark
      dsimp only
      split
      · exact .inl rfl
      · rename_i p hp
        have hid : p.id = ((Assoc.get? fields "id").getD .null).display := by
          simpa using List.find?_some hp
        have hreply : replyId? (.object fields) = some p.id := by
          unfold replyId?
          dsimp only
          rw [if_pos hmark, hid]
        refine .inr ⟨p, List.mem_of_find?_eq_some hp, hreply, ?_⟩
        split
        · exact .inr ⟨_, rfl⟩
        · split
          · exact .inr ⟨_, rfl⟩
          · exact .inl rfl
    · exact .inl rfl
  · exact .inl rfl

/-- A delivery keeps the waiting calls sound. -/
theorem Sound.deliver {b : Bridge} (h : b.Sound own) (raw : Wire) : (b.deliver raw).1.Sound own := by
  rcases b.deliver_cases raw with he | ⟨p, hp, -, he | ⟨v, he⟩⟩
  · rw [he]
    exact h
  · rw [he]
    exact h.forget p.id
  · rw [he]
    exact (h.forget p.id).settle v (h.notMem_forget hp)

/-- A delivery takes at most the calls of the id of the reply from the table. -/
theorem deliver_pending (b : Bridge) (raw : Wire) :
    (b.deliver raw).1.closed = b.closed ∧
      (∀ p ∈ (b.deliver raw).1.pending, p ∈ b.pending) ∧
      ∀ p ∈ b.pending, p ∈ (b.deliver raw).1.pending ∨ replyId? raw = some p.id := by
  have hforget : ∀ q : PendingCall, replyId? raw = some q.id →
      (∀ p ∈ (b.forget q.id).pending, p ∈ b.pending) ∧
        ∀ p ∈ b.pending, p ∈ (b.forget q.id).pending ∨ replyId? raw = some p.id := by
    intro q hid
    refine ⟨fun p hp => List.mem_of_mem_filter hp, fun p hp => ?_⟩
    by_cases hpq : p.id = q.id
    · exact .inr (hpq ▸ hid)
    · exact .inl (List.mem_filter.mpr ⟨hp, by simpa using hpq⟩)
  rcases b.deliver_cases raw with he | ⟨q, -, hid, he | ⟨v, he⟩⟩
  · rw [he]
    exact ⟨rfl, fun _ hp => hp, fun _ hp => .inl hp⟩
  · rw [he]
    exact ⟨rfl, hforget q hid⟩
  · rw [he]
    exact ⟨rfl, hforget q hid⟩

end ChartScript.Bridge
