import Mathlib.Data.List.Induction
import ChartScript.Proofs.Artifact.Draft
import ChartScript.Proofs.Bridge.Pending
import ChartScript.Proofs.Data.Basic
import ChartScript.Session.Event
/-!
# The account of a session

Which calls the program of a session has issued, which of them were posted, and which wait
for a reply. While the host can be reached the posted requests are exactly the issued calls
that can be encoded, in their order, and each of them waits or was answered. When a session
reports a successful end, those that still wait were given a result by the program itself, and
every other one was answered.
-/

namespace ChartScript.Session

open Artifact (Draft)
open Message (Request IsSuccess IsPlain requestOf? replyId?)
open Script (Effect Answer)

variable {π : Type}

/-- A call that a program issues. -/
structure Issue where
  /-- The method. -/
  method : String
  /-- The parameters, if they can be encoded. -/
  params : Except Failure (List (String × Wire))

/-- The request as it arrives at the host. -/
def Issue.request? (number : Nat) (i : Issue) : Option Request :=
  match i.params with
  | .ok fields => some ⟨callId number, i.method, Wire.finiteFields fields⟩
  | .error _ => none

/-- The draft that the host makes of the call, if it accepts it as a plot. -/
def Issue.draft? (i : Issue) : Option Draft :=
  match i.params with
  | .ok fields => Draft.decode? i.method (Wire.finiteFields fields)
  | .error _ => none

/-- Whether a program is given the call, and is not told of a failure to make it instead. -/
def Issue.Given (i : Issue) : Prop :=
  ∀ f, i.params = .error f → Bridge.isConnectionLoss f.kind = true

/-- The requests that some calls, counted from a number on, are posted as. -/
def postedFrom (number : Nat) : List Issue → List Request
  | [] => []
  | i :: rest => (i.request? number).toList ++ postedFrom (number + 1) rest

/-- The requests that some calls are posted as, in their order. -/
def posted (issues : List Issue) : List Request := postedFrom 0 issues

/-- The drafts of all calls that are accepted as plots, in their order. -/
def accepted (issues : List Issue) : List Draft := issues.filterMap Issue.draft?

/-- The call that a program issues at an event. -/
def issued? (s : Session π) (e : Event) : Option Issue :=
  match e, s.phase with
  | .turn, .active (.asks (.request method params) _) => some ⟨method, params⟩
  | _, _ => none

/-- The call that a program gives a result itself at an event. -/
def fulfilled? (s : Session π) (e : Event) : Option Nat :=
  match e, s.phase with
  | .turn, .active (.asks (.query call .fulfil) _) =>
    if s.granted.contains call && (s.bridge.settlement? call).isNone then some call else none
  | _, _ => none

section Posted

/-- Different calls have different correlation ids. -/
theorem callId_injective {m n : Nat} (h : callId m = callId n) : m = n := by
  have hlist := congrArg String.toList h
  simp only [callId, String.toList_append, List.append_cancel_left_eq] at hlist
  exact toString_injective (String.toList_injective hlist)

/-- One more call is posted last. -/
theorem postedFrom_concat (number : Nat) (issues : List Issue) (i : Issue) :
    postedFrom number (issues ++ [i]) =
      postedFrom number issues ++ (i.request? (number + issues.length)).toList := by
  induction issues generalizing number with
  | nil => simp [postedFrom]
  | cons j rest ih =>
    have hn : number + 1 + rest.length = number + (j :: rest).length := by
      rw [List.length_cons]
      omega
    rw [List.cons_append, postedFrom, postedFrom, ih, hn, List.append_assoc]

/-- One more call is posted last, under the next number. -/
theorem posted_concat (issues : List Issue) (i : Issue) :
    posted (issues ++ [i]) = posted issues ++ (i.request? issues.length).toList := by
  unfold posted
  rw [postedFrom_concat, Nat.zero_add]

/-- The id of a request is that of the number of its call. -/
theorem id_of_mem_postedFrom {number : Nat} {issues : List Issue} {r : Request}
    (h : r ∈ postedFrom number issues) : ∃ k, number ≤ k ∧ k < number + issues.length ∧
      r.id = callId k := by
  induction issues generalizing number with
  | nil => cases h
  | cons i rest ih =>
    rw [postedFrom, List.mem_append] at h
    rw [List.length_cons]
    rcases h with h | h
    · refine ⟨number, Nat.le_refl _, by omega, ?_⟩
      unfold Issue.request? at h
      cases hp : i.params with
      | ok fields =>
        rw [hp] at h
        rw [Option.mem_toList.mp h |> Option.some.inj |>.symm]
      | error f =>
        rw [hp] at h
        cases h
    · obtain ⟨k, hle, hlt, hk⟩ := ih h
      exact ⟨k, by omega, by omega, hk⟩

/-- The id of a request is that of the number of its call. -/
theorem id_of_mem_posted {issues : List Issue} {r : Request} (h : r ∈ posted issues) :
    ∃ k < issues.length, r.id = callId k := by
  obtain ⟨k, -, hlt, hk⟩ := id_of_mem_postedFrom h
  exact ⟨k, by omega, hk⟩

/-- A call that can be encoded is posted. -/
theorem mem_postedFrom {number k : Nat} {issues : List Issue} {i : Issue} {r : Request}
    (hi : issues[k]? = some i) (hr : i.request? (number + k) = some r) :
    r ∈ postedFrom number issues := by
  induction issues generalizing number k with
  | nil => cases hi
  | cons j rest ih =>
    rw [postedFrom, List.mem_append]
    cases k with
    | zero =>
      cases hi
      exact .inl (Option.mem_toList.mpr hr)
    | succ k => exact .inr (ih hi (by rwa [Nat.add_right_comm]))

/-- The first ones of some requests are those of the first calls. -/
theorem exists_postedFrom_eq {number : Nat} {issues : List Issue} {first : List Request}
    (h : first <+: postedFrom number issues) : ∃ kept, kept <+: issues ∧ first = postedFrom number kept := by
  induction issues generalizing number first with
  | nil => exact ⟨[], List.prefix_refl [], List.prefix_nil.mp h⟩
  | cons i rest ih =>
    rw [postedFrom] at h
    cases hr : i.request? number with
    | none =>
      rw [hr] at h
      obtain ⟨kept, hkept, he⟩ := ih h
      refine ⟨i :: kept, List.cons_prefix_cons.mpr ⟨rfl, hkept⟩, ?_⟩
      rw [postedFrom, hr]
      exact he
    | some r =>
      rw [hr] at h
      cases first with
      | nil => exact ⟨[], List.nil_prefix, rfl⟩
      | cons q others =>
        obtain ⟨rfl, hothers⟩ := List.cons_prefix_cons.mp h
        obtain ⟨kept, hkept, he⟩ := ih hothers
        refine ⟨i :: kept, List.cons_prefix_cons.mpr ⟨rfl, hkept⟩, ?_⟩
        rw [postedFrom, hr, he]
        rfl

/-- The requests ask for the drafts that are accepted. -/
theorem filterMap_postedFrom (number : Nat) (issues : List Issue) :
    (postedFrom number issues).filterMap (fun r => Draft.decode? r.method r.params) =
      accepted issues := by
  induction issues generalizing number with
  | nil => rfl
  | cons i rest ih =>
    rw [postedFrom, List.filterMap_append, ih, accepted, accepted, List.filterMap_cons]
    unfold Issue.request? Issue.draft?
    cases i.params with
    | error f => rfl
    | ok fields =>
      dsimp only
      cases hd : Draft.decode? i.method (Wire.finiteFields fields) with
      | none => simp [hd]
      | some d => simp [hd]

/-- The requests ask for the drafts that are accepted, in their order. -/
theorem filterMap_posted (issues : List Issue) :
    (posted issues).filterMap (fun r => Draft.decode? r.method r.params) = accepted issues :=
  filterMap_postedFrom 0 issues

end Posted

/-- What holds of a session at every moment, when its program has issued some calls and given
some a result itself, and the replies to some ids are there. -/
structure Account (issues : List Issue) (own : List Nat) (answered : String → Prop) (s : Session π) :
    Prop where
  /-- The waiting calls are sound. -/
  bridge : s.bridge.Sound own
  /-- The bridge is closed only at the end. -/
  closed : s.bridge.closed = true → s.isOver = true
  /-- Every call is counted. -/
  number : s.requests = issues.length
  /-- Every call has a future. -/
  futures : s.bridge.futures.length = s.requests
  /-- A call waits under the id of its number. -/
  numbered : ∀ p ∈ s.bridge.pending, p.id = callId p.future
  /-- The program was given only calls that it has issued. -/
  granted : ∀ k ∈ s.granted, ∃ i, issues[k]? = some i ∧ i.Given
  /-- It has given a result only to calls that it was given. -/
  owned : own ⊆ s.granted
  /-- While the host can be reached every call that can be encoded was posted, in order. -/
  posted : s.connected = true → s.sent.filterMap requestOf? = posted issues
  /-- While the host can be reached every posted call waits or was answered. -/
  waiting : s.connected = true → s.bridge.closed = false → ∀ r ∈ Session.posted issues,
    (∃ p ∈ s.bridge.pending, p.id = r.id) ∨ answered r.id
  /-- Of the calls that are waited for at the end none has failed. -/
  gathering : ∀ calls, s.phase = .gathering calls none → ∀ p ∈ s.bridge.pending,
    p.future ∈ calls ∧ failureOf? (s.bridge.settlement? p.future) = none
  /-- Once a successful end was reported, everything was posted, and answered unless the program
  has given it a result itself. -/
  success : (∃ raw ∈ s.sent, IsSuccess raw) → s.isOver = true ∧
    s.sent.filterMap requestOf? = Session.posted issues ∧
    ∀ r ∈ Session.posted issues, answered r.id ∨ ∃ k ∈ own, r.id = callId k

/-- There is nothing to account for before the instruction. -/
theorem account_fresh (answered : String → Prop) : Account [] [] answered (fresh : Session π) := by
  refine ⟨Bridge.sound_empty, nofun, rfl, rfl, ?numbered, ?granted, List.Subset.refl _, fun _ => rfl,
    ?waiting, nofun, ?success⟩
  case numbered =>
    intro p hp
    cases hp
  case granted =>
    intro k hk
    cases hk
  case waiting =>
    intro _ _ r hr
    cases hr
  case success =>
    rintro ⟨raw, hm, -⟩
    cases hm

section Over

variable {s t : Session π}

/-- A session that is over is in the phase of that. -/
theorem phase_of_isOver (h : s.isOver = true) : ∃ ending, s.phase = .over ending := by
  unfold isOver at h
  split at h
  · rename_i ending hp
    exact ⟨ending, hp⟩
  · cases h

/-- A session in any other phase is not over. -/
theorem isOver_of_phase {phase : Phase π} (hp : s.phase = phase) (ho : ∀ ending, phase ≠ .over ending) :
    s.isOver = false := by
  rw [Bool.eq_false_iff]
  intro h
  obtain ⟨ending, he⟩ := phase_of_isOver h
  exact ho ending (hp.symm.trans he)

/-- A session that is over waits for no calls at its end. -/
theorem phase_ne_gathering (h : s.isOver = true) (calls : List Nat) (failure : Option Failure) :
    s.phase ≠ .gathering calls failure :=
  fun hp => absurd (h.symm.trans (isOver_of_phase hp fun _ => nofun)) nofun

/-- Whether a session is over depends on its phase only. -/
theorem isOver_congr (hp : t.phase = s.phase) : t.isOver = s.isOver := by
  unfold isOver
  rw [hp]

/-- A session that looks at messages is not over. -/
theorem isOver_of_canReceive (h : s.canReceive = true) : s.isOver = false := by
  rw [Bool.eq_false_iff]
  intro hover
  obtain ⟨ending, hp⟩ := phase_of_isOver hover
  unfold canReceive at h
  rw [hp] at h
  cases h

end Over

/-- A change of the waiting calls at which none is made, and none is dropped but for an answer. -/
structure Keeps (answered : String → Prop) (b c : Bridge) : Prop where
  /-- The bridge is open as before. -/
  closed : c.closed = b.closed
  /-- No call is made. -/
  futures : c.futures.length = b.futures.length
  /-- No call waits that did not before. -/
  fewer : ∀ p ∈ c.pending, p ∈ b.pending
  /-- A call that waits goes on waiting, or was answered. -/
  kept : ∀ p ∈ b.pending, p ∈ c.pending ∨ answered p.id

/-- Nothing changes. -/
theorem Keeps.refl (answered : String → Prop) (b : Bridge) : Keeps answered b b :=
  ⟨rfl, rfl, fun _ hp => hp, fun _ hp => .inl hp⟩

/-- A settlement leaves the calls that wait. -/
theorem Keeps.settle (answered : String → Prop) (b : Bridge) (future : Nat) (v : Settlement) :
    Keeps answered b (b.settle future v) :=
  ⟨rfl, Bridge.length_futures_settle b future v, fun _ hp => hp, fun _ hp => .inl hp⟩

/-- A delivery drops at most the call that it answers. -/
theorem Keeps.deliver {answered : String → Prop} (b : Bridge) {raw : Wire}
    (ha : ∀ id, replyId? raw = some id → answered id) : Keeps answered b (b.deliver raw).1 := by
  obtain ⟨hclosed, hold, hpending⟩ := b.deliver_pending raw
  refine ⟨hclosed, ?_, hold, fun p hp => (hpending p hp).imp_right (ha p.id)⟩
  rcases b.deliver_cases raw with he | ⟨q, -, -, he | ⟨v, he⟩⟩
  · rw [he]
  · rw [he]
    rfl
  · rw [he]
    exact Bridge.length_futures_settle _ _ _

namespace Account

variable {issues : List Issue} {own : List Nat} {answered : String → Prop} {s t : Session π}

/-- More replies may be there. -/
theorem mono (h : Account issues own answered s) {more : String → Prop}
    (hm : ∀ id, answered id → more id) : Account issues own more s := by
  refine { h with waiting := ?_, success := ?_ }
  · intro hc ho r hr
    exact (h.waiting hc ho r hr).imp_right (hm r.id)
  · intro hs
    obtain ⟨hover, hp, ha⟩ := h.success hs
    exact ⟨hover, hp, fun r hr => (ha r hr).imp_left (hm r.id)⟩

/-- The program may give a result to one more of the calls that it was given. -/
theorem own_append (h : Account issues own answered s) {call : Nat} (hk : call ∈ s.granted) :
    Account issues (own ++ [call]) answered s := by
  have hsub := List.subset_append_left own [call]
  refine { h with
    bridge := h.bridge.mono hsub
    owned := List.append_subset.mpr ⟨h.owned, fun k hm => List.mem_singleton.mp hm ▸ hk⟩
    success := fun hs => ?_ }
  obtain ⟨hover, hp, ha⟩ := h.success hs
  refine ⟨hover, hp, fun r hr => (ha r hr).imp_right ?_⟩
  rintro ⟨k, hm, hid⟩
  exact ⟨k, hsub hm, hid⟩

/-- A session that is not over has an open bridge. -/
theorem closed_eq_false (h : Account issues own answered s) (ho : s.isOver = false) :
    s.bridge.closed = false := by
  cases hc : s.bridge.closed with
  | false => rfl
  | true => exact absurd ((h.closed hc).symm.trans ho) nofun

/-- A session that is not over has not reported a successful end. -/
theorem not_isSuccess (h : Account issues own answered s) (ho : s.isOver = false) {raw : Wire}
    (hm : raw ∈ s.sent) : ¬IsSuccess raw := by
  intro hs
  exact absurd ((h.success ⟨raw, hm, hs⟩).1.symm.trans ho) nofun

/-- A session that goes on and has sent nothing keeps its account, when no call is made and no
waiting one is dropped without an answer. -/
theorem move (h : Account issues own answered s) (ho : s.isOver = false) (hb : t.bridge.Sound own)
    (hk : Keeps answered s.bridge t.bridge) (hr : t.requests = s.requests)
    (hgranted : t.granted = s.granted) (hc : t.connected = s.connected) (hs : t.sent = s.sent)
    (hg : ∀ calls, t.phase = .gathering calls none → ∀ p ∈ t.bridge.pending,
      p.future ∈ calls ∧ failureOf? (t.bridge.settlement? p.future) = none) :
    Account issues own answered t := by
  have hopen := h.closed_eq_false ho
  refine ⟨hb, ?closed, hr.trans h.number, ?futures, fun p hp => h.numbered p (hk.fewer p hp), ?granted,
    ?owned, ?posted, ?waiting, hg, ?success⟩
  case closed =>
    intro ht
    rw [hk.closed, hopen] at ht
    cases ht
  case futures => rw [hk.futures, hr, h.futures]
  case granted =>
    rw [hgranted]
    exact h.granted
  case owned =>
    rw [hgranted]
    exact h.owned
  case posted =>
    rw [hc, hs]
    exact h.posted
  case waiting =>
    intro hconnected _ r hr
    rcases h.waiting (hc ▸ hconnected) hopen r hr with ⟨p, hm, hid⟩ | ha
    · exact (hk.kept p hm).imp (fun hm => ⟨p, hm, hid⟩) fun ha => hid ▸ ha
    · exact .inr ha
  case success =>
    rintro ⟨raw, hm, hsuccess⟩
    exact absurd hsuccess (h.not_isSuccess ho (hs ▸ hm))

/-- A session that comes to another phase keeps its account. -/
theorem enter (h : Account issues own answered s) (ho : s.isOver = false) {phase : Phase π}
    (hg : ∀ calls, phase ≠ .gathering calls none) : Account issues own answered { s with phase } :=
  h.move ho h.bridge (.refl _ _) rfl rfl rfl rfl fun calls he => absurd he (hg calls)

/-- A plain message that is sent changes nothing of the account. -/
theorem say (h : Account issues own answered s) {message : Wire} (hm : IsPlain message) :
    Account issues own answered { s with sent := s.sent ++ [message] } := by
  have hposted : (s.sent ++ [message]).filterMap requestOf? = s.sent.filterMap requestOf? := by
    simp [List.filterMap_append, hm.request]
  have hsuccess : (∃ raw ∈ s.sent ++ [message], IsSuccess raw) → ∃ raw ∈ s.sent, IsSuccess raw := by
    rintro ⟨raw, hraw, hs⟩
    rcases List.mem_append.mp hraw with hraw | hraw
    · exact ⟨raw, hraw, hs⟩
    · exact absurd (List.mem_singleton.mp hraw ▸ hs) hm.success
  refine { h with posted := ?_, success := ?_ }
  · rw [hposted]
    exact h.posted
  · rw [hposted]
    exact fun hs => h.success (hsuccess hs)

/-- What sending a message makes of a session. -/
theorem send_cases (message : Wire) (s : Session π) :
    s.send message = .ok { s with sent := s.sent ++ [message] } ∧ s.connected = true ∨
      s.send message = .error .brokenPipe ∧ s.connected = false := by
  unfold send
  cases hc : s.connected with
  | true => exact .inl ⟨rfl, rfl⟩
  | false => exact .inr ⟨rfl, rfl⟩

/-- What a report makes of a session: it is over, and at most the report was sent. -/
theorem report_cases (done : Message.Done) (s : Session π) :
    (s.report done).isOver = true ∧ (s.report done).bridge = s.bridge ∧
      (s.report done).requests = s.requests ∧ (s.report done).granted = s.granted ∧
      (s.report done).connected = s.connected ∧
      ((s.report done).sent = s.sent ∨
        s.connected = true ∧ (s.report done).sent = s.sent ++ [done.view.toWire]) := by
  unfold report finish
  cases hf : s.finished with
  | true => exact ⟨rfl, rfl, rfl, rfl, rfl, .inl rfl⟩
  | false =>
    rw [if_neg Bool.false_ne_true]
    rcases send_cases done.view.toWire { s with finished := true } with ⟨he, hc⟩ | ⟨he, -⟩
    · rw [he]
      exact ⟨rfl, rfl, rfl, rfl, rfl, .inr ⟨hc, rfl⟩⟩
    · rw [he]
      exact ⟨rfl, rfl, rfl, rfl, rfl, .inl rfl⟩

/-- A closed bridge has the futures that it had, and no waiting calls. -/
theorem sound_close (own : List Nat) (b : Bridge) (reason : String) : (b.close reason).Sound own ∧
    (b.close reason).closed = true ∧ (b.close reason).futures.length = b.futures.length := by
  refine ⟨⟨List.nodup_nil, fun _ hp => absurd hp List.not_mem_nil, fun _ hp => absurd hp List.not_mem_nil⟩,
    rfl, ?_⟩
  unfold Bridge.close
  dsimp only
  generalize b.outstanding = futures
  induction futures generalizing b with
  | nil => rfl
  | cons f rest ih => exact (ih (b.settle f _)).trans (Bridge.length_futures_settle b f _)

/-- A session that ends without success keeps its account. -/
theorem finish (h : Account issues own answered s) (ho : s.isOver = false) (hover : t.isOver = true)
    (hb : t.bridge = s.bridge ∨ ∃ reason, t.bridge = s.bridge.close reason)
    (hr : t.requests = s.requests) (hgranted : t.granted = s.granted) (hc : t.connected = s.connected)
    (hs : t.sent = s.sent ∨ ∃ message, IsPlain message ∧ t.sent = s.sent ++ [message]) :
    Account issues own answered t := by
  have hplain : t.sent.filterMap requestOf? = s.sent.filterMap requestOf? ∧
      ∀ raw ∈ t.sent, ¬IsSuccess raw := by
    rcases hs with hs | ⟨message, hm, hs⟩
    · rw [hs]
      exact ⟨rfl, fun raw hraw => h.not_isSuccess ho hraw⟩
    · rw [hs]
      refine ⟨by simp [List.filterMap_append, hm.request], ?_⟩
      intro raw hraw
      rcases List.mem_append.mp hraw with hraw | hraw
      · exact h.not_isSuccess ho hraw
      · rw [List.mem_singleton.mp hraw]
        exact hm.success
  have hbridge : t.bridge.Sound own ∧ t.bridge.futures.length = s.bridge.futures.length ∧
      (∀ p ∈ t.bridge.pending, p ∈ s.bridge.pending) ∧
        (t.bridge.closed = false → t.bridge = s.bridge) := by
    rcases hb with hb | ⟨reason, hb⟩
    · rw [hb]
      exact ⟨h.bridge, rfl, fun _ hp => hp, fun _ => rfl⟩
    · obtain ⟨hsound, hclosed, hlength⟩ := sound_close own s.bridge reason
      rw [hb]
      refine ⟨hsound, hlength, fun _ hp => absurd hp List.not_mem_nil, fun hopen => ?_⟩
      rw [hclosed] at hopen
      cases hopen
  obtain ⟨hsound, hlength, hfewer, hopen⟩ := hbridge
  refine ⟨hsound, fun _ => hover, hr.trans h.number, ?futures, fun p hp => h.numbered p (hfewer p hp),
    ?granted, ?owned, ?posted, ?waiting, fun calls he => absurd he (phase_ne_gathering hover calls none),
    ?success⟩
  case futures => rw [hlength, hr, h.futures]
  case granted =>
    rw [hgranted]
    exact h.granted
  case owned =>
    rw [hgranted]
    exact h.owned
  case posted =>
    rw [hc, hplain.1]
    exact h.posted
  case waiting =>
    intro hconnected hstill
    have hsame := hopen hstill
    rw [hsame] at hstill ⊢
    exact h.waiting (hc ▸ hconnected) hstill
  case success =>
    rintro ⟨raw, hraw, hsuccess⟩
    exact absurd hsuccess (hplain.2 raw hraw)

/-- A failed session keeps its account. -/
theorem fail (h : Account issues own answered s) (ho : s.isOver = false) (f : Failure) :
    Account issues own answered (Session.fail f s) := by
  unfold Session.fail
  split
  · exact h.finish ho rfl (.inr ⟨_, rfl⟩) rfl rfl rfl (.inl rfl)
  · obtain ⟨hover, hb, hr, hgranted, hc, hs⟩ := report_cases ⟨some f.describe, none⟩ s.close
    refine h.finish ho hover (.inr ⟨_, hb⟩) hr hgranted hc ?_
    rcases hs with hs | ⟨-, hs⟩
    · exact .inl hs
    · exact .inr ⟨_, Message.isPlain_done (.inl (Option.some_ne_none _)), hs⟩

/-- A session that breaks off keeps its account. -/
theorem breakOff (h : Account issues own answered s) (ho : s.isOver = false) (obstacle : Failure) :
    Account issues own answered (Session.breakOff obstacle s) :=
  h.finish ho rfl (.inr ⟨_, rfl⟩) rfl rfl rfl (.inl rfl)

/-- A session that ends well keeps its account, when the program has given a result itself to every
call that still waits. -/
theorem succeed (h : Account issues own answered s) (ho : s.isOver = false)
    (hp : ∀ p ∈ s.bridge.pending, p.future ∈ own) :
    Account issues own answered (Session.succeed s) := by
  obtain ⟨hover, hb, hr, hgranted, hc, hs⟩ := report_cases ⟨none, none⟩ s.close
  change (Session.succeed s).isOver = true at hover
  change (Session.succeed s).bridge = s.bridge.close _ at hb
  change (Session.succeed s).requests = s.requests at hr
  change (Session.succeed s).granted = s.granted at hgranted
  change (Session.succeed s).connected = s.connected at hc
  rcases hs with hs | ⟨hconnected, hs⟩
  · exact h.finish ho hover (.inr ⟨_, hb⟩) hr hgranted hc (.inl hs)
  · have hposted : (Session.succeed s).sent.filterMap requestOf? = s.sent.filterMap requestOf? := by
      have hnone : requestOf? (Message.Done.view ⟨none, none⟩).toWire = none := rfl
      unfold Session.succeed
      rw [hs]
      simp [List.filterMap_append, hnone, close]
    have hpost := h.posted hconnected
    obtain ⟨hsound, hclosed, hlength⟩ := sound_close own s.bridge Bridge.defaultReason
    rw [← hb] at hsound hclosed hlength
    refine ⟨hsound, fun _ => hover, hr.trans h.number, ?futures, ?numbered, ?granted, ?owned, ?posted,
      ?waiting, ?gathering, ?success⟩
    case futures => rw [hlength, hr, h.futures]
    case numbered =>
      intro p hm
      rw [hb] at hm
      cases hm
    case granted =>
      rw [hgranted]
      exact h.granted
    case owned =>
      rw [hgranted]
      exact h.owned
    case posted =>
      intro _
      rw [hposted, hpost]
    case waiting =>
      intro _ hopen
      rw [hclosed] at hopen
      cases hopen
    case gathering => exact fun calls he => absurd he (phase_ne_gathering hover calls none)
    case success =>
      intro _
      refine ⟨hover, hposted.trans hpost, ?_⟩
      -- what still waits is the program's own, so that everything else was answered
      intro r hr
      rcases h.waiting hconnected (h.closed_eq_false ho) r hr with ⟨p, hm, hid⟩ | ha
      · exact .inr ⟨p.future, hp p hm, hid.symm.trans (h.numbered p hm)⟩
      · exact .inl ha

/-- A program that goes on keeps the account. -/
theorem goOn (h : Account issues own answered s) (ho : s.isOver = false) (p : Program π) (rest : π)
    (a : Answer) : Account issues own answered (Session.goOn p rest a s) :=
  h.enter ho fun _ => nofun

/-- What an issued call makes of a session with an open bridge. -/
structure Requested (method : String) (params : Except Failure (List (String × Wire)))
    (s t : Session π) : Prop where
  /-- Only the calls, their count and what was sent are not as before. -/
  rest : t = { s with
    bridge := t.bridge, requests := s.requests + 1, granted := t.granted, sent := t.sent }
  /-- The bridge was called. -/
  called : ∃ message post, t.bridge = (s.bridge.call (callId s.requests) message post).1
  /-- The bridge is open. -/
  closed : t.bridge.closed = false
  /-- There is one more future. -/
  futures : t.bridge.futures.length = s.bridge.futures.length + 1
  /-- The program was given at most the new call. -/
  granted : t.granted = s.granted ∨
    t.granted = s.bridge.futures.length :: s.granted ∧ Issue.Given ⟨method, params⟩
  /-- The calls that wait go on waiting. -/
  kept : ∀ q ∈ s.bridge.pending, q.id ≠ callId s.requests → q ∈ t.bridge.pending
  /-- At most the new call waits beside them. -/
  new : ∀ q ∈ t.bridge.pending, q ∈ s.bridge.pending ∨ q = ⟨callId s.requests, s.bridge.futures.length⟩
  /-- The request was sent and waits, or nothing was sent because it cannot be encoded or the host
  cannot be reached. -/
  sent : (∃ fields, params = .ok fields ∧ (∃ q ∈ t.bridge.pending, q.id = callId s.requests) ∧
      t.sent = s.sent ++ [(Request.view ⟨callId s.requests, method, fields⟩).toWire]) ∨
    t.sent = s.sent ∧ (s.connected = true → ∃ f, params = .error f)

/-- A call on an open bridge gives its new future, if it gives one, and then at most a lost connection
has come in the way of its message. -/
theorem future_of_call {b : Bridge} (hopen : b.closed = false) {id : String}
    {message : Except Failure Wire} {post : Wire → Bridge.Posting} {future : Nat}
    (h : (b.call id message post).2.2 = .ok future) : future = b.futures.length ∧
      ∀ f, message = .error f → Bridge.isConnectionLoss f.kind = true := by
  have hconclude : ∀ (c : Bridge) (k : Nat) (f : Failure),
      (c.conclude id k (.failed f)).2 = .ok future → future = k ∧ Bridge.isConnectionLoss f.kind = true := by
    intro c k f hc
    unfold Bridge.conclude at hc
    dsimp only at hc
    split at hc
    · rename_i hloss
      cases hc
      exact ⟨rfl, hloss⟩
    · cases hc
  unfold Bridge.call Bridge.register at h
  simp only [hopen, Bool.false_eq_true, if_false] at h
  split at h
  · obtain ⟨hfuture, hloss⟩ := hconclude _ _ _ h
    refine ⟨hfuture, ?_⟩
    rintro f ⟨rfl⟩
    exact hloss
  · refine ⟨?_, nofun⟩
    split at h
    · cases h
      rfl
    · exact (hconclude _ _ _ h).1

/-- A call on an open bridge adds one future and at most its own entry to those that wait, and drops no
other one. -/
theorem frame_of_call {b : Bridge} (hopen : b.closed = false) (id : String)
    (message : Except Failure Wire) (post : Wire → Bridge.Posting) :
    (b.call id message post).1.closed = false ∧
      (b.call id message post).1.futures.length = b.futures.length + 1 ∧
      (∀ q ∈ b.pending, q.id ≠ id → q ∈ (b.call id message post).1.pending) ∧
      ∀ q ∈ (b.call id message post).1.pending, q ∈ b.pending ∨ q = ⟨id, b.futures.length⟩ := by
  have hlength : (b.waiting id).futures.length = b.futures.length + 1 := List.length_append
  have hnew : ∀ q ∈ (b.waiting id).pending, q ∈ b.pending ∨ q = ⟨id, b.futures.length⟩ := by
    intro q hq
    have hpending : (b.waiting id).pending = b.pending ++ [⟨id, b.futures.length⟩] := rfl
    rw [hpending] at hq
    exact (List.mem_append.mp hq).imp_right List.mem_singleton.mp
  have hleaves : (b.call id message post).1 = b.waiting id ∨ ∃ f,
      (b.call id message post).1 = ((b.waiting id).forget id).settle b.futures.length (.error f) := by
    rcases Bridge.call_cases hopen id message post with ⟨w, -, -, hb, -⟩ | ⟨-, hb, -⟩
    · exact .inl hb
    · exact hb
  rcases hleaves with hb | ⟨f, hb⟩
  · rw [hb]
    exact ⟨hopen, hlength, fun q hq _ => List.mem_append_left _ hq, hnew⟩
  · rw [hb]
    refine ⟨hopen, (Bridge.length_futures_settle _ _ _).trans hlength, ?_,
      fun q hq => hnew q (List.mem_of_mem_filter hq)⟩
    intro q hq hne
    exact List.mem_filter.mpr ⟨List.mem_append_left _ hq, by simpa using hne⟩

/-- What an issued call makes of a session with an open bridge. -/
theorem requested (hopen : s.bridge.closed = false) (method : String)
    (params : Except Failure (List (String × Wire))) :
    Requested method params s (Session.request method params s).1 := by
  let message := params.bind fun fields =>
    Bridge.encode (callId s.requests) (.text method) (.object fields)
  let post (_ : Wire) : Bridge.Posting := if s.connected then .posted else .failed .brokenPipe
  let called := s.bridge.call (callId s.requests) message post
  have hmessage : ∀ fields, params = .ok fields →
      message = .ok (Request.view ⟨callId s.requests, method, fields⟩).toWire := by
    rintro fields rfl
    exact Message.encode_eq (callId s.requests) method fields
  have hstate : (Session.request method params s).1 =
      { s with
        bridge := called.1
        requests := s.requests + 1
        granted := called.2.2.toOption.toList ++ s.granted
        sent := s.sent ++ called.2.1.toList } := rfl
  have hgranted : called.2.2.toOption.toList ++ s.granted = s.granted ∨
      called.2.2.toOption.toList ++ s.granted = s.bridge.futures.length :: s.granted ∧
        Issue.Given ⟨method, params⟩ := by
    cases hresult : called.2.2 with
    | error f => exact .inl rfl
    | ok future =>
      obtain ⟨hfuture, hloss⟩ := future_of_call hopen hresult
      refine .inr ⟨congrArg (· :: s.granted) hfuture, ?_⟩
      rintro f (rfl : params = .error f)
      exact hloss f rfl
  have hsent : (∃ fields, params = .ok fields ∧ (∃ q ∈ called.1.pending, q.id = callId s.requests) ∧
      called.2.1 = some (Request.view ⟨callId s.requests, method, fields⟩).toWire) ∨
        called.2.1 = none ∧ (s.connected = true → ∃ f, params = .error f) := by
    rcases Bridge.call_cases hopen (callId s.requests) message post with
      ⟨w, he, -, hb, hw⟩ | ⟨hw, -, hfailed⟩
    · cases hparams : params with
      | error f =>
        have herror : message = .error f := by
          unfold message
          rw [hparams]
          rfl
        rw [herror] at he
        cases he
      | ok fields =>
        rw [hmessage fields hparams] at he
        cases he
        refine .inl ⟨fields, rfl, ⟨⟨callId s.requests, s.bridge.futures.length⟩, ?_, rfl⟩, hw⟩
        change called.1 = _ at hb
        rw [hb]
        exact List.mem_append_right _ (List.mem_singleton_self _)
    · refine .inr ⟨hw, fun hc => ?_⟩
      cases hparams : params with
      | error f => exact ⟨f, rfl⟩
      | ok fields =>
        obtain ⟨f, hf⟩ := hfailed _ (hmessage fields hparams)
        have hpost : post (Request.view ⟨callId s.requests, method, fields⟩).toWire = .posted :=
          if_pos hc
        rw [hpost] at hf
        cases hf
  obtain ⟨hclosed, hlength, hkept, hnew⟩ := frame_of_call hopen (callId s.requests) message post
  rw [hstate]
  refine ⟨rfl, ⟨message, post, rfl⟩, hclosed, hlength, hgranted, hkept, hnew, ?_⟩
  rcases hsent with ⟨fields, hparams, hwaits, hw⟩ | ⟨hw, hsilent⟩
  · rw [hw]
    exact .inl ⟨fields, hparams, hwaits, rfl⟩
  · rw [hw]
    exact .inr ⟨List.append_nil _, hsilent⟩

section Requested

variable {method : String} {params : Except Failure (List (String × Wire))}

/-- Where the host can be reached, an issued call is sent and waits exactly if it can be encoded. -/
theorem posted_of_requested (h : Account issues own answered s) (hcalled : Requested method params s t)
    (hc : s.connected = true) :
    t.sent.filterMap requestOf? = Session.posted (issues ++ [⟨method, params⟩]) ∧
      ∀ r ∈ ((⟨method, params⟩ : Issue).request? issues.length).toList,
        ∃ q ∈ t.bridge.pending, q.id = r.id := by
  rw [posted_concat, ← h.posted hc, ← h.number]
  rcases hcalled.sent with ⟨fields, rfl, hq, hsent⟩ | ⟨hsent, herror⟩
  · refine ⟨?_, ?_⟩
    · rw [hsent, List.filterMap_append, List.filterMap_cons, Message.requestOf_view]
      rfl
    · intro r hr
      cases List.mem_singleton.mp hr
      exact hq
  · obtain ⟨f, rfl⟩ := herror hc
    rw [hsent]
    exact ⟨(List.append_nil _).symm, fun r hr => absurd hr List.not_mem_nil⟩

/-- An issued call reports no end. -/
theorem not_isSuccess_of_requested (h : Account issues own answered s) (ho : s.isOver = false)
    (hcalled : Requested method params s t) : ∀ raw ∈ t.sent, ¬IsSuccess raw := by
  intro raw hraw
  rcases hcalled.sent with ⟨fields, -, -, hsent⟩ | ⟨hsent, -⟩
  · rw [hsent] at hraw
    rcases List.mem_append.mp hraw with hraw | hraw
    · exact h.not_isSuccess ho hraw
    · rw [List.mem_singleton.mp hraw]
      exact Message.not_isSuccess_view _
  · rw [hsent] at hraw
    exact h.not_isSuccess ho hraw

/-- The program was given no calls but issued ones. -/
theorem granted_of_requested (h : Account issues own answered s) (hcalled : Requested method params s t) :
    ∀ k ∈ t.granted, ∃ i, (issues ++ [⟨method, params⟩])[k]? = some i ∧ i.Given := by
  have hkept : ∀ k ∈ s.granted, ∃ i, (issues ++ [⟨method, params⟩])[k]? = some i ∧ i.Given := by
    intro k hk
    obtain ⟨i, hi, hgiven⟩ := h.granted k hk
    have hlt := (List.getElem?_eq_some_iff.mp hi).1
    exact ⟨i, (List.getElem?_append_left hlt).trans hi, hgiven⟩
  intro k hk
  rcases hcalled.granted with hg | ⟨hg, hgiven⟩
  · exact hkept k (hg ▸ hk)
  · rcases List.mem_cons.mp (hg ▸ hk) with rfl | hk
    · refine ⟨_, ?_, hgiven⟩
      rw [h.futures, h.number]
      exact List.getElem?_concat_length
    · exact hkept k hk

/-- The calls that waited go on waiting when another one is issued, but for those answered. -/
theorem waiting_of_requested (h : Account issues own answered s) (hcalled : Requested method params s t)
    (hc : s.connected = true) (hopen : s.bridge.closed = false) {r : Request}
    (hr : r ∈ Session.posted issues) : (∃ q ∈ t.bridge.pending, q.id = r.id) ∨ answered r.id := by
  rcases h.waiting hc hopen r hr with ⟨q, hq, hid⟩ | ha
  · refine .inl ⟨q, hcalled.kept q hq ?_, hid⟩
    -- the ids of earlier calls are different from the new one
    intro he
    obtain ⟨k, hlt, hk⟩ := id_of_mem_posted hr
    have hke := callId_injective (hk.symm.trans (hid.symm.trans he))
    have hn := h.number
    omega
  · exact .inr ha

end Requested

/-- A call that is issued is entered in the account. -/
theorem request (h : Account issues own answered s) (ho : s.isOver = false) (p : Program π) (rest : π)
    (method : String) (params : Except Failure (List (String × Wire))) (a : Answer) :
    Account (issues ++ [⟨method, params⟩]) own answered
      (Session.goOn p rest a (Session.request method params s).1) := by
  have hopen := h.closed_eq_false ho
  have hcalled := requested hopen method params
  generalize (Session.request method params s).1 = t at hcalled ⊢
  obtain ⟨message, post, hbridge⟩ := hcalled.called
  have hsound : t.bridge.Sound own := hbridge ▸ h.bridge.call hopen _ message post
  have hconnected : t.connected = s.connected := by rw [hcalled.rest]
  have hrequests : t.requests = s.requests + 1 := by rw [hcalled.rest]
  refine ⟨hsound, ?closed, ?number, ?futures, ?numbered, ?granted, ?owned,
    fun hc => (h.posted_of_requested hcalled (hconnected ▸ hc)).1, ?waiting, nofun, ?success⟩
  case closed =>
    intro hc
    exact absurd (hcalled.closed.symm.trans hc) nofun
  case number =>
    change t.requests = (issues ++ [_]).length
    rw [List.length_append, hrequests, h.number]
    rfl
  case futures =>
    change t.bridge.futures.length = t.requests
    rw [hcalled.futures, hrequests, h.futures]
  case numbered =>
    intro q hq
    rcases hcalled.new q hq with hq | rfl
    · exact h.numbered q hq
    · exact congrArg callId h.futures.symm
  case granted => exact fun k hk => h.granted_of_requested hcalled k hk
  case owned =>
    change own ⊆ t.granted
    rcases hcalled.granted with hg | ⟨hg, -⟩
    · rw [hg]
      exact h.owned
    · rw [hg]
      exact List.Subset.trans h.owned (List.subset_cons_self _ _)
  case waiting =>
    intro hc _ r hr
    change t.connected = true at hc
    rw [hconnected] at hc
    rw [posted_concat, List.mem_append] at hr
    rcases hr with hr | hr
    · exact h.waiting_of_requested hcalled hc hopen hr
    · exact .inl ((h.posted_of_requested hcalled hc).2 r hr)
  case success =>
    rintro ⟨raw, hraw, hsuccess⟩
    exact absurd hsuccess (h.not_isSuccess_of_requested ho hcalled raw hraw)

end Account

end ChartScript.Session
