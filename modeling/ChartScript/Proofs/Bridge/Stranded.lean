import ChartScript.Proofs.Bridge.Correlation
/-!
# Calls that nobody was asked for

A call is entered in the table of a bridge before its request is made and handed to what posts
it. A lost connection takes it out of the table again. Whatever else comes in the way is
raised to the caller and leaves the entry behind, so that the bridge waits for the reply to a
request that never went out. Over the life of a bridge these are the only calls that wait
without a request, and only a reply that nobody was asked for takes them from the table.
-/

namespace ChartScript.Bridge

open Message (Request replyId? requestOf?)

/-- What came of asking for a call: the message that went out, or what came in the way. -/
def dispatch (message : Except Failure Wire) (post : Wire → Posting) : Except Failure Wire :=
  message.bind fun w =>
    match post w with
    | .posted => .ok w
    | .failed f => .error f

/-- The message of a call whose method and parameters may be anything. -/
def compose (id : String) (method : Wire) (params : Except Failure Wire) : Except Failure Wire :=
  params.bind (encode id method)

/-- The id of the call that a message asks for. -/
def askedId? (raw : Wire) : Option String := (requestOf? raw).map Request.id

/-- Whether a call is all or nothing. If it raises, the table of waiting calls is as before. If
it gives a future that is not settled, its message went out and it waits under its id. -/
structure AllOrNothing (b : Bridge) (id : String) (message : Except Failure Wire)
    (post : Wire → Posting) : Prop where
  /-- Nothing waits that did not before. -/
  nothing : ∀ f, (b.call id message post).2.2 = .error f →
    (b.call id message post).1.pending = b.pending
  /-- The message went out, and the call waits. -/
  all : ∀ future, (b.call id message post).2.2 = .ok future →
    (b.call id message post).1.settlement? future = none →
    ∃ w, message = .ok w ∧ post w = .posted ∧ (b.call id message post).2.1 = some w ∧
      (b.call id message post).1.pending = b.pending ++ [⟨id, future⟩]

section Call

variable {b : Bridge} {id : String} {message : Except Failure Wire} {post : Wire → Posting}

/-- A message goes out when it could be made and is posted. -/
theorem dispatch_eq_ok {w : Wire} : dispatch message post = .ok w ↔ message = .ok w ∧ post w = .posted := by
  unfold dispatch
  cases message with
  | error f => exact ⟨nofun, nofun⟩
  | ok v =>
    change (match post v with | .posted => Except.ok v | .failed f => Except.error f) = .ok w ↔ _
    cases hp : post v with
    | posted =>
      constructor
      · rintro ⟨⟩
        exact ⟨rfl, hp⟩
      · rintro ⟨⟨⟩, -⟩
        rfl
    | failed f =>
      refine ⟨nofun, ?_⟩
      rintro ⟨⟨⟩, hposted⟩
      cases hp.symm.trans hposted

/-- A call of an open bridge is entered in its table before it is known what comes of it. -/
theorem call_eq_dispatch (hb : b.closed = false) :
    b.call id message post =
      match dispatch message post with
      | .ok w => (b.waiting id, some w, .ok b.futures.length)
      | .error f =>
        (((b.waiting id).conclude id b.futures.length (.failed f)).1, none,
          ((b.waiting id).conclude id b.futures.length (.failed f)).2) := by
  obtain ⟨pending, futures, closed⟩ := b
  change closed = false at hb
  subst hb
  cases message with
  | error f => rfl
  | ok w =>
    have hdispatch : dispatch (.ok w) post =
        match post w with
        | .posted => .ok w
        | .failed f => .error f := rfl
    rw [call_of_open rfl, hdispatch]
    cases post w <;> rfl

/-- A call whose message goes out waits. -/
theorem call_of_dispatched (hb : b.closed = false) {w : Wire} (hd : dispatch message post = .ok w) :
    b.call id message post = (b.waiting id, some w, .ok b.futures.length) := by
  rw [call_eq_dispatch hb, hd]

/-- A call under a fresh id whose connection is lost is rejected, and does not wait. -/
theorem call_of_lost (hb : b.closed = false) (hid : id ∉ b.pendingIds) {f : Failure}
    (hd : dispatch message post = .error f) (hf : isConnectionLoss f.kind = true) :
    b.call id message post = (b.decided (.error (lostFailure f)), none, .ok b.futures.length) := by
  rw [call_eq_dispatch hb, hd]
  unfold conclude
  dsimp only
  rw [if_pos hf, settle_forget_waiting hid]

/-- Any other failure is raised, and the call waits although nothing went out. -/
theorem call_of_stranded (hb : b.closed = false) {f : Failure}
    (hd : dispatch message post = .error f) (hf : isConnectionLoss f.kind = false) :
    b.call id message post = (b.waiting id, none, .error f) := by
  have hkept : ¬isConnectionLoss f.kind = true := by
    rw [hf]
    exact Bool.false_ne_true
  rw [call_eq_dispatch hb, hd]
  unfold conclude
  dsimp only
  rw [if_neg hkept]

/-- A call on a closed bridge fails, and nothing goes out. -/
theorem call_of_closed (hb : b.closed = true) (id : String) (message : Except Failure Wire)
    (post : Wire → Posting) :
    b.call id message post = (b.decided (.error closedFailure), none, .ok b.futures.length) := by
  obtain ⟨pending, futures, closed⟩ := b
  change closed = true at hb
  subst hb
  rfl

/-- The last of the futures is settled when it was from the start. -/
theorem settlement?_decided (b : Bridge) (v : Settlement) :
    (b.decided v).settlement? b.futures.length = some v := by
  unfold settlement? decided
  simp

/-- A call is all or nothing exactly when nothing but a lost connection comes in its way. -/
theorem allOrNothing_iff (hb : b.closed = false) (hid : id ∉ b.pendingIds) :
    AllOrNothing b id message post ↔
      ∀ f, dispatch message post = .error f → isConnectionLoss f.kind = true := by
  constructor
  · intro h f hd
    by_contra hf
    have hcall : b.call id message post = (b.waiting id, none, .error f) :=
      call_of_stranded hb hd (Bool.eq_false_iff.mpr hf)
    have hsame : (b.waiting id).pending = b.pending := by
      have hnothing := h.nothing f
      rw [hcall] at hnothing
      exact hnothing rfl
    have hlength := congrArg List.length hsame
    simp [Bridge.waiting] at hlength
  · intro h
    cases hd : dispatch message post with
    | ok w =>
      obtain ⟨hm, hp⟩ := dispatch_eq_ok.mp hd
      refine ⟨?_, ?_⟩
      · rw [call_of_dispatched hb hd]
        intro f hf
        cases hf
      · rw [call_of_dispatched hb hd]
        rintro future ⟨⟩ -
        exact ⟨w, hm, hp, rfl, rfl⟩
    | error f =>
      refine ⟨?_, ?_⟩
      · rw [call_of_lost hb hid hd (h f hd)]
        intro g hg
        cases hg
      · rw [call_of_lost hb hid hd (h f hd)]
        rintro future ⟨⟩ hnone
        cases (settlement?_decided b _).symm.trans hnone

end Call

section Message

/-- The message of a call is made, and asks for it, when the method is a text and the parameters
are an object or count as false; otherwise it is refused, which is no loss of the connection. -/
theorem compose_cases (id : String) (method : Wire) (params : Except Failure Wire) :
    (∃ w, compose id method params = .ok w ∧ askedId? w = some id) ∨
      ∃ f, compose id method params = .error f ∧
        (params = .error f ∨ isConnectionLoss f.kind = false) := by
  cases params with
  | error f => exact .inr ⟨f, rfl, .inl rfl⟩
  | ok v =>
    change (∃ w, encode id method v = .ok w ∧ _) ∨ ∃ f, encode id method v = .error f ∧ _
    unfold encode
    generalize (if v.truthy = true then v else .object []) = fields
    dsimp only
    split
    · rename_i request hr
      have hid : request.id = id := by
        cases method <;> cases fields <;> cases hr
        rfl
      refine .inl ⟨_, rfl, ?_⟩
      unfold askedId?
      rw [Message.requestOf_view, ← hid]
      rfl
    · exact .inr ⟨_, rfl, .inr rfl⟩

end Message

/-- What is done with a bridge. -/
inductive Act where
  /-- A capability is called under an id. -/
  | call (id : String) (method : Wire) (params : Except Failure Wire) (post : Wire → Posting)
  /-- Data is delivered. -/
  | deliver (raw : Wire)
  /-- A future is called off. -/
  | callOff (future : Nat)
  /-- The bridge is closed. -/
  | close (reason : String)

namespace Act

/-- The id under which a call is made. -/
def calledId? : Act → Option String
  | .call id _ _ _ => some id
  | _ => none

/-- The id that a delivered reply names. -/
def answeredId? : Act → Option String
  | .deliver raw => replyId? raw
  | _ => none

/-- Whether the bridge is closed. -/
def closes : Act → Bool
  | .close _ => true
  | _ => false

/-- The ids under which calls were made. -/
def ids (acts : List Act) : List String := acts.filterMap calledId?

end Act

/-- Whether a call was made under an id that no reply has named since. -/
def Unanswered (acts : List Act) (id : String) : Prop :=
  ∃ before a after, acts = before ++ a :: after ∧ a.calledId? = some id ∧
    ∀ c ∈ after, c.answeredId? ≠ some id

/-- A bridge in use. -/
structure Traffic where
  /-- The bridge. -/
  bridge : Bridge
  /-- The messages that went out, in order. -/
  sent : List Wire
  /-- The ids of the calls that raised, in order. -/
  raised : List String

namespace Traffic

/-- A bridge that has not been used. -/
def fresh : Traffic := ⟨.empty, [], []⟩

/-- The ids of what was raised. -/
def raisedBy (id : String) : Except Failure Nat → List String
  | .ok _ => []
  | .error _ => [id]

/-- A bridge in use after one more act. -/
def act (t : Traffic) : Act → Traffic
  | .call id method params post =>
    let (bridge, posted, result) := t.bridge.call id (compose id method params) post
    ⟨bridge, t.sent ++ posted.toList, t.raised ++ raisedBy id result⟩
  | .deliver raw => { t with bridge := (t.bridge.deliver raw).1 }
  | .callOff future => { t with bridge := t.bridge.settle future (.error .cancelled) }
  | .close reason => { t with bridge := t.bridge.close reason }

/-- A bridge in use after acts in turn. -/
def actAll (t : Traffic) (acts : List Act) : Traffic := acts.foldl act t

/-- Whether some message that went out asks for the call of an id. -/
def Asked (t : Traffic) (id : String) : Prop := ∃ raw ∈ t.sent, askedId? raw = some id

/-- Whether a call was entered in the table: it was asked for, or it raised. -/
def Entered (t : Traffic) (id : String) : Prop := id ∈ t.raised ∨ t.Asked id

end Traffic

/-- What holds of a bridge in use at every moment. -/
structure Reckoned (acts : List Act) (t : Traffic) : Prop where
  /-- The waiting calls are sound, and none was given a result by its owner. -/
  sound : t.bridge.Sound []
  /-- No two of them have the same id. -/
  ids : t.bridge.pendingIds.Nodup
  /-- A closed bridge has no waiting calls. -/
  emptied : t.bridge.closed = true → t.bridge.pending = []
  /-- Only calls that were made are entered. -/
  made : ∀ id, t.Entered id → id ∈ Act.ids acts
  /-- Nobody was asked for a call that raised. -/
  apart : ∀ id ∈ t.raised, ¬t.Asked id
  /-- What went out are requests. -/
  requests : ∀ raw ∈ t.sent, ∃ id, askedId? raw = some id
  /-- None of them went out twice. -/
  once : (t.sent.map askedId?).Nodup
  /-- While the bridge is open, those calls wait that were entered and that no reply has named
  since. -/
  waits : t.bridge.closed = false → ∀ id, id ∈ t.bridge.pendingIds ↔ t.Entered id ∧ Unanswered acts id

/-- A call waits after one more act: it is made, or it waited and is not named by a reply. -/
theorem unanswered_concat (acts : List Act) (a : Act) (id : String) :
    Unanswered (acts ++ [a]) id ↔
      a.calledId? = some id ∨ Unanswered acts id ∧ a.answeredId? ≠ some id :=
  exists_since_concat (fun c : Act => c.calledId? = some id) (fun c => c.answeredId? ≠ some id) acts a

/-- The ids of the calls after one more act. -/
theorem Act.ids_concat (acts : List Act) (a : Act) :
    Act.ids (acts ++ [a]) = Act.ids acts ++ a.calledId?.toList := by
  unfold Act.ids
  rw [List.filterMap_append]
  cases h : a.calledId? <;> simp [h]

/-- A call that was made and that no reply names waits. -/
theorem unanswered_of_mem {acts : List Act} {id : String} (h : id ∈ Act.ids acts)
    (hquiet : ∀ a ∈ acts, a.answeredId? ≠ some id) : Unanswered acts id := by
  obtain ⟨a, ha, hid⟩ := List.mem_filterMap.mp h
  obtain ⟨before, after, rfl⟩ := List.append_of_mem ha
  exact ⟨before, a, after, rfl, hid, fun c hc => hquiet c (by simp [hc])⟩

/-- A future that is settled from the start leaves the waiting calls sound. -/
theorem Sound.decided {own : List Nat} {b : Bridge} (h : b.Sound own) (v : Settlement) :
    (b.decided v).Sound own := by
  refine ⟨h.distinct, ?_, ?_⟩
  · intro p hp
    have hlt := h.bound p hp
    have hlength : (b.decided v).futures.length = b.futures.length + 1 := by simp [Bridge.decided]
    omega
  · intro p hp w hw
    have hlt := h.bound p hp
    refine h.given p hp w ?_
    unfold settlement? Bridge.decided at hw
    dsimp only at hw
    rw [List.getElem?_append_left hlt] at hw
    exact hw

/-- Data that is no reply changes nothing. -/
theorem deliver_of_not_reply (b : Bridge) {raw : Wire} (h : replyId? raw = none) :
    b.deliver raw = (b, .ok false) := by
  refine deliver_of_unknown fun p _ => ?_
  rw [h]
  exact nofun

/-- A reply takes the calls of its id from the table. -/
theorem pending_deliver (b : Bridge) {raw : Wire} {id : String} (hid : replyId? raw = some id) :
    (b.deliver raw).1.pending = b.pending.filter fun q => q.id ≠ id := by
  unfold replyId? at hid
  unfold deliver
  cases raw with
  | object fields =>
    dsimp only at hid ⊢
    by_cases hm : Message.isMark (Assoc.get? fields "rpc") = true
    · rw [if_pos hm] at hid ⊢
      rw [Option.some.inj hid]
      cases hf : b.find? id with
      | none =>
        have hothers : ∀ q ∈ b.pending, decide (q.id ≠ id) = true := fun q hq =>
          decide_eq_true fun he => List.find?_eq_none.mp hf q hq (decide_eq_true he)
        exact (List.filter_eq_self.mpr hothers).symm
      | some p =>
        have hp : p.id = id := by simpa using List.find?_some hf
        subst hp
        dsimp only
        split
        · rfl
        · split <;> rfl
    · rw [if_neg hm] at hid
      cases hid
  | _ => cases hid

/-- A reply takes the calls of its id from the table, and no others. -/
theorem mem_pendingIds_deliver (b : Bridge) (raw : Wire) (id : String) :
    id ∈ (b.deliver raw).1.pendingIds ↔ id ∈ b.pendingIds ∧ replyId? raw ≠ some id := by
  cases hr : replyId? raw with
  | none =>
    rw [deliver_of_not_reply b hr]
    exact (and_iff_left nofun).symm
  | some answered =>
    unfold pendingIds
    rw [pending_deliver b hr]
    simp only [List.mem_map, List.mem_filter, decide_eq_true_iff]
    constructor
    · rintro ⟨q, ⟨hq, hne⟩, rfl⟩
      exact ⟨⟨q, hq, rfl⟩, fun he => hne (Option.some.inj he).symm⟩
    · rintro ⟨⟨q, hq, rfl⟩, hne⟩
      exact ⟨q, ⟨hq, fun he => hne (congrArg some he.symm)⟩, rfl⟩

namespace Reckoned

variable {acts : List Act} {t : Traffic}

/-- At first nothing has been done. -/
theorem fresh : Reckoned [] Traffic.fresh where
  sound := sound_empty
  ids := List.nodup_nil
  emptied _ := rfl
  made id h := by
    rcases h with h | ⟨raw, h, -⟩ <;> cases h
  apart _ h := absurd h List.not_mem_nil
  requests _ h := absurd h List.not_mem_nil
  once := List.nodup_nil
  waits _ id := by
    refine iff_of_false List.not_mem_nil ?_
    rintro ⟨h | ⟨raw, h, -⟩, -⟩ <;> cases h

/-- Only calls that were made wait. -/
theorem mem_ids (h : Reckoned acts t) {id : String} (hid : id ∈ t.bridge.pendingIds) :
    id ∈ Act.ids acts := by
  cases hb : t.bridge.closed with
  | false => exact h.made id ((h.waits hb id).mp hid).1
  | true =>
    unfold pendingIds at hid
    rw [h.emptied hb] at hid
    cases hid

/-- A call that is rejected at once. -/
theorem reject (h : Reckoned acts t) {a : Act} {id : String} (ha : a.calledId? = some id)
    (hq : a.answeredId? = none) (hfresh : id ∉ Act.ids acts) (v : Settlement) :
    Reckoned (acts ++ [a]) { t with bridge := t.bridge.decided v } where
  sound := h.sound.decided v
  ids := h.ids
  emptied := h.emptied
  made other ho := by
    rw [Act.ids_concat]
    exact List.mem_append_left _ (h.made other ho)
  apart := h.apart
  requests := h.requests
  once := h.once
  waits hb other := by
    rw [unanswered_concat, ha, hq]
    refine (h.waits hb other).trans (and_congr_right fun ho => ?_)
    have hne : ¬some id = some other := by
      rintro ⟨⟩
      exact hfresh (h.made _ ho)
    simp [hne]

/-- A call that is entered in the table of an open bridge: either its message goes out, or it raises. -/
theorem enter (h : Reckoned acts t) (hb : t.bridge.closed = false) {a : Act} {id : String}
    (ha : a.calledId? = some id) (hq : a.answeredId? = none) (hfresh : id ∉ Act.ids acts)
    {sent : List Wire} {raised : List String}
    (hentered : (∃ w, askedId? w = some id ∧ sent = t.sent ++ [w] ∧ raised = t.raised) ∨
      sent = t.sent ∧ raised = t.raised ++ [id]) :
    Reckoned (acts ++ [a]) ⟨t.bridge.waiting id, sent, raised⟩ := by
  have hnew : ¬t.Entered id := fun he => hfresh (h.made id he)
  have hiff : ∀ other, Traffic.Entered ⟨t.bridge.waiting id, sent, raised⟩ other ↔
      t.Entered other ∨ other = id := by
    intro other
    unfold Traffic.Entered Traffic.Asked
    rcases hentered with ⟨w, hw, rfl, rfl⟩ | ⟨rfl, rfl⟩
    · simp [or_and_right, exists_or, hw, or_assoc, eq_comm]
    · simp only [List.mem_append, List.mem_singleton]
      rw [or_right_comm]
  have hids : (t.bridge.waiting id).pendingIds = t.bridge.pendingIds ++ [id] := by
    simp [pendingIds, Bridge.waiting]
  refine ⟨h.sound.waiting id, ?ids, ?emptied, ?made, ?apart, ?requests, ?once, ?waits⟩
  case ids =>
    rw [hids]
    refine List.nodup_append.mpr ⟨h.ids, List.nodup_singleton _, ?_⟩
    rintro x hx y hy rfl
    rw [List.mem_singleton.mp hy] at hx
    exact hfresh (h.mem_ids hx)
  case emptied => exact fun hc => absurd (hb.symm.trans hc) Bool.false_ne_true
  case made =>
    intro other ho
    rw [Act.ids_concat, ha]
    rcases (hiff other).mp ho with ho | rfl
    · exact List.mem_append_left _ (h.made other ho)
    · simp
  case apart =>
    rcases hentered with ⟨w, hw, rfl, rfl⟩ | ⟨rfl, rfl⟩
    · rintro other ho ⟨raw, hraw, hasked⟩
      rcases List.mem_append.mp hraw with hraw | hraw
      · exact h.apart other ho ⟨raw, hraw, hasked⟩
      · rw [List.mem_singleton.mp hraw, hw] at hasked
        cases hasked
        exact hnew (.inl ho)
    · intro other ho hasked
      rcases List.mem_append.mp ho with ho | ho
      · exact h.apart other ho hasked
      · rw [List.mem_singleton.mp ho] at hasked
        exact hnew (.inr hasked)
  case requests =>
    rcases hentered with ⟨w, hw, rfl, rfl⟩ | ⟨rfl, rfl⟩
    · intro raw hraw
      rcases List.mem_append.mp hraw with hraw | hraw
      · exact h.requests raw hraw
      · rw [List.mem_singleton.mp hraw]
        exact ⟨id, hw⟩
    · exact h.requests
  case once =>
    rcases hentered with ⟨w, hw, rfl, rfl⟩ | ⟨rfl, rfl⟩
    · have hmap : (t.sent ++ [w]).map askedId? = t.sent.map askedId? ++ [some id] := by simp [hw]
      change ((t.sent ++ [w]).map askedId?).Nodup
      rw [hmap]
      refine List.nodup_append.mpr ⟨h.once, List.nodup_singleton _, ?_⟩
      rintro x hx y hy rfl
      rw [List.mem_singleton.mp hy] at hx
      obtain ⟨raw, hraw, hasked⟩ := List.mem_map.mp hx
      exact hnew (.inr ⟨raw, hraw, hasked⟩)
    · exact h.once
  case waits =>
    intro _ other
    change other ∈ (t.bridge.waiting id).pendingIds ↔ _
    rw [hids, List.mem_append, List.mem_singleton, hiff, unanswered_concat, ha, hq, h.waits hb]
    by_cases he : other = id
    · simp [he]
    · have hne : ¬some id = some other := fun hs => he (Option.some.inj hs).symm
      simp [he, hne]

/-- One more call under a fresh id. -/
theorem call (h : Reckoned acts t) {id : String} (method : Wire) (params : Except Failure Wire)
    (post : Wire → Posting) (hfresh : id ∉ Act.ids acts) :
    Reckoned (acts ++ [.call id method params post]) (t.act (.call id method params post)) := by
  have hid : id ∉ t.bridge.pendingIds := fun hm => hfresh (h.mem_ids hm)
  have hrejected : ∀ v, t.bridge.call id (compose id method params) post =
      (t.bridge.decided v, none, .ok t.bridge.futures.length) →
      t.act (.call id method params post) = { t with bridge := t.bridge.decided v } := by
    intro v hcall
    unfold Traffic.act
    simp [hcall, Traffic.raisedBy]
  cases hb : t.bridge.closed with
  | true =>
    rw [hrejected _ (call_of_closed hb id _ post)]
    exact h.reject rfl rfl hfresh _
  | false =>
    cases hd : dispatch (compose id method params) post with
    | ok w =>
      have hw : askedId? w = some id := by
        rcases compose_cases id method params with ⟨v, hv, hasked⟩ | ⟨f, hf, -⟩
        · cases hv.symm.trans (dispatch_eq_ok.mp hd).1
          exact hasked
        · cases hf.symm.trans (dispatch_eq_ok.mp hd).1
      have hact : t.act (.call id method params post) =
          ⟨t.bridge.waiting id, t.sent ++ [w], t.raised⟩ := by
        unfold Traffic.act
        simp [call_of_dispatched hb hd, Traffic.raisedBy]
      rw [hact]
      exact h.enter hb rfl rfl hfresh (.inl ⟨w, hw, rfl, rfl⟩)
    | error f =>
      cases hf : isConnectionLoss f.kind with
      | true =>
        rw [hrejected _ (call_of_lost hb hid hd hf)]
        exact h.reject rfl rfl hfresh _
      | false =>
        have hact : t.act (.call id method params post) =
            ⟨t.bridge.waiting id, t.sent, t.raised ++ [id]⟩ := by
          unfold Traffic.act
          simp [call_of_stranded hb hd hf, Traffic.raisedBy]
        rw [hact]
        exact h.enter hb rfl rfl hfresh (.inr ⟨rfl, rfl⟩)

/-- One more act that is no call, which takes at most the calls of an answer from the table. -/
theorem keep (h : Reckoned acts t) {a : Act} (ha : a.calledId? = none) {b : Bridge}
    (hs : b.Sound []) (hids : b.pendingIds.Nodup) (hemptied : b.closed = true → b.pending = [])
    (hopen : b.closed = false → t.bridge.closed = false ∧
      ∀ id, id ∈ b.pendingIds ↔ id ∈ t.bridge.pendingIds ∧ a.answeredId? ≠ some id) :
    Reckoned (acts ++ [a]) { t with bridge := b } where
  sound := hs
  ids := hids
  emptied := hemptied
  made id he := by
    rw [Act.ids_concat]
    exact List.mem_append_left _ (h.made id he)
  apart := h.apart
  requests := h.requests
  once := h.once
  waits hb id := by
    obtain ⟨hbefore, hmem⟩ := hopen hb
    rw [hmem, h.waits hbefore, unanswered_concat, ha, and_assoc]
    simp [Traffic.Entered, Traffic.Asked]

/-- One more delivery. -/
theorem deliver (h : Reckoned acts t) (raw : Wire) :
    Reckoned (acts ++ [.deliver raw]) (t.act (.deliver raw)) := by
  obtain ⟨hclosed, hsubset, -⟩ := t.bridge.deliver_pending raw
  refine h.keep rfl (h.sound.deliver raw) ?_ ?_ ?_
  · cases hr : replyId? raw with
    | none =>
      rw [deliver_of_not_reply t.bridge hr]
      exact h.ids
    | some id =>
      unfold pendingIds
      rw [pending_deliver t.bridge hr]
      exact h.ids.sublist (List.Sublist.map _ List.filter_sublist)
  · intro hc
    rw [hclosed] at hc
    refine List.eq_nil_iff_forall_not_mem.mpr fun p hp => ?_
    have hold := hsubset p hp
    rw [h.emptied hc] at hold
    cases hold
  · exact fun ho => ⟨hclosed.symm.trans ho, mem_pendingIds_deliver t.bridge raw⟩

/-- One more act. -/
theorem step (h : Reckoned acts t) {a : Act} (hfresh : ∀ id, a.calledId? = some id →
    id ∉ Act.ids acts) : Reckoned (acts ++ [a]) (t.act a) := by
  cases a with
  | call id method params post => exact h.call method params post (hfresh id rfl)
  | deliver raw => exact h.deliver raw
  | callOff future =>
    refine h.keep rfl (h.sound.settle_error future .cancelled) h.ids h.emptied fun hb => ⟨hb, ?_⟩
    exact fun id => (and_iff_left nofun).symm
  | close reason =>
    refine h.keep rfl ⟨List.nodup_nil, ?_, ?_⟩ List.nodup_nil (fun _ => rfl) fun hb => by cases hb
    · exact fun _ hp => absurd hp List.not_mem_nil
    · exact fun _ hp => absurd hp List.not_mem_nil

/-- Acts on a new bridge under fresh ids, however many. -/
theorem run (acts : List Act) (h : (Act.ids acts).Nodup) :
    Reckoned acts (Traffic.fresh.actAll acts) := by
  induction acts using List.reverseRecOn with
  | nil => exact fresh
  | append_singleton before a ih =>
    rw [Act.ids_concat, List.nodup_append] at h
    obtain ⟨hbefore, -, hapart⟩ := h
    have hfresh : ∀ id, a.calledId? = some id → id ∉ Act.ids before := by
      intro id hid hm
      refine hapart id hm id ?_ rfl
      simp [hid]
    unfold Traffic.actAll
    rw [List.foldl_append]
    exact (ih hbefore).step hfresh

end Reckoned

/-- What can be relied on in a bridge after acts. -/
structure Accounted (acts : List Act) (t : Traffic) : Prop where
  /-- While it is open, a call under a fresh id is all or nothing exactly when nothing but a lost
  connection comes in the way of its message. -/
  whole_iff : t.bridge.closed = false → ∀ id ∉ Act.ids acts, ∀ message post,
    AllOrNothing t.bridge id message post ↔
      ∀ f, dispatch message post = .error f → isConnectionLoss f.kind = true
  /-- Any other failure is raised, nothing went out, and there is one more waiting call. -/
  strands : t.bridge.closed = false → ∀ id message post f, dispatch message post = .error f →
    isConnectionLoss f.kind = false →
    t.bridge.call id message post = (t.bridge.waiting id, none, .error f)
  /-- A method or parameters that a request cannot have are such a failure. -/
  refused : ∀ id method v f, encode id method v = .error f → isConnectionLoss f.kind = false
  /-- Once it is closed every call fails, nothing goes out and nothing waits. -/
  closed : t.bridge.closed = true → t.bridge.pending = [] ∧ ∀ id message post,
    t.bridge.call id message post =
      (t.bridge.decided (.error closedFailure), none, .ok t.bridge.futures.length)
  /-- No two waiting calls have the same id or the same future. -/
  single : t.bridge.pendingIds.Nodup ∧ t.bridge.outstanding.Nodup
  /-- What went out are requests for calls that were made, at most one for each. -/
  once : (t.sent.map askedId?).Nodup ∧ ∀ raw ∈ t.sent, ∃ id ∈ Act.ids acts, askedId? raw = some id
  /-- Nobody was asked for a call that raised. -/
  apart : ∀ id ∈ t.raised, ¬t.Asked id
  /-- While it is open, those calls wait that somebody was asked for or that raised, and that no
  reply has named since. -/
  waits : t.bridge.closed = false →
    ∀ id, id ∈ t.bridge.pendingIds ↔ t.Entered id ∧ Unanswered acts id
  /-- Somebody was asked for every waiting call exactly when no call that raised waits. -/
  asked_iff : (∀ p ∈ t.bridge.pending, t.Asked p.id) ↔ ∀ id ∈ t.raised, id ∉ t.bridge.pendingIds
  /-- A call that raised waits without a result while the bridge is open, unless a reply names
  it that nobody was asked for. -/
  lingers : t.bridge.closed = false → ∀ id ∈ t.raised, (∀ a ∈ acts, a.answeredId? ≠ some id) →
    ∃ p ∈ t.bridge.pending, p.id = id ∧ ∀ w, t.bridge.settlement? p.future ≠ some (.ok w)

namespace Reckoned

variable {acts : List Act} {t : Traffic}

/-- A call that waits was entered. -/
theorem entered (h : Reckoned acts t) {p : PendingCall} (hp : p ∈ t.bridge.pending) :
    t.Entered p.id := by
  cases hb : t.bridge.closed with
  | false => exact ((h.waits hb p.id).mp (List.mem_map_of_mem hp)).1
  | true =>
    rw [h.emptied hb] at hp
    cases hp

/-- What is reckoned after acts can be relied on. -/
theorem accounted (h : Reckoned acts t) : Accounted acts t where
  whole_iff hb id hid _ _ := allOrNothing_iff hb fun hm => hid (h.mem_ids hm)
  strands hb _ _ _ _ hd hf := call_of_stranded hb hd hf
  refused id method v f hf := by
    rcases compose_cases id method (.ok v) with ⟨w, hw, -⟩ | ⟨g, hg, hlost⟩
    · cases hw.symm.trans hf
    · cases hg.symm.trans hf
      rcases hlost with hlost | hlost
      · cases hlost
      · exact hlost
  closed hb := ⟨h.emptied hb, call_of_closed hb⟩
  single := ⟨h.ids, h.sound.distinct⟩
  once := by
    refine ⟨h.once, fun raw hraw => ?_⟩
    obtain ⟨id, hid⟩ := h.requests raw hraw
    exact ⟨id, h.made id (.inr ⟨raw, hraw, hid⟩), hid⟩
  apart := h.apart
  waits := h.waits
  asked_iff := by
    constructor
    · intro hasked id hid hm
      obtain ⟨p, hp, rfl⟩ := List.mem_map.mp hm
      exact h.apart p.id hid (hasked p hp)
    · intro hraised p hp
      rcases h.entered hp with hr | ha
      · exact absurd (List.mem_map_of_mem hp) (hraised p.id hr)
      · exact ha
  lingers hb id hid hquiet := by
    have hwaits := (h.waits hb id).mpr
      ⟨.inl hid, unanswered_of_mem (h.made id (.inl hid)) hquiet⟩
    obtain ⟨p, hp, rfl⟩ := List.mem_map.mp hwaits
    exact ⟨p, hp, rfl, fun w hw => List.not_mem_nil (h.sound.given p hp w hw)⟩

end Reckoned

end ChartScript.Bridge
