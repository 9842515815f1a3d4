import ChartScript.Proofs.Context.Step
/-!
# Calls of a context

How a context serves the requests that it hears. It looks at them in the order in which
they came. A plot is staged at that moment, and the answer to any request goes out then or
later. While the run goes on the stage holds the drafts of exactly the requests that were
looked at, in their order, and nothing else was answered.
-/

namespace ChartScript.Context

open Artifact (Stage Draft SinkOps)
open Message (Request IsSuccess requestOf? replyId?)

/-- The draft that a request asks for, if it decodes to a plot. -/
def draftOf? (r : Request) : Option Draft := Draft.decode? r.method r.params

/-- Calls, numbered from a number on, that were not looked at. -/
def unseen (number : Nat) : List Request → List Errand
  | [] => []
  | r :: rest => ⟨number, r, none⟩ :: unseen (number + 1) rest

/-- The number of the oldest call that was not looked at. -/
def nextCall? (c : Context) : Option Nat :=
  (c.errands.find? fun e => e.fetch.isNone).map Errand.number

/-- Whether calls are looked at in the order in which they came: at an event no other one is
than the oldest. -/
def inOrder (c : Context) : Event → Prop
  | .serve number => c.nextCall? = some number
  | _ => True

/-- The request that a context hears at an event. -/
def heard? : Event → Option Request
  | .message raw => requestOf? raw
  | _ => none

/-- What a context that goes on has made of the requests that it heard: some were looked
at, and the rest wait for that. -/
structure Serving (looked rest : List Request) (c : Context) : Prop where
  /-- Every request was counted. -/
  calls : c.calls = looked.length + rest.length
  /-- A call that is still served waits for a fetch or was not looked at. -/
  errands : ∃ fetching, c.errands = fetching ++ unseen looked.length rest ∧
    ∀ e ∈ fetching, e.fetch.isSome = true ∧ e.number < looked.length ∧ e.request ∈ looked
  /-- The stage holds the drafts that were looked at. -/
  writes : c.stage.writes = Draft.staged c.instanceId (looked.filterMap draftOf?)
  /-- Only what was looked at was answered. -/
  replies : ∀ raw ∈ c.sent, ∀ id, replyId? raw = some id → ∃ r ∈ looked, r.id = id

section Unseen

/-- A call that was not looked at has a number from there on and waits for nothing. -/
theorem of_mem_unseen {number : Nat} {requests : List Request} {e : Errand}
    (h : e ∈ unseen number requests) : number ≤ e.number ∧ e.fetch = none := by
  induction requests generalizing number with
  | nil => cases h
  | cons r rest ih =>
    rcases List.mem_cons.mp h with rfl | h
    · exact ⟨Nat.le_refl _, rfl⟩
    · obtain ⟨hle, hf⟩ := ih h
      exact ⟨Nat.le_of_succ_le hle, hf⟩

/-- One more request comes last. -/
theorem unseen_concat (number : Nat) (requests : List Request) (r : Request) :
    unseen number (requests ++ [r]) = unseen number requests ++ [⟨number + requests.length, r, none⟩] := by
  induction requests generalizing number with
  | nil => rfl
  | cons q rest ih =>
    have hn : number + 1 + rest.length = number + (q :: rest).length := by
      rw [List.length_cons]
      omega
    rw [List.cons_append, unseen, unseen, ih, hn, List.cons_append]

/-- Calls of other numbers stay when the one of a number is dropped. -/
theorem filter_eq_self {l : List Errand} {number : Nat} (h : ∀ e ∈ l, e.number ≠ number) :
    l.filter (fun e => e.number ≠ number) = l :=
  List.filter_eq_self.mpr fun e hm => decide_eq_true (h e hm)

/-- Calls of other numbers stay when the one of a number waits for a fetch. -/
theorem map_eq_self {l : List Errand} {number : Nat} (h : ∀ e ∈ l, e.number ≠ number)
    (fetch : Host.Fetch) :
    l.map (fun e => if e.number = number then { e with fetch := some fetch } else e) = l :=
  (List.map_congr_left fun e hm => if_neg (h e hm)).trans (List.map_id l)

/-- Calls that were not looked at have other numbers than those before. -/
theorem unseen_ne {number m : Nat} {requests : List Request} (hm : m < number) :
    ∀ e ∈ unseen number requests, e.number ≠ m := by
  intro e he
  have hle := (of_mem_unseen he).1
  omega

end Unseen

namespace Serving

variable {looked rest : List Request} {c d : Context}

/-- The oldest call that was not looked at is that of the first request of the rest. -/
theorem nextCall?_eq (h : Serving looked rest c) :
    c.nextCall? = rest.head?.map fun _ => looked.length := by
  obtain ⟨fetching, he, hf⟩ := h.errands
  have hnone : fetching.find? (fun e => e.fetch.isNone) = none := by
    rw [List.find?_eq_none]
    intro e hm hn
    rw [Option.isNone_iff_eq_none] at hn
    have hs := (hf e hm).1
    rw [hn] at hs
    cases hs
  unfold nextCall?
  rw [he, List.find?_append, hnone, Option.none_or]
  cases rest <;> rfl

/-- The call that is looked at next is the one of the first request of the rest. -/
theorem errand?_eq {r : Request} (h : Serving looked (r :: rest) c) :
    c.errand? looked.length = some ⟨looked.length, r, none⟩ := by
  obtain ⟨fetching, he, hf⟩ := h.errands
  have hnone : fetching.find? (fun e => e.number = looked.length) = none := by
    rw [List.find?_eq_none]
    intro e hm hn
    have hlt := (hf e hm).2.1
    have hn := of_decide_eq_true hn
    omega
  unfold errand?
  rw [he, List.find?_append, hnone, Option.none_or]
  simp [unseen]

/-- A context of which nothing of this changes goes on serving. -/
theorem congr (h : Serving looked rest c) (hc : d.calls = c.calls) (he : d.errands = c.errands)
    (hw : d.stage.writes = c.stage.writes) (hi : d.instanceId = c.instanceId)
    (hs : d.sent = c.sent) : Serving looked rest d := by
  refine ⟨hc.trans h.calls, ?errands, ?writes, ?replies⟩
  case errands =>
    rw [he]
    exact h.errands
  case writes =>
    rw [hw, hi]
    exact h.writes
  case replies =>
    rw [hs]
    exact h.replies

/-- A context that hears a request has one more to look at. -/
theorem hear (h : Serving looked rest c) (r : Request) :
    Serving looked (rest ++ [r])
      { c with errands := c.errands ++ [⟨c.calls, r, none⟩], calls := c.calls + 1 } := by
  refine ⟨?calls, ?errands, h.writes, h.replies⟩
  case calls =>
    rw [List.length_append, List.length_singleton]
    exact congrArg (· + 1) h.calls
  case errands =>
    obtain ⟨fetching, he, hf⟩ := h.errands
    refine ⟨fetching, ?_, hf⟩
    dsimp only
    rw [he, unseen_concat, h.calls, List.append_assoc]

/-- A context that sends something goes on serving, if that answers at most what was looked
at. -/
theorem send (h : Serving looked rest c) (message : Wire)
    (hm : ∀ id, replyId? message = some id → ∃ r ∈ looked, r.id = id) :
    Serving looked rest (c.send message) := by
  unfold Context.send
  split
  · refine { h with replies := ?_ }
    intro raw hraw
    rcases List.mem_append.mp hraw with hraw | hraw
    · exact h.replies raw hraw
    · rw [List.mem_singleton.mp hraw]
      exact hm
  · exact h

/-- A context that has done with a call that was looked at goes on serving. -/
theorem dropErrand (h : Serving looked rest c) {number : Nat} (hn : number < looked.length) :
    Serving looked rest (c.dropErrand number) := by
  obtain ⟨fetching, he, hf⟩ := h.errands
  refine { h with errands := ⟨fetching.filter fun e => e.number ≠ number, ?_, ?_⟩ }
  · unfold Context.dropErrand
    dsimp only
    rw [he, List.filter_append, filter_eq_self (unseen_ne hn)]
  · exact fun e hm => hf e (List.mem_of_mem_filter hm)

/-- Answers to what was looked at answer what will have been looked at. -/
theorem replies_concat (h : Serving looked rest c) (r : Request) :
    ∀ raw ∈ c.sent, ∀ id, replyId? raw = some id → ∃ q ∈ looked ++ [r], q.id = id := by
  intro raw hraw id hid
  obtain ⟨q, hq, hqid⟩ := h.replies raw hraw id hid
  exact ⟨q, List.mem_append_left _ hq, hqid⟩

/-- A context that looks at its next request and has done with it has staged the draft. -/
theorem look {r : Request} (h : Serving looked (r :: rest) c) (hs : c.stage.instanceId = c.instanceId)
    (ho : c.stage.isOpen = true) :
    Serving (looked ++ [r]) rest
      (Context.dropErrand { c with stage := c.stage.offered (draftOf? r) } looked.length) := by
  obtain ⟨fetching, he, hf⟩ := h.errands
  have hlength : (looked ++ [r]).length = looked.length + 1 := by simp
  refine ⟨?_, ⟨fetching, ?_, ?_⟩, ?_, h.replies_concat r⟩
  · have hcalls := h.calls
    rw [List.length_cons] at hcalls
    rw [hlength]
    change c.calls = _
    omega
  · unfold Context.dropErrand
    dsimp only
    have hold : ∀ e ∈ fetching, e.number ≠ looked.length := fun e hm => Nat.ne_of_lt (hf e hm).2.1
    rw [he, unseen, List.filter_append, List.filter_cons, filter_eq_self hold,
      filter_eq_self (unseen_ne (Nat.lt_succ_self _)), hlength]
    simp
  · intro e hm
    obtain ⟨hfetch, hlt, hr⟩ := hf e hm
    exact ⟨hfetch, by omega, List.mem_append_left _ hr⟩
  · have hwrites := h.writes
    change (c.stage.offered (draftOf? r)).writes =
      Draft.staged c.instanceId ((looked ++ [r]).filterMap draftOf?)
    rw [List.filterMap_append, List.filterMap_cons, List.filterMap_nil]
    cases draftOf? r with
    | none =>
      rw [Stage.offered_none, List.append_nil]
      exact hwrites
    | some d =>
      dsimp only
      rw [Draft.staged_concat, ← hwrites, ← hs]
      unfold Stage.offered
      dsimp only
      rw [if_pos ho]
      rfl

/-- A context that looks at its next request and waits for a fetch has looked at it. -/
theorem await {r : Request} (h : Serving looked (r :: rest) c) (hr : draftOf? r = none)
    (fetch : Host.Fetch) :
    Serving (looked ++ [r]) rest
      { c with errands := c.errands.map fun e =>
          if e.number = looked.length then { e with fetch := some fetch } else e } := by
  obtain ⟨fetching, he, hf⟩ := h.errands
  have hlength : (looked ++ [r]).length = looked.length + 1 := by simp
  refine ⟨?_, ⟨fetching ++ [⟨looked.length, r, some fetch⟩], ?_, ?_⟩, ?_, h.replies_concat r⟩
  · have hcalls := h.calls
    rw [List.length_cons] at hcalls
    rw [hlength]
    change c.calls = _
    omega
  · have hold : ∀ e ∈ fetching, e.number ≠ looked.length := fun e hm => Nat.ne_of_lt (hf e hm).2.1
    dsimp only
    rw [he, unseen, List.map_append, List.map_cons, map_eq_self hold,
      map_eq_self (unseen_ne (Nat.lt_succ_self _)), hlength]
    simp
  · intro e hm
    rcases List.mem_append.mp hm with hm | hm
    · obtain ⟨hfetch, hlt, hq⟩ := hf e hm
      exact ⟨hfetch, by omega, List.mem_append_left _ hq⟩
    · rw [List.mem_singleton.mp hm]
      refine ⟨rfl, ?_, List.mem_append_right _ (List.mem_singleton_self r)⟩
      rw [hlength]
      exact Nat.lt_succ_self _
  · rw [List.filterMap_append, List.filterMap_cons, List.filterMap_nil, hr, List.append_nil]
    exact h.writes

end Serving

section Step

variable {κ σ : Type} {s : Scene κ σ} {looked rest : List Request}

/-- What serving makes of a scene at an event: the requests are those from before and the
one that is heard, and maybe one more of them was looked at. -/
def GoesOn (looked rest : List Request) (e : Event) (c : Context) : Prop :=
  ∃ later left, later ++ left = looked ++ rest ++ (heard? e).toList ∧ (∀ r ∈ looked, r ∈ later) ∧
    Serving later left c

/-- Nothing new is heard and looked at. -/
theorem Serving.stay {e : Event} {c : Context} (h : Serving looked rest c) (he : heard? e = none) :
    GoesOn looked rest e c := by
  refine ⟨looked, rest, ?_, fun _ hr => hr, h⟩
  rw [he]
  exact (List.append_nil _).symm

/-- The next request is looked at. -/
theorem Serving.serve (h : Serving looked rest s.context) (hs : Sound s.context)
    (ho : s.context.outcome = none) (hasAttachments : Bool) {number : Nat}
    (hn : s.context.nextCall? = some number) :
    GoesOn looked rest (.serve number) (Context.serve hasAttachments number s).context := by
  rw [h.nextCall?_eq] at hn
  cases rest with
  | nil => cases hn
  | cons r rest =>
    cases hn
    refine ⟨looked ++ [r], rest, by simp [heard?], fun _ hr => List.mem_append_left _ hr, ?_⟩
    unfold Context.serve
    rw [h.errand?_eq]
    dsimp only
    rcases attend_cases hasAttachments ⟨looked.length, r, none⟩ s with ⟨answer, he⟩ | ⟨hr, fetch, he⟩
    · obtain ⟨message, hid, hreply⟩ := reply_context ⟨looked.length, r, none⟩ answer
        (withOffer s (draftOf? r))
      have hnt : ¬(withOffer s (draftOf? r)).context.status = .terminated := hs.not_terminated ho
      rw [he]
      change Serving _ _ (reply _ answer (withOffer s (draftOf? r))).context
      rw [hreply]
      dsimp only [Scene.mapContext]
      rw [if_neg hnt]
      refine (h.look hs.stage.instanceId_eq (hs.isOpen ho)).send message ?_
      intro id hsome
      rw [hid] at hsome
      cases hsome
      exact ⟨r, List.mem_append_right _ (List.mem_singleton_self r), rfl⟩
    · rw [he]
      exact h.await hr fetch

/-- What comes for a call answers one that was looked at. -/
theorem Serving.fetched (h : Serving looked rest s.context) (hs : Sound s.context)
    (ho : s.context.outcome = none) (number : Nat) (result : Except Failure Wire) :
    Serving looked rest (Context.fetched number result s).context := by
  unfold Context.fetched
  split
  · rename_i same request fetch hfound
    obtain ⟨fetching, he, hf⟩ := h.errands
    have hnumber := List.find?_some hfound
    have hmem := List.mem_of_find?_eq_some hfound
    -- only the calls that were looked at wait for a fetch
    have hm : ⟨same, request, some fetch⟩ ∈ fetching := by
      rw [he] at hmem
      rcases List.mem_append.mp hmem with hm | hm
      · exact hm
      · have hnone := (of_mem_unseen hm).2
        cases hnone
    obtain ⟨-, hlt, hr⟩ := hf _ hm
    obtain ⟨message, hid, hreply⟩ := reply_context ⟨number, request, some fetch⟩
      (fetch.answer result) s
    rw [hreply]
    dsimp only [Scene.mapContext]
    rw [if_neg (hs.not_terminated ho)]
    refine (h.dropErrand (of_decide_eq_true hnumber ▸ hlt)).send message ?_
    intro id hsome
    rw [hid] at hsome
    cases hsome
    exact ⟨request, hr, rfl⟩
  · exact h

/-- The creation of the process answers nothing. -/
theorem Serving.created (h : Serving looked rest s.context) (hs : Sound s.context)
    (ho : s.context.outcome = none) : Serving looked rest (Context.created s).context := by
  have hl : Serving looked rest (live s).context := h.congr rfl rfl rfl rfl rfl
  have hnt : ¬(live s).context.status = .terminated := hs.not_terminated ho
  rw [created_context hs]
  dsimp only [Scene.mapContext]
  rw [if_neg hnt]
  split
  · refine (hl.send (Message.Instruction.ofSpec s.context.spec).view.toWire ?_).congr
      rfl rfl rfl rfl rfl
    intro id hid
    rw [Message.replyId_instruction] at hid
    cases hid
  · exact hl.congr rfl rfl rfl rfl rfl

variable [DecidableEq κ]

/-- A message adds the request that it carries, if it does, unless it settles the run. -/
theorem Serving.message (h : Serving looked rest s.context) (hs : Sound s.context)
    (ho : s.context.outcome = none) (ops : SinkOps σ) (raw : Wire)
    (hn : (onMessage ops raw s).context.outcome = none) :
    GoesOn looked rest (.message raw) (onMessage ops raw s).context := by
  have hplain : ∀ m, Message.FromContext.decode? raw = m → (∀ r, m ≠ some (.request r)) →
      heard? (.message raw) = none := by
    rintro m rfl hr
    unfold heard? requestOf?
    dsimp only
    split
    · rename_i r hd
      exact absurd hd (hr r)
    · rfl
  unfold onMessage at hn ⊢
  rw [if_neg (hs.not_terminated ho)] at hn ⊢
  cases hd : Message.FromContext.decode? raw with
  | none => exact h.stay (hplain _ hd fun _ => nofun)
  | some m =>
    rw [hd] at hn
    cases m with
    | started =>
      refine Serving.stay ?_ (hplain _ hd fun _ => nofun)
      dsimp only
      unfold onStarted
      split
      · exact h.congr rfl rfl rfl rfl rfl
      · exact h
    | log line => exact h.stay (hplain _ hd fun _ => nofun)
    | request request =>
      have hheard : heard? (.message raw) = some request := by
        unfold heard? requestOf?
        dsimp only
        rw [hd]
      refine ⟨looked, rest ++ [request], ?_, fun _ hr => hr, h.hear request⟩
      rw [hheard, Option.toList_some, List.append_assoc]
    | done report =>
      refine Serving.stay ?_ (hplain _ hd fun _ => nofun)
      dsimp only at hn ⊢
      cases onDone_cases ops report s with
      | stays _ eq =>
        rw [eq]
        exact h
      | falls _ v _ eq =>
        rw [eq] at hn
        exact absurd hn (outcome_settle_ne_none v hs.begun)
      | succeeds _ _ _ eq =>
        rcases complete_cases ops s with ⟨ids, gallery, -, hc⟩ | ⟨gallery, hc⟩
        · rw [eq, hc] at hn
          exact absurd hn (outcome_settle_ne_none _ hs.begun)
        · rw [eq, hc]
          exact h

/-- A context that looks at its calls in order and goes on after an event has served, in
their order, the requests from before and the one that is heard. -/
theorem Serving.step (h : Serving looked rest s.context) (hs : Sound s.context) (ops : SinkOps σ)
    (hasAttachments : Bool) {e : Event} (ha : s.context.admits e = true) (hi : s.context.inOrder e)
    (hn : (Context.step ops hasAttachments s e).context.outcome = none) :
    GoesOn looked rest e (Context.step ops hasAttachments s e).context := by
  have ho : s.context.outcome = none := by
    rcases step_cases hs ops hasAttachments ha with hq | ⟨-, -, -, ho, -⟩
    · cases hc : s.context.outcome with
      | none => rfl
      | some o =>
        have hkeep := hq.outcome (by rw [hc]; rfl)
        rw [hn, hc] at hkeep
        cases hkeep
    · exact ho
  cases e with
  | begin => cases ha
  | created => exact (h.created hs ho).stay rfl
  | message raw => exact h.message hs ho ops raw hn
  | serve number => exact h.serve hs ho hasAttachments hi
  | fetched number result => exact (h.fetched hs ho number result).stay rfl
  | died code =>
    refine Serving.stay ?_ rfl
    unfold Context.step
    dsimp only
    split
    · exact h.congr rfl rfl rfl rfl rfl
    · exact h.congr rfl rfl rfl rfl rfl
    · exact h
  | ended =>
    refine Serving.stay ?_ rfl
    unfold Context.step at hn ⊢
    dsimp only at hn ⊢
    rw [if_pos (show s.context.attached = true from ha)] at hn ⊢
    cases onEnded_cases s with
    | stays _ eq =>
      rw [eq]
      exact h.congr rfl rfl rfl rfl rfl
    | fails _ eq =>
      rw [eq] at hn
      exact absurd hn (outcome_settle_ne_none _ hs.begun)
  | unlinked =>
    refine Serving.stay ?_ rfl
    exact h.congr rfl rfl rfl rfl rfl
  | timer timer =>
    refine Serving.stay ?_ rfl
    unfold Context.step at hn ⊢
    dsimp only at hn ⊢
    cases onTimer_cases timer s with
    | unarmed _ eq =>
      rw [eq]
      exact h
    | spent _ _ eq =>
      rw [eq]
      exact h.congr rfl rfl rfl rfl rfl
    | unstarted _ _ _ eq =>
      have hsettled := isSome_settle (s := rung .start s)
        (.failed "execution context failed to start") hs.begun
      rw [eq, terminate_outcome_of_settled hsettled] at hn
      exact absurd hn (Option.isSome_iff_ne_none.mp hsettled)
    | unfinished _ _ _ eq =>
      rw [eq] at hn
      exact absurd hn (outcome_settle_ne_none _ hs.begun)
  | terminate reason =>
    exact absurd hn (Option.isSome_iff_ne_none.mp (isSome_terminate hs reason))

end Step

end ChartScript.Context
