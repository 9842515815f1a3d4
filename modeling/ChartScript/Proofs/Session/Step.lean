import ChartScript.Proofs.Session.Account
/-!
# Steps of a session

Every event keeps the account of a session, whatever its program does: the program may take
turns, replies may come in any order, the timer may go off, and the host may be lost at any
moment.
-/

namespace ChartScript.Session

open Message (IsPlain requestOf? replyId?)
open Script (Effect Answer)

variable {π : Type} {issues : List Issue} {own : List Nat} {answered : String → Prop} {s : Session π}

section Touch

open Script (FutureQuery)

/-- What asking something of a call makes of a session: nothing, or an open call that the program was
given is settled. -/
theorem touch_cases (call : Nat) (what : FutureQuery) (s : Session π) : s.touch call what = s ∨
    ∃ v untold, settlementOf? what = some v ∧ call ∈ s.granted ∧ s.bridge.settlement? call = none ∧
      s.touch call what = { s with bridge := s.bridge.settle call v, untold } := by
  unfold touch
  split
  · rename_i hopen
    rw [Bool.and_eq_true, List.contains_iff_mem, Option.isNone_iff_eq_none] at hopen
    cases hv : settlementOf? what with
    | none => exact .inl rfl
    | some v => exact .inr ⟨v, _, rfl, hopen.1, hopen.2, rfl⟩
  · exact .inl rfl

/-- Only what a call has come to can change when something is asked of it. -/
theorem touch_eq (call : Nat) (what : FutureQuery) (s : Session π) : s.touch call what =
    { s with bridge := (s.touch call what).bridge, untold := (s.touch call what).untold } := by
  rcases touch_cases call what s with he | ⟨v, untold, -, -, -, he⟩
  · rw [he]
  · rw [he]

/-- The calls that wait go on waiting when something is asked of one. -/
theorem pending_touch (call : Nat) (what : FutureQuery) (s : Session π) :
    (s.touch call what).bridge.pending = s.bridge.pending := by
  rcases touch_cases call what s with he | ⟨v, untold, -, -, -, he⟩
  · rw [he]
  · rw [he]
    rfl

variable (call : Nat) (what : FutureQuery)

/-- Nothing is sent when something is asked of a call. -/
@[simp] theorem sent_touch : (s.touch call what).sent = s.sent := by rw [touch_eq]

/-- The host can be reached as before when something is asked of a call. -/
@[simp] theorem connected_touch : (s.touch call what).connected = s.connected := by rw [touch_eq]

/-- The end is reported as before when something is asked of a call. -/
@[simp] theorem finished_touch : (s.touch call what).finished = s.finished := by rw [touch_eq]

/-- The timer runs as before when something is asked of a call. -/
@[simp] theorem budget_touch : (s.touch call what).budget = s.budget := by rw [touch_eq]

end Touch

section Over

/-- A session that is over stays over. -/
theorem isOver_step (h : s.isOver = true) (p : Program π) (e : Event) :
    (step p s e).isOver = true := by
  obtain ⟨ending, hp⟩ := phase_of_isOver h
  cases e with
  | instruct raw =>
    unfold step instruct
    rw [hp]
    exact h
  | hangUp =>
    unfold step
    rw [hp]
    exact h
  | turn =>
    unfold step turn
    rw [hp]
    exact h
  | deliver raw =>
    have hreceive : ¬s.canReceive = true := by
      unfold canReceive
      rw [hp]
      exact Bool.false_ne_true
    unfold step deliver
    dsimp only
    rw [if_neg hreceive]
    exact h
  | wake =>
    unfold step
    rw [hp]
    exact h
  | timer =>
    unfold step onTimer finish send
    cases s.budget with
    | none => exact h
    | some ms =>
      by_cases hf : s.finished = true
      · rw [if_pos hf]
        exact h
      · rw [if_neg hf]
        by_cases hc : s.connected = true
        · rw [if_pos hc]
          exact h
        · rw [if_neg hc]
          exact h
  | disconnect => exact h

/-- A program that asks for nothing issues no call and settles none. -/
theorem quiet_of_phase (hp : ∀ effect rest, s.phase ≠ .active (.asks effect rest)) (e : Event) :
    issued? s e = none ∧ fulfilled? s e = none := by
  constructor
  · unfold issued?
    split
    · rename_i hasks
      exact absurd hasks (hp _ _)
    · rfl
  · unfold fulfilled?
    split
    · rename_i hasks
      exact absurd hasks (hp _ _)
    · rfl

/-- The program of a session that is over issues no call and settles none. -/
theorem quiet_of_isOver (h : s.isOver = true) (e : Event) :
    issued? s e = none ∧ fulfilled? s e = none := by
  refine quiet_of_phase (fun effect rest hp => ?_) e
  exact absurd (h.symm.trans (isOver_of_phase hp fun _ => nofun)) nofun

end Over

section Sent

variable {t : Session π}

/-- What a session sends at a change comes after what was sent, and without a host it sends
nothing. -/
structure SendsAfter (s t : Session π) : Prop where
  /-- What was sent stays. -/
  extends_ : s.sent <+: t.sent
  /-- Nothing is sent when nobody can be reached. -/
  silent : s.connected = false → t.sent = s.sent

/-- A change that sends nothing. -/
theorem SendsAfter.of_eq (h : t.sent = s.sent) : SendsAfter s t :=
  ⟨h ▸ List.prefix_rfl, fun _ => h⟩

/-- A change that sends something to a host. -/
theorem SendsAfter.of_append {more : List Wire} (hc : s.connected = true)
    (h : t.sent = s.sent ++ more) : SendsAfter s t :=
  ⟨h ▸ List.prefix_append _ _, fun hn => absurd (hn.symm.trans hc) Bool.false_ne_true⟩

/-- A report comes after what was sent. -/
theorem sends_report (done : Message.Done) (s : Session π) : SendsAfter s (s.report done) := by
  obtain ⟨-, -, -, -, -, hs | ⟨hc, hs⟩⟩ := Account.report_cases done s
  · exact .of_eq hs
  · exact .of_append hc hs

/-- A failure is reported after what was sent. -/
theorem sends_fail (f : Failure) (s : Session π) : SendsAfter s (Session.fail f s) := by
  unfold Session.fail
  split
  · exact .of_eq rfl
  · obtain ⟨hextends, hsilent⟩ := sends_report ⟨some f.describe, none⟩ s.close
    exact ⟨hextends, hsilent⟩

/-- A session that breaks off sends nothing. -/
theorem sends_breakOff (obstacle : Failure) (s : Session π) :
    SendsAfter s (Session.breakOff obstacle s) := .of_eq rfl

/-- A request is posted after what was sent. -/
theorem sends_request (method : String) (params : Except Failure (List (String × Wire)))
    (s : Session π) : SendsAfter s (Session.request method params s).1 := by
  refine ⟨List.prefix_append _ _, fun hc => ?_⟩
  have hnone : ∀ posted : Option Wire, (∀ w, posted = some w → s.connected = true) →
      s.sent ++ posted.toList = s.sent := by
    intro posted hposted
    cases posted with
    | none => exact List.append_nil _
    | some w => exact absurd (hc.symm.trans (hposted w rfl)) Bool.false_ne_true
  refine hnone _ fun w hw => ?_
  have hpost := (Bridge.posted_of_call hw).2
  by_contra hn
  cases (if_neg hn).symm.trans hpost

/-- What a program asks for is sent after what was sent. -/
theorem sends_perform (p : Program π) (effect : Effect) (rest : π) (s : Session π) :
    SendsAfter s (Session.perform p effect rest s) := by
  have hlog : ∀ level text, SendsAfter s (Session.perform p (.log level text) rest s) := by
    intro level text
    unfold Session.perform
    dsimp only
    rcases Account.send_cases (logMessage level text) s with ⟨he, hc⟩ | ⟨he, -⟩
    · rw [he]
      exact .of_append hc rfl
    · rw [he]
      exact .of_eq rfl
  cases effect with
  | print text => exact hlog "info" text
  | log level text => exact hlog level text
  | request method params =>
    obtain ⟨hextends, hsilent⟩ := sends_request method params s
    exact ⟨hextends, hsilent⟩
  | wait call =>
    unfold Session.perform
    dsimp only
    split <;> exact .of_eq rfl
  | query call what => exact .of_eq (sent_touch call what)
  | sleep seconds => exact .of_eq rfl

/-- A turn sends after what was sent. -/
theorem sends_turn (p : Program π) (s : Session π) : SendsAfter s (Session.turn p s) := by
  have hsucceed : SendsAfter s (Session.succeed s) := by
    obtain ⟨hextends, hsilent⟩ := sends_report ⟨none, none⟩ s.close
    exact ⟨hextends, hsilent⟩
  unfold Session.turn
  split
  · exact sends_perform p _ _ s
  · rcases Account.send_cases (logMessage "info" s.banner) s with ⟨he, hc⟩ | ⟨he, -⟩
    · rw [he]
      exact .of_append hc rfl
    · rw [he]
      exact sends_fail _ s
  · split
    · exact hsucceed
    · split <;> exact .of_eq rfl
  · exact sends_fail _ s
  · exact sends_breakOff _ s
  · split <;> exact .of_eq rfl
  · split
    · exact sends_fail _ s
    · split
      · exact hsucceed
      · exact .of_eq rfl
  · exact .of_eq rfl

/-- The instruction sends after what was sent. -/
theorem sends_instruct (p : Program π) (raw : Wire) (s : Session π) :
    SendsAfter s (Session.instruct p raw s) := by
  unfold Session.instruct
  split
  · split
    · exact sends_report _ s
    · split
      · exact .of_eq rfl
      · rcases Account.send_cases Message.startedView.toWire s with ⟨he, hc⟩ | ⟨he, -⟩
        · rw [he]
          exact .of_append hc rfl
        · rw [he]
          exact .of_eq rfl
  · exact .of_eq rfl

/-- The timer sends at most the report of the end. -/
theorem sends_onTimer (s : Session π) : SendsAfter s (Session.onTimer s) := by
  unfold onTimer Session.finish
  split
  · exact .of_eq rfl
  · by_cases hf : s.finished = true
    · rw [if_pos hf]
      exact .of_eq rfl
    · rw [if_neg hf]
      rcases Account.send_cases (Message.Done.view ⟨none, some true⟩).toWire
        { s with finished := true } with ⟨he, hc⟩ | ⟨he, -⟩
      · rw [he]
        exact .of_append hc rfl
      · rw [he]
        exact .of_eq rfl

/-- Every event sends after what was sent. -/
theorem sends_step (p : Program π) (s : Session π) (e : Event) : SendsAfter s (step p s e) := by
  cases e with
  | instruct raw => exact sends_instruct p raw s
  | turn => exact sends_turn p s
  | hangUp =>
    unfold step
    dsimp only
    split <;> exact .of_eq rfl
  | deliver raw =>
    unfold step Session.deliver
    dsimp only
    split
    · split <;> exact .of_eq rfl
    · exact .of_eq rfl
  | wake =>
    unfold step
    dsimp only
    split <;> exact .of_eq rfl
  | timer => exact sends_onTimer s
  | disconnect => exact .of_eq rfl

end Sent

namespace Account

variable {t : Session π}

/-- An event at which no call is issued and none is settled adds none. -/
theorem quiet (h : Account issues own answered t) {e : Event} (hi : issued? s e = none)
    (hf : fulfilled? s e = none) :
    Account (issues ++ (issued? s e).toList) (own ++ (fulfilled? s e).toList) answered t := by
  rw [hi, hf]
  simpa using h

/-- What is asked of a call keeps the account, with the result that the program may have given
it. -/
theorem touch (h : Account issues own answered s) (ho : s.isOver = false) (call : Nat)
    (what : Script.FutureQuery) (p : Program π) (rest : π) (a : Answer)
    (hphase : s.phase = .active (.asks (.query call what) rest)) :
    Account issues (own ++ (fulfilled? s .turn).toList) answered
      (Session.goOn p rest a (s.touch call what)) := by
  have hbefore : Account issues (own ++ (fulfilled? s .turn).toList) answered s := by
    cases hf : fulfilled? s .turn with
    | none => simpa using h
    | some k =>
      refine h.own_append ?_
      unfold fulfilled? at hf
      split at hf
      · split at hf
        · rename_i hopen
          cases hf
          exact List.contains_iff_mem.mp (Bool.and_eq_true_iff.mp hopen).1
        · cases hf
      · cases hf
  rcases touch_cases call what s with he | ⟨v, untold, hv, hgranted, hopen, he⟩
  · rw [he]
    exact hbefore.goOn ho p rest a
  · rw [he]
    refine hbefore.move ho (hbefore.bridge.settle_of ?_) (.settle _ _ _ _) rfl rfl rfl rfl fun _ => nofun
    rintro w rfl -
    -- only a result that the program puts there itself is no failure
    have hwhat : what = .fulfil := by cases what <;> first | rfl | cases hv
    have hfulfilled : fulfilled? s .turn = some call := by
      unfold fulfilled?
      rw [hphase, hwhat]
      dsimp only
      rw [hopen, List.contains_iff_mem.mpr hgranted]
      rfl
    rw [hfulfilled]
    exact List.mem_append_right _ (List.mem_singleton_self call)

/-- What a program asks for keeps the account, with the call that it issues or gives a result if it
does. -/
theorem perform (h : Account issues own answered s) (ho : s.isOver = false) (p : Program π)
    (effect : Effect) (rest : π) (hphase : s.phase = .active (.asks effect rest)) :
    Account (issues ++ (issued? s .turn).toList) (own ++ (fulfilled? s .turn).toList) answered
      (Session.perform p effect rest s) := by
  have hlog : ∀ level text, Account issues own answered (Session.perform p (.log level text) rest s) := by
    intro level text
    unfold Session.perform
    dsimp only
    rcases send_cases (logMessage level text) s with ⟨he, -⟩ | ⟨he, -⟩
    · rw [he]
      exact (h.say (Message.isPlain_log _)).goOn ho p rest .nothing
    · rw [he]
      exact h.goOn ho p rest _
  cases effect with
  | request method params =>
    have hissued : issued? s .turn = some ⟨method, params⟩ := by simp [issued?, hphase]
    have hfulfilled : fulfilled? s .turn = none := by simp [fulfilled?, hphase]
    rw [hissued, hfulfilled, Option.toList_none, List.append_nil]
    exact h.request ho p rest method params _
  | query call what =>
    have hissued : issued? s .turn = none := by simp [issued?, hphase]
    rw [hissued, Option.toList_none, List.append_nil]
    exact h.touch ho call what p rest _ hphase
  | print text =>
    exact (hlog "info" text).quiet (by simp [issued?, hphase]) (by simp [fulfilled?, hphase])
  | log level text =>
    exact (hlog level text).quiet (by simp [issued?, hphase]) (by simp [fulfilled?, hphase])
  | wait call =>
    refine quiet ?_ (by simp [issued?, hphase]) (by simp [fulfilled?, hphase])
    unfold Session.perform
    dsimp only
    split
    · exact h.goOn ho p rest _
    · exact h.enter ho fun _ => nofun
  | sleep seconds =>
    refine quiet ?_ (by simp [issued?, hphase]) (by simp [fulfilled?, hphase])
    exact h.enter ho fun _ => nofun

/-- The end of the entry keeps the account: the session ends well or waits for the open calls, unless
the first of them that has failed cannot be told. -/
theorem ended (h : Account issues own answered s) (p : Program π) (hp : s.phase = .active .ended) :
    Account issues own answered (Session.turn p s) := by
  have ho := isOver_of_phase hp fun _ => nofun
  unfold Session.turn
  rw [hp]
  dsimp only
  cases hout : s.bridge.outstanding with
  | nil =>
    refine h.succeed ho fun q hq => ?_
    rw [List.map_eq_nil_iff.mp hout] at hq
    cases hq
  | cons first others =>
    dsimp only
    split
    · exact h.enter ho fun _ => nofun
    · refine h.move ho h.bridge (.refl _ _) rfl rfl rfl rfl ?_
      intro calls he q hq
      have hm : q.future ∈ first :: others := hout ▸ List.mem_map_of_mem hq
      rw [Phase.gathering.injEq] at he
      obtain ⟨rfl, hfound⟩ := he
      exact ⟨hm, List.findSome?_eq_none_iff.mp hfound q.future hm⟩

/-- A turn while the open calls are waited for keeps the account. -/
theorem gathered (h : Account issues own answered s) (p : Program π) {calls : List Nat}
    {failure : Option Failure} (hp : s.phase = .gathering calls failure) :
    Account issues own answered (Session.turn p s) := by
  have ho := isOver_of_phase hp fun _ => nofun
  unfold Session.turn
  rw [hp]
  cases failure with
  | some f => exact h.fail ho f
  | none =>
    dsimp only
    split
    · rename_i hall
      refine h.succeed ho fun q hq => ?_
      -- a call that still waits has not failed, so that it has a result of the program's own
      obtain ⟨hm, hfailure⟩ := h.gathering calls hp q hq
      have hsettled := List.all_eq_true.mp hall q.future hm
      cases hs : s.bridge.settlement? q.future with
      | none =>
        rw [hs] at hsettled
        cases hsettled
      | some settled =>
        cases settled with
        | ok w => exact h.bridge.given q hq w hs
        | error f =>
          rw [hs] at hfailure
          cases hfailure
    · exact h

/-- A turn of the program keeps the account. -/
theorem turn (h : Account issues own answered s) (p : Program π) :
    Account (issues ++ (issued? s .turn).toList) (own ++ (fulfilled? s .turn).toList) answered
      (Session.turn p s) := by
  by_cases hasks : ∃ effect rest, s.phase = .active (.asks effect rest)
  · obtain ⟨effect, rest, hp⟩ := hasks
    have hturn : Session.turn p s = Session.perform p effect rest s := by
      unfold Session.turn
      rw [hp]
    rw [hturn]
    exact h.perform (isOver_of_phase hp fun _ => nofun) p effect rest hp
  · obtain ⟨hi, hf⟩ := quiet_of_phase (fun effect rest hp => hasks ⟨effect, rest, hp⟩) .turn
    refine quiet ?_ hi hf
    cases hp : s.phase with
    | active next =>
      have ho := isOver_of_phase hp fun _ => nofun
      cases next with
      | asks effect rest => exact absurd ⟨effect, rest, hp⟩ hasks
      | ended => exact h.ended p hp
      | entered rest =>
        unfold Session.turn
        rw [hp]
        dsimp only
        rcases send_cases (logMessage "info" s.banner) s with ⟨he, -⟩ | ⟨he, -⟩
        · rw [he]
          exact (h.say (Message.isPlain_log _)).goOn ho p rest .nothing
        · rw [he]
          exact h.fail ho _
      | failed f =>
        unfold Session.turn
        rw [hp]
        exact h.fail ho f
      | untold obstacle =>
        unfold Session.turn
        rw [hp]
        exact h.breakOff ho obstacle
    | waiting call rest =>
      have ho := isOver_of_phase hp fun _ => nofun
      unfold Session.turn
      rw [hp]
      dsimp only
      split
      · exact h.goOn ho p rest _
      · exact h
    | gathering calls failure => exact h.gathered p hp
    | _ =>
      unfold Session.turn
      rw [hp]
      exact h

/-- A message that is looked at keeps the account, if the reply that it may be was sent. -/
theorem deliver (h : Account issues own answered s) (raw : Wire)
    (ha : ∀ id, replyId? raw = some id → answered id) :
    Account issues own answered (Session.deliver raw s) := by
  have hsound := h.bridge.deliver raw
  have hkept : Keeps answered s.bridge (s.bridge.deliver raw).1 := .deliver s.bridge ha
  unfold Session.deliver
  split
  · rename_i hreceives
    have ho := isOver_of_canReceive hreceives
    dsimp only
    split
    · rename_i calls failure hp
      refine h.move ho hsound hkept rfl rfl rfl rfl ?_
      intro waited he q hq
      rw [Phase.gathering.injEq, Option.or_eq_none_iff] at he
      obtain ⟨rfl, rfl, hfound⟩ := he
      have hm := (h.gathering calls hp q (hkept.fewer q hq)).1
      exact ⟨hm, List.findSome?_eq_none_iff.mp hfound q.future hm⟩
    · rename_i hphase
      exact h.move ho hsound hkept rfl rfl rfl rfl fun calls hp => absurd hp (hphase calls none)
  · exact h

/-- The instruction keeps the account. -/
theorem instruct (h : Account issues own answered s) (p : Program π) (raw : Wire) :
    Account issues own answered (Session.instruct p raw s) := by
  unfold Session.instruct
  split
  · rename_i hp
    have ho := isOver_of_phase hp fun _ => nofun
    split
    · obtain ⟨hover, hb, hr, hgranted, hc, hs⟩ := report_cases ⟨some (invalidInstruction _), none⟩ s
      refine h.finish ho hover (.inl hb) hr hgranted hc ?_
      rcases hs with hs | ⟨-, hs⟩
      · exact .inl hs
      · exact .inr ⟨_, Message.isPlain_done (.inl (Option.some_ne_none _)), hs⟩
    · split
      · exact h.finish ho rfl (.inl rfl) rfl rfl rfl (.inl rfl)
      · rcases send_cases Message.startedView.toWire s with ⟨he, -⟩ | ⟨he, -⟩
        · rw [he]
          exact (h.say Message.isPlain_started).move ho h.bridge (.refl _ _) rfl rfl rfl rfl fun _ => nofun
        · rw [he]
          exact h.finish ho rfl (.inl rfl) rfl rfl rfl (.inl rfl)
  · exact h

/-- The budget and the note that the end was reported are not in the account. -/
theorem mark (h : Account issues own answered s) (budget : Option Int) (finished : Bool) :
    Account issues own answered { s with budget, finished } := { h with }

/-- The timer keeps the account. -/
theorem onTimer (h : Account issues own answered s) :
    Account issues own answered (Session.onTimer s) := by
  unfold Session.onTimer
  split
  · exact h
  · unfold Session.finish
    by_cases hf : s.finished = true
    · rw [if_pos hf]
      exact h.mark none s.finished
    · rw [if_neg hf]
      rcases send_cases (Message.Done.view ⟨none, some true⟩).toWire { s with finished := true } with
        ⟨he, -⟩ | ⟨he, -⟩
      · rw [he]
        exact (h.say (Message.isPlain_done (.inr rfl))).mark none true
      · rw [he]
        exact h.mark none true

/-- Every event keeps the account, with the call that the program issues at it or gives a result, if
the replies that are looked at were sent. -/
theorem step (h : Account issues own answered s) (p : Program π) (e : Event)
    (ha : ∀ raw, e = .deliver raw → ∀ id, replyId? raw = some id → answered id) :
    Account (issues ++ (issued? s e).toList) (own ++ (fulfilled? s e).toList) answered
      (Session.step p s e) := by
  cases e with
  | turn => exact h.turn p
  | instruct raw => exact (h.instruct p raw).quiet rfl rfl
  | deliver raw => exact (h.deliver raw (ha raw rfl)).quiet rfl rfl
  | timer => exact h.onTimer.quiet rfl rfl
  | hangUp =>
    refine quiet ?_ rfl rfl
    unfold Session.step
    dsimp only
    split
    · rename_i hp
      have ho := isOver_of_phase hp fun _ => nofun
      exact h.finish ho rfl (.inl rfl) rfl rfl rfl (.inl rfl)
    · exact h
  | wake =>
    refine quiet ?_ rfl rfl
    unfold Session.step
    dsimp only
    split
    · rename_i hp
      have ho := isOver_of_phase hp fun _ => nofun
      exact h.goOn ho p _ _
    · exact h
  | disconnect =>
    refine quiet ?_ rfl rfl
    exact { h with posted := nofun, waiting := nofun }

end Account

end ChartScript.Session
