import ChartScript.Proofs.Session.Report
/-!
# Failures of open calls at the end

When the entry of a program has ended, the calls that are still open are waited for. None of
them has failed by then, or the first failure among them counts. A reply of an error that is
looked at while they are waited for therefore fails the run: its report is that failure, or
the timer was first.
-/

namespace ChartScript

open Message (Done IsSuccess replyId?)

namespace Message

/-- The failure that a message of the host carries, if it is a reply of an error that makes
sense. -/
def errorOf? (raw : Wire) : Option Failure :=
  match raw with
  | .object fields =>
    if isMark (Assoc.get? fields "rpc") then
      match (Assoc.get? fields "error").getD .null with
      | .null => none
      | error =>
        match Bridge.replyFailure ((Assoc.get? fields "errorKind").getD .null) error with
        | .ok f => some f
        | .error _ => none
    else none
  | _ => none

/-- The failure of a reply is one of the sandbox. -/
theorem sandbox_of_errorOf {raw : Wire} {f : Failure} (h : errorOf? raw = some f) :
    ∃ kind text, f = .sandbox kind text := by
  unfold errorOf? at h
  split at h
  · split at h
    · split at h
      · cases h
      · split at h
        · rename_i error _ g hg
          cases h
          unfold Bridge.replyFailure at hg
          split at hg
          · cases hg
            exact ⟨_, _, rfl⟩
          · cases hg
          · cases hg
          · cases hg
            exact ⟨_, _, rfl⟩
        · cases h
    · cases h
  · cases h

end Message

namespace Bridge

open Message (errorOf?)

/-- A reply of an error settles the call that waits under its id. -/
theorem deliver_of_error {b : Bridge} {raw : Wire} {p : PendingCall} {f : Failure}
    (hid : replyId? raw = some p.id) (hp : b.find? p.id = some p) (hf : errorOf? raw = some f) :
    (b.deliver raw).1 = (b.forget p.id).settle p.future (.error f) := by
  unfold replyId? at hid
  unfold errorOf? at hf
  unfold deliver
  cases raw with
  | object fields =>
    dsimp only at hid hf ⊢
    by_cases hm : Message.isMark (Assoc.get? fields "rpc") = true
    · rw [if_pos hm] at hid hf ⊢
      rw [Option.some.inj hid, hp]
      generalize (Assoc.get? fields "error").getD .null = error at hf ⊢
      cases error with
      | null => cases hf
      | _ =>
        dsimp only at hf ⊢
        generalize replyFailure _ _ = failure at hf ⊢
        cases failure with
        | error g => cases hf
        | ok g =>
          cases hf
          rfl
    · rw [if_neg hm] at hid
      cases hid
  | _ => cases hid

end Bridge

namespace Session

open Message (errorOf? reportOf?)

variable {π : Type} {s t : Session π} {f : Failure}

/-- Whether none of the calls that are waited for at the end has failed, unless a failure is
known. -/
def Clean (s : Session π) : Prop :=
  ∀ calls, s.phase = .gathering calls none → ∀ c ∈ calls, failureOf? (s.bridge.settlement? c) = none

/-- A session whose phase is another one is clean. -/
theorem clean_of_phase {phase : Phase π} (hp : s.phase = phase)
    (hg : ∀ calls, phase ≠ .gathering calls none) : Clean s :=
  fun calls he => absurd (hp.symm.trans he) (hg calls)

/-- A session that is over is clean. -/
theorem clean_of_isOver (h : s.isOver = true) : Clean s :=
  fun calls he => absurd he (phase_ne_gathering h calls none)

/-- A session that reports its end is clean. -/
theorem clean_report (done : Done) (s : Session π) : Clean (s.report done) :=
  clean_of_isOver (Account.report_cases done s).1

/-- A session that fails is over. -/
theorem isOver_fail (f : Failure) (s : Session π) : (fail f s).isOver = true := by
  unfold fail
  split
  · rfl
  · exact (Account.report_cases _ s.close).1

/-- A session that fails is clean. -/
theorem clean_fail (f : Failure) (s : Session π) : Clean (fail f s) :=
  clean_of_isOver (isOver_fail f s)

/-- What a program asks for leaves a clean session. -/
theorem clean_perform (p : Program π) (effect : Script.Effect) (rest : π) (s : Session π) :
    Clean (perform p effect rest s) := by
  have hgoOn : ∀ (a : Script.Answer) (u : Session π), Clean (goOn p rest a u) :=
    fun _ _ => clean_of_phase rfl fun _ => nofun
  unfold perform
  dsimp only
  cases effect with
  | print text =>
    dsimp only
    split <;> exact hgoOn _ _
  | log level text =>
    dsimp only
    split <;> exact hgoOn _ _
  | request method params => exact hgoOn _ _
  | wait call =>
    dsimp only
    split
    · exact hgoOn _ _
    · exact clean_of_phase rfl fun _ => nofun
  | query call what => exact hgoOn _ _
  | sleep seconds => exact clean_of_phase rfl fun _ => nofun

/-- A turn of the program leaves a clean session. -/
theorem Clean.turn (h : Clean s) (p : Program π) : Clean (Session.turn p s) := by
  unfold Session.turn
  split
  · exact clean_perform p _ _ s
  · split
    · exact clean_of_phase rfl fun _ => nofun
    · exact clean_fail _ s
  · split
    · exact clean_report _ _
    · split
      · exact clean_of_phase rfl fun _ => nofun
      · intro calls he
        rw [Phase.gathering.injEq] at he
        obtain ⟨rfl, hfound⟩ := he
        exact List.findSome?_eq_none_iff.mp hfound
  · exact clean_fail _ s
  · exact clean_of_isOver rfl
  · split
    · exact clean_of_phase rfl fun _ => nofun
    · exact h
  · split
    · exact clean_fail _ s
    · split
      · exact clean_report _ _
      · exact h
  · exact h

/-- A message that is looked at leaves a clean session. -/
theorem Clean.deliver (h : Clean s) (raw : Wire) : Clean (Session.deliver raw s) := by
  unfold Session.deliver
  split
  · dsimp only
    split
    · intro calls he
      rw [Phase.gathering.injEq, Option.or_eq_none_iff] at he
      obtain ⟨rfl, rfl, hfound⟩ := he
      exact List.findSome?_eq_none_iff.mp hfound
    · rename_i hphase
      exact clean_of_phase rfl fun calls => hphase calls none
  · exact h

/-- The timer leaves the program and its calls alone. -/
theorem onTimer_keeps (s : Session π) : (onTimer s).phase = s.phase ∧
    (onTimer s).bridge = s.bridge ∧ (onTimer s).connected = s.connected := by
  unfold onTimer
  cases s.budget with
  | none => exact ⟨rfl, rfl, rfl⟩
  | some ms =>
    cases hf : s.finished with
    | true => simp [finish, hf]
    | false => cases hc : s.connected <;> simp [finish, send, hf, hc]

/-- Every event leaves a clean session. -/
theorem Clean.step (h : Clean s) (p : Program π) (e : Event) : Clean (Session.step p s e) := by
  cases e with
  | instruct raw =>
    unfold Session.step instruct
    dsimp only
    split
    · split
      · exact clean_report _ _
      · split
        · exact clean_of_phase rfl fun _ => nofun
        · split
          · exact clean_of_phase rfl fun _ => nofun
          · exact clean_of_phase rfl fun _ => nofun
    · exact h
  | hangUp =>
    unfold Session.step
    dsimp only
    split
    · exact clean_of_phase rfl fun _ => nofun
    · exact h
  | turn => exact h.turn p
  | deliver raw => exact h.deliver raw
  | wake =>
    unfold Session.step
    dsimp only
    split
    · exact clean_of_phase rfl fun _ => nofun
    · exact h
  | timer =>
    obtain ⟨hphase, hbridge, -⟩ := onTimer_keeps s
    intro calls he
    change ∀ c ∈ calls, failureOf? ((onTimer s).bridge.settlement? c) = none
    rw [hbridge]
    exact h calls (hphase.symm.trans he)
  | disconnect => exact h

/-- How many reports a session has sent, and which one before its end, as long as messages
reach the host. -/
structure Counted (s : Session π) : Prop where
  /-- There is one when the end was reported. -/
  one : s.connected = true → s.finished = true → ∃ report, s.reports = [report]
  /-- There is none before. -/
  none_ : s.connected = true → s.finished = false → s.reports = []
  /-- Before the end there is at most that of the timer. -/
  early : s.connected = true → s.isOver = false → ∀ report ∈ s.reports, report = timeoutReport

/-- There are no reports before the instruction. -/
theorem counted_fresh : Counted (fresh : Session π) := by
  refine ⟨nofun, fun _ _ => rfl, ?_⟩
  intro _ _ report hm
  cases hm

section Connected

/-- A report leaves the connection to the host as it is. -/
theorem connected_report (done : Done) (s : Session π) : (s.report done).connected = s.connected :=
  (Account.report_cases done s).2.2.2.2.1

/-- A failure leaves the connection to the host as it is. -/
theorem connected_fail (f : Failure) (s : Session π) : (fail f s).connected = s.connected := by
  unfold fail
  split
  · rfl
  · exact connected_report _ s.close

/-- A message leaves the connection to the host as it is. -/
theorem connected_of_send {message : Wire} (h : s.send message = .ok t) : t.connected = s.connected := by
  rcases Account.send_cases message s with ⟨hs, -⟩ | ⟨hs, -⟩
  · cases hs.symm.trans h
    rfl
  · cases hs.symm.trans h

/-- What a program asks for leaves the connection to the host as it is. -/
theorem connected_perform (p : Program π) (effect : Script.Effect) (rest : π) (s : Session π) :
    (perform p effect rest s).connected = s.connected := by
  have hlog : ∀ level text, (perform p (.log level text) rest s).connected = s.connected := by
    intro level text
    unfold perform
    dsimp only
    split
    · rename_i next hs
      have hnext := connected_of_send hs
      exact hnext
    · rfl
  cases effect with
  | print text => exact hlog "info" text
  | log level text => exact hlog level text
  | wait call =>
    unfold perform
    dsimp only
    split <;> rfl
  | request method params => rfl
  | query call what => exact connected_touch call what
  | sleep seconds => rfl

/-- A turn of the program leaves the connection to the host as it is. -/
theorem connected_turn (p : Program π) (s : Session π) : (turn p s).connected = s.connected := by
  unfold turn
  split
  · exact connected_perform p _ _ s
  · split
    · rename_i next hs
      have hnext := connected_of_send hs
      exact hnext
    · exact connected_fail _ s
  · split
    · exact connected_report _ s.close
    · split <;> rfl
  · exact connected_fail _ s
  · rfl
  · split <;> rfl
  · split
    · exact connected_fail _ s
    · split
      · exact connected_report _ s.close
      · rfl
  · rfl

/-- Only the loss of the host changes whether it can be reached. -/
theorem connected_step (p : Program π) {e : Event} (he : e ≠ .disconnect) :
    (step p s e).connected = s.connected := by
  cases e with
  | disconnect => exact absurd rfl he
  | turn => exact connected_turn p s
  | timer => exact (onTimer_keeps s).2.2
  | instruct raw =>
    unfold step instruct
    dsimp only
    split
    · split
      · exact connected_report _ s
      · split
        · rfl
        · split
          · rfl
          · rename_i next hs
            have hnext := connected_of_send hs
            exact hnext
    · rfl
  | hangUp =>
    unfold step
    dsimp only
    split <;> rfl
  | deliver raw =>
    unfold step deliver
    dsimp only
    split
    · split <;> rfl
    · rfl
  | wake =>
    unfold step
    dsimp only
    split <;> rfl

end Connected

/-- Every event but the loss of the host tells its report. -/
theorem told_step (p : Program π) {e : Event} (he : e ≠ .disconnect) (hc : s.connected = true) :
    Tells (s.report? e) s (step p s e) ∧
      ((step p s e).isOver = false → s.isOver = false ∧
        ∀ report, s.report? e = some report → report = timeoutReport) := by
  by_cases hu : e = .hangUp
  · subst hu
    unfold step report?
    dsimp only
    split
    · exact ⟨.of_sent_eq rfl rfl rfl, nofun⟩
    · exact ⟨.of_sent_eq rfl rfl rfl, fun ho => ⟨ho, nofun⟩⟩
  · have hconnected : e.isConnected = true := by
      cases e <;> first | rfl | exact absurd rfl he | exact absurd rfl hu
    obtain ⟨ht, hcourse⟩ := course_step p hconnected hc
    refine ⟨ht, fun ho => ?_⟩
    have hover : ∀ ending, (step p s e).phase ≠ .over ending := by
      intro ending hp
      unfold isOver at ho
      rw [hp] at ho
      cases ho
    generalize step p s e = t at ho hover hcourse
    generalize s.report? e = verdict at hcourse
    cases hcourse with
    | goesOn phase =>
      refine ⟨?_, nofun⟩
      rcases phase with phase | ⟨running, -⟩
      · exact (isOver_congr phase).symm.trans ho
      · exact isOver_of_isRunning running
    | starts phase => exact ⟨isOver_of_phase phase fun _ => nofun, nofun⟩
    | rings phase =>
      exact ⟨(isOver_congr phase).symm.trans ho, fun report hr => (Option.some.inj hr).symm⟩
    | exits report begun phase => exact absurd phase (hover _)
    | calledOff f cancelled running phase => exact absurd phase (hover _)
    | brokenOff f turned failed phase => exact absurd phase (hover _)
    | refused raw f instructed budget idle phase => exact absurd phase (hover _)

/-- Every event keeps the count of the reports. -/
theorem Counted.step (h : Counted s) (p : Program π) (e : Event) : Counted (Session.step p s e) := by
  by_cases he : e = .disconnect
  · subst he
    exact ⟨nofun, nofun, nofun⟩
  · have hconnected := connected_step (s := s) p he
    by_cases hc : s.connected = true
    · obtain ⟨ht, hearly⟩ := told_step p he hc
      refine ⟨fun _ hf => ?_, fun _ hf => ?_, fun _ ho => ?_⟩
      · rw [ht.reports]
        rw [ht.finished] at hf
        cases hs : s.finished with
        | true =>
          obtain ⟨report, hreport⟩ := h.one hc hs
          exact ⟨report, by simpa using hreport⟩
        | false =>
          rw [hs, Bool.false_or] at hf
          obtain ⟨report, hreport⟩ := Option.isSome_iff_exists.mp hf
          exact ⟨report, by simp [h.none_ hc hs, hreport]⟩
      · rw [ht.finished, Bool.or_eq_false_iff] at hf
        have hnone := Option.not_isSome_iff_eq_none.mp (Bool.eq_false_iff.mp hf.2)
        rw [ht.reports, h.none_ hc hf.1, hnone]
        simp
      · obtain ⟨hs, hverdict⟩ := hearly ho
        intro report hm
        rw [ht.reports, List.mem_append] at hm
        rcases hm with hm | hm
        · exact h.early hc hs report hm
        · split at hm
          · cases hm
          · exact hverdict report (Option.mem_toList.mp hm)
    · have hgone : ¬(Session.step p s e).connected = true := by
        rw [hconnected]
        exact hc
      exact ⟨fun ht => absurd ht hgone, fun ht => absurd ht hgone, fun ht => absurd ht hgone⟩

/-- What holds of a session at every moment, whatever its program and its host do. -/
structure Tidy (s : Session π) : Prop where
  /-- It keeps an account of the calls that its program has issued and given a result. -/
  account : ∃ issues own, Account issues own (fun _ => True) s
  /-- None of the calls that are waited for at the end has failed unnoticed. -/
  clean : Clean s
  /-- Its reports are counted. -/
  counted : Counted s

/-- A session before its instruction is tidy. -/
theorem tidy_fresh : Tidy (fresh : Session π) :=
  ⟨⟨[], [], account_fresh _⟩, clean_of_phase rfl fun _ => nofun, counted_fresh⟩

/-- Every event leaves a tidy session. -/
theorem Tidy.step (h : Tidy s) (p : Program π) (e : Event) : Tidy (Session.step p s e) := by
  obtain ⟨issues, own, haccount⟩ := h.account
  have hnext := haccount.step p e fun _ _ _ _ => trivial
  exact ⟨⟨_, _, hnext⟩, h.clean.step p e, h.counted.step p e⟩

/-- A session whose run has failed or ended without success. -/
structure Doomed (g : Failure) (s : Session π) : Prop where
  /-- It is over, or the failure is all that is left to tell. -/
  phase : (∃ calls, s.phase = .gathering calls (some g)) ∨ s.isOver = true
  /-- It has not told of a success. -/
  success : ∀ raw ∈ s.sent, ¬IsSuccess raw
  /-- It has reported the failure, if anything but that its time was up. -/
  reports : s.connected = true → ∀ report ∈ s.reports,
    report = timeoutReport ∨ failureReport? g = some report
  /-- When it is over its end was reported, unless the failure is that something was called
  off. -/
  ended : s.connected = true → s.isOver = true → (failureReport? g).isSome = true →
    s.finished = true

/-- A call that has not failed and has no result is not settled. -/
theorem settlement?_eq_none {b : Bridge} {call : Nat} (hf : failureOf? (b.settlement? call) = none)
    (hr : ∀ w, b.settlement? call ≠ some (.ok w)) : b.settlement? call = none := by
  cases hs : b.settlement? call with
  | none => rfl
  | some v =>
    cases v with
    | ok w => exact absurd hs (hr w)
    | error f =>
      rw [hs] at hf
      cases hf

/-- A reply of an error is the first failure among the calls that are waited for, when none of
them has failed before and the program has not given this one a result. -/
theorem Tidy.findSome?_eq (h : Tidy s) {calls : List Nat} (hs : s.phase = .gathering calls none)
    {raw : Wire} {q : PendingCall} (hid : replyId? raw = some q.id)
    (hq : s.bridge.find? q.id = some q) (hf : errorOf? raw = some f)
    (hr : ∀ w, s.bridge.settlement? q.future ≠ some (.ok w)) :
    (calls.findSome? fun c => failureOf? ((s.bridge.deliver raw).1.settlement? c)) = some f := by
  obtain ⟨issues, own, haccount⟩ := h.account
  have hpending : q ∈ s.bridge.pending := List.mem_of_find?_eq_some hq
  obtain ⟨hcall, hfailure⟩ := haccount.gathering calls hs q hpending
  have hopen := settlement?_eq_none hfailure hr
  have hbound := haccount.bridge.bound q hpending
  have hsettlement : ∀ c, (s.bridge.deliver raw).1.settlement? c =
      if c = q.future ∧ c < s.bridge.futures.length then
        some ((s.bridge.settlement? c).getD (.error f)) else s.bridge.settlement? c := by
    intro c
    rw [Bridge.deliver_of_error hid hq hf, Bridge.settlement?_settle]
    rfl
  have hfound : failureOf? ((s.bridge.deliver raw).1.settlement? q.future) = some f := by
    rw [hsettlement, if_pos ⟨rfl, hbound⟩, hopen]
    rfl
  cases hfirst : calls.findSome? fun c => failureOf? ((s.bridge.deliver raw).1.settlement? c) with
  | none =>
    have hnone := List.findSome?_eq_none_iff.mp hfirst q.future hcall
    exact absurd (hfound.symm.trans hnone) nofun
  | some g =>
    obtain ⟨c, hc, hg⟩ := List.exists_of_findSome?_eq_some hfirst
    by_cases he : c = q.future
    · rw [he] at hg
      exact hg.symm.trans hfound
    · rw [hsettlement, if_neg fun h => he h.1, h.clean calls hs c hc] at hg
      cases hg

/-- The failure that a reply carries is one that a session reports. -/
theorem failureReport?_of_errorOf {raw : Wire} (hf : errorOf? raw = some f) :
    failureReport? f = some ⟨some f.describe, none⟩ := by
  obtain ⟨kind, text, rfl⟩ := Message.sandbox_of_errorOf hf
  have hkind : ¬(Failure.sandbox kind text).kind = Failure.cancelledKind := nofun
  exact if_neg hkind

/-- A reply of an error that is looked at while the calls that are open at the end are waited
for dooms the session, with its failure or with the one that was known before, unless the program
has given the call a result. -/
theorem Tidy.doomed_deliver (h : Tidy s) {calls : List Nat} {failure : Option Failure}
    (hs : s.phase = .gathering calls failure) {raw : Wire} {q : PendingCall}
    (hid : replyId? raw = some q.id) (hq : s.bridge.find? q.id = some q)
    (hf : errorOf? raw = some f)
    (hr : failure = none → ∀ w, s.bridge.settlement? q.future ≠ some (.ok w)) :
    Doomed (failure.getD f) (Session.deliver raw s) := by
  have hreceives : s.canReceive = true := by
    unfold canReceive
    rw [hs]
  have hover := isOver_of_phase hs fun _ => nofun
  have hsession : Session.deliver raw s = { s with
      bridge := (s.bridge.deliver raw).1
      phase := .gathering calls (some (failure.getD f)) } := by
    unfold Session.deliver
    rw [if_pos hreceives]
    dsimp only
    rw [hs]
    dsimp only
    cases failure with
    | none => rw [Option.none_or, h.findSome?_eq hs hid hq hf (hr rfl)]; rfl
    | some g => rfl
  rw [hsession]
  refine ⟨.inl ⟨calls, rfl⟩, ?_, fun hc report hm => .inl (h.counted.early hc hover report hm), nofun⟩
  obtain ⟨issues, own, haccount⟩ := h.account
  exact fun _ hm => haccount.not_isSuccess hover hm

/-- The timer sends at most its report. -/
theorem onTimer_sent (s : Session π) :
    (onTimer s).sent = s.sent ∨ (onTimer s).sent = s.sent ++ [timeoutReport.view.toWire] := by
  unfold onTimer
  cases s.budget with
  | none => exact .inl rfl
  | some ms =>
    cases hf : s.finished with
    | true => simp [finish, hf]
    | false => cases hc : s.connected <;> simp [finish, send, timeoutReport, hf, hc]

/-- A session that is over or has only a failure left to tell stays where it is and tells at
most that its time was up, unless it tells the failure. -/
theorem rests_step {g : Failure} (h : (∃ calls, s.phase = .gathering calls (some g)) ∨ s.isOver = true)
    (p : Program π) (e : Event) :
    (∃ calls, s.phase = .gathering calls (some g)) ∧ e = .turn ∧ step p s e = fail g s ∨
      (step p s e).phase = s.phase ∧ ((step p s e).sent = s.sent ∨
        (step p s e).sent = s.sent ++ [timeoutReport.view.toWire]) := by
  have hsame : ∀ {t : Session π}, t = s → t.phase = s.phase ∧
      (t.sent = s.sent ∨ t.sent = s.sent ++ [timeoutReport.view.toWire]) := by
    rintro t rfl
    exact ⟨rfl, .inl rfl⟩
  have hphase : (∃ calls, s.phase = .gathering calls (some g)) ∨ ∃ ending, s.phase = .over ending :=
    h.imp_right phase_of_isOver
  cases e with
  | timer => exact .inr ⟨(onTimer_keeps s).1, onTimer_sent s⟩
  | disconnect => exact .inr ⟨rfl, .inl rfl⟩
  | turn =>
    rcases hphase with ⟨calls, hp⟩ | ⟨ending, hp⟩
    · refine .inl ⟨⟨calls, hp⟩, rfl, ?_⟩
      unfold step turn
      dsimp only
      rw [hp]
    · refine .inr (hsame ?_)
      unfold step turn
      dsimp only
      rw [hp]
  | instruct raw =>
    refine .inr (hsame ?_)
    unfold step instruct
    dsimp only
    rcases hphase with ⟨calls, hp⟩ | ⟨ending, hp⟩ <;> rw [hp]
  | hangUp =>
    refine .inr (hsame ?_)
    unfold step
    dsimp only
    rcases hphase with ⟨calls, hp⟩ | ⟨ending, hp⟩ <;> rw [hp]
  | wake =>
    refine .inr (hsame ?_)
    unfold step
    dsimp only
    rcases hphase with ⟨calls, hp⟩ | ⟨ending, hp⟩ <;> rw [hp]
  | deliver raw =>
    rcases hphase with ⟨calls, hp⟩ | ⟨ending, hp⟩
    · have hreceives : s.canReceive = true := by
        unfold canReceive
        rw [hp]
      unfold step deliver
      dsimp only
      rw [if_pos hreceives, hp]
      exact .inr ⟨rfl, .inl rfl⟩
    · have hreceives : ¬s.canReceive = true := by
        unfold canReceive
        rw [hp]
        exact Bool.false_ne_true
      refine .inr (hsame ?_)
      unfold step deliver
      dsimp only
      rw [if_neg hreceives]

/-- The report that an event of such a session comes to is that of its timer or its failure. -/
theorem report_of_rests {g : Failure} {e : Event} {report : Done}
    (h : (∃ calls, s.phase = .gathering calls (some g)) ∨ s.isOver = true)
    (hr : s.report? e = some report) : report = timeoutReport ∨ failureReport? g = some report := by
  have hphase := h.imp_right phase_of_isOver
  unfold report? at hr
  cases e with
  | instruct raw => rcases hphase with ⟨calls, hp⟩ | ⟨ending, hp⟩ <;> simp [hp] at hr
  | turn =>
    unfold turnReport? at hr
    rcases hphase with ⟨calls, hp⟩ | ⟨ending, hp⟩
    · rw [hp] at hr
      exact .inr hr
    · rw [hp] at hr
      cases hr
  | timer =>
    obtain ⟨ms, -, hreport⟩ := Option.map_eq_some_iff.mp hr
    exact .inl hreport.symm
  | _ => cases hr

/-- One more message that tells of no success leaves a session without one. -/
theorem not_isSuccess_concat {sent : List Wire} {message : Wire} (h : ∀ raw ∈ sent, ¬IsSuccess raw)
    (hm : ¬IsSuccess message) : ∀ raw ∈ sent ++ [message], ¬IsSuccess raw := by
  intro raw hraw
  rcases List.mem_append.mp hraw with hraw | hraw
  · exact h raw hraw
  · rw [List.mem_singleton.mp hraw]
    exact hm

/-- A session that fails tells of no success. -/
theorem not_isSuccess_fail (g : Failure) (h : ∀ raw ∈ s.sent, ¬IsSuccess raw) :
    ∀ raw ∈ (fail g s).sent, ¬IsSuccess raw := by
  unfold fail
  split
  · exact h
  · have hplain : Message.IsPlain (Done.view ⟨some g.describe, none⟩).toWire :=
      Message.isPlain_done (.inl (Option.some_ne_none _))
    obtain ⟨-, -, -, -, -, hsent | ⟨-, hsent⟩⟩ := Account.report_cases ⟨some g.describe, none⟩ s.close
    · rw [hsent]
      exact h
    · rw [hsent]
      exact not_isSuccess_concat h hplain.success

/-- The run of a session that is doomed stays so. -/
theorem Doomed.step {g : Failure} (h : Doomed g s) (p : Program π) (e : Event) :
    Doomed g (Session.step p s e) := by
  have hrests := rests_step h.phase p e
  have htold : (Session.step p s e).connected = true →
      s.connected = true ∧ Tells (s.report? e) s (Session.step p s e) := by
    intro hc
    have he : e ≠ .disconnect := by
      rintro rfl
      cases hc
    have hbefore := (connected_step (s := s) p he).symm.trans hc
    exact ⟨hbefore, (told_step p he hbefore).1⟩
  refine ⟨?phase, ?success, ?reports, ?ended⟩
  case phase =>
    rcases hrests with ⟨-, -, hstep⟩ | ⟨hphase, -⟩
    · right
      rw [hstep]
      exact isOver_fail g s
    · exact h.phase.imp (fun ⟨calls, hp⟩ => ⟨calls, hphase.trans hp⟩) (isOver_congr hphase).trans
  case success =>
    rcases hrests with ⟨-, -, hstep⟩ | ⟨-, hsent | hsent⟩
    · rw [hstep]
      exact not_isSuccess_fail g h.success
    · rw [hsent]
      exact h.success
    · rw [hsent]
      have hplain : Message.IsPlain timeoutReport.view.toWire := Message.isPlain_done (.inr rfl)
      exact not_isSuccess_concat h.success hplain.success
  case reports =>
    intro hc report hm
    obtain ⟨hbefore, htells⟩ := htold hc
    rw [htells.reports, List.mem_append] at hm
    rcases hm with hm | hm
    · exact h.reports hbefore report hm
    · split at hm
      · cases hm
      · exact report_of_rests h.phase (Option.mem_toList.mp hm)
  case ended =>
    intro hc ho hg
    obtain ⟨hbefore, htells⟩ := htold hc
    rw [htells.finished]
    rcases hrests with ⟨⟨calls, hp⟩, rfl, -⟩ | ⟨hphase, -⟩
    · have hreport : s.report? .turn = failureReport? g := by
        unfold report? turnReport?
        rw [hp]
      rw [hreport, hg]
      exact Bool.or_true _
    · have hover : s.isOver = true := (isOver_congr hphase).symm.trans ho
      rw [h.ended hbefore hover hg]
      rfl

/-- A session that is doomed is over, or is over after a turn. -/
theorem Doomed.ends {g : Failure} (h : Doomed g s) (p : Program π) :
    s.isOver = true ∨ (Session.turn p s).isOver = true := by
  rcases h.phase with ⟨calls, hp⟩ | ho
  · right
    unfold Session.turn
    rw [hp]
    exact isOver_fail g s
  · exact .inl ho

/-- A session that is doomed and over has sent one report, which is that of its timer or that
of its failure. -/
theorem Doomed.reports_eq {g : Failure} {report : Done} (h : Doomed g s) (k : Counted s)
    (hc : s.connected = true) (ho : s.isOver = true) (hg : failureReport? g = some report) :
    s.reports = [timeoutReport] ∨ s.reports = [report] := by
  have hfinished := h.ended hc ho (by rw [hg]; rfl)
  obtain ⟨sent, hsent⟩ := k.one hc hfinished
  have hmem : sent ∈ s.reports := by
    rw [hsent]
    exact List.mem_singleton_self sent
  rw [hsent]
  rcases h.reports hc sent hmem with he | he
  · rw [he]
    exact .inl rfl
  · rw [hg] at he
    rw [Option.some.inj he]
    exact .inr rfl

end Session

end ChartScript
