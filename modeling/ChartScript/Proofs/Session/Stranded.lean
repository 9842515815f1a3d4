import ChartScript.Proofs.Bridge.Stranded
import ChartScript.Proofs.Session.Gathering
/-!
# Sessions that wait for nobody

A program may go on after a call of it could not be encoded. The call is still entered in the
table of the bridge, nobody was ever asked for it, and at the end the session waits for its
reply: it never reports a success, and unless something else fails it waits until its time is
up.
-/

namespace ChartScript.Session

open Bridge (askedId? isConnectionLoss)
open Message (Done IsSuccess Request requestOf? replyId? reportOf?)
open Script (Effect Answer)

variable {π : Type} {s t : Session π} {id : String}

section Posted

/-- A request is posted for a call that can be encoded. -/
theorem exists_of_mem_postedFrom {number : Nat} {issues : List Issue} {r : Request}
    (h : r ∈ postedFrom number issues) :
    ∃ (k : Nat) (i : Issue), issues[k]? = some i ∧ i.request? (number + k) = some r := by
  induction issues generalizing number with
  | nil => cases h
  | cons i rest ih =>
    rw [postedFrom, List.mem_append] at h
    rcases h with h | h
    · exact ⟨0, i, rfl, Option.mem_toList.mp h⟩
    · obtain ⟨k, j, hj, hr⟩ := ih h
      refine ⟨k + 1, j, hj, ?_⟩
      rw [← hr, Nat.add_right_comm, Nat.add_assoc]

/-- No request is posted for a call that cannot be encoded. -/
theorem id_ne_of_mem_posted {issues : List Issue} {r : Request} (h : r ∈ posted issues) {k : Nat}
    {method : String} {f : Failure} (hk : issues[k]? = some ⟨method, .error f⟩) :
    r.id ≠ callId k := by
  intro hid
  obtain ⟨j, i, hj, hr⟩ := exists_of_mem_postedFrom h
  rw [Nat.zero_add] at hr
  unfold Issue.request? at hr
  split at hr
  · rename_i fields hfields
    cases hr
    cases callId_injective hid
    cases hj.symm.trans hk
    cases hfields
  · cases hr

/-- One more call takes no request from those that were posted. -/
theorem mem_posted_append {issues : List Issue} {r : Request} (h : r ∈ posted issues)
    (more : Option Issue) : r ∈ posted (issues ++ more.toList) := by
  cases more with
  | none => simpa using h
  | some i =>
    rw [Option.toList_some, posted_concat]
    exact List.mem_append_left _ h

end Posted

/-- The calls that the program of a session has issued, with or without a host, and those that it has
given a result. -/
structure Recorded (issues : List Issue) (own : List Nat) (s : Session π) : Prop where
  /-- It keeps an account of them. -/
  account : Account issues own (fun _ => True) s
  /-- It has asked for no others. -/
  posted : ∀ raw ∈ s.sent, ∀ r, requestOf? raw = some r → r ∈ Session.posted issues

namespace Recorded

variable {issues : List Issue} {own : List Nat}

/-- There are no calls before the instruction. -/
theorem fresh : Recorded [] [] (fresh : Session π) :=
  ⟨account_fresh _, fun _ h => absurd h List.not_mem_nil⟩

/-- Every event keeps the record, with the call that the program issues at it or gives a result. -/
theorem step (h : Recorded issues own s) (p : Program π) (e : Event) :
    Recorded (issues ++ (issued? s e).toList) (own ++ (fulfilled? s e).toList) (step p s e) := by
  have haccount := h.account.step p e fun _ _ _ _ => trivial
  refine ⟨haccount, fun raw hraw r hr => ?_⟩
  cases hc : (Session.step p s e).connected with
  | true =>
    rw [← haccount.posted hc]
    exact List.mem_filterMap.mpr ⟨raw, hraw, hr⟩
  | false =>
    have hsilent : (Session.step p s e).sent = s.sent := by
      by_cases he : e = .disconnect
      · subst he
        rfl
      · exact (sends_step p s e).silent ((connected_step p he).symm.trans hc)
    rw [hsilent] at hraw
    exact mem_posted_append (h.posted raw hraw r hr) _

/-- Events keep the record, with some more calls. -/
theorem run (h : Recorded issues own s) (p : Program π) (events : List Event) :
    ∃ more given, Recorded (issues ++ more) (own ++ given) (Session.run p s events) := by
  induction events generalizing issues own s with
  | nil => exact ⟨[], [], by simpa [Session.run] using h⟩
  | cons e rest ih =>
    obtain ⟨more, given, hmore⟩ := ih (h.step p e)
    rw [List.append_assoc, List.append_assoc] at hmore
    exact ⟨_, _, hmore⟩

end Recorded

section Waiting

/-- What a program asks for leaves the calls that wait. -/
theorem mem_pendingIds_perform (p : Program π) (effect : Effect) (rest : π)
    (hopen : s.bridge.closed = false) (hid : id ∈ s.bridge.pendingIds)
    (hold : id ≠ callId s.requests) : id ∈ (perform p effect rest s).bridge.pendingIds := by
  have hlog : ∀ level text, id ∈ (perform p (.log level text) rest s).bridge.pendingIds := by
    intro level text
    unfold perform
    dsimp only
    rcases Account.send_cases (logMessage level text) s with ⟨he, -⟩ | ⟨he, -⟩
    · rw [he]
      exact hid
    · rw [he]
      exact hid
  cases effect with
  | print text => exact hlog "info" text
  | log level text => exact hlog level text
  | request method params =>
    obtain ⟨q, hq, rfl⟩ := List.mem_map.mp hid
    exact List.mem_map_of_mem ((Account.requested hopen method params).kept q hq hold)
  | wait call =>
    unfold perform
    dsimp only
    split <;> exact hid
  | query call what =>
    change id ∈ (s.touch call what).bridge.pending.map PendingCall.id
    rw [pending_touch]
    exact hid
  | sleep seconds => exact hid

/-- A turn of the program leaves the calls that wait, unless the session is over then. -/
theorem mem_pendingIds_turn (p : Program π) (hopen : s.bridge.closed = false)
    (hover : (turn p s).isOver = false) (hid : id ∈ s.bridge.pendingIds)
    (hold : id ≠ callId s.requests) : id ∈ (turn p s).bridge.pendingIds := by
  have hfail : ∀ f, (fail f s).isOver = false → id ∈ (fail f s).bridge.pendingIds := fun f ho =>
    absurd ((isOver_fail f s).symm.trans ho) nofun
  have hsucceed : (succeed s).isOver = false → id ∈ (succeed s).bridge.pendingIds := fun ho =>
    absurd ((Account.report_cases ⟨none, none⟩ s.close).1.symm.trans ho) nofun
  unfold turn at hover ⊢
  split at hover
  · exact mem_pendingIds_perform p _ _ hopen hid hold
  · rcases Account.send_cases (logMessage "info" s.banner) s with ⟨he, -⟩ | ⟨he, -⟩
    · rw [he]
      exact hid
    · rw [he] at hover ⊢
      exact hfail _ hover
  · split at hover
    · exact hsucceed hover
    · split <;> exact hid
  · exact hfail _ hover
  · cases hover
  · split <;> exact hid
  · split at hover
    · exact hfail _ hover
    · split at hover
      · rename_i hall
        rw [if_pos hall]
        exact hsucceed hover
      · rename_i hall
        rw [if_neg hall]
        exact hid
  · exact hid

/-- A call that waits goes on waiting at an event that is no reply to it, unless the session is
over then. -/
theorem mem_pendingIds_step (p : Program π) {e : Event} (hopen : s.bridge.closed = false)
    (hover : (step p s e).isOver = false) (hid : id ∈ s.bridge.pendingIds)
    (hold : id ≠ callId s.requests) (hquiet : ∀ raw, e = .deliver raw → replyId? raw ≠ some id) :
    id ∈ (step p s e).bridge.pendingIds := by
  cases e with
  | instruct raw =>
    unfold step instruct
    dsimp only
    split
    · split
      · rw [(Account.report_cases _ s).2.1]
        exact hid
      · split
        · exact hid
        · rcases Account.send_cases Message.startedView.toWire s with ⟨he, -⟩ | ⟨he, -⟩
          · rw [he]
            exact hid
          · rw [he]
            exact hid
    · exact hid
  | hangUp =>
    unfold step
    dsimp only
    split <;> exact hid
  | turn => exact mem_pendingIds_turn p hopen hover hid hold
  | deliver raw =>
    have hkept := (Bridge.mem_pendingIds_deliver s.bridge raw id).mpr ⟨hid, hquiet raw rfl⟩
    unfold step deliver
    dsimp only
    split
    · split <;> exact hkept
    · exact hid
  | wake =>
    unfold step
    dsimp only
    split <;> exact hid
  | timer =>
    unfold step
    dsimp only
    rw [(onTimer_keeps s).2.1]
    exact hid
  | disconnect => exact hid

end Waiting

/-- A success is told by a report that is none of a failure or a timeout. -/
theorem exists_isSuccess_iff : (∃ raw ∈ s.sent, IsSuccess raw) ↔
    ∃ report ∈ s.reports, report.error = none ∧ report.timedOut ≠ some true := by
  constructor
  · rintro ⟨raw, hm, report, hd, ht, he⟩
    refine ⟨report, List.mem_filterMap.mpr ⟨raw, hm, ?_⟩, he, ht⟩
    unfold reportOf?
    rw [hd]
  · rintro ⟨report, hm, he, ht⟩
    obtain ⟨raw, hraw, hr⟩ := List.mem_filterMap.mp hm
    refine ⟨raw, hraw, report, ?_, ht, he⟩
    unfold reportOf? at hr
    split at hr
    · rename_i hd
      cases hr
      exact hd
    · cases hr

/-- What a session has come to that has entered a call under a number without asking for it. -/
structure Stranded (k : Nat) (s : Session π) : Prop where
  /-- It keeps a record, in which the call is one that cannot be encoded. -/
  recorded : ∃ issues own, Recorded issues own s ∧ ∃ method f, issues[k]? = some ⟨method, .error f⟩ ∧
    isConnectionLoss f.kind = false
  /-- The call waits until the session is over. -/
  waits : s.isOver = false → callId k ∈ s.bridge.pendingIds
  /-- No success was told. -/
  unsuccessful : ∀ raw ∈ s.sent, ¬IsSuccess raw

namespace Stranded

variable {k : Nat}

/-- The call that waits has no result, since the program was never given it. -/
theorem settlement?_ne (h : Stranded k s) {q : PendingCall} (hq : q ∈ s.bridge.pending)
    (hid : q.id = callId k) (w : Wire) : s.bridge.settlement? q.future ≠ some (.ok w) := by
  obtain ⟨issues, own, hr, method, f, hk, hf⟩ := h.recorded
  intro hw
  have hfuture : q.future = k := callId_injective ((hr.account.numbered q hq).symm.trans hid)
  have hown : k ∈ own := hfuture ▸ hr.account.bridge.given q hq w hw
  obtain ⟨i, hi, hgiven⟩ := hr.account.granted k (hr.account.owned hown)
  cases hi.symm.trans hk
  exact absurd ((hgiven f rfl).symm.trans hf) nofun

/-- A call that waits at the end and has not failed is not settled. -/
theorem exists_unsettled (h : Stranded k s) {calls : List Nat}
    (hs : s.phase = .gathering calls none) :
    ∃ q ∈ s.bridge.pending, q.id = callId k ∧ q.future ∈ calls ∧
      s.bridge.settlement? q.future = none := by
  obtain ⟨issues, own, hr, -⟩ := h.recorded
  obtain ⟨q, hq, hid⟩ := List.mem_map.mp (h.waits (isOver_of_phase hs fun _ => nofun))
  obtain ⟨hcall, hfailure⟩ := hr.account.gathering calls hs q hq
  exact ⟨q, hq, hid, hcall, settlement?_eq_none hfailure (h.settlement?_ne hq hid)⟩

/-- The session waits for a call that is not settled. -/
theorem not_all_settled (h : Stranded k s) {calls : List Nat} (hs : s.phase = .gathering calls none) :
    ¬(calls.all fun c => (s.bridge.settlement? c).isSome) = true := by
  obtain ⟨q, -, -, hcall, hnone⟩ := h.exists_unsettled hs
  intro hall
  have hsome := List.all_eq_true.mp hall q.future hcall
  rw [hnone] at hsome
  cases hsome

/-- No event makes it report a success. -/
theorem report?_fails (h : Stranded k s) {e : Event} {report : Done} (hr : s.report? e = some report) :
    report.error ≠ none ∨ report.timedOut = some true := by
  have hfailure : ∀ f, failureReport? f = some report → report.error ≠ none := by
    intro f hf
    unfold failureReport? at hf
    split at hf
    · cases hf
    · cases hf
      exact Option.some_ne_none _
  cases e with
  | instruct raw =>
    unfold report? at hr
    dsimp only at hr
    split at hr
    · split at hr
      · cases hr
        exact .inl (Option.some_ne_none _)
      · cases hr
    · cases hr
  | timer =>
    obtain ⟨ms, -, rfl⟩ := Option.map_eq_some_iff.mp hr
    exact .inr rfl
  | turn =>
    unfold report? turnReport? at hr
    dsimp only at hr
    split at hr
    · rename_i hs
      have hwaits := h.waits (isOver_of_phase hs fun _ => nofun)
      obtain ⟨q, hq, -⟩ := List.mem_map.mp hwaits
      have hsome : s.bridge.outstanding ≠ [] := List.ne_nil_of_mem (List.mem_map_of_mem hq)
      rw [if_neg hsome] at hr
      cases hr
    · exact .inl (hfailure _ hr)
    · exact .inl (hfailure _ hr)
    · rename_i hs
      rw [if_neg (h.not_all_settled hs)] at hr
      cases hr
    · cases hr
  | _ => cases hr

/-- Nobody was asked for the call. -/
theorem unasked (h : Stranded k s) {raw : Wire} (hm : raw ∈ s.sent) :
    askedId? raw ≠ some (callId k) := by
  obtain ⟨issues, own, hr, method, f, hk, -⟩ := h.recorded
  intro hasked
  obtain ⟨r, hrequest, hid⟩ := Option.map_eq_some_iff.mp hasked
  exact id_ne_of_mem_posted (hr.posted raw hm r hrequest) hk hid

/-- Every event but a reply to the call leaves it stranded. -/
theorem step (h : Stranded k s) (p : Program π) {e : Event}
    (hquiet : ∀ raw, e = .deliver raw → replyId? raw ≠ some (callId k)) :
    Stranded k (Session.step p s e) := by
  obtain ⟨issues, own, hr, method, f, hk, hf⟩ := h.recorded
  have hlt : k < issues.length := (List.getElem?_eq_some_iff.mp hk).1
  refine ⟨⟨_, _, hr.step p e, method, f, ?_, hf⟩, ?waits, ?unsuccessful⟩
  · rw [List.getElem?_append_left hlt]
    exact hk
  case waits =>
    intro hover
    have hbefore : s.isOver = false := by
      cases ho : s.isOver with
      | false => rfl
      | true => exact absurd ((isOver_step ho p e).symm.trans hover) nofun
    have hold : callId k ≠ callId s.requests := by
      intro he
      have hn := hr.account.number
      have := callId_injective he
      omega
    exact mem_pendingIds_step p (hr.account.closed_eq_false hbefore) hover (h.waits hbefore) hold hquiet
  case unsuccessful =>
    intro raw hm hsuccess
    cases hc : s.connected with
    | false =>
      rw [(sends_step p s e).silent hc] at hm
      exact h.unsuccessful raw hm hsuccess
    | true =>
      by_cases he : e = .disconnect
      · subst he
        exact h.unsuccessful raw hm hsuccess
      · obtain ⟨report, hreport, herror, htime⟩ := exists_isSuccess_iff.mp ⟨raw, hm, hsuccess⟩
        rw [(told_step p he hc).1.reports, List.mem_append] at hreport
        rcases hreport with hreport | hreport
        · obtain ⟨old, hold, ho⟩ := exists_isSuccess_iff.mpr ⟨report, hreport, herror, htime⟩
          exact h.unsuccessful old hold ho
        · split at hreport
          · cases hreport
          · rcases h.report?_fails (Option.mem_toList.mp hreport) with hfails | hfails
            · exact hfails herror
            · exact htime hfails

/-- Whatever happens but a reply to the call leaves it stranded. -/
theorem run (h : Stranded k s) (p : Program π) {events : List Event}
    (hquiet : ∀ raw, .deliver raw ∈ events → replyId? raw ≠ some (callId k)) :
    Stranded k (Session.run p s events) := by
  induction events generalizing s with
  | nil => exact h
  | cons e rest ih =>
    have hnext := h.step p fun raw he => hquiet raw (he ▸ List.mem_cons_self)
    exact ih hnext fun raw hm => hquiet raw (List.mem_cons_of_mem _ hm)

/-- A call that cannot be encoded is raised to the program, and waits although nothing was sent,
unless the connection is what was lost. -/
theorem request_of_error (hopen : s.bridge.closed = false) (method : String) {f : Failure}
    (hf : isConnectionLoss f.kind = false) :
    request method (.error f) s =
      ({ s with bridge := s.bridge.waiting (callId s.requests), requests := s.requests + 1 },
        raised f) := by
  unfold request
  simp only [Except.bind]
  rw [Bridge.call_of_stranded hopen rfl hf]
  simp [Except.toOption]

/-- A call that cannot be encoded strands the session, unless the connection is what was lost. -/
theorem of_request {issues : List Issue} {own : List Nat} (h : Recorded issues own s) (p : Program π) {method : String}
    {f : Failure} {rest : π} (hs : s.phase = .active (.asks (.request method (.error f)) rest))
    (hf : isConnectionLoss f.kind = false) : Stranded s.requests (Session.step p s .turn) := by
  have hbefore : s.isOver = false := isOver_of_phase hs fun _ => nofun
  have hopen := h.account.closed_eq_false hbefore
  have hissued : issued? s .turn = some ⟨method, .error f⟩ := by
    unfold issued?
    rw [hs]
  have hturn : Session.step p s .turn =
      goOn p rest (raised f)
        { s with bridge := s.bridge.waiting (callId s.requests), requests := s.requests + 1 } := by
    have hperform : Session.step p s .turn = perform p (.request method (.error f)) rest s := by
      unfold Session.step turn
      rw [hs]
    rw [hperform]
    unfold perform
    dsimp only
    rw [request_of_error hopen method hf]
  refine ⟨⟨_, _, h.step p .turn, method, f, ?_, hf⟩, ?waits, ?unsuccessful⟩
  · rw [hissued, h.account.number]
    simp
  case waits =>
    intro _
    rw [hturn]
    simp [goOn, Bridge.pendingIds, Bridge.waiting]
  case unsuccessful =>
    rw [hturn]
    exact fun _ hm => h.account.not_isSuccess hbefore hm

end Stranded

/-- A session that has made a call that nobody was asked for, whatever its program and its host
have done since. -/
structure WaitsInVain (id : String) (s : Session π) : Prop where
  /-- Nobody was asked for the call. -/
  unasked : ∀ raw ∈ s.sent, askedId? raw ≠ some id
  /-- Until the session is over the call waits, without a result. -/
  waits : s.isOver = false → ∃ q ∈ s.bridge.pending, q.id = id ∧
    ∀ w, s.bridge.settlement? q.future ≠ some (.ok w)
  /-- When its program has ended and nothing has failed, the call is among those that are waited
  for, and the session cannot go on. -/
  hangs : ∀ calls, s.phase = .gathering calls none → s.canTurn = false ∧
    ∃ q ∈ s.bridge.pending, q.id = id ∧ q.future ∈ calls
  /-- It has not told of a success. -/
  unsuccessful : ∀ raw ∈ s.sent, ¬IsSuccess raw

/-- A session with a stranded call waits for it in vain. -/
theorem Stranded.waitsInVain {k : Nat} (h : Stranded k s) : WaitsInVain (callId k) s where
  unasked _ hm := h.unasked hm
  waits hover := by
    obtain ⟨q, hq, hid⟩ := List.mem_map.mp (h.waits hover)
    exact ⟨q, hq, hid, h.settlement?_ne hq hid⟩
  hangs calls hs := by
    obtain ⟨q, hq, hid, hcall, -⟩ := h.exists_unsettled hs
    refine ⟨?_, q, hq, hid, hcall⟩
    unfold canTurn
    rw [hs]
    simpa using h.not_all_settled hs
  unsuccessful := h.unsuccessful

/-- Calls are all or nothing exactly when nothing but a lost connection comes in their way. What
else does is raised, and leaves a call that a bridge waits for although nobody was asked for it.
A session whose program goes on after such a call waits for it in vain, as long as the host
answers only what it was asked. -/
theorem accounted_waitsInVain (acts : List Bridge.Act) (hids : (Bridge.Act.ids acts).Nodup)
    (p : Program π) (before after : List Event) :
    Bridge.Accounted acts (Bridge.Traffic.fresh.actAll acts) ∧
      ∀ method f rest, (run p fresh before).phase = .active (.asks (.request method (.error f)) rest) →
        isConnectionLoss f.kind = false →
        (∀ raw, .deliver raw ∈ after → replyId? raw ≠ some (callId (run p fresh before).requests)) →
        WaitsInVain (callId (run p fresh before).requests)
          (run p fresh (before ++ .turn :: after)) := by
  refine ⟨(Bridge.Reckoned.run acts hids).accounted, ?_⟩
  intro method f rest hs hf hquiet
  obtain ⟨issues, own, hr⟩ := Recorded.fresh.run p before
  have hstranded := Stranded.of_request hr p hs hf
  have hrun : run p fresh (before ++ .turn :: after) =
      run p (step p (run p fresh before) .turn) after := by
    unfold run
    rw [List.foldl_append]
    rfl
  rw [hrun]
  exact (hstranded.run p hquiet).waitsInVain

/-- A call whose method is a number, and one that is posted. -/
def numbered : List Bridge.Act :=
  [.call "a" (.int 5) (.ok (.object [])) fun _ => .posted,
    .call "b" (.text "plot:line") (.ok (.object [])) fun _ => .posted]

/-- The failure to encode a function. -/
def unencodable : Failure :=
  ⟨.other "PydanticSerializationError", "Unable to serialize unknown type"⟩

/-- A program that plots a function, takes no notice of the failure and ends. -/
def heedless : Program Unit where
  start _ := .asks (.request "plot:line" (.error unencodable)) ()
  resume _ _ := .ended

/-- The instruction of the program. -/
def instructed : List Event := [.instruct (Message.Instruction.view ⟨"", ⟨"S", "1h"⟩, 500⟩).toWire]

/-- The bridge waits for both calls, and the session until its time is up. -/
theorem accounted_waitsInVain_heedless :
    (Bridge.Traffic.fresh.actAll numbered).raised = ["a"] ∧
      (Bridge.Traffic.fresh.actAll numbered).bridge.pendingIds = ["a", "b"] ∧
      ¬(Bridge.Traffic.fresh.actAll numbered).Asked "a" ∧
      (run heedless fresh (instructed ++ [.turn, .turn, .turn, .timer, .turn])).isOver = false ∧
      (run heedless fresh (instructed ++ [.turn, .turn, .turn, .timer, .turn])).reports = [timeoutReport] ∧
      WaitsInVain "call-0" (run heedless fresh (instructed ++ [.turn, .turn, .turn, .timer, .turn])) := by
  obtain ⟨haccounted, hsession⟩ := accounted_waitsInVain numbered (by decide) heedless instructed
    [.turn, .turn, .timer, .turn]
  have hvain := hsession "plot:line" unencodable () rfl (by decide) (by simp)
  have hraised : (Bridge.Traffic.fresh.actAll numbered).raised = ["a"] := rfl
  refine ⟨hraised, rfl, haccounted.apart "a" ?_, rfl, rfl, hvain⟩
  rw [hraised]
  exact List.mem_singleton_self _

end ChartScript.Session
