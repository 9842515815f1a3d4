import ChartScript.Proofs.Session.Unnoticed
import ChartScript.Proofs.System.Commit
/-!
# Errors of calls that nothing waits for

What becomes of a run when a call of its script is answered with an error and the script does
not wait for the call. If the script has ended by then the run fails: it never completes,
nothing of it is stored, and its session reports the failure unless its time was up before.
If the script has not ended, or has given the call a result itself, it makes no difference that
the answer is an error: the same happens as if it had been any other one.
-/

namespace ChartScript

open Message (Done IsSuccess replyId? errorOf?)
open Session (Program Doomed Tidy Alike timeoutReport failureReport?)

variable {π σ : Type}

namespace System

variable {w : World π σ} {s : System π σ} {n : Nat} {g : Failure}

/-- What holds of a system at every moment. -/
structure Sound (s : System π σ) : Prop where
  /-- The fleet is sound. -/
  fleet : s.fleet.Sound
  /-- The parts of every outcome fit its status. -/
  fitted : s.fleet.Fitted
  /-- Every context has a session. -/
  seated : s.seats.length = s.fleet.contexts.length
  /-- Every session is tidy. -/
  tidy : ∀ (m : Nat) (seat : Seat π), s.seats[m]? = some seat → Tidy seat.timeline.session
  /-- The session of a completed run has told of its success. -/
  completed : ∀ (m : Nat) (c : Context) (o : Run.Outcome) (seat : Seat π),
    s.fleet.contexts[m]? = some c → c.outcome = some o → o.status = .completed →
    s.seats[m]? = some seat → ∃ raw ∈ seat.timeline.session.sent, IsSuccess raw

/-- A system before its first event is sound. -/
theorem sound_empty (sink : σ) (console : Option Console) (defaultTimeoutMs : Int) :
    (empty (.empty sink console defaultTimeoutMs) : System π σ).Sound := by
  refine ⟨Fleet.sound_empty sink console defaultTimeoutMs, ?_, rfl, ?_, ?_⟩
  · intro m c o hc
    cases hc
  · intro m seat hs
    cases hs
  · intro m c o seat hc
    cases hc

/-- A session after an event is new, or it was there and at most its own event has happened
in it. -/
theorem session_of_step (w : World π σ) (s : System π σ) (e : Event) {next : Seat π}
    (hn : (s.step w e).seats[n]? = some next) : next.timeline.session = .fresh ∨
      ∃ seat, s.seats[n]? = some seat ∧ (next.timeline.session = seat.timeline.session ∨
        ∃ own inbox, e = .process n own inbox ∧
          next.timeline.session = Session.step w.program seat.timeline.session own) := by
  cases hs : s.seats[n]? with
  | some seat =>
    obtain ⟨found, hfound, hsession⟩ := session_step w e hs
    cases hn.symm.trans hfound
    exact .inr ⟨seat, rfl, hsession⟩
  | none =>
    have hge := List.getElem?_eq_none_iff.mp hs
    have hlt := (List.getElem?_eq_some_iff.mp hn).1
    by_cases hstart : ∃ i spec, e = .start i spec
    · obtain ⟨i, spec, rfl⟩ := hstart
      change (s.seats ++ [⟨.fresh, 0, 0⟩])[n]? = some next at hn
      rw [List.getElem?_append_right hge] at hn
      have hnew := List.mem_of_getElem? hn
      rw [List.mem_singleton.mp hnew]
      exact .inl rfl
    · rw [length_seats_step w s fun i spec he => hstart ⟨i, spec, he⟩] at hlt
      omega

/-- What happens in a process happens in its session. -/
theorem session_process (w : World π σ) (own : Session.Event) (inbox : List Wire) {seat : Seat π}
    (hs : s.seats[n]? = some seat) : ∃ next, (s.step w (.process n own inbox)).seats[n]? = some next ∧
      next.timeline.session = Session.step w.program seat.timeline.session own := by
  refine ⟨_, (getElem?_mapSeat s n _ n).trans (congrArg _ hs), ?_⟩
  dsimp only
  rw [if_pos rfl]
  rfl

/-- What a session has sent stays sent. -/
theorem mem_sent_step (w : World π σ) (e : Event) {seat next : Seat π} {raw : Wire}
    (hs : s.seats[n]? = some seat) (hn : (s.step w e).seats[n]? = some next)
    (hm : raw ∈ seat.timeline.session.sent) : raw ∈ next.timeline.session.sent := by
  obtain ⟨found, hfound, hsession⟩ := session_step w e hs
  cases hn.symm.trans hfound
  rcases hsession with hsession | ⟨own, inbox, -, hsession⟩
  · rw [hsession]
    exact hm
  · rw [hsession]
    exact (Session.sends_step w.program seat.timeline.session own).extends_.subset hm

/-- Every event that can come next leaves a sound system. -/
theorem Sound.step (h : s.Sound) (w : World π σ) {e : Event} (ha : s.Allows e) :
    (System.step w s e).Sound := by
  refine ⟨sound_step w h.fleet ha, ?fitted, seated_step w h.seated ha, ?tidy, ?completed⟩
  case fitted =>
    rw [step_fleet w ha]
    split
    · exact h.fleet.fitted_step h.fitted w.ops w.hasAttachments s.now _
    · exact h.fitted
  case tidy =>
    intro m next hn
    rcases session_of_step w s e hn with hfresh | ⟨seat, hs, hsame | ⟨own, inbox, -, hown⟩⟩
    · rw [hfresh]
      exact Session.tidy_fresh
    · rw [hsame]
      exact h.tidy m seat hs
    · rw [hown]
      exact (h.tidy m seat hs).step w.program own
  case completed =>
    intro m d o next hd hdo hstatus hn
    obtain ⟨c, hc, -, hco⟩ := settled_step w h.fleet ha hd hdo
    have hlt : m < s.seats.length := h.seated ▸ (List.getElem?_eq_some_iff.mp hc).1
    have hs := List.getElem?_eq_getElem hlt
    have htold : ∃ raw ∈ s.seats[m].timeline.session.sent, IsSuccess raw := by
      rcases hco with hco | hco
      · obtain ⟨raw, -, hraw, hsuccess, -⟩ := completes_step w h.fleet ha hc hco hd hdo hstatus
        exact ⟨raw, mem_sent_of_nextHeard? hraw hs, hsuccess⟩
      · exact h.completed m c o _ hc hco hstatus hs
    obtain ⟨raw, hm, hsuccess⟩ := htold
    exact ⟨raw, mem_sent_step w e hs hn hm, hsuccess⟩

/-- Every run of events that can come one after the other leaves a sound system. -/
theorem Sound.run (h : s.Sound) (w : World π σ) {events : List Event} (ha : s.AllowsAll w events) :
    (System.run w s events).Sound := by
  induction events generalizing s with
  | nil => exact h
  | cons e rest ih => exact ih (h.step w ha.1) ha.2

/-- A run that fails. -/
structure Fails (w : World π σ) (g : Failure) (s : System π σ) (n : Nat) : Prop where
  /-- Its outcome, if there is one, says that it has failed, that its time was up or that it
  was killed, and names no artifacts. -/
  outcome : ∀ c o, s.fleet.contexts[n]? = some c → c.outcome = some o →
    (o.status = .failed ∨ o.status = .timedOut ∨ o.status = .terminated) ∧ o.artifacts = []
  /-- Nothing that happens to its context changes what is registered and stored. -/
  commits : ∀ e own, s.Allows e → s.fleetEvent? e = some (.context n own) →
    (s.step w e).fleet.gallery = s.fleet.gallery
  /-- Its session is over, or will be with its next turn. -/
  ends : ∀ seat, s.seats[n]? = some seat → seat.timeline.session.isOver = true ∨
    (Session.turn w.program seat.timeline.session).isOver = true
  /-- When the session is over, and the host could be reached, it has sent one report: that of
  the failure, if its time was not up before. -/
  reports : ∀ seat report, s.seats[n]? = some seat → failureReport? g = some report →
    seat.timeline.session.connected = true → seat.timeline.session.isOver = true →
      seat.timeline.session.reports = [timeoutReport] ∨ seat.timeline.session.reports = [report]

/-- What happens to a context whose session has told of no success changes nothing that is
registered and stored. -/
theorem Sound.gallery_eq (h : s.Sound) (w : World π σ) {seat : Seat π} (hs : s.seats[n]? = some seat)
    (hn : ∀ raw ∈ seat.timeline.session.sent, ¬IsSuccess raw) {e : Event} {own : Context.Event}
    (ha : s.Allows e) (he : s.fleetEvent? e = some (.context n own)) :
    (s.step w e).fleet.gallery = s.fleet.gallery := by
  rw [step_fleet w ha, he]
  change (s.fleet.within s.now n (Context.happen w.ops w.hasAttachments own)).gallery = _
  cases hc : s.fleet.contexts[n]? with
  | none => rw [Fleet.within_of_none hc]
  | some c =>
    have hcontext := h.fleet.contexts n c hc
    rw [Fleet.within_of_some hc]
    change (Context.happen w.ops w.hasAttachments own (s.fleet.scene s.now n c)).gallery = _
    unfold Context.happen
    split
    · rcases Context.step_cases (s := s.fleet.scene s.now n c) hcontext w.ops w.hasAttachments ‹_› with
        hquiet | ⟨raw, rfl, hsuccess, -⟩
      · exact hquiet.gallery
      · obtain ⟨-, hraw⟩ := eq_hear_of_fleetEvent? ha he
        exact absurd hsuccess (hn raw (mem_sent_of_nextHeard? hraw hs))
    · rfl

/-- A run whose session is doomed fails. -/
theorem Sound.fails (h : s.Sound) (w : World π σ) {seat : Seat π} (hs : s.seats[n]? = some seat)
    (hd : Doomed g seat.timeline.session) : Fails w g s n := by
  refine ⟨?outcome, fun e own ha he => h.gallery_eq w hs hd.success ha he, ?ends, ?reports⟩
  case outcome =>
    intro c o hc ho
    refine (h.fitted n c o hc ho).of_not_completed fun hstatus => ?_
    obtain ⟨raw, hm, hsuccess⟩ := h.completed n c o seat hc ho hstatus hs
    exact hd.success raw hm hsuccess
  case ends =>
    intro next hn
    cases hs.symm.trans hn
    exact hd.ends w.program
  case reports =>
    intro next report hn hreport hc ho
    cases hs.symm.trans hn
    exact hd.reports_eq (h.tidy n seat hs).counted hc ho hreport

/-- A session that is doomed stays so, whatever happens in the system. -/
theorem doomed_run (w : World π σ) {events : List Event} {seat : Seat π}
    (hs : s.seats[n]? = some seat) (hd : Doomed g seat.timeline.session) :
    ∃ next, (System.run w s events).seats[n]? = some next ∧ Doomed g next.timeline.session := by
  induction events generalizing s seat with
  | nil => exact ⟨seat, hs, hd⟩
  | cons e rest ih =>
    obtain ⟨next, hn, hsession⟩ := session_step w e hs
    refine ih hn ?_
    rcases hsession with hsame | ⟨own, inbox, -, hown⟩
    · rw [hsame]
      exact hd
    · rw [hown]
      exact hd.step w.program own

/-- What the reply of an error to a call makes of a run. -/
structure Refused (w : World π σ) (s : System π σ) (n : Nat) (q : PendingCall) (raw : Wire)
    (f : Failure) : Prop where
  /-- The failure is one that a session reports. -/
  reported : failureReport? f = some ⟨some f.describe, none⟩
  /-- If it is looked at after the script has ended, the run fails by a failure of an open call that
  was known before, or else by it unless the script has given the call a result itself. -/
  late : ∀ seat calls failure inbox later, s.seats[n]? = some seat →
    seat.timeline.session.phase = .gathering calls failure →
    (failure = none → ∀ v, seat.timeline.session.bridge.settlement? q.future ≠ some (.ok v)) →
    s.AllowsAll w (.process n (.deliver raw) inbox :: later) →
      Fails w (failure.getD f) (s.run w (.process n (.deliver raw) inbox :: later)) n
  /-- If it is looked at while the script waits for something else, the script and the host go
  on as with any other reply, as long as the script leaves the call alone. -/
  early : ∀ seat other, s.seats[n]? = some seat →
    Session.WaitsElsewhere q.future seat.timeline.session → replyId? other = some q.id →
      Alike w.program q.future (Session.deliver raw seat.timeline.session)
        (Session.deliver other seat.timeline.session)
  /-- If the script has given the call a result itself, it is the same as any other reply. -/
  settled : ∀ seat other v, s.seats[n]? = some seat →
    seat.timeline.session.bridge.settlement? q.future = some (.ok v) → replyId? other = some q.id →
      Session.deliver raw seat.timeline.session = Session.deliver other seat.timeline.session

/-- Whether a call that the script does not wait for fails the run depends on when the reply of
its error is looked at. -/
theorem refused_of_errorOf (w : World π σ) (sink : σ) (console : Option Console)
    (defaultTimeoutMs : Int) {events : List Event}
    (ha : (empty (.empty sink console defaultTimeoutMs) : System π σ).AllowsAll w events) {n : Nat}
    {seat : Seat π} {q : PendingCall} {raw : Wire} {f : Failure}
    (hs : ((empty (.empty sink console defaultTimeoutMs)).run w events).seats[n]? = some seat)
    (hq : seat.timeline.session.bridge.find? q.id = some q) (hid : replyId? raw = some q.id)
    (hf : errorOf? raw = some f) :
    Refused w ((empty (.empty sink console defaultTimeoutMs)).run w events) n q raw f := by
  have hsound := (sound_empty sink console defaultTimeoutMs).run w ha
  have htidy := hsound.tidy n seat hs
  refine ⟨Session.failureReport?_of_errorOf hf, ?late, ?early, ?settled⟩
  case late =>
    intro found calls failure inbox later hfound hp hopen hlater
    cases hs.symm.trans hfound
    obtain ⟨next, hnext, hsession⟩ := session_process w (.deliver raw) inbox hs
    have hdoomed : Doomed (failure.getD f) next.timeline.session := by
      rw [hsession]
      exact htidy.doomed_deliver hp hid hq hf hopen
    obtain ⟨last, hlast, hstill⟩ := doomed_run w hnext hdoomed
    exact (hsound.run w hlater).fails w hlast hstill
  case early =>
    intro found other hfound hwaits hother
    cases hs.symm.trans hfound
    obtain ⟨issues, own, haccount⟩ := htidy.account
    exact Session.alike_deliver haccount.bridge hwaits hq hid hother w.program
  case settled =>
    intro found other v hfound hv hother
    cases hs.symm.trans hfound
    have hbridge : ∀ {reply : Wire}, replyId? reply = some q.id →
        (seat.timeline.session.bridge.deliver reply).1 = seat.timeline.session.bridge.forget q.id :=
      fun hreply => Bridge.deliver_of_settled hreply hq hv
    unfold Session.deliver
    rw [hbridge hid, hbridge hother]

/-- A program that asks for bars twice, waits for the second ones only and ends. -/
def twoFetches : Program Nat where
  start _ := .asks (.request "getBars" (.ok [("symbol", .text "A"), ("timeframe", .text "1d")])) 0
  resume
    | 0, _ => .asks (.request "getBars" (.ok [("symbol", .text "B"), ("timeframe", .text "1d")])) 1
    | 1, .call number => .asks (.wait number) 2
    | _, _ => .ended

/-- Processes that ask for bars twice, with the sink in memory. -/
def fetchingWorld : World Nat Artifact.Sink := ⟨twoFetches, Artifact.Sink.ops, false, fun _ => none⟩

/-- A run of the program up to the moment at which both calls are looked at. -/
def bothFetched : List Event :=
  [.start "a" ⟨"S", "1h", "", 2000⟩,
    .context 0 .created,
    .tell 0,
    .process 0 (.instruct (Message.Instruction.ofSpec ⟨"S", "1h", "", 2000⟩).view.toWire) [],
    .process 0 .turn [],
    .process 0 .turn [],
    .process 0 .turn [],
    .hear 0,
    .hear 0,
    .hear 0,
    .context 0 (.serve 0),
    .context 0 (.serve 1)]

/-- What the first fetch comes to. -/
def noBars : Failure := .value "no bars"

/-- The reply to the first call. -/
def firstReply : Wire := (Message.Reply.failure "call-0" noBars).view.toWire

/-- The reply to the second call. -/
def secondReply : Wire := (Message.Reply.success "call-1" (.list [])).view.toWire

/-- The first reply comes before the second one. -/
def refusedFirst : List Event := bothFetched ++ [.context 0 (.fetched 0 (.error noBars)), .tell 0]

/-- The first reply comes after the script has ended. -/
def refusedLast : List Event := bothFetched ++
  [.context 0 (.fetched 1 (.ok (.list []))),
    .tell 0,
    .process 0 (.deliver secondReply) [],
    .process 0 .turn [],
    .process 0 .turn [],
    .context 0 (.fetched 0 (.error noBars)),
    .tell 0]

/-- The rest of a run in which the first reply came before the second one. -/
def restOfFirst : List Event :=
  [.process 0 (.deliver firstReply) [],
    .context 0 (.fetched 1 (.ok (.list []))),
    .tell 0,
    .process 0 (.deliver secondReply) [],
    .process 0 .turn [],
    .process 0 .turn [],
    .hear 0]

/-- The rest of a run in which the first reply came after the script has ended. -/
def restOfLast : List Event := [.process 0 (.deliver firstReply) [], .process 0 .turn [], .hear 0]

/-- The run up to there can happen. -/
theorem allowsAll_bothFetched : (empty (.empty .empty none 2000)).AllowsAll fetchingWorld bothFetched := by
  refine ⟨trivial, ⟨nofun, ?_⟩, trivial, ?_, ?_, ?_, ?_, ?_, ?_, ?_, ⟨nofun, ?_⟩, ⟨nofun, ?_⟩,
    trivial⟩
  · rintro c ⟨⟩
    exact ⟨rfl, trivial⟩
  · rintro seat ⟨⟩
    rfl
  · rintro seat ⟨⟩
    rfl
  · rintro seat ⟨⟩
    rfl
  · rintro seat ⟨⟩
    rfl
  · rintro c ⟨⟩
    rfl
  · rintro c ⟨⟩
    rfl
  · rintro c ⟨⟩
    rfl
  · rintro c ⟨⟩
    exact ⟨rfl, rfl⟩
  · rintro c ⟨⟩
    exact ⟨rfl, rfl⟩

/-- The first reply can come before the second one. -/
theorem allowsAll_refusedFirst :
    (empty (.empty .empty none 2000)).AllowsAll fetchingWorld refusedFirst := by
  refine (allowsAll_append fetchingWorld).mpr ⟨allowsAll_bothFetched, ⟨nofun, ?_⟩, trivial, trivial⟩
  rintro c ⟨⟩
  exact ⟨rfl, trivial⟩

/-- The first reply can come after the script has ended. -/
theorem allowsAll_refusedLast :
    (empty (.empty .empty none 2000)).AllowsAll fetchingWorld refusedLast := by
  refine (allowsAll_append fetchingWorld).mpr
    ⟨allowsAll_bothFetched, ⟨nofun, ?_⟩, trivial, ?_, ?_, ?_, ⟨nofun, ?_⟩, trivial, trivial⟩
  · rintro c ⟨⟩
    exact ⟨rfl, trivial⟩
  · rintro seat ⟨⟩
    rfl
  · rintro seat ⟨⟩
    rfl
  · rintro seat ⟨⟩
    rfl
  · rintro c ⟨⟩
    exact ⟨rfl, trivial⟩

/-- The same reply to the same program: looked at while the script waits for the other call it
makes no difference and the run completes, looked at after the script has ended it fails the
run. -/
theorem refused_firstReply :
    (empty (.empty .empty none 2000)).AllowsAll fetchingWorld (refusedFirst ++ restOfFirst) ∧
      Refused fetchingWorld ((empty (.empty .empty none 2000)).run fetchingWorld refusedFirst) 0
        ⟨"call-0", 0⟩ firstReply (.sandbox .runtime "no bars") ∧
      (((empty (.empty .empty none 2000)).run fetchingWorld
        (refusedFirst ++ restOfFirst)).fleet.contexts.map
          fun c => c.outcome.map Run.Outcome.status) = [some .completed] ∧
      (empty (.empty .empty none 2000)).AllowsAll fetchingWorld (refusedLast ++ restOfLast) ∧
      Refused fetchingWorld ((empty (.empty .empty none 2000)).run fetchingWorld refusedLast) 0
        ⟨"call-0", 0⟩ firstReply (.sandbox .runtime "no bars") ∧
      (((empty (.empty .empty none 2000)).run fetchingWorld
        (refusedLast ++ restOfLast)).fleet.contexts.map
          fun c => c.outcome.map Run.Outcome.status) = [some .failed] := by
  have hfirst := allowsAll_refusedFirst
  have hlast := allowsAll_refusedLast
  refine ⟨(allowsAll_append fetchingWorld).mpr ⟨hfirst, ?_⟩, ?_, rfl,
    (allowsAll_append fetchingWorld).mpr ⟨hlast, ?_⟩, ?_, rfl⟩
  · refine ⟨?_, ⟨nofun, ?_⟩, trivial, ?_, ?_, ?_, ?_, trivial⟩
    · rintro seat ⟨⟩
      rfl
    · rintro c ⟨⟩
      exact ⟨rfl, trivial⟩
    · rintro seat ⟨⟩
      rfl
    · rintro seat ⟨⟩
      rfl
    · rintro seat ⟨⟩
      rfl
    · rintro c ⟨⟩
      rfl
  · exact refused_of_errorOf fetchingWorld .empty none 2000 hfirst rfl rfl rfl rfl
  · refine ⟨?_, ?_, ?_, trivial⟩
    · rintro seat ⟨⟩
      rfl
    · rintro seat ⟨⟩
      rfl
    · rintro c ⟨⟩
      rfl
  · exact refused_of_errorOf fetchingWorld .empty none 2000 hlast rfl rfl rfl rfl

end System

end ChartScript
