import ChartScript.Proofs.Fleet.Completion
import ChartScript.Proofs.System.Log
/-!
# What a completed run commits

The calls that a script issues pass through its session, both pipes and its context. A
session reports a successful end only after every posted call was answered or was given a
result by the script itself, and only what was looked at is answered. When a run completes,
its context has therefore looked at the first calls, up to some that the script has settled
itself. What is committed is what the accepted ones among them leave, in the order in which
the script issued them: what all accepted calls leave, if the script settles no plot itself.
-/

namespace ChartScript

open Artifact (Sink Draft Key Gallery ownPrefix startsWith)
open Message (Request IsSuccess requestOf?)
open Context (Serving)
open Session (Issue Program Timeline accepted posted callId)

variable {π σ : Type}

/-- Which calls of a script the host has looked at when the script has ended well: the first ones, and
every later one that can be encoded was given a result by the script itself. -/
structure Carried (issues : List Issue) (own : List Nat) (kept : List Issue) : Prop where
  /-- They are the first ones, in the order in which they were issued. -/
  first : kept <+: issues
  /-- A later one that can be encoded was given a result by the script itself. -/
  given : ∀ (k : Nat) (i : Issue) (fields : List (String × Wire)), kept.length ≤ k →
    issues[k]? = some i → i.params = .ok fields → k ∈ own

/-- No accepted plot call is left out, if the script has given none of them a result itself. -/
theorem Carried.accepted_eq {issues kept : List Issue} {own : List Nat} (h : Carried issues own kept)
    (hown : ∀ k ∈ own, ∀ i, issues[k]? = some i → i.draft? = none) : accepted kept = accepted issues := by
  obtain ⟨later, rfl⟩ := h.first
  have hlater : accepted later = [] := by
    refine List.filterMap_eq_nil_iff.mpr fun i hi => ?_
    cases hp : i.params with
    | error f =>
      unfold Issue.draft?
      rw [hp]
    | ok fields =>
      obtain ⟨j, hj⟩ := List.mem_iff_getElem?.mp hi
      have hk : (kept ++ later)[kept.length + j]? = some i := by
        rw [List.getElem?_append_right (Nat.le_add_right _ _), Nat.add_sub_cancel_left]
        exact hj
      exact hown _ (h.given _ i fields (Nat.le_add_right _ _) hk hp) i hk
  unfold accepted at hlater ⊢
  rw [List.filterMap_append, hlater, List.append_nil]

namespace InStep

variable {issues : List Issue} {own : List Nat} {looked rest : List Request} {c : Context} {seat : Seat π}

/-- The requests that were heard are the first ones of the session. -/
theorem looked_prefix (h : InStep issues own looked rest c seat) :
    looked <+: seat.timeline.session.sent.filterMap requestOf? := by
  have hall : looked ++ rest <+: seat.timeline.session.sent.filterMap requestOf? := by
    rw [h.requests]
    exact (List.take_prefix _ _).filterMap _
  exact (List.prefix_append looked rest).trans hall

/-- When the session has reported a successful end, the calls that were looked at are the first ones,
up to some that the script has given a result itself. -/
theorem looked_eq (h : InStep issues own looked rest c seat)
    (hs : ∃ raw ∈ seat.timeline.session.sent, IsSuccess raw) :
    ∃ kept, Carried issues own kept ∧ looked = posted kept := by
  obtain ⟨-, hposted, hanswered⟩ := h.account.success hs
  obtain ⟨kept, hfirst, hlooked⟩ := Session.exists_postedFrom_eq (hposted ▸ h.looked_prefix)
  refine ⟨kept, ⟨hfirst, fun k i fields hk hi hp => ?_⟩, hlooked⟩
  have hrequest : i.request? (0 + k) = some ⟨callId k, i.method, Wire.finiteFields fields⟩ := by
    unfold Issue.request?
    rw [hp, Nat.zero_add]
  rcases hanswered _ (Session.mem_postedFrom hi hrequest) with ⟨r, hr, hid⟩ | ⟨j, hj, hid⟩
  · -- what was looked at is earlier
    obtain ⟨j, hlt, hrid⟩ := Session.id_of_mem_posted (hlooked ▸ hr)
    have hjk := Session.callId_injective (hrid.symm.trans hid)
    omega
  · exact Session.callId_injective hid ▸ hj

/-- When the session has reported a successful end, the stage holds what the accepted ones of the
calls leave that were looked at. -/
theorem writes_eq (h : InStep issues own looked rest c seat)
    (hs : ∃ raw ∈ seat.timeline.session.sent, IsSuccess raw) :
    ∃ kept, Carried issues own kept ∧ c.stage.writes = Draft.staged c.instanceId (accepted kept) := by
  obtain ⟨kept, hkept, hlooked⟩ := h.looked_eq hs
  refine ⟨kept, hkept, ?_⟩
  rw [h.serving.writes, hlooked]
  exact congrArg (Draft.staged c.instanceId) (Session.filterMap_posted kept)

end InStep

namespace System

/-- What an event makes of a session that there is: nothing, or its own event happens in
it. -/
theorem session_step (w : World π σ) {s : System π σ} (e : Event) {n : Nat} {seat : Seat π}
    (hs : s.seats[n]? = some seat) : ∃ next, (s.step w e).seats[n]? = some next ∧
      (next.timeline.session = seat.timeline.session ∨ ∃ own inbox, e = .process n own inbox ∧
        next.timeline.session = Session.step w.program seat.timeline.session own) := by
  have hsame : ∀ (m : Nat) {f : Seat π → Seat π}, (∀ a, (f a).timeline.session = a.timeline.session) →
      ∃ next, (s.mapSeat m f).seats[n]? = some next ∧
        next.timeline.session = seat.timeline.session := by
    intro m f hf
    rw [getElem?_mapSeat, hs]
    refine ⟨_, rfl, ?_⟩
    dsimp only
    split
    · exact hf seat
    · rfl
  cases e with
  | start i spec =>
    refine ⟨seat, ?_, .inl rfl⟩
    change (s.seats ++ [_])[n]? = some seat
    rw [List.getElem?_append_left (List.getElem?_eq_some_iff.mp hs).1]
    exact hs
  | terminate i reason => exact ⟨seat, hs, .inl rfl⟩
  | remove i => exact ⟨seat, hs, .inl rfl⟩
  | context m own => exact ⟨seat, hs, .inl rfl⟩
  | tell m =>
    unfold step
    dsimp only
    split
    · split
      · rename_i message _
        obtain ⟨next, hnext, hsession⟩ := hsame m (f := fun seat =>
          { seat with
            told := seat.told + 1
            timeline := { seat.timeline with inbox := seat.timeline.inbox ++ [message] } }) fun _ => rfl
        exact ⟨next, hnext, .inl hsession⟩
      · exact ⟨seat, hs, .inl rfl⟩
    · exact ⟨seat, hs, .inl rfl⟩
  | hear m =>
    rw [step_hear]
    split
    · obtain ⟨next, hnext, hsession⟩ := hsame m (f := hearing) fun _ => rfl
      exact ⟨next, hnext, .inl hsession⟩
    · exact ⟨seat, hs, .inl rfl⟩
  | process m own inbox =>
    refine ⟨_, (getElem?_mapSeat s m _ n).trans (congrArg _ hs), ?_⟩
    dsimp only
    split
    · rename_i hm
      subst hm
      exact .inr ⟨own, inbox, rfl, rfl⟩
    · exact .inl rfl
  | pass moment => exact ⟨seat, hs, .inl rfl⟩

/-- An event that is the message of a session for its context is the one of hearing it. -/
theorem eq_hear_of_fleetEvent? {s : System π σ} {e : Event} (ha : s.Allows e) {n : Nat} {raw : Wire}
    (he : s.fleetEvent? e = some (.context n (.message raw))) :
    e = .hear n ∧ s.nextHeard? n = some raw := by
  cases e with
  | hear m =>
    obtain ⟨found, hfound, heq⟩ := Option.map_eq_some_iff.mp he
    cases heq
    exact ⟨rfl, hfound⟩
  | context m own =>
    cases he
    exact absurd rfl (ha.1 raw)
  | _ => cases he

/-- What a context hears next is among what its session has sent. -/
theorem mem_sent_of_nextHeard? {s : System π σ} {n : Nat} {raw : Wire} {seat : Seat π}
    (h : s.nextHeard? n = some raw) (hs : s.seats[n]? = some seat) :
    raw ∈ seat.timeline.session.sent := by
  unfold nextHeard? at h
  rw [hs, Option.bind_some] at h
  exact List.mem_of_getElem? h

/-- A run completes only when its context hears of a successful end. -/
theorem completes_step (w : World π σ) {s : System π σ} (h : s.fleet.Sound) {e : Event}
    (ha : s.Allows e) {n : Nat} {c d : Context} {o : Run.Outcome}
    (hc : s.fleet.contexts[n]? = some c) (ho : c.outcome = none)
    (hd : (s.step w e).fleet.contexts[n]? = some d) (hdo : d.outcome = some o)
    (hs : o.status = .completed) : ∃ raw, e = .hear n ∧ s.nextHeard? n = some raw ∧ IsSuccess raw ∧
      (s.step w e).fleet = s.fleet.within s.now n (Context.complete w.ops) := by
  have hfleet := step_fleet w ha
  cases hfe : s.fleetEvent? e with
  | none =>
    rw [hfe] at hfleet
    rw [hfleet] at hd
    cases hc.symm.trans hd
    rw [ho] at hdo
    cases hdo
  | some fe =>
    rw [hfe] at hfleet
    dsimp only at hfleet
    rw [hfleet] at hd
    obtain ⟨raw, rfl, hsuccess, hstep⟩ := h.completes_step w.ops w.hasAttachments s.now fe hc ho hd
      hdo hs
    obtain ⟨he, hraw⟩ := eq_hear_of_fleetEvent? ha hfe
    exact ⟨raw, he, hraw, hsuccess, hfleet.trans hstep⟩

/-- A run that is settled after an event was settled before, or is settled at it. -/
theorem settled_step (w : World π σ) {s : System π σ} (h : s.fleet.Sound) {e : Event}
    (ha : s.Allows e) {n : Nat} {d : Context} {o : Run.Outcome}
    (hd : (s.step w e).fleet.contexts[n]? = some d) (hdo : d.outcome = some o) :
    ∃ c, s.fleet.contexts[n]? = some c ∧ d.instanceId = c.instanceId ∧
      (c.outcome = none ∨ c.outcome = some o) := by
  rw [step_fleet w ha] at hd
  split at hd
  · rename_i fe _
    cases hc : s.fleet.contexts[n]? with
    | none =>
      obtain ⟨-, i, spec, -, rfl⟩ := Fleet.eq_opening_of_born w.ops w.hasAttachments s.now fe hc hd
      cases hdo
    | some c =>
      obtain ⟨b, hb, hi, hkeep⟩ := h.keeps_step w.ops w.hasAttachments s.now fe n c hc
      cases hb.symm.trans hd
      refine ⟨c, rfl, hi, ?_⟩
      cases hco : c.outcome with
      | none => exact .inl rfl
      | some before =>
        rw [hco] at hkeep
        exact .inr ((hkeep rfl).symm.trans hdo)
  · exact ⟨d, hd, rfl, .inr hdo⟩

end System

/-- What is stored for an instance becomes what some drafts leave, and nothing else changes. -/
structure Commits (i : String) (drafts : List Draft) (g next : Gallery Nat Sink) : Prop where
  /-- Under the prefix of the instance lies the content of the last draft of each key. -/
  entries : ∀ k : Key, startsWith (ownPrefix i) k.id = true →
    next.sink.get? k = Draft.last? i drafts k
  /-- Everything else is as it was. -/
  others : ∀ k : Key, startsWith (ownPrefix i) k.id = false → next.sink.get? k = g.sink.get? k
  /-- Each key is written once, in the order of the last drafts. -/
  writes : next.sink.writes = g.sink.writes ++ Draft.keys i drafts

namespace Log

variable {l : Log π Sink}

/-- An event at which a run completes commits what the accepted ones of the first calls of its script
leave, and the session of the script is over. -/
theorem Sound.completes (h : l.Sound) {w : World π Sink} (hw : w.ops = Sink.ops) {e : System.Event}
    (ha : l.system.Allows e) {n : Nat} {c d : Context} {o : Run.Outcome}
    (hc : l.system.fleet.contexts[n]? = some c) (ho : c.outcome = none)
    (hd : (l.system.step w e).fleet.contexts[n]? = some d) (hdo : d.outcome = some o)
    (hs : o.status = .completed) :
    (∃ kept, Carried (l.issued n) (l.fulfilled n) kept ∧
      Fleet.Completes l.system.fleet (l.system.step w e).fleet n c (accepted kept)) ∧
      ∀ seat, l.system.seats[n]? = some seat → seat.timeline.session.isOver = true := by
  obtain ⟨raw, rfl, hraw, hsuccess, hfleet⟩ := System.completes_step w h.fleet ha hc ho hd hdo hs
  have hlt : n < l.system.seats.length := h.seated ▸ (List.getElem?_eq_some_iff.mp hc).1
  have hseat := List.getElem?_eq_getElem hlt
  have hmem := System.mem_sent_of_nextHeard? hraw hseat
  obtain ⟨looked, rest, hin⟩ := h.inStep n c _ hc hseat ho
  obtain ⟨kept, hkept, hwrites⟩ := hin.writes_eq ⟨raw, hmem, hsuccess⟩
  refine ⟨⟨kept, hkept, ?_⟩, ?_⟩
  · rw [hfleet, hw]
    exact h.fleet.completes hc l.system.now ho (ha c hc) hwrites
  · intro seat hseat'
    cases hseat.symm.trans hseat'
    exact (hin.account.success ⟨raw, hmem, hsuccess⟩).1

/-- A completion commits the drafts of the completed run. -/
theorem commits_of_completes {f next : Fleet Sink} {n : Nat} {c : Context} {drafts : List Draft}
    (h : Fleet.Completes f next n c drafts) :
    Commits c.instanceId drafts f.gallery next.gallery := by
  refine ⟨?_, ?_, h.writes⟩
  · intro k hk
    rw [h.entries, if_pos hk, Option.or_none]
  · intro k hk
    have hout : ¬startsWith (ownPrefix c.instanceId) k.id = true := Bool.eq_false_iff.mp hk
    rw [h.entries, Draft.last?_of_not_startsWith _ hk, if_neg hout, Option.none_or]

/-- What is noted of the runs that have completed. -/
structure Settled (l : Log π Sink) : Prop where
  /-- The outcome of a completed run lists the ids of the first calls that its script has ever
  issued, as far as they are accepted, in the order of the last ones under each id. -/
  listed : ∀ (n : Nat) (c : Context) (o : Run.Outcome), l.system.fleet.contexts[n]? = some c →
    c.outcome = some o → o.status = .completed →
    ∃ kept, Carried (l.issued n) (l.fulfilled n) kept ∧
      o.artifacts = (Draft.keys c.instanceId (accepted kept)).map Key.id
  /-- The script of a completed run has ended. -/
  ended : ∀ (n : Nat) (c : Context) (o : Run.Outcome) (seat : Seat π),
    l.system.fleet.contexts[n]? = some c → c.outcome = some o → o.status = .completed →
    l.system.seats[n]? = some seat → seat.timeline.session.isOver = true

/-- The program of a session that is over issues nothing and settles nothing, and the session stays
over. -/
theorem step_of_isOver (w : World π Sink) (l : Log π Sink) (e : System.Event) {n : Nat}
    {seat : Seat π} (hs : l.system.seats[n]? = some seat) (ho : seat.timeline.session.isOver = true) :
    ((step w l e).issued n = l.issued n ∧ (step w l e).fulfilled n = l.fulfilled n) ∧
      ∀ next, (l.system.step w e).seats[n]? = some next → next.timeline.session.isOver = true := by
  constructor
  · cases e with
    | process m own inbox =>
      obtain ⟨hissued, hfulfilled⟩ := Session.quiet_of_isOver ho own
      simp [step, System.notedAt?, hs, hissued, hfulfilled]
    | _ => exact noted_step w l fun _ => rfl
  · intro next hnext
    obtain ⟨found, hfound, hsession⟩ := System.session_step w e hs
    cases hnext.symm.trans hfound
    rcases hsession with hsession | ⟨own, -, -, hsession⟩
    · rw [hsession]
      exact ho
    · rw [hsession]
      exact Session.isOver_step ho w.program own

/-- Every event that can come next keeps what is noted of the completed runs. -/
theorem Settled.step (k : l.Settled) (h : l.Sound) {w : World π Sink} (hw : w.ops = Sink.ops)
    {e : System.Event} (ha : l.system.Allows e) : (Log.step w l e).Settled := by
  have hstep : ∀ (n : Nat) (d : Context) (o : Run.Outcome),
      (l.system.step w e).fleet.contexts[n]? = some d → d.outcome = some o → o.status = .completed →
      (∃ kept, Carried (l.issued n) (l.fulfilled n) kept ∧
        o.artifacts = (Draft.keys d.instanceId (accepted kept)).map Key.id) ∧
        ∃ seat, l.system.seats[n]? = some seat ∧ seat.timeline.session.isOver = true := by
    intro n d o hd hdo hs
    obtain ⟨c, hc, hi, hco⟩ := System.settled_step w h.fleet ha hd hdo
    have hlt : n < l.system.seats.length := h.seated ▸ (List.getElem?_eq_some_iff.mp hc).1
    have hseat := List.getElem?_eq_getElem hlt
    rcases hco with hco | hco
    · obtain ⟨⟨kept, hkept, hcompletes⟩, hover⟩ := h.completes hw ha hc hco hd hdo hs
      obtain ⟨b, p, hb, -, hbo, -, hlist⟩ := hcompletes.completed
      cases hb.symm.trans hd
      cases hbo.symm.trans hdo
      exact ⟨⟨kept, hkept, hi ▸ hlist⟩, _, hseat, hover _ hseat⟩
    · exact ⟨hi ▸ k.listed n c o hc hco hs, _, hseat, k.ended n c o _ hc hco hs hseat⟩
  constructor
  · intro n d o hd hdo hs
    obtain ⟨hlist, seat, hseat, hover⟩ := hstep n d o hd hdo hs
    obtain ⟨hissued, hfulfilled⟩ := (step_of_isOver w l e hseat hover).1
    rw [hissued, hfulfilled]
    exact hlist
  · intro n d o next hd hdo hs hnext
    obtain ⟨-, seat, hseat, hover⟩ := hstep n d o hd hdo hs
    exact (step_of_isOver w l e hseat hover).2 next hnext

/-- Every run of events that can come one after the other keeps what is noted of the
completed runs. -/
theorem Settled.run (k : l.Settled) (h : l.Sound) {w : World π Sink} (hw : w.ops = Sink.ops)
    {events : List System.Event} (ha : l.system.AllowsAll w events) :
    (Log.run w l events).Settled := by
  induction events generalizing l with
  | nil => exact k
  | cons e rest ih => exact ih (k.step h hw ha.1) (h.step w ha.1) ha.2

/-- What is committed for every completed run is what the first calls of its script leave. -/
structure Faithful (w : World π Sink) (l : Log π Sink) : Prop extends Settled l where
  /-- An event at which a run completes commits what the first calls leave that its script has
  issued by then, in the order in which it issued them, and at most calls that the script has given
  a result itself are left out. -/
  commits : ∀ e, l.system.Allows e → ∀ (n : Nat) (c d : Context) (o : Run.Outcome),
    l.system.fleet.contexts[n]? = some c → c.outcome = none →
    (l.system.step w e).fleet.contexts[n]? = some d → d.outcome = some o → o.status = .completed →
    ∃ kept, Carried (l.issued n) (l.fulfilled n) kept ∧
      Commits c.instanceId (accepted kept) l.system.fleet.gallery (l.system.step w e).fleet.gallery
  /-- No accepted plot call is left out, if the script has given none of them a result itself. -/
  whole : ∀ n kept, Carried (l.issued n) (l.fulfilled n) kept →
    (∀ k ∈ l.fulfilled n, ∀ i, (l.issued n)[k]? = some i → i.draft? = none) →
    accepted kept = accepted (l.issued n)

/-- Whatever the programs of the processes ask for and however their messages, the fetches,
kills, timers and ends of processes come one after the other: a run that completes commits
exactly what the first accepted calls of its script leave, in the order in which the script has
issued them, and the script issues none after that. What is left out are the last calls, and only
as far as the script has given each of them a result itself. -/
theorem faithful_of_allowsAll (program : Program π) (hasAttachments : Bool)
    (fetch : Host.Fetch → Option (Except Failure Wire)) (sink : Sink) (console : Option Console)
    (defaultTimeoutMs : Int) (events : List System.Event)
    (ha : (System.empty (.empty sink console defaultTimeoutMs)).AllowsAll
      ⟨program, Sink.ops, hasAttachments, fetch⟩ events) :
    (run ⟨program, Sink.ops, hasAttachments, fetch⟩
      (empty (.empty sink console defaultTimeoutMs)) events).Faithful
        ⟨program, Sink.ops, hasAttachments, fetch⟩ := by
  have hempty : (empty (.empty sink console defaultTimeoutMs) : Log π Sink).Sound :=
    sound_empty sink console defaultTimeoutMs
  have hsettled : (empty (.empty sink console defaultTimeoutMs) : Log π Sink).Settled := by
    constructor
    · intro n c o hc
      cases hc
    · intro n c o seat hc
      cases hc
  refine ⟨hsettled.run hempty rfl ha, ?commits, fun n kept hkept hown => hkept.accepted_eq hown⟩
  intro e he n c d o hc ho hd hdo hs
  have hsound := hempty.run ⟨program, Sink.ops, hasAttachments, fetch⟩ ha
  obtain ⟨⟨kept, hkept, hcompletes⟩, -⟩ := hsound.completes rfl he hc ho hd hdo hs
  exact ⟨kept, hkept, commits_of_completes hcompletes⟩

/-- A program that draws a line, does not wait for the answer and ends. -/
def lineProgram : Program Unit where
  start _ := .asks (.request "plot:line" (.ok (Draft.lineRequest "x").params)) ()
  resume _ _ := .ended

/-- Processes that draw a line, with the sink in memory. -/
def lineWorld : World Unit Sink := ⟨lineProgram, Sink.ops, false, fun _ => none⟩

/-- A run of the program up to the message of its end: the call is looked at after the
program has ended, and the session waits for the reply. -/
def lineOrder : List System.Event :=
  [.start "a" ⟨"S", "1h", "", 2000⟩,
    .context 0 .created,
    .tell 0,
    .process 0 (.instruct (Message.Instruction.ofSpec ⟨"S", "1h", "", 2000⟩).view.toWire) [],
    .process 0 .turn [],
    .process 0 .turn [],
    .hear 0,
    .hear 0,
    .context 0 (.serve 0),
    .tell 0,
    .process 0 (.deliver (Message.Reply.success "call-0" (.bool true)).view.toWire) [],
    .process 0 .turn []]

/-- A program that draws a line, gives the call a result itself and ends. -/
def hastyProgram : Program Nat where
  start _ := .asks (.request "plot:line" (.ok (Draft.lineRequest "x").params)) 0
  resume
    | 0, .call number => .asks (.query number .fulfil) 1
    | _, _ => .ended

/-- Processes that draw such a line, with the sink in memory. -/
def hastyWorld : World Nat Sink := ⟨hastyProgram, Sink.ops, false, fun _ => none⟩

/-- A run of that program up to the message of its end, which is heard before the call is looked
at. -/
def hastyOrder : List System.Event :=
  [.start "a" ⟨"S", "1h", "", 2000⟩,
    .context 0 .created,
    .tell 0,
    .process 0 (.instruct (Message.Instruction.ofSpec ⟨"S", "1h", "", 2000⟩).view.toWire) [],
    .process 0 .turn [],
    .process 0 .turn [],
    .process 0 .turn [],
    .process 0 .turn [],
    .hear 0,
    .hear 0,
    .hear 0]

/-- The hasty run can happen. -/
theorem allowsAll_hastyOrder : (System.empty (.empty .empty none 2000)).AllowsAll hastyWorld hastyOrder := by
  refine ⟨trivial, ⟨nofun, ?_⟩, trivial, ?_, ?_, ?_, ?_, ?_, ?_, ?_, ?_, trivial⟩
  · rintro c ⟨⟩
    exact ⟨rfl, trivial⟩
  · rintro seat ⟨⟩
    rfl
  · rintro seat ⟨⟩
    rfl
  · rintro seat ⟨⟩
    rfl
  · rintro seat ⟨⟩
    rfl
  · rintro seat ⟨⟩
    rfl
  · rintro c ⟨⟩
    rfl
  · rintro c ⟨⟩
    rfl
  · rintro c ⟨⟩
    rfl

/-- When the end is heard, the line that was not waited for is stored. The line whose call was given
a result by its script is lost, although the run completes. -/
theorem faithful_lineOrder :
    (System.empty (.empty .empty none 2000)).AllowsAll lineWorld lineOrder ∧
      (((run lineWorld (empty (.empty .empty none 2000)) lineOrder).system.step lineWorld
        (.hear 0)).fleet.contexts.map fun c => c.outcome.map fun o => (o.status, o.artifacts)) =
          [some (.completed, ["a::x"])] ∧
      ((run lineWorld (empty (.empty .empty none 2000)) lineOrder).system.step lineWorld
        (.hear 0)).fleet.gallery.sink.get? ⟨.line, "a::x"⟩ = some ⟨[], []⟩ ∧
      (System.empty (.empty .empty none 2000)).AllowsAll hastyWorld hastyOrder ∧
      ((run hastyWorld (empty (.empty .empty none 2000)) hastyOrder).system.fleet.contexts.map
        fun c => c.outcome.map fun o => (o.status, o.artifacts)) = [some (.completed, [])] ∧
      (accepted ((run hastyWorld (empty (.empty .empty none 2000)) hastyOrder).issued 0)).length = 1 ∧
      (run hastyWorld (empty (.empty .empty none 2000)) hastyOrder).fulfilled 0 = [0] := by
  have hall : (System.empty (.empty .empty none 2000)).AllowsAll lineWorld lineOrder := by
    refine ⟨trivial, ⟨nofun, ?_⟩, trivial, ?_, ?_, ?_, ?_, ?_, ⟨nofun, ?_⟩, trivial, ?_, ?_, trivial⟩
    · rintro c ⟨⟩
      exact ⟨rfl, trivial⟩
    · rintro seat ⟨⟩
      rfl
    · rintro seat ⟨⟩
      rfl
    · rintro seat ⟨⟩
      rfl
    · rintro c ⟨⟩
      rfl
    · rintro c ⟨⟩
      rfl
    · rintro c ⟨⟩
      exact ⟨rfl, rfl⟩
    · rintro seat ⟨⟩
      rfl
    · rintro seat ⟨⟩
      rfl
  have hearing : (run lineWorld (empty (.empty .empty none 2000)) lineOrder).system.Allows (.hear 0) := by
    rintro c ⟨⟩
    rfl
  have h := faithful_of_allowsAll lineProgram false (fun _ => none) .empty none 2000 lineOrder hall
  obtain ⟨kept, hkept, hcommits⟩ := h.commits (.hear 0) hearing 0 _ _ _ rfl rfl rfl rfl rfl
  have hnone : (run lineWorld (empty (.empty .empty none 2000)) lineOrder).fulfilled 0 = [] := rfl
  have hwhole := h.whole 0 kept hkept fun k hk => absurd (hnone ▸ hk) List.not_mem_nil
  have hline := hcommits.entries ⟨.line, "a::x"⟩ rfl
  rw [hwhole] at hline
  exact ⟨hall, rfl, hline.trans rfl, allowsAll_hastyOrder, rfl, rfl, rfl⟩

end Log

end ChartScript
