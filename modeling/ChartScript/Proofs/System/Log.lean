import ChartScript.Proofs.Session.Step
import ChartScript.Proofs.System.Order
/-!
# The log of a system

Beside the system a log notes which calls the program of every session has issued, and which
of them it has given a result itself. While a run goes on its context has heard the requests
of the session up to some message. It has looked at the first of these, in their order, and
nothing that is on its way back answers any other one.
-/

namespace ChartScript

open Message (Request requestOf? replyId?)
open Context (Serving GoesOn)
open Session (Issue Account issued? fulfilled? Program Timeline)

/-- A system and what is noted of its run. -/
structure Log (π σ : Type) where
  /-- The system. -/
  system : System π σ
  /-- The calls that the program of each session has issued, in order. -/
  issued : Nat → List Issue
  /-- The calls that the program of each session has given a result itself, by number. -/
  fulfilled : Nat → List Nat

variable {π σ : Type}

namespace System

/-- What there is to note of a session at an event. -/
def notedAt? {α : Type} (note : Session π → Session.Event → Option α) (s : System π σ) (n : Nat) :
    Event → Option α
  | .process m e _ =>
    if m = n then (s.seats[n]?).bind fun seat => note seat.timeline.session e else none
  | _ => none

end System

namespace Log

/-- The log before the first event. -/
def empty (fleet : Fleet σ) : Log π σ := ⟨.empty fleet, fun _ => [], fun _ => []⟩

/-- The log after an event. -/
def step (w : World π σ) (l : Log π σ) (e : System.Event) : Log π σ where
  system := l.system.step w e
  issued n := l.issued n ++ (l.system.notedAt? issued? n e).toList
  fulfilled n := l.fulfilled n ++ (l.system.notedAt? fulfilled? n e).toList

/-- The log after events. -/
def run (w : World π σ) (l : Log π σ) (events : List System.Event) : Log π σ :=
  events.foldl (step w) l

/-- The system of a log is that of the run. -/
theorem system_run (w : World π σ) (l : Log π σ) (events : List System.Event) :
    (run w l events).system = l.system.run w events := by
  induction events generalizing l with
  | nil => rfl
  | cons e rest ih => exact ih (step w l e)

end Log

/-- Whether the request of an id was looked at. -/
def LookedAt (looked : List Request) (id : String) : Prop := ∃ r ∈ looked, r.id = id

/-- A context that goes on and its session, which has issued some calls and given some a result
itself, when some requests were looked at and the rest of those that were heard was not. -/
structure InStep (issues : List Issue) (own : List Nat) (looked rest : List Request) (c : Context)
    (seat : Seat π) : Prop where
  /-- No more messages are heard than were sent. -/
  heard_le : seat.heard ≤ seat.timeline.session.sent.length
  /-- The requests are those of the messages that were heard. -/
  requests : looked ++ rest = (seat.timeline.session.sent.take seat.heard).filterMap requestOf?
  /-- The context serves them. -/
  serving : Serving looked rest c
  /-- What is on its way to the session answers only what was looked at. -/
  inbox : ∀ raw ∈ seat.timeline.inbox, ∀ id, replyId? raw = some id → LookedAt looked id
  /-- The session keeps its account. -/
  account : Account issues own (LookedAt looked) seat.timeline.session

namespace InStep

variable {issues : List Issue} {own : List Nat} {looked rest later left : List Request} {c d : Context}
  {seat : Seat π}

/-- A context that begins is in step with a session before its instruction. -/
theorem opening (i : String) (spec : Run.Spec) :
    InStep [] [] [] [] (Fleet.opening i spec) (⟨.fresh, 0, 0⟩ : Seat π) := by
  refine ⟨Nat.le_refl 0, rfl, ⟨rfl, ⟨[], rfl, nofun⟩, rfl, nofun⟩, ?_, Session.account_fresh _⟩
  intro raw hraw
  cases hraw

/-- A context that has looked at more stays in step. -/
theorem look (h : InStep issues own looked rest c seat) (hs : Serving later left d)
    (hl : later ++ left = looked ++ rest) (hm : ∀ r ∈ looked, r ∈ later) :
    InStep issues own later left d seat := by
  have hlooked : ∀ id, LookedAt looked id → LookedAt later id :=
    fun id ⟨r, hr, hid⟩ => ⟨r, hm r hr, hid⟩
  exact ⟨h.heard_le, hl.trans h.requests, hs, fun raw hraw id hid => hlooked id (h.inbox raw hraw id hid),
    h.account.mono hlooked⟩

/-- A context that hears the next message of its session stays in step. -/
theorem hear (h : InStep issues own looked rest c seat) {raw : Wire}
    (hraw : seat.timeline.session.sent[seat.heard]? = some raw) (hs : Serving later left d)
    (hl : later ++ left = looked ++ rest ++ (requestOf? raw).toList)
    (hm : ∀ r ∈ looked, r ∈ later) : InStep issues own later left d (System.hearing seat) := by
  have hlooked : ∀ id, LookedAt looked id → LookedAt later id :=
    fun id ⟨r, hr, hid⟩ => ⟨r, hm r hr, hid⟩
  obtain ⟨hlt, he⟩ := List.getElem?_eq_some_iff.mp hraw
  refine ⟨hlt, ?_, hs, fun raw hraw id hid => hlooked id (h.inbox raw hraw id hid),
    h.account.mono hlooked⟩
  change later ++ left = (seat.timeline.session.sent.take (seat.heard + 1)).filterMap requestOf?
  rw [hl, h.requests, List.take_succ_eq_append_getElem hlt, he, List.filterMap_append]
  rfl

/-- A session that is told the next message of its context stays in step. -/
theorem tell (h : InStep issues own looked rest c seat) {message : Wire} (hm : message ∈ c.sent)
    (told : Nat) :
    InStep issues own looked rest c
      { seat with
        told
        timeline := { seat.timeline with inbox := seat.timeline.inbox ++ [message] } } := by
  refine { h with inbox := ?_ }
  intro raw hraw
  rcases List.mem_append.mp hraw with hraw | hraw
  · exact h.inbox raw hraw
  · rw [List.mem_singleton.mp hraw]
    exact h.serving.replies message hm

/-- A session that something happens in stays in step, with the call that its program issues or gives
a result. -/
theorem process (h : InStep issues own looked rest c seat) (p : Program π) (now : Nat) (e : Session.Event)
    {inbox : List Wire} (hi : seat.timeline.inbox = System.taken e ++ inbox) :
    InStep (issues ++ (issued? seat.timeline.session e).toList)
      (own ++ (fulfilled? seat.timeline.session e).toList) looked rest c
      { seat with timeline := Timeline.happen p now e { seat.timeline with inbox } } := by
  obtain ⟨more, hsent⟩ := (Session.sends_step p seat.timeline.session e).extends_
  have hle := h.heard_le
  refine ⟨?heard_le, ?requests, h.serving, ?inbox, h.account.step p e ?told⟩
  case heard_le =>
    change seat.heard ≤ (Session.step p seat.timeline.session e).sent.length
    rw [← hsent, List.length_append]
    omega
  case requests =>
    change _ = ((Session.step p seat.timeline.session e).sent.take seat.heard).filterMap requestOf?
    rw [← hsent, List.take_append_of_le_length hle]
    exact h.requests
  case inbox =>
    intro raw hraw
    refine h.inbox raw ?_
    rw [hi]
    exact List.mem_append_right _ hraw
  case told =>
    rintro raw rfl
    refine h.inbox raw ?_
    rw [hi]
    exact List.mem_append_left _ (List.mem_singleton_self raw)

end InStep

/-- What holds of a log at every moment. -/
structure Log.Sound (l : Log π σ) : Prop where
  /-- The fleet is sound. -/
  fleet : l.system.fleet.Sound
  /-- Every context has a session. -/
  seated : l.system.seats.length = l.system.fleet.contexts.length
  /-- The session of a context that there is not has issued nothing. -/
  unborn : ∀ n, l.system.fleet.contexts.length ≤ n → l.issued n = [] ∧ l.fulfilled n = []
  /-- Every context that goes on is in step with its session. -/
  inStep : ∀ (n : Nat) (c : Context) (seat : Seat π), l.system.fleet.contexts[n]? = some c →
    l.system.seats[n]? = some seat → c.outcome = none →
    ∃ looked rest, InStep (l.issued n) (l.fulfilled n) looked rest c seat

namespace Log

variable {l : Log π σ}

/-- There is nothing to note before the first event. -/
theorem sound_empty (sink : σ) (console : Option Console) (defaultTimeoutMs : Int) :
    (empty (.empty sink console defaultTimeoutMs) : Log π σ).Sound := by
  refine ⟨Fleet.sound_empty sink console defaultTimeoutMs, rfl, fun _ _ => ⟨rfl, rfl⟩, ?_⟩
  intro n c seat hc
  cases hc

/-- What is noted of a session in which nothing happens stays the same. -/
theorem noted_step (w : World π σ) (l : Log π σ) {e : System.Event} {n : Nat}
    (he : ∀ {α : Type} (note : Session π → Session.Event → Option α),
      l.system.notedAt? note n e = none) :
    (step w l e).issued n = l.issued n ∧ (step w l e).fulfilled n = l.fulfilled n := by
  unfold step
  dsimp only
  rw [he, he]
  exact ⟨List.append_nil _, List.append_nil _⟩

/-- A context that goes on and had no event of its own is in step if its session is. -/
theorem Sound.rest (h : l.Sound) (w : World π σ) (fe : Fleet.Event) {n : Nat} {d : Context}
    {seat : Seat π} (hown : ∀ e, fe ≠ .context n e) (hstart : ∀ i spec, fe ≠ .start i spec)
    (hd : (l.system.fleet.step w.ops w.hasAttachments l.system.now fe).contexts[n]? = some d)
    (hs : l.system.seats[n]? = some seat) (ho : d.outcome = none) :
    ∃ looked rest, InStep (l.issued n) (l.fulfilled n) looked rest d seat := by
  rcases h.fleet.goesOn_step w.ops w.hasAttachments l.system.now fe hd ho with
    ⟨-, i, spec, he, -⟩ | ⟨hc, -⟩ | ⟨-, own, he, -⟩
  · exact absurd he (hstart i spec)
  · exact h.inStep n d seat hc hs ho
  · exact absurd he (hown own)

/-- A context that goes on after an event of its own had gone on before, and has served its
requests and the one that it may have heard. -/
theorem Sound.own (h : l.Sound) (w : World π σ) {n : Nat} {e : Context.Event} {d : Context}
    {seat : Seat π}
    (hd : (l.system.fleet.step w.ops w.hasAttachments l.system.now (.context n e)).contexts[n]? =
      some d)
    (hs : l.system.seats[n]? = some seat) (ho : d.outcome = none)
    (ha : ∀ c, l.system.fleet.contexts[n]? = some c → c.admits e = true ∧ c.inOrder e) :
    ∃ c looked rest, InStep (l.issued n) (l.fulfilled n) looked rest c seat ∧ GoesOn looked rest e d := by
  rcases h.fleet.goesOn_step w.ops w.hasAttachments l.system.now (.context n e) hd ho with
    ⟨-, i, spec, he, -⟩ | ⟨-, hother⟩ | ⟨c, own, he, hc, hco, rfl⟩
  · cases he
  · exact absurd rfl (hother e)
  · cases he
    obtain ⟨hadmits, horder⟩ := ha c hc
    obtain ⟨looked, rest, hin⟩ := h.inStep n c seat hc hs hco
    have hstep : Context.happen w.ops w.hasAttachments e (l.system.fleet.scene l.system.now n c) =
        Context.step w.ops w.hasAttachments (l.system.fleet.scene l.system.now n c) e := if_pos hadmits
    rw [hstep] at ho ⊢
    exact ⟨c, looked, rest, hin, Serving.step (s := l.system.fleet.scene l.system.now n c) hin.serving
      (h.fleet.contexts n c hc) w.ops w.hasAttachments hadmits horder ho⟩

/-- The session of a new context is in step with it, and those of the others stay so. -/
theorem Sound.start (h : l.Sound) (w : World π σ) (i : String) (spec : Run.Spec) {n : Nat}
    {d : Context} {seat : Seat π} (hd : ((l.system.step w (.start i spec)).fleet.contexts[n]? = some d))
    (hs : (l.system.step w (.start i spec)).seats[n]? = some seat) (ho : d.outcome = none) :
    ∃ looked rest, InStep (l.issued n) (l.fulfilled n) looked rest d seat := by
  change (l.system.seats ++ [⟨.fresh, 0, 0⟩])[n]? = some seat at hs
  rcases h.fleet.goesOn_step w.ops w.hasAttachments l.system.now (.start i spec) hd ho with
    ⟨hn, j, spec', -, rfl⟩ | ⟨hc, -⟩ | ⟨-, own, he, -⟩
  · rw [hn, ← h.seated, List.getElem?_concat_length] at hs
    cases hs
    obtain ⟨hissued, hfulfilled⟩ := h.unborn n (Nat.le_of_eq hn.symm)
    rw [hissued, hfulfilled]
    exact ⟨[], [], InStep.opening j spec'⟩
  · have hlt := (List.getElem?_eq_some_iff.mp hc).1
    rw [List.getElem?_append_left (h.seated ▸ hlt)] at hs
    exact h.inStep n d seat hc hs ho
  · cases he

/-- A context that is told something stays in step. -/
theorem Sound.tell (h : l.Sound) (w : World π σ) {m n : Nat} {d : Context} {seat : Seat π}
    (hd : (l.system.step w (.tell m)).fleet.contexts[n]? = some d)
    (hs : (l.system.step w (.tell m)).seats[n]? = some seat) (ho : d.outcome = none) :
    ∃ looked rest, InStep (l.issued n) (l.fulfilled n) looked rest d seat := by
  have hfleet : (l.system.step w (.tell m)).fleet = l.system.fleet :=
    System.step_fleet w (e := .tell m) trivial
  rw [hfleet] at hd
  unfold System.step at hs
  dsimp only at hs
  split at hs
  · rename_i c old hc hold
    split at hs
    · rename_i message hmessage
      rw [System.getElem?_mapSeat] at hs
      obtain ⟨first, hfirst, rfl⟩ := Option.map_eq_some_iff.mp hs
      by_cases hm : m = n
      · subst hm
        cases hc.symm.trans hd
        cases hold.symm.trans hfirst
        obtain ⟨looked, rest, hin⟩ := h.inStep m _ old hc hold ho
        rw [if_pos rfl]
        exact ⟨looked, rest, hin.tell (List.mem_of_getElem? hmessage) _⟩
      · rw [if_neg hm]
        exact h.inStep n d first hd hfirst ho
    · exact h.inStep n d seat hd hs ho
  · exact h.inStep n d seat hd hs ho

/-- A context that hears something stays in step. -/
theorem Sound.hear (h : l.Sound) (w : World π σ) {m n : Nat} {d : Context} {seat : Seat π}
    (ha : l.system.Allows (.hear m))
    (hd : (l.system.step w (.hear m)).fleet.contexts[n]? = some d)
    (hs : (l.system.step w (.hear m)).seats[n]? = some seat) (ho : d.outcome = none) :
    ∃ looked rest, InStep (l.issued n) (l.fulfilled n) looked rest d seat := by
  have hfleet := System.step_fleet w ha
  rw [hfleet, System.fleetEvent?] at hd
  rw [System.step_hear] at hs
  cases hraw : l.system.nextHeard? m with
  | none =>
    rw [hraw] at hd hs
    exact h.inStep n d seat hd hs ho
  | some raw =>
    rw [hraw] at hd hs
    dsimp only [Option.map_some] at hd hs
    rw [System.getElem?_mapSeat] at hs
    obtain ⟨first, hfirst, rfl⟩ := Option.map_eq_some_iff.mp hs
    change l.system.seats[n]? = some first at hfirst
    by_cases hm : m = n
    · subst hm
      obtain ⟨c, looked, rest, hin, later, left, hl, hsub, hserving⟩ :=
        h.own w hd hfirst ho fun c hc => ⟨ha c hc, trivial⟩
      unfold System.nextHeard? at hraw
      rw [hfirst, Option.bind_some] at hraw
      rw [if_pos rfl]
      exact ⟨later, left, hin.hear hraw hserving hl hsub⟩
    · rw [if_neg hm]
      refine h.rest w (.context m (.message raw)) ?_ (fun _ _ he => by cases he) hd hfirst ho
      intro e he
      exact hm (Fleet.Event.context.inj he).1

/-- A context that something else happens to stays in step. -/
theorem Sound.context (h : l.Sound) (w : World π σ) {m n : Nat} {e : Context.Event} {d : Context}
    {seat : Seat π} (ha : l.system.Allows (.context m e))
    (hd : (l.system.step w (.context m e)).fleet.contexts[n]? = some d)
    (hs : l.system.seats[n]? = some seat) (ho : d.outcome = none) :
    ∃ looked rest, InStep (l.issued n) (l.fulfilled n) looked rest d seat := by
  have hfleet := System.step_fleet w ha
  rw [hfleet] at hd
  dsimp only [System.fleetEvent?] at hd
  by_cases hm : m = n
  · subst hm
    obtain ⟨c, looked, rest, hin, later, left, hl, hsub, hserving⟩ := h.own w hd hs ho ha.2
    refine ⟨later, left, hin.look hserving ?_ hsub⟩
    have hheard : Context.heard? e = none := by
      cases e with
      | message raw => exact absurd rfl (ha.1 raw)
      | _ => rfl
    rw [hl, hheard]
    exact List.append_nil _
  · refine h.rest w (.context m e) ?_ (fun _ _ he => by cases he) hd hs ho
    intro own he
    exact hm (Fleet.Event.context.inj he).1

/-- A context whose session something happens in stays in step. -/
theorem Sound.process (h : l.Sound) (w : World π σ) {m n : Nat} {e : Session.Event}
    {inbox : List Wire} {d : Context} {seat : Seat π}
    (ha : l.system.Allows (.process m e inbox))
    (hd : l.system.fleet.contexts[n]? = some d)
    (hs : (l.system.step w (.process m e inbox)).seats[n]? = some seat) (ho : d.outcome = none) :
    ∃ looked rest, InStep ((step w l (.process m e inbox)).issued n)
      ((step w l (.process m e inbox)).fulfilled n) looked rest d seat := by
  have hseat := (System.getElem?_mapSeat l.system m _ n).symm.trans hs
  obtain ⟨first, hfirst, rfl⟩ := Option.map_eq_some_iff.mp hseat
  obtain ⟨looked, rest, hin⟩ := h.inStep n d first hd hfirst ho
  refine ⟨looked, rest, ?_⟩
  by_cases hm : m = n
  · subst hm
    have hnoted : ∀ {α : Type} (note : Session π → Session.Event → Option α),
        l.system.notedAt? note m (.process m e inbox) = note first.timeline.session e := by
      intro α note
      simp [System.notedAt?, hfirst]
    unfold Log.step
    dsimp only
    rw [hnoted, hnoted, if_pos rfl]
    exact hin.process w.program l.system.now e (ha first hfirst)
  · obtain ⟨hissued, hfulfilled⟩ := noted_step w l (e := .process m e inbox) fun _ => if_neg hm
    rw [hissued, hfulfilled, if_neg hm]
    exact hin

/-- Every event that can come next keeps a log sound. -/
theorem Sound.step (h : l.Sound) (w : World π σ) {e : System.Event} (ha : l.system.Allows e) :
    (Log.step w l e).Sound := by
  have hfleet := System.sound_step w h.fleet ha
  refine ⟨hfleet, System.seated_step w h.seated ha, ?unborn, ?inStep⟩
  case unborn =>
    intro n hn
    have hgrown : l.system.fleet.contexts.length ≤ (l.system.step w e).fleet.contexts.length := by
      rw [System.step_fleet w ha]
      split
      · exact Fleet.length_le_step w.ops w.hasAttachments l.system.now l.system.fleet _
      · exact Nat.le_refl _
    have hold := Nat.le_trans hgrown hn
    obtain ⟨hissued, hfulfilled⟩ := noted_step w l (e := e) (n := n) fun note => by
      have hnone : l.system.seats[n]? = none := List.getElem?_eq_none (h.seated ▸ hold)
      unfold System.notedAt?
      split
      · rw [hnone]
        split <;> rfl
      · rfl
    rw [hissued, hfulfilled]
    exact h.unborn n hold
  case inStep =>
    intro n d seat hd hs ho
    by_cases hprocess : ∃ m own inbox, e = .process m own inbox
    · obtain ⟨m, own, inbox, rfl⟩ := hprocess
      exact h.process w ha hd hs ho
    · obtain ⟨hissued, hfulfilled⟩ := noted_step w l (e := e) (n := n) fun note => by
        unfold System.notedAt?
        split
        · exact absurd ⟨_, _, _, rfl⟩ hprocess
        · rfl
      rw [hissued, hfulfilled]
      cases e with
      | start i spec => exact h.start w i spec hd hs ho
      | terminate i reason => exact h.rest w (.terminate i reason) (fun _ => nofun) (fun _ _ => nofun) hd hs ho
      | remove i => exact h.rest w (.remove i) (fun _ => nofun) (fun _ _ => nofun) hd hs ho
      | context m e => exact h.context w ha hd hs ho
      | tell m => exact h.tell w hd hs ho
      | hear m => exact h.hear w ha hd hs ho
      | process m own inbox => exact absurd ⟨m, own, inbox, rfl⟩ hprocess
      | pass moment => exact h.inStep n d seat hd hs ho

/-- Every run of events that can come one after the other keeps a log sound. -/
theorem Sound.run (h : l.Sound) (w : World π σ) {events : List System.Event}
    (ha : l.system.AllowsAll w events) : (Log.run w l events).Sound := by
  induction events generalizing l with
  | nil => exact h
  | cons e rest ih => exact ih (h.step w ha.1) ha.2

end Log

end ChartScript
