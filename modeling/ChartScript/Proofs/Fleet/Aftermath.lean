import ChartScript.Proofs.Fleet.Run
/-!
# After a kill

A context that was killed and settled is inert. Whatever still comes for it, messages, the
end of its process, timers, further kills, the late creation of its process, and calls that
were being served and go on all the same, changes neither the run nor anything around it.
-/

namespace ChartScript

open Artifact (SinkOps Draft Sink)
open Context (Scene)

namespace Context

/-- What can still happen to a context after it was killed. -/
inductive Aftermath where
  /-- Something that can happen to any context. -/
  | event (e : Event)
  /-- A call that was being served is looked at although it was abandoned. -/
  | attend (errand : Errand)
  /-- A call that was being served is answered although it was abandoned. -/
  | reply (errand : Errand) (answer : Except Failure Wire)

variable {κ σ : Type}

/-- The scene after it. Nothing keeps an event from happening. -/
def Aftermath.act [DecidableEq κ] (ops : SinkOps σ) (hasAttachments : Bool) :
    Aftermath → Scene κ σ → Scene κ σ
  | .event e, s => Context.step ops hasAttachments s e
  | .attend errand, s => Context.attend hasAttachments errand s
  | .reply errand answer, s => Context.reply errand answer s

/-- A killed context: it is settled, its stage is closed and empty, and no timer is armed. -/
structure Killed (c : Context) : Prop where
  /-- Its status says so. -/
  status : c.status = .terminated
  /-- It is settled. -/
  settled : c.outcome.isSome = true
  /-- Its stage is closed. -/
  closed : c.stage.isOpen = false
  /-- Its stage is empty. -/
  empty : c.stage.writes = []
  /-- No timer is armed. -/
  timers : c.timers = []

/-- A sound context whose status says that it was killed is a killed one. -/
theorem Sound.toKilled {c : Context} (h : Sound c) (ht : c.status = .terminated) : Killed c := by
  obtain ⟨hclosed, hempty, -⟩ := h.killed ht
  have hs := h.isSome_of_terminated ht
  exact ⟨ht, hs, hclosed, hempty, h.timers hs⟩

/-- A change that nobody notices: run, stage, timers and what was sent are the same, and so
are registry, sink and console. -/
structure Inert (s t : Scene κ σ) : Prop where
  /-- The status is the same. -/
  status : t.context.status = s.context.status
  /-- The outcome is the same. -/
  outcome : t.context.outcome = s.context.outcome
  /-- The stage is the same. -/
  stage : t.context.stage = s.context.stage
  /-- The same timers are armed. -/
  timers : t.context.timers = s.context.timers
  /-- Nothing was sent. -/
  sent : t.context.sent = s.context.sent
  /-- Registry and sink are the same. -/
  gallery : t.gallery = s.gallery
  /-- The console is the same. -/
  console : t.console = s.console

/-- Nothing is inert. -/
theorem Inert.refl (s : Scene κ σ) : Inert s s := ⟨rfl, rfl, rfl, rfl, rfl, rfl, rfl⟩

/-- A change of the context alone is inert when it keeps the run. -/
theorem Inert.mapContext {s : Scene κ σ} {f : Context → Context}
    (hstatus : (f s.context).status = s.context.status)
    (houtcome : (f s.context).outcome = s.context.outcome)
    (hstage : (f s.context).stage = s.context.stage)
    (htimers : (f s.context).timers = s.context.timers)
    (hsent : (f s.context).sent = s.context.sent) : Inert s (s.mapContext f) :=
  ⟨hstatus, houtcome, hstage, htimers, hsent, rfl, rfl⟩

/-- Inert changes follow each other. -/
theorem Inert.trans {r s t : Scene κ σ} (h : Inert r s) (k : Inert s t) : Inert r t :=
  ⟨k.status.trans h.status, k.outcome.trans h.outcome, k.stage.trans h.stage,
    k.timers.trans h.timers, k.sent.trans h.sent, k.gallery.trans h.gallery,
    k.console.trans h.console⟩

/-- What happens to nobody's notice leaves a killed context. -/
theorem Killed.of_inert {s t : Scene κ σ} (h : Killed s.context) (k : Inert s t) :
    Killed t.context := by
  refine ⟨k.status.trans h.status, ?_, ?_, ?_, k.timers.trans h.timers⟩
  · rw [k.outcome]
    exact h.settled
  · rw [k.stage]
    exact h.closed
  · rw [k.stage]
    exact h.empty

variable {s : Scene κ σ}

/-- The process of a killed context is killed once it has been created, and is not told what
to run. -/
theorem inert_created (h : Killed s.context) : Inert s (created s) := by
  have hlive : (live s).context.status = .terminated := h.status
  unfold created
  change Inert s (if (live s).context.status = .terminated then
    settle _ ((live s).mapContext _) else (live s).mapContext _)
  rw [if_pos hlive, settle_of_settled]
  · have hkill : Inert s (live s) := .mapContext rfl rfl rfl rfl rfl
    refine hkill.trans (.mapContext ?_ ?_ ?_ ?_ ?_) <;> unfold kill <;> split <;> rfl
  · change (kill _).outcome.isSome = true
    rw [kill_outcome]
    exact h.settled

/-- The answer to a call of a killed context is dropped. -/
theorem inert_reply (h : Killed s.context) (errand : Errand) (answer : Except Failure Wire) :
    Inert s (reply errand answer s) := by
  obtain ⟨message, -, he⟩ := reply_context errand answer s
  rw [he]
  apply Inert.mapContext <;> rw [if_pos h.status] <;> rfl

/-- A call of a killed context that is looked at adds nothing to the stage. -/
theorem inert_attend (h : Killed s.context) (hasAttachments : Bool) (errand : Errand) :
    Inert s (attend hasAttachments errand s) := by
  rcases attend_cases hasAttachments errand s with ⟨answer, he⟩ | ⟨-, fetch, he⟩
  · rw [he]
    have hoffer := s.context.stage.offered_of_closed h.closed
      (Draft.decode? errand.request.method errand.request.params)
    have hi : Inert s (withOffer s (Draft.decode? errand.request.method errand.request.params)) :=
      .mapContext rfl rfl hoffer rfl rfl
    exact hi.trans (inert_reply (h.of_inert hi) errand answer)
  · rw [he]
    exact .mapContext rfl rfl rfl rfl rfl

variable [DecidableEq κ]

/-- Every event but a new beginning is inert for a killed context. -/
theorem inert_step (h : Killed s.context) (ops : SinkOps σ) (hasAttachments : Bool) {e : Event}
    (he : e ≠ .begin) : Inert s (step ops hasAttachments s e) := by
  cases e with
  | begin => exact absurd rfl he
  | created => exact inert_created h
  | message raw =>
    unfold step onMessage
    dsimp only
    rw [if_pos h.status]
    exact .refl s
  | serve number =>
    unfold step serve
    dsimp only
    split
    · exact inert_attend h hasAttachments _
    · exact .refl s
  | fetched number result =>
    unfold step fetched
    dsimp only
    split
    · exact inert_reply h _ _
    · exact .refl s
  | died code =>
    unfold step
    dsimp only
    split
    · exact .mapContext rfl rfl rfl rfl rfl
    · exact .mapContext rfl rfl rfl rfl rfl
    · exact .refl s
  | ended =>
    unfold step onEnded
    dsimp only
    rw [h.settled, Bool.or_true]
    split
    · rw [if_pos rfl]
      exact .mapContext rfl rfl rfl rfl rfl
    · exact .refl s
  | unlinked => exact ⟨rfl, rfl, rfl, rfl, rfl, rfl, rfl⟩
  | timer t =>
    unfold step onTimer
    dsimp only
    rw [h.timers]
    exact .refl s
  | terminate reason =>
    unfold step terminate
    dsimp only
    rw [if_pos h.status]
    exact .refl s

/-- Whatever happens after a kill is inert. -/
theorem inert_act (h : Killed s.context) (ops : SinkOps σ) (hasAttachments : Bool) {a : Aftermath}
    (ha : a ≠ .event .begin) : Inert s (a.act ops hasAttachments s) := by
  cases a with
  | event e => exact inert_step h ops hasAttachments fun he => ha (by rw [he])
  | attend errand => exact inert_attend h hasAttachments errand
  | reply errand answer => exact inert_reply h errand answer

end Context

namespace Fleet

variable {σ : Type}

/-- The fleet after some more has happened to one of its contexts, each at its moment. -/
def outlast (ops : SinkOps σ) (hasAttachments : Bool) (n : Nat)
    (later : List (Nat × Context.Aftermath)) (f : Fleet σ) : Fleet σ :=
  later.foldl (fun f a => f.within a.1 n (a.2.act ops hasAttachments)) f

/-- What is left of a fleet in which a context was killed: the run of the context, its stage,
its timers and what it sent, all other contexts, and all that they share. -/
structure Undisturbed (n : Nat) (c : Context) (f g : Fleet σ) : Prop where
  /-- The run of the context is the same. -/
  context : ∃ d, g.contexts[n]? = some d ∧ Context.Killed d ∧ d.status = c.status ∧
    d.outcome = c.outcome ∧ d.stage = c.stage ∧ d.timers = c.timers ∧ d.sent = c.sent
  /-- The other contexts are the same. -/
  others : ∀ m, m ≠ n → g.contexts[m]? = f.contexts[m]?
  /-- There are as many contexts. -/
  length : g.contexts.length = f.contexts.length
  /-- Registry and sink are the same. -/
  gallery : g.gallery = f.gallery
  /-- The console is the same. -/
  console : g.console = f.console

/-- An inert change of a context disturbs nothing. -/
theorem undisturbed_within {f : Fleet σ} {n : Nat} {c : Context} (hc : f.contexts[n]? = some c)
    (hk : Context.Killed c) (now : Nat) {act : Scene Nat σ → Scene Nat σ}
    (hi : Context.Inert (f.scene now n c) (act (f.scene now n c))) :
    Undisturbed n c f (f.within now n act) := by
  have hget := getElem?_within hc now act
  refine ⟨⟨_, ?_, Context.Killed.of_inert (s := f.scene now n c) hk hi, hi.status, hi.outcome,
    hi.stage, hi.timers, hi.sent⟩, ?_, f.length_within now n act, ?_, ?_⟩
  · rw [hget, if_pos rfl]
  · intro m hm
    rw [hget, if_neg fun he => hm he.symm]
  · rw [within_of_some hc]
    exact hi.gallery
  · rw [within_of_some hc]
    exact hi.console

/-- Whatever happens to a killed context disturbs nothing. -/
theorem undisturbed_outlast (ops : SinkOps σ) (hasAttachments : Bool) {n : Nat}
    (later : List (Nat × Context.Aftermath)) (hl : ∀ a ∈ later, a.2 ≠ .event .begin) {f : Fleet σ}
    {c : Context} (hc : f.contexts[n]? = some c) (hk : Context.Killed c) :
    Undisturbed n c f (f.outlast ops hasAttachments n later) := by
  induction later generalizing f c with
  | nil => exact ⟨⟨c, hc, hk, rfl, rfl, rfl, rfl, rfl⟩, fun _ _ => rfl, rfl, rfl, rfl⟩
  | cons a rest ih =>
    have hi : Context.Inert (f.scene a.1 n c) (a.2.act ops hasAttachments (f.scene a.1 n c)) :=
      Context.inert_act (s := f.scene a.1 n c) hk ops hasAttachments (hl a List.mem_cons_self)
    have hfirst := undisturbed_within hc hk a.1 hi
    obtain ⟨d, hd, hkd, hstatus, houtcome, hstage, htimers, hsent⟩ := hfirst.context
    have hrest := ih (fun b hb => hl b (List.mem_cons_of_mem a hb)) hd hkd
    obtain ⟨e, he, hke, hstatus', houtcome', hstage', htimers', hsent'⟩ := hrest.context
    refine ⟨⟨e, he, hke, hstatus'.trans hstatus, houtcome'.trans houtcome, hstage'.trans hstage,
      htimers'.trans htimers, hsent'.trans hsent⟩, ?_, hrest.length.trans hfirst.length,
      hrest.gallery.trans hfirst.gallery, hrest.console.trans hfirst.console⟩
    intro m hm
    exact (hrest.others m hm).trans (hfirst.others m hm)

/-- In every state that a fleet can come to, a context that was killed stays as it is, and so
does everything else, whatever happens to the context later. -/
theorem killed_for_good (ops : SinkOps σ) (hasAttachments : Bool) (sink : σ)
    (console : Option Console) (defaultTimeoutMs : Int) (events : List (Nat × Event)) {n : Nat}
    {c : Context}
    (hc : (run ops hasAttachments (empty sink console defaultTimeoutMs) events).contexts[n]? =
      some c) (ht : c.status = .terminated) (later : List (Nat × Context.Aftermath))
    (hl : ∀ a ∈ later, a.2 ≠ .event .begin) :
    Undisturbed n c (run ops hasAttachments (empty sink console defaultTimeoutMs) events)
      (outlast ops hasAttachments n later
        (run ops hasAttachments (empty sink console defaultTimeoutMs) events)) := by
  have hsound := (sound_empty sink console defaultTimeoutMs).run ops hasAttachments events
  exact undisturbed_outlast ops hasAttachments later hl hc ((hsound.contexts n c hc).toKilled ht)

/-- A context that is killed while its process is being created. -/
def earlyKill : List (Nat × Event) :=
  [(0, .start "a" ⟨"S", "1h", "", 2000⟩), (1, .terminate "a" "stop")]

/-- What comes late: the process, its first message, a call that goes on and another kill. -/
def lateEvents : List (Nat × Context.Aftermath) :=
  [(2, .event .created), (3, .event (.message Message.startedView.toWire)),
    (4, .event (.message (Draft.lineRequest "x").view.toWire)),
    (5, .attend ⟨0, Draft.lineRequest "x", none⟩),
    (6, .event (.message (Message.Done.view ⟨none, none⟩).toWire)),
    (7, .event (.terminate "again"))]

/-- The early kill is not undone by what comes late. -/
theorem killed_for_good_earlyKill :
    ∃ c, (run Sink.ops false (empty .empty none 2000) earlyKill).contexts[0]? = some c ∧
      c.status = .terminated ∧ (∀ a ∈ lateEvents, a.2 ≠ .event .begin) ∧
      Undisturbed 0 c (run Sink.ops false (empty .empty none 2000) earlyKill)
        (outlast Sink.ops false 0 lateEvents
          (run Sink.ops false (empty .empty none 2000) earlyKill)) := by
  have hl : ∀ a ∈ lateEvents, a.2 ≠ .event .begin := by simp [lateEvents]
  exact ⟨_, rfl, rfl, hl,
    killed_for_good Sink.ops false .empty none 2000 earlyKill rfl rfl lateEvents hl⟩

end Fleet

end ChartScript
