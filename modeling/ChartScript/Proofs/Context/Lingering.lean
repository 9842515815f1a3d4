import ChartScript.Proofs.Context.Answers
import ChartScript.Proofs.Context.Process
import ChartScript.Proofs.Fleet.Aftermath
/-!
# Contexts that linger

A kill leaves a context alone when its run is settled and its process is gone, and does not mark
it as killed. Such a context lingers: what its process sent before it ended is still read, its
lines are logged and its calls are served. Of a killed context nothing is heeded. What an event
says in the console and what it asks of a collaborator is told here for every context.
-/

namespace ChartScript.Context

open Artifact (SinkOps)
open Message (Call FromContext LogLine Request requestOf?)

variable {κ σ : Type}

/-- A context that a kill leaves alone although it was not killed. -/
structure Lingers (c : Context) : Prop where
  /-- Its run is settled. -/
  settled : c.outcome.isSome = true
  /-- It was not killed. -/
  living : c.status ≠ .terminated
  /-- Its process is gone. -/
  gone : c.process.IsGone

/-- A context without a process is not alive. -/
theorem not_isAlive_of_isGone {c : Context} (h : c.process.IsGone) : c.isAlive = false := by
  obtain ⟨code, hcode⟩ := h
  simp [isAlive, hcode]

/-- The process of a settled context is gone when it is not alive, unless the context was
killed. -/
theorem isGone_of_not_isAlive {c : Context} (h : Sound c) (ht : Tethered c)
    (hs : c.outcome.isSome = true) (hl : c.status ≠ .terminated) (ha : c.isAlive = false) :
    c.process.IsGone := by
  cases hp : c.process with
  | absent => exact absurd hp ht.made
  | starting => exact absurd (h.unread (ht.unread hp) hs) hl
  | alive => simp [isAlive, hp] at ha
  | gone code => exact ⟨code, rfl⟩

/-- A kill has nothing to do exactly for contexts that were killed or that linger. -/
theorem not_isKillable_iff {c : Context} (h : Sound c) (ht : Tethered c) :
    ¬Fleet.isKillable c = true ↔ c.status = .terminated ∨ Lingers c := by
  by_cases hl : c.status = .terminated
  · simp [Fleet.isKillable, hl]
  · have hterminal := h.isTerminal_eq
    constructor
    · intro hn
      have hover : c.status.isTerminal = true ∧ c.isAlive = false := by
        simpa [Fleet.isKillable, hl] using hn
      have hs : c.outcome.isSome = true := hterminal ▸ hover.1
      exact .inr ⟨hs, hl, isGone_of_not_isAlive h ht hs hl hover.2⟩
    · rintro (hk | hc)
      · exact absurd hk hl
      · have hdead := not_isAlive_of_isGone hc.gone
        have hfinal : c.status.isTerminal = true := hterminal ▸ hc.settled
        simp [Fleet.isKillable, hdead, hfinal]

/-- A kill that has something to do marks the context. -/
theorem terminate_of_isKillable {s : Scene κ σ} (h : Fleet.isKillable s.context = true)
    (reason : String) : (terminate reason s).context.status = .terminated := by
  have hkill : s.context.status ≠ .terminated ∧
      ¬(s.context.status.isTerminal && !s.context.isAlive) = true := by
    simpa [Fleet.isKillable, Decidable.imp_iff_not_or] using h
  unfold terminate
  rw [if_neg hkill.1, if_neg hkill.2]
  change (kill _).status = _
  rw [kill_status]
  exact settle_of_terminated _ rfl

/-- The messages of a context that lingers are read. -/
theorem Lingers.attached {c : Context} (h : Lingers c) (hs : Sound c) : c.attached = true := by
  by_contra ha
  exact h.living (hs.unread (by simpa using ha) h.settled)

section Said

/-- The line that an event logs, if it is the message that does so. -/
def Event.logged? : Event → Option LogLine
  | .message raw =>
    match FromContext.decode? raw with
    | some (.log line) => some line
    | _ => none
  | _ => none

/-- The line that an event leaves in the console: the notice of the outcome that it settles the
run with, or a line that the script logs, if the messages are read and the context was not
killed. -/
def remark? (s t : Scene κ σ) (e : Event) : Option ConsoleLine :=
  match s.context.outcome, t.context.outcome with
  | none, some o => o.notice?.map fun text => ⟨"error", text⟩
  | _, _ =>
    if s.context.attached ∧ s.context.status ≠ .terminated then
      e.logged?.map fun line => ⟨line.level.name, line.text⟩
    else none

/-- A console after a line for an instance, if there is one. -/
def written (instanceId : String) (line : Option ConsoleLine) (console : Option Console) :
    Option Console :=
  match line with
  | some line => console.map fun c => c.append instanceId line
  | none => console

/-- A notice is a line of error. -/
theorem noted_eq_written (instanceId : String) (text : Option String) (console : Option Console) :
    noted instanceId text console =
      written instanceId (text.map fun text => ⟨"error", text⟩) console := by
  cases text <;> rfl

/-- A kill leaves the console alone. -/
theorem terminate_console (reason : String) (s : Scene κ σ) :
    (terminate reason s).console = s.console := by
  unfold terminate
  split
  · rfl
  · split
    · rfl
    · unfold settle
      dsimp only
      split <;> rfl

/-- What the call of a number waits for. -/
def fetchOf? (c : Context) (number : Nat) : Option Host.Fetch := (c.errand? number).bind Errand.fetch

/-- Whether a collaborator is asked for something on the way from one state of a context to
another: a call waits for it that waited for nothing before. -/
def Asks (c d : Context) (fetch : Host.Fetch) : Prop :=
  ∃ number, c.fetchOf? number = none ∧ d.fetchOf? number = some fetch

/-- A change at which a context says nothing and asks for nothing. -/
structure Mute (s t : Scene κ σ) : Prop where
  /-- The console is the same. -/
  console : t.console = s.console
  /-- Registry and sink are the same. -/
  gallery : t.gallery = s.gallery
  /-- No collaborator is asked for anything. -/
  asks : ∀ fetch, ¬Asks s.context t.context fetch

end Said

variable {s : Scene κ σ} [DecidableEq κ] (ops : SinkOps σ) (hasAttachments : Bool)

/-- A line that the script logs is appended if the context was not killed. -/
theorem happen_logged {raw : Wire} {line : LogLine} (ha : s.context.attached = true)
    (ht : s.context.status ≠ .terminated) (hd : FromContext.decode? raw = some (.log line)) :
    happen ops hasAttachments (.message raw) s = s.line line.level.name line.text := by
  have hadmits : s.context.admits (.message raw) = true := ha
  unfold happen
  rw [if_pos hadmits]
  unfold step onMessage
  dsimp only
  rw [if_neg ht, hd]

/-- What every event leaves in the console. -/
theorem console_happen (h : Sound s.context) (e : Event) :
    (happen ops hasAttachments e s).console = written s.context.instanceId
      (remark? s (happen ops hasAttachments e s) e) s.console := by
  have hcourse := course_happen h ops hasAttachments e
  by_cases hsettles : s.context.outcome = none ∧
      (happen ops hasAttachments e s).context.outcome.isSome = true
  · obtain ⟨hn, hs⟩ := hsettles
    obtain ⟨o, ho⟩ := Option.isSome_iff_exists.mp hs
    have hremark : remark? s (happen ops hasAttachments e s) e =
        o.notice?.map fun text => ⟨"error", text⟩ := by
      unfold remark?
      rw [hn, ho]
    rw [hremark, ← noted_eq_written]
    exact hcourse.notice hn ho
  · have hsame : (happen ops hasAttachments e s).context.outcome = s.context.outcome := by
      cases hn : s.context.outcome with
      | some o => exact (hcourse.outcome_of_settled (by rw [hn]; rfl)).trans hn
      | none =>
        rw [hn] at hsettles
        simpa using hsettles
    have hremark : remark? s (happen ops hasAttachments e s) e =
        if s.context.attached ∧ s.context.status ≠ .terminated then
          e.logged?.map fun line => ⟨line.level.name, line.text⟩ else none := by
      unfold remark?
      rw [hsame]
      cases s.context.outcome <;> rfl
    rw [hremark]
    cases hlogged : e.logged? with
    | none =>
      have hlog : ∀ raw line, e = .message raw → FromContext.decode? raw ≠ some (.log line) := by
        rintro raw line rfl hd
        simp [Event.logged?, hd] at hlogged
      rw [hcourse.silent hsame hlog]
      split <;> rfl
    | some line =>
      obtain ⟨raw, rfl, hd⟩ : ∃ raw, e = .message raw ∧ FromContext.decode? raw = some (.log line) := by
        unfold Event.logged? at hlogged
        split at hlogged
        · rename_i raw
          split at hlogged
          · cases hlogged
            exact ⟨raw, rfl, ‹_›⟩
          · cases hlogged
        · cases hlogged
      split
      · rename_i hheard
        rw [happen_logged ops hasAttachments hheard.1 hheard.2 hd]
        rfl
      · rename_i hdeaf
        unfold happen
        split
        · rename_i hadmits
          have ht : s.context.status = .terminated := by
            by_contra hl
            exact hdeaf ⟨hadmits, hl⟩
          unfold step onMessage
          dsimp only
          rw [if_pos ht]
          rfl
        · rfl

section Killed

/-- A killed context serves no call. -/
theorem fetchOf?_of_terminated {c : Context} (h : Sound c) (ht : c.status = .terminated)
    (number : Nat) : c.fetchOf? number = none := by
  obtain ⟨-, -, herrands⟩ := h.killed ht
  unfold fetchOf? errand?
  rw [herrands]
  rfl

/-- Nothing that happens to a killed context is heeded. -/
theorem mute_of_terminated (h : Sound s.context) (ht : s.context.status = .terminated) (e : Event) :
    Mute s (happen ops hasAttachments e s) := by
  have hsound := (lawful_happen h ops hasAttachments e).sound
  have hkilled := (course_happen h ops hasAttachments e).terminated h ht
  have hasks : ∀ fetch, ¬Asks s.context (happen ops hasAttachments e s).context fetch := by
    rintro fetch ⟨number, -, hfetch⟩
    rw [fetchOf?_of_terminated hsound hkilled] at hfetch
    cases hfetch
  by_cases ha : s.context.admits e = true
  · have hbegin : e ≠ .begin := by
      rintro rfl
      cases ha
    have hstep : happen ops hasAttachments e s = step ops hasAttachments s e := if_pos ha
    have hinert := inert_step (h.toKilled ht) ops hasAttachments hbegin
    rw [← hstep] at hinert
    exact ⟨hinert.console, hinert.gallery, hasks⟩
  · have hstep : happen ops hasAttachments e s = s := if_neg ha
    rw [hstep] at hasks ⊢
    exact ⟨rfl, rfl, hasks⟩

/-- No event of a killed context leaves a line. -/
theorem remark?_of_terminated (h : Sound s.context) (ht : s.context.status = .terminated)
    (e : Event) : remark? s (happen ops hasAttachments e s) e = none := by
  obtain ⟨o, ho⟩ := Option.isSome_iff_exists.mp (h.isSome_of_terminated ht)
  have hdeaf : ¬(s.context.attached = true ∧ s.context.status ≠ .terminated) := fun hc => hc.2 ht
  unfold remark?
  rw [ho]
  dsimp only
  rw [if_neg hdeaf]

end Killed

section Lingering

/-- A context that lingers is no more killed by any event than by a kill. -/
theorem Lingers.status_happen {s : Scene Nat σ} (hc : Lingers s.context) (h : Sound s.context)
    (e : Event) :
    (happen ops hasAttachments e s).context.status = s.context.status := by
  have hattached := hc.attached h
  have hterminal : s.context.status.isTerminal = true := h.isTerminal_eq ▸ hc.settled
  unfold happen
  split
  · rename_i ha
    cases e with
    | begin => cases ha
    | created =>
      have hunread := unread_of_admits ha
      rw [hattached] at hunread
      cases hunread
    | message raw =>
      unfold step onMessage
      dsimp only
      rw [if_neg hc.living]
      split
      · rfl
      · have hcreated : ¬s.context.status = .created := by
          intro hcreated
          rw [hcreated] at hterminal
          cases hterminal
        unfold onStarted
        rw [if_neg hcreated]
      · rfl
      · unfold onDone
        rw [if_pos hc.settled]
      · rfl
    | serve number =>
      unfold step serve
      dsimp only
      split
      · exact (steady_attend hasAttachments _ s).status
      · rfl
    | fetched number result =>
      unfold step fetched
      dsimp only
      split
      · exact (steady_reply _ _ s).status
      · rfl
    | died code =>
      unfold step
      dsimp only
      split <;> rfl
    | ended =>
      have hover : (s.context.status = .terminated || s.context.outcome.isSome) = true := by
        simp [hc.settled]
      unfold step onEnded
      dsimp only
      rw [if_pos hattached, if_pos hover]
      rfl
    | unlinked => rfl
    | timer timer =>
      have htimers := h.timers hc.settled
      unfold step onTimer
      dsimp only
      rw [htimers]
      rfl
    | terminate reason =>
      have hleft : ¬Fleet.isKillable s.context = true := by
        have hdead := not_isAlive_of_isGone hc.gone
        simp [Fleet.isKillable, hdead, hterminal]
      unfold step
      dsimp only
      rw [Fleet.terminate_of_not_isKillable reason hleft]
  · rfl

/-- A context that lingers does so whatever happens to it. -/
theorem Lingers.happen {s : Scene Nat σ} (hc : Lingers s.context) (h : Sound s.context) (e : Event) :
    Lingers (happen ops hasAttachments e s).context := by
  have hcourse := course_happen h ops hasAttachments e
  have hdeed := deed_happen h ops hasAttachments e
  have hstatus := hc.status_happen ops hasAttachments h e
  obtain ⟨code, hcode⟩ := hc.gone
  refine ⟨?_, ?_, code, hdeed.gone hcode⟩
  · rw [hcourse.outcome_of_settled hc.settled]
    exact hc.settled
  · rw [hstatus]
    exact hc.living

/-- A context that lingers does so for life. -/
theorem Lingers.lived {c : Context} (hc : Lingers c) (h : Sound c) (moments : List (Moment Nat σ)) :
    Lingers (lived ops hasAttachments c moments) := by
  induction moments generalizing c with
  | nil => exact hc
  | cons m rest ih =>
    have hnext := sound_meet ops hasAttachments h m
    have hlingers : Lingers (meet ops hasAttachments c m).context :=
      hc.happen (s := m.scene c) ops hasAttachments h m.event
    exact ih hlingers hnext

omit [DecidableEq κ] in
/-- Every line that is logged by a context that lingers is left in the console. -/
theorem Lingers.remark?_logged (hc : Lingers s.context) (h : Sound s.context) (t : Scene κ σ)
    {raw : Wire} {line : LogLine} (hd : FromContext.decode? raw = some (.log line)) :
    remark? s t (.message raw) = some ⟨line.level.name, line.text⟩ := by
  obtain ⟨o, ho⟩ := Option.isSome_iff_exists.mp hc.settled
  have hheard : s.context.attached = true ∧ s.context.status ≠ .terminated := ⟨hc.attached h, hc.living⟩
  unfold remark?
  rw [ho]
  dsimp only
  rw [if_pos hheard]
  simp [Event.logged?, hd]

/-- A request that is heard is served under the next number, and waits for nothing yet. -/
theorem errand?_heard {raw : Wire} {r : Request} (hcounted : Counted s.context)
    (ha : s.context.attached = true) (ht : s.context.status ≠ .terminated)
    (hr : requestOf? raw = some r) :
    (happen ops hasAttachments (.message raw) s).context.errand? s.context.calls =
      some ⟨s.context.calls, r, none⟩ := by
  have hunlooked : ∀ {c : Context} {number : Nat} {stage : Artifact.Stage},
      ¬LookedAt ops hasAttachments number c ([] : List (Moment κ σ)) stage := by
    rintro c number stage ⟨before, m, after, hmoments, -⟩
    simp at hmoments
  obtain ⟨hprogress, -⟩ := progress_heard ops hasAttachments
    (m := ⟨s.self, s.gallery, s.console, s.now, .message raw⟩) hcounted rfl hr ha ht
  cases hprogress with
  | unseen errand => exact errand
  | waits fetch stage looked => exact absurd looked hunlooked
  | served stage looked => exact absurd looked hunlooked

/-- A call that has to be fetched is passed on to a collaborator when it is looked at. -/
theorem asks_of_unseen {r : Request} {call : Call} {fetch : Host.Fetch} {number : Nat}
    (herrand : s.context.errand? number = some ⟨number, r, none⟩)
    (hcall : Call.decode r.method r.params = .ok call)
    (hfetch : Host.serve hasAttachments call s.context.stage = .waiting fetch) :
    Asks s.context (happen ops hasAttachments (.serve number) s).context fetch := by
  have hstep : happen ops hasAttachments (.serve number) s = serve hasAttachments number s := if_pos rfl
  have hbefore : s.context.fetchOf? number = none := by
    unfold fetchOf?
    rw [herrand]
    rfl
  have hfound : s.context.errands.find? (fun e => e.number = number) = some ⟨number, r, none⟩ :=
    herrand
  refine ⟨number, hbefore, ?_⟩
  rw [hstep]
  unfold serve
  rw [herrand]
  dsimp only
  unfold attend
  rw [hcall]
  dsimp only
  rw [hfetch]
  unfold fetchOf? errand?
  dsimp only [Scene.mapContext]
  rw [find?_map_number, hfound]
  simp

end Lingering

end ChartScript.Context
