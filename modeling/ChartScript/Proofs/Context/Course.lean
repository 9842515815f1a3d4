import ChartScript.Proofs.Fleet.Run
/-!
# The course of a run

What every event does to the status, the outcome and the timers of a context and to the
console, and what follows for a whole life: a run is settled once and for all, its status is
that of its outcome unless it was killed, at most one timer is armed and only while the run
goes on, and settling writes one line to the console exactly for runs that failed or that
were out of time. Nothing is said of what surrounds the context: registry, sink, console and
time may be different at every event.
-/

namespace ChartScript

open Artifact (SinkOps Gallery)

namespace Run

/-- What the user reads of a settled run: why it failed, or that it was out of time. -/
def Outcome.notice? (o : Outcome) : Option String :=
  match o.status with
  | .failed => o.error.map fun e => if e.isEmpty then "run failed" else e
  | .timedOut => some Context.Verdict.timeoutText
  | _ => none

end Run

namespace Context

variable {κ σ : Type} {s t : Scene κ σ}

/-- A console after a line of error for an instance, if there is one. -/
def noted (instanceId : String) (text : Option String) (console : Option Console) : Option Console :=
  match text with
  | some text => console.map fun c => c.append instanceId ⟨"error", text⟩
  | none => console

/-- A change that settles a run by a verdict. -/
structure Settles (v : Verdict) (s t : Scene κ σ) : Prop where
  /-- The run went on. -/
  open_ : s.context.outcome = none
  /-- It has the outcome of the verdict. -/
  outcome : t.context.outcome = some (v.outcome s.context s.now)
  /-- Its status is that of the verdict, unless it was killed at the same time. -/
  status : t.context.status = v.status ∨ t.context.status = .terminated
  /-- No timer is armed. -/
  timers : t.context.timers = []
  /-- Its messages are read if they were. -/
  attached : t.context.attached = s.context.attached
  /-- Only a kill settles a run whose messages are not read. -/
  unread : s.context.attached = false → t.context.status = .terminated
  /-- The verdict writes its line to the console. -/
  console : t.console = noted s.context.instanceId v.line? s.console

/-- What an event does to the course of a run. -/
inductive Course (s t : Scene κ σ) (e : Event) : Prop where
  /-- The run goes on or stays settled. A timer may be gone, and a line may be logged. -/
  | stays (status : t.context.status = s.context.status)
      (outcome : t.context.outcome = s.context.outcome)
      (timers : t.context.timers.Sublist s.context.timers)
      (attached : t.context.attached = false → s.context.attached = false)
      (console : t.console = s.console ∨ ∃ raw line, e = .message raw ∧
        Message.FromContext.decode? raw = some (.log line) ∧ t.console = s.console.map fun c =>
          c.append s.context.instanceId ⟨line.level.name, line.text⟩)
  /-- The process is heard from now on, and waited for. -/
  | waits (unread : s.context.attached = false) (living : s.context.status ≠ .terminated)
      (status : t.context.status = s.context.status)
      (outcome : t.context.outcome = s.context.outcome)
      (timers : t.context.timers = s.context.timers ++ [.start])
      (attached : t.context.attached = true) (console : t.console = s.console)
  /-- The script starts, and the watchdog may be armed. -/
  | starts (created : s.context.status = .created) (status : t.context.status = .running)
      (outcome : t.context.outcome = s.context.outcome)
      (timers : t.context.timers.Sublist [.watchdog])
      (attached : t.context.attached = true) (console : t.console = s.console)
  /-- The run is settled. -/
  | settles (v : Verdict) (verdict : Settles v s t)
  /-- A settled run is killed. -/
  | killed (settled : s.context.outcome.isSome = true)
      (outcome : t.context.outcome = s.context.outcome)
      (status : t.context.status = .terminated)
      (timers : t.context.timers = s.context.timers)
      (attached : t.context.attached = s.context.attached) (console : t.console = s.console)

/-- A change that leaves the course of a run as it is. -/
structure Steady (s t : Scene κ σ) : Prop where
  /-- It has the same status. -/
  status : t.context.status = s.context.status
  /-- It has the same outcome, if it has one. -/
  outcome : t.context.outcome = s.context.outcome
  /-- The same timers are armed. -/
  timers : t.context.timers = s.context.timers
  /-- Its messages are read if they were. -/
  attached : t.context.attached = s.context.attached
  /-- Nothing is written to the console. -/
  console : t.console = s.console

/-- Two steady changes are one. -/
theorem Steady.trans {r : Scene κ σ} (h : Steady r s) (k : Steady s t) : Steady r t :=
  ⟨k.status.trans h.status, k.outcome.trans h.outcome, k.timers.trans h.timers,
    k.attached.trans h.attached, k.console.trans h.console⟩

/-- After a steady change a run is where it was. -/
theorem Steady.course {e : Event} (h : Steady s t) : Course s t e :=
  .stays h.status h.outcome (h.timers ▸ List.Sublist.refl _) (fun ha => h.attached.symm.trans ha)
    (.inl h.console)

/-- A run stays where it is when nothing happens. -/
theorem Course.refl (s : Scene κ σ) (e : Event) : Course s s e :=
  Steady.course ⟨rfl, rfl, rfl, rfl, rfl⟩

/-- A verdict writes its line to the console. -/
theorem settle_console (v : Verdict) (hb : s.context.begun = true) (ho : s.context.outcome = none) :
    (settle v s).console = noted s.context.instanceId v.line? s.console := by
  have hgo : ¬(!s.context.begun || s.context.outcome.isSome) = true := by simp [hb, ho]
  unfold settle noted
  rw [if_neg hgo]
  cases v.line? <;> rfl

/-- A run that goes on and is heard is settled by a verdict, after a change of the context
that is not of its course. -/
theorem settles_settle {f : Context → Context} (gallery : Gallery κ σ) (v : Verdict)
    (h : Sound s.context) (ho : s.context.outcome = none) (ha : s.context.attached = true)
    (hf : (f s.context).begun = s.context.begun ∧ (f s.context).outcome = s.context.outcome ∧
      (f s.context).status = s.context.status ∧ (f s.context).attached = s.context.attached ∧
      (f s.context).instanceId = s.context.instanceId ∧
      (f s.context).startedAt = s.context.startedAt) :
    Settles v s (settle v { s.mapContext f with gallery }) := by
  obtain ⟨hbegun, houtcome, hstatus, hattached, hinstance, hstart⟩ := hf
  have hb : ({ s.mapContext f with gallery } : Scene κ σ).context.begun = true := hbegun.trans h.begun
  have hn : ({ s.mapContext f with gallery } : Scene κ σ).context.outcome = none := houtcome.trans ho
  have hcontext := settle_context v hb hn
  have hconsole := settle_console v hb hn
  have hliving : (f s.context).status ≠ .terminated := by
    rw [hstatus]
    exact h.not_terminated ho
  have hverdict : v.outcome (f s.context) s.now = v.outcome s.context s.now := by
    simp [Verdict.outcome, hinstance, hstart]
  refine ⟨ho, ?_, ?_, ?_, ?_, ?_, ?_⟩
  · rw [hcontext, ← hverdict]
    rfl
  · rw [hcontext]
    exact .inl (if_neg hliving)
  · rw [hcontext]
  · rw [hcontext]
    exact hattached
  · intro hu
    rw [ha] at hu
    cases hu
  · rw [hconsole, ← hinstance]
    rfl

@[simp] theorem kill_status (c : Context) : c.kill.status = c.status := by
  unfold kill
  split <;> rfl

@[simp] theorem kill_timers (c : Context) : c.kill.timers = c.timers := by
  unfold kill
  split <;> rfl

@[simp] theorem kill_attached (c : Context) : c.kill.attached = c.attached := by
  unfold kill
  split <;> rfl

/-- A kill leaves a settled context alone or marks it, and its process is gone. -/
theorem terminate_of_settled (hs : s.context.outcome.isSome = true) (reason : String) :
    terminate reason s = s ∨ terminate reason s = (marked s).mapContext kill := by
  have hm : settle (.terminated reason) (marked s) = marked s := settle_of_settled _ hs
  rw [← hm]
  exact terminate_cases reason s

/-- A kill that comes right after a run was settled takes nothing from the verdict. -/
theorem Settles.terminate {v : Verdict} (h : Settles v s t) (reason : String) :
    Settles v s (Context.terminate reason t) := by
  have hs : t.context.outcome.isSome = true := by
    rw [h.outcome]
    rfl
  rcases terminate_of_settled hs reason with he | he
  · rw [he]
    exact h
  · rw [he]
    have hterminated : ((marked t).mapContext kill).context.status = .terminated := kill_status _
    exact ⟨h.open_, (kill_outcome _).trans h.outcome, .inr hterminated, (kill_timers _).trans h.timers,
      (kill_attached _).trans h.attached, fun _ => hterminated, h.console⟩

/-- What a kill does. -/
theorem course_terminate {e : Event} (h : Sound s.context) (reason : String) :
    Course s (terminate reason s) e := by
  cases ho : s.context.outcome with
  | some o =>
    have hs : s.context.outcome.isSome = true := by
      rw [ho]
      rfl
    rcases terminate_of_settled hs reason with he | he
    · rw [he]
      exact .refl s e
    · rw [he]
      exact .killed hs (kill_outcome _) (kill_status _) (kill_timers _) (kill_attached _) rfl
  | none =>
    rcases terminate_cases reason s with he | he
    · rw [he]
      exact .refl s e
    · have hcontext := settle_context (s := marked s) (.terminated reason) h.begun ho
      have hconsole := settle_console (s := marked s) (.terminated reason) h.begun ho
      rw [he]
      refine .settles (.terminated reason) ⟨ho, ?_, .inr ?_, ?_, ?_, fun _ => ?_, hconsole⟩
      · exact (kill_outcome _).trans (by rw [hcontext]; rfl)
      · exact (kill_status _).trans (by rw [hcontext]; rfl)
      · exact (kill_timers _).trans (by rw [hcontext])
      · exact (kill_attached _).trans (by rw [hcontext]; rfl)
      · exact (kill_status _).trans (by rw [hcontext]; rfl)

/-- What the creation of the process does. -/
theorem course_created {e : Event} (h : Sound s.context) (ha : s.context.attached = false) :
    Course s (created s) e := by
  rw [created_context h]
  by_cases ht : s.context.status = .terminated
  · have hl : (live s).context.status = .terminated := ht
    simp only [Scene.mapContext, if_pos hl]
    exact Steady.course ⟨kill_status _, kill_outcome _, kill_timers _, kill_attached _, rfl⟩
  · have hl : ¬(live s).context.status = .terminated := ht
    simp only [Scene.mapContext, if_neg hl]
    split
    · unfold send
      split
      · exact .waits ha ht rfl rfl rfl rfl rfl
      · exact .waits ha ht rfl rfl rfl rfl rfl
    · refine .stays rfl rfl (List.Sublist.refl _) (fun hu => ?_) (.inl rfl)
      cases hu

/-- What a timer that goes off does. -/
theorem course_onTimer {e : Event} (h : Sound s.context) (timer : Timer) :
    Course s (onTimer timer s) e := by
  cases onTimer_cases timer s with
  | unarmed _ eq =>
    rw [eq]
    exact .refl s e
  | spent _ _ eq =>
    rw [eq]
    exact .stays rfl rfl List.erase_sublist id (.inl rfl)
  | unstarted _ armed _ eq =>
    obtain ⟨ho, ha⟩ := h.of_timer armed
    rw [eq]
    refine .settles (.failed "execution context failed to start") (Settles.terminate ?_ _)
    exact settles_settle s.gallery _ (f := fun c => { c with timers := c.timers.erase .start }) h ho ha
      ⟨rfl, rfl, rfl, rfl, rfl, rfl⟩
  | unfinished _ armed ho eq =>
    have ha := (h.of_timer armed).2
    rw [eq]
    refine .settles .timedOut ?_
    exact settles_settle s.gallery _ (f := fun c => discardStage { c with timers := c.timers.erase .watchdog })
      h ho ha ⟨rfl, rfl, rfl, rfl, rfl, rfl⟩

/-- What the end of the messages does. -/
theorem course_onEnded {e : Event} (h : Sound s.context) (ha : s.context.attached = true) :
    Course s (onEnded s) e := by
  cases onEnded_cases s with
  | stays _ eq =>
    rw [eq]
    exact Steady.course ⟨rfl, rfl, rfl, rfl, rfl⟩
  | fails ho eq =>
    rw [eq]
    refine .settles (.failed (unexpectedExit s.context.exitCode)) ?_
    exact settles_settle s.gallery _ (f := fun c => discardStage { c with link := .broken }) h ho ha
      ⟨rfl, rfl, rfl, rfl, rfl, rfl⟩

/-- An answer leaves the course of a run as it is. -/
theorem steady_reply (errand : Errand) (answer : Except Failure Wire) (s : Scene κ σ) :
    Steady s (reply errand answer s) := by
  obtain ⟨message, -, he⟩ := reply_context errand answer s
  rw [he]
  by_cases ht : s.context.status = .terminated
  · simp only [Scene.mapContext, if_pos ht]
    exact ⟨rfl, rfl, rfl, rfl, rfl⟩
  · simp only [Scene.mapContext, if_neg ht]
    unfold send
    split
    · exact ⟨rfl, rfl, rfl, rfl, rfl⟩
    · exact ⟨rfl, rfl, rfl, rfl, rfl⟩

/-- Looking at a call leaves the course of a run as it is. -/
theorem steady_attend (hasAttachments : Bool) (errand : Errand) (s : Scene κ σ) :
    Steady s (attend hasAttachments errand s) := by
  rcases attend_cases hasAttachments errand s with ⟨answer, he⟩ | ⟨-, fetch, he⟩
  · have hoffer : Steady s (withOffer s (Artifact.Draft.decode? errand.request.method
        errand.request.params)) := ⟨rfl, rfl, rfl, rfl, rfl⟩
    rw [he]
    exact hoffer.trans (steady_reply errand answer _)
  · rw [he]
    exact ⟨rfl, rfl, rfl, rfl, rfl⟩

variable [DecidableEq κ]

/-- What a successful end does: it settles the run unless the sink fails. -/
theorem course_complete {e : Event} (ops : SinkOps σ) (h : Sound s.context)
    (ho : s.context.outcome = none) (ha : s.context.attached = true) :
    Course s (complete ops s) e := by
  rcases complete_cases ops s with ⟨ids, gallery, -, he⟩ | ⟨gallery, he⟩
  · rw [he]
    refine .settles (.completed ids) ?_
    exact settles_settle gallery _ (f := discardStage) h ho ha ⟨rfl, rfl, rfl, rfl, rfl, rfl⟩
  · rw [he]
    exact Steady.course ⟨rfl, rfl, rfl, rfl, rfl⟩

/-- At most the watchdog is armed while the script runs. -/
theorem watchdogs_sublist (c : Context) : c.watchdogs.Sublist [.watchdog] := by
  unfold watchdogs
  split
  · exact List.Sublist.refl _
  · exact List.nil_sublist _

/-- What a message does. -/
theorem course_onMessage (ops : SinkOps σ) (raw : Wire) (h : Sound s.context)
    (ha : s.context.attached = true) : Course s (onMessage ops raw s) (.message raw) := by
  unfold onMessage
  split
  · exact .refl s _
  · split
    · exact .refl s _
    · unfold onStarted
      split
      · exact .starts ‹_› rfl rfl s.context.watchdogs_sublist ha rfl
      · exact .refl s _
    · rename_i line hd
      exact .stays rfl rfl (List.Sublist.refl _) id (.inr ⟨raw, line, rfl, hd, rfl⟩)
    · rename_i report _
      cases onDone_cases ops report s with
      | stays _ eq =>
        rw [eq]
        exact .refl s _
      | falls ho v _ eq =>
        rw [eq]
        refine .settles v ?_
        exact settles_settle s.gallery v (f := discardStage) h ho ha ⟨rfl, rfl, rfl, rfl, rfl, rfl⟩
      | succeeds ho _ _ eq =>
        rw [eq]
        exact course_complete ops h ho ha
    · exact Steady.course ⟨rfl, rfl, rfl, rfl, rfl⟩

/-- Every event that can happen to a context takes its course. -/
theorem course_step (ops : SinkOps σ) (hasAttachments : Bool) {e : Event} (h : Sound s.context)
    (ha : s.context.admits e = true) : Course s (step ops hasAttachments s e) e := by
  cases e with
  | begin => cases ha
  | created => exact course_created h (by simpa [admits] using ha)
  | message raw => exact course_onMessage ops raw h ha
  | serve number =>
    unfold step serve
    dsimp only
    split
    · exact (steady_attend hasAttachments _ s).course
    · exact .refl s _
  | fetched number result =>
    unfold step fetched
    dsimp only
    split
    · exact (steady_reply _ _ s).course
    · exact .refl s _
  | died code =>
    unfold step
    dsimp only
    split
    · exact Steady.course ⟨rfl, rfl, rfl, rfl, rfl⟩
    · exact Steady.course ⟨rfl, rfl, rfl, rfl, rfl⟩
    · exact .refl s _
  | ended =>
    unfold step
    dsimp only
    split
    · exact course_onEnded h ha
    · exact .refl s _
  | unlinked => exact Steady.course ⟨rfl, rfl, rfl, rfl, rfl⟩
  | timer timer => exact course_onTimer h timer
  | terminate reason => exact course_terminate h reason

/-- Whatever happens to a context takes its course. What cannot happen does not. -/
theorem course_happen (h : Sound s.context) (ops : SinkOps σ) (hasAttachments : Bool)
    (e : Event) : Course s (happen ops hasAttachments e s) e := by
  unfold happen
  split
  · exact course_step ops hasAttachments h ‹_›
  · exact .refl _ _

end Context

end ChartScript
