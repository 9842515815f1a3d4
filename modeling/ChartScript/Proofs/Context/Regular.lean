import ChartScript.Proofs.Context.Course
/-!
# Regular runs

What holds of the course of a run at every moment of the life of a context, whatever happens
to it and in which order. The parts hold together only: that no timer is armed after the end
needs that the status is final exactly then, and that the start timer is armed while the
process is waited for needs that nothing was heard of it before.
-/

namespace ChartScript

open Artifact (SinkOps Gallery)

namespace Run

/-- An outcome whose parts fit its status. -/
structure Outcome.Fitting (o : Outcome) : Prop where
  /-- Its status is final. -/
  final : o.status.isTerminal = true
  /-- It says that the time was used up exactly when this is its status. -/
  timedOut : o.timedOut = true ↔ o.status = .timedOut
  /-- A failure has an error. -/
  failed : o.status = .failed → o.error.isSome = true
  /-- Only a completed run has artifacts. -/
  artifacts : o.artifacts ≠ [] → o.status = .completed

/-- The outcome of a run that has not completed says that it has failed, that its time was up
or that it was killed, and names no artifacts. -/
theorem Outcome.Fitting.of_not_completed {o : Outcome} (h : o.Fitting) (hc : o.status ≠ .completed) :
    (o.status = .failed ∨ o.status = .timedOut ∨ o.status = .terminated) ∧ o.artifacts = [] := by
  have hfinal := h.final
  constructor
  · cases hs : o.status with
    | created =>
      rw [hs] at hfinal
      cases hfinal
    | running =>
      rw [hs] at hfinal
      cases hfinal
    | completed => exact absurd hs hc
    | failed => exact .inl rfl
    | timedOut => exact .inr (.inl rfl)
    | terminated => exact .inr (.inr rfl)
  · by_contra hartifacts
    exact hc (h.artifacts hartifacts)

end Run

namespace Context

variable {κ σ : Type} {s t : Scene κ σ}

/-- The outcome of every verdict is fitting. -/
theorem Verdict.fitting_outcome (v : Verdict) (c : Context) (now : Nat) :
    (v.outcome c now).Fitting := by
  refine ⟨v.isTerminal_status, ?_, ?_, ?_⟩
  · simp [outcome]
  · intro hf
    cases v with
    | failed e => rfl
    | completed ids => cases hf
    | timedOut => cases hf
    | terminated reason => cases hf
  · intro ha
    cases v with
    | completed ids => rfl
    | failed e => exact absurd rfl ha
    | timedOut => exact absurd rfl ha
    | terminated reason => exact absurd rfl ha

/-- The line of a verdict is the notice of its outcome. -/
theorem Verdict.notice_outcome (v : Verdict) (c : Context) (now : Nat) :
    (v.outcome c now).notice? = v.line? := by
  cases v <;> rfl

/-- What holds of the course of a run at every moment after it has begun. -/
structure Regular (c : Context) : Prop where
  /-- Its status is final exactly when it has an outcome. -/
  isTerminal_iff : c.status.isTerminal = true ↔ c.outcome.isSome = true
  /-- Its outcome is fitting. -/
  fitting : ∀ o, c.outcome = some o → o.Fitting
  /-- Once it is settled its status is that of its outcome, unless it was killed. -/
  status : ∀ o, c.outcome = some o → c.status ≠ .terminated → c.status = o.status
  /-- When its outcome is that it was killed its status says so. -/
  killed : ∀ o, c.outcome = some o → o.status = .terminated → c.status = .terminated
  /-- At most one timer is armed: that of the start before the script starts, and the watchdog
  while it runs. -/
  timers : c.timers = [] ∨ c.timers = [.start] ∧ c.status = .created ∨
    c.timers = [.watchdog] ∧ c.status = .running
  /-- Once it is settled no timer is armed. -/
  untimed : c.outcome.isSome = true → c.timers = []
  /-- Before its messages are read it has not started. -/
  unread : c.attached = false → c.status = .created ∨ c.status = .terminated

/-- A context that begins has nothing but a process that is being created. -/
theorem begin_context (instanceId : String) (spec : Run.Spec)
    (hs : s.context = create instanceId spec) : (begin s).context = { create instanceId spec with
      begun := true, outcome := none, process := .starting, link := .intact } := by
  rw [← hs]
  rfl

/-- A context that begins is regular. -/
theorem regular_begin (instanceId : String) (spec : Run.Spec)
    (hs : s.context = create instanceId spec) : Regular (begin s).context := by
  rw [begin_context instanceId spec hs]
  exact ⟨⟨nofun, nofun⟩, nofun, nofun, nofun, .inl rfl, nofun, fun _ => .inl rfl⟩

/-- A killed context stays killed. -/
theorem Course.terminated {e : Event} (hcourse : Course s t e) (h : Sound s.context)
    (ht : s.context.status = .terminated) : t.context.status = .terminated := by
  cases hcourse with
  | stays status => exact status.trans ht
  | waits unread living => exact absurd ht living
  | starts created => cases created.symm.trans ht
  | settles v verdict => exact absurd ht (h.not_terminated verdict.open_)
  | killed settled outcome status => exact status

/-- A settled run keeps its outcome. -/
theorem Course.outcome_of_settled {e : Event} (hcourse : Course s t e)
    (hs : s.context.outcome.isSome = true) : t.context.outcome = s.context.outcome := by
  cases hcourse with
  | stays status outcome => exact outcome
  | waits unread living status outcome => exact outcome
  | starts created status outcome => exact outcome
  | settles v verdict =>
    rw [verdict.open_] at hs
    cases hs
  | killed settled outcome => exact outcome

/-- The timers of a regular run after some of them are gone. -/
theorem Regular.timers_of_sublist {c d : Context} (h : Regular c) (ht : d.timers.Sublist c.timers)
    (hs : d.status = c.status) : d.timers = [] ∨ d.timers = [.start] ∧ d.status = .created ∨
      d.timers = [.watchdog] ∧ d.status = .running := by
  rcases h.timers with hc | ⟨hc, hstatus⟩ | ⟨hc, hstatus⟩
  · rw [hc] at ht
    exact .inl (List.sublist_nil.mp ht)
  · rw [hc] at ht
    rcases List.sublist_singleton.mp ht with hd | hd
    · exact .inl hd
    · exact .inr (.inl ⟨hd, hs.trans hstatus⟩)
  · rw [hc] at ht
    rcases List.sublist_singleton.mp ht with hd | hd
    · exact .inl hd
    · exact .inr (.inr ⟨hd, hs.trans hstatus⟩)

/-- A regular run that keeps its outcome stays regular when its status stays too, when it is
killed and when it goes on. -/
theorem Regular.keep {c d : Context} (h : Regular c) (hd : Sound d) (ho : d.outcome = c.outcome)
    (hs : d.status = c.status ∨ d.status = .terminated ∨ c.outcome = none)
    (ht : d.timers = [] ∨ d.timers = [.start] ∧ d.status = .created ∨
      d.timers = [.watchdog] ∧ d.status = .running)
    (hu : d.attached = false → d.status = .created ∨ d.status = .terminated) : Regular d := by
  have hterminal : d.status.isTerminal = true ↔ d.outcome.isSome = true := by
    rw [hd.isTerminal_eq]
  refine ⟨hterminal, ?_, ?_, ?_, ht, hd.timers, hu⟩
  · intro o hdo
    exact h.fitting o (ho.symm.trans hdo)
  · intro o hdo hliving
    have hco := ho.symm.trans hdo
    rcases hs with hs | hs | hs
    · rw [hs]
      exact h.status o hco (hs ▸ hliving)
    · exact absurd hs hliving
    · cases hs.symm.trans hco
  · intro o hdo hk
    have hco := ho.symm.trans hdo
    rcases hs with hs | hs | hs
    · exact hs.trans (h.killed o hco hk)
    · exact hs
    · cases hs.symm.trans hco

/-- A run that a verdict settles is regular. -/
theorem Settles.regular {v : Verdict} (h : Settles v s t) (ht : Sound t.context) :
    Regular t.context := by
  have hterminal : t.context.status.isTerminal = true ↔ t.context.outcome.isSome = true := by
    rw [ht.isTerminal_eq]
  refine ⟨hterminal, ?_, ?_, ?_, .inl h.timers, ht.timers, ?_⟩
  · intro o ho
    cases h.outcome.symm.trans ho
    exact v.fitting_outcome s.context s.now
  · intro o ho hliving
    cases h.outcome.symm.trans ho
    exact h.status.resolve_right hliving
  · intro o ho hk
    cases h.outcome.symm.trans ho
    exact h.status.elim (fun hv => hv.trans hk) id
  · intro ha
    exact .inr (h.unread (h.attached.symm.trans ha))

/-- The course of a regular run leaves it regular. -/
theorem Regular.course {e : Event} (h : Regular s.context) (hs : Sound s.context)
    (ht : Sound t.context) (hcourse : Course s t e) : Regular t.context := by
  cases hcourse with
  | stays status outcome timers attached =>
    refine h.keep ht outcome (.inl status) (h.timers_of_sublist timers status) ?_
    intro ha
    rw [status]
    exact h.unread (attached ha)
  | waits unread living status outcome timers attached =>
    have hcreated := (h.unread unread).resolve_right living
    rw [hs.untimed unread] at timers
    refine h.keep ht outcome (.inl status) (.inr (.inl ⟨timers, status.trans hcreated⟩)) ?_
    intro ha
    rw [attached] at ha
    cases ha
  | starts created status outcome timers attached =>
    have hopen := hs.outcome_of_created created
    have htimers : t.context.timers = [] ∨ t.context.timers = [.start] ∧ t.context.status = .created ∨
        t.context.timers = [.watchdog] ∧ t.context.status = .running :=
      (List.sublist_singleton.mp timers).imp_right fun htimers => .inr ⟨htimers, status⟩
    refine h.keep ht outcome (.inr (.inr hopen)) htimers ?_
    intro ha
    rw [attached] at ha
    cases ha
  | settles v verdict => exact verdict.regular ht
  | killed settled outcome status timers attached =>
    refine h.keep ht outcome (.inr (.inl status)) (.inl (timers.trans (hs.timers settled))) ?_
    exact fun _ => .inr status

/-- The outcome of a run is fitting after its course if it was before. -/
theorem Course.fitting {e : Event} (hcourse : Course s t e)
    (h : ∀ o, s.context.outcome = some o → o.Fitting) {o : Run.Outcome}
    (ho : t.context.outcome = some o) : o.Fitting := by
  cases hcourse with
  | stays status outcome => exact h o (outcome.symm.trans ho)
  | waits unread living status outcome => exact h o (outcome.symm.trans ho)
  | starts created status outcome => exact h o (outcome.symm.trans ho)
  | killed settled outcome => exact h o (outcome.symm.trans ho)
  | settles v verdict =>
    cases verdict.outcome.symm.trans ho
    exact v.fitting_outcome s.context s.now

/-- What a change that settles a run writes to the console. -/
theorem Course.notice {e : Event} {o : Run.Outcome} (hcourse : Course s t e)
    (hn : s.context.outcome = none) (ho : t.context.outcome = some o) :
    t.console = noted s.context.instanceId o.notice? s.console := by
  have hchanged : t.context.outcome ≠ s.context.outcome := by
    rw [hn, ho]
    exact nofun
  cases hcourse with
  | settles v verdict =>
    cases verdict.outcome.symm.trans ho
    rw [v.notice_outcome]
    exact verdict.console
  | stays status outcome => exact absurd outcome hchanged
  | waits unread living status outcome => exact absurd outcome hchanged
  | starts created status outcome => exact absurd outcome hchanged
  | killed settled outcome => exact absurd outcome hchanged

/-- What a change that settles nothing writes to the console. -/
theorem Course.silent {e : Event} (hcourse : Course s t e)
    (ho : t.context.outcome = s.context.outcome)
    (hlog : ∀ raw line, e = .message raw → Message.FromContext.decode? raw ≠ some (.log line)) :
    t.console = s.console := by
  cases hcourse with
  | stays status outcome timers attached console =>
    rcases console with hc | ⟨raw, line, he, hd, -⟩
    · exact hc
    · exact absurd hd (hlog raw line he)
  | settles v verdict =>
    rw [verdict.open_, verdict.outcome] at ho
    cases ho
  | waits unread living status outcome timers attached console => exact console
  | starts created status outcome timers attached console => exact console
  | killed settled outcome status timers attached console => exact console

/-- What surrounds a context at a moment, and what happens to it then. -/
structure Moment (κ σ : Type) where
  /-- By what the others know the context. -/
  self : κ
  /-- The registry and the sink. -/
  gallery : Gallery κ σ
  /-- The console, if there is one. -/
  console : Option Console
  /-- The time in microseconds. -/
  now : Nat
  /-- What happens. -/
  event : Event

/-- The scene in which a context is at a moment. -/
def Moment.scene (m : Moment κ σ) (c : Context) : Scene κ σ :=
  ⟨m.self, c, m.gallery, m.console, m.now⟩

section Life

variable [DecidableEq κ] (ops : SinkOps σ) (hasAttachments : Bool)

/-- A moment of the life of a context. What cannot happen to it does not. -/
def meet (c : Context) (m : Moment κ σ) : Scene κ σ := happen ops hasAttachments m.event (m.scene c)

/-- A context after moments of its life. -/
def lived (c : Context) (moments : List (Moment κ σ)) : Context :=
  moments.foldl (fun c m => (meet ops hasAttachments c m).context) c

variable (κ) in
/-- What holds of a context for the rest of its life. -/
structure Lifelong (c : Context) : Prop where
  /-- Its run is regular. -/
  regular : Regular c
  /-- Its outcome never changes. -/
  settled : ∀ later : List (Moment κ σ), ∀ o, c.outcome = some o →
    (lived ops hasAttachments c later).outcome = some o
  /-- Once it is killed it stays so. -/
  killed : ∀ later : List (Moment κ σ), c.status = .terminated →
    (lived ops hasAttachments c later).status = .terminated
  /-- When its run is settled the notice of the outcome is written to the console as one line
  of error, if there is a notice, and nothing else is. -/
  notice : ∀ (m : Moment κ σ) (o : Run.Outcome), c.outcome = none →
    (meet ops hasAttachments c m).context.outcome = some o →
      (meet ops hasAttachments c m).console = noted c.instanceId o.notice? m.console
  /-- When it is not, nothing is written but the lines that the script logs. -/
  silent : ∀ m : Moment κ σ, (meet ops hasAttachments c m).context.outcome = c.outcome →
    (∀ raw line, m.event = .message raw → Message.FromContext.decode? raw ≠ some (.log line)) →
      (meet ops hasAttachments c m).console = m.console

/-- Every moment takes its course. -/
theorem course_meet {c : Context} (h : Sound c) (m : Moment κ σ) :
    Course (m.scene c) (meet ops hasAttachments c m) m.event :=
  course_happen (s := m.scene c) h ops hasAttachments m.event

/-- Every moment leaves a sound context. -/
theorem sound_meet {c : Context} (h : Sound c) (m : Moment κ σ) :
    Sound (meet ops hasAttachments c m).context :=
  (lawful_happen (s := m.scene c) h ops hasAttachments m.event).sound

/-- A life leaves a sound context with a regular run. -/
theorem regular_lived {c : Context} (hs : Sound c) (h : Regular c) (moments : List (Moment κ σ)) :
    Sound (lived ops hasAttachments c moments) ∧ Regular (lived ops hasAttachments c moments) := by
  induction moments generalizing c with
  | nil => exact ⟨hs, h⟩
  | cons m rest ih =>
    have hnext := sound_meet ops hasAttachments hs m
    have hcourse := course_meet ops hasAttachments hs m
    exact ih hnext (Regular.course (s := m.scene c) h hs hnext hcourse)

/-- A life leaves a sound context. -/
theorem sound_lived {c : Context} (h : Sound c) (moments : List (Moment κ σ)) :
    Sound (lived ops hasAttachments c moments) := by
  induction moments generalizing c with
  | nil => exact h
  | cons m rest ih => exact ih (sound_meet ops hasAttachments h m)

/-- A life in two parts. -/
theorem lived_append (c : Context) (before after : List (Moment κ σ)) :
    lived ops hasAttachments c (before ++ after) =
      lived ops hasAttachments (lived ops hasAttachments c before) after := List.foldl_append

/-- A life and one more moment. -/
theorem lived_concat (c : Context) (moments : List (Moment κ σ)) (m : Moment κ σ) :
    lived ops hasAttachments c (moments ++ [m]) =
      (meet ops hasAttachments (lived ops hasAttachments c moments) m).context :=
  lived_append ops hasAttachments c moments [m]

/-- A settled run keeps its outcome for life. -/
theorem outcome_lived {c : Context} (hs : Sound c) (ho : c.outcome.isSome = true)
    (moments : List (Moment κ σ)) : (lived ops hasAttachments c moments).outcome = c.outcome := by
  induction moments generalizing c with
  | nil => rfl
  | cons m rest ih =>
    have hnext := sound_meet ops hasAttachments hs m
    have hkeep := (course_meet ops hasAttachments hs m).outcome_of_settled ho
    have hrest := ih hnext (by rw [hkeep]; exact ho)
    exact hrest.trans hkeep

/-- A killed context is killed for life. -/
theorem terminated_lived {c : Context} (hs : Sound c) (ht : c.status = .terminated)
    (moments : List (Moment κ σ)) : (lived ops hasAttachments c moments).status = .terminated := by
  induction moments generalizing c with
  | nil => exact ht
  | cons m rest ih =>
    have hnext := sound_meet ops hasAttachments hs m
    have hkeep := (course_meet ops hasAttachments hs m).terminated hs ht
    exact ih hnext hkeep

/-- From the moment at which a context begins to start, and whatever happens to it then, in
any order and among any surroundings, its run is regular and is settled at most once. -/
theorem lifelong_lived (instanceId : String) (spec : Run.Spec) (first : Moment κ σ)
    (moments : List (Moment κ σ)) : Lifelong κ ops hasAttachments
      (lived ops hasAttachments (begin (first.scene (create instanceId spec))).context moments) := by
  have hbegin : Sound (begin (first.scene (create instanceId spec))).context :=
    sound_begin (s := first.scene (create instanceId spec)) instanceId spec rfl
  have hfirst : Regular (begin (first.scene (create instanceId spec))).context :=
    regular_begin (s := first.scene (create instanceId spec)) instanceId spec rfl
  obtain ⟨hsound, hregular⟩ := regular_lived ops hasAttachments hbegin hfirst moments
  refine ⟨hregular, ?_, ?_, ?_, ?_⟩
  · intro later o ho
    have hsettled := Option.isSome_iff_exists.mpr ⟨o, ho⟩
    exact (outcome_lived ops hasAttachments hsound hsettled later).trans ho
  · intro later ht
    exact terminated_lived ops hasAttachments hsound ht later
  · intro m o hn ho
    exact (course_meet ops hasAttachments hsound m).notice hn ho
  · intro m ho hlog
    exact (course_meet ops hasAttachments hsound m).silent ho hlog

end Life

end Context

end ChartScript
