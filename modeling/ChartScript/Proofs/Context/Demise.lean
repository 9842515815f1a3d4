import ChartScript.Proofs.Context.Process
/-!
# When the process goes away

A process can end, or close its end of the way to it, at any moment. If it does so before it was
sent what to run, the attempt to start fails, although the context settles all the same. At any
later moment nothing fails: the run is settled at the latest when the end of the messages is
read, and then as a failure, unless the script has reported its end or the run was stopped.
-/

namespace ChartScript

open Artifact (SinkOps)

namespace Context

variable {κ σ : Type} {s : Scene κ σ}

/-- What the one who asked for a run gets: the failure of the attempt to start, or else the
outcome, once there is one. -/
def returned (c : Context) : Except Failure (Option Run.Outcome) :=
  match c.refusal with
  | some f => .error f
  | none => c.awaited

/-- Whether the way to the process is broken when what to run would be sent. Nothing is sent to
the process of a context that was killed before. -/
def cutOffFrom (broken : Bool) : List Event → Bool
  | [] => false
  | .created :: _ => broken
  | .terminate _ :: _ => false
  | .unlinked :: rest => cutOffFrom true rest
  | _ :: rest => cutOffFrom broken rest

/-- Whether the way to the process breaks before what to run is sent. -/
def cutOff (events : List Event) : Bool := cutOffFrom false events

/-- Whether an event can neither settle a run nor be its end. -/
def Event.GoesOn : Event → Prop
  | .message raw => ∀ report, Message.FromContext.decode? raw ≠ some (.done report)
  | .ended => False
  | .timer _ => False
  | .terminate _ => False
  | _ => True

/-- A context whose process is being created. -/
structure Unborn (broken : Bool) (c : Context) : Prop where
  /-- It is sound. -/
  sound : Sound c
  /-- Its messages are not read. -/
  unread : c.attached = false
  /-- It was not killed. -/
  living : c.status ≠ .terminated
  /-- It serves no call. -/
  idle : c.errands = []
  /-- Its start was not refused. -/
  unrefused : c.refusal = none
  /-- Whether the way to the process is broken. -/
  link : c.link = if broken then .broken else .intact

/-- A context that begins waits for its process. -/
theorem unborn_begin (instanceId : String) (spec : Run.Spec)
    (hs : s.context = create instanceId spec) : Unborn false (begin s).context := by
  have hsound : Sound (begin s).context := sound_begin instanceId spec hs
  rw [begin_context instanceId spec hs] at hsound ⊢
  exact ⟨hsound, rfl, nofun, rfl, rfl, rfl⟩

variable [DecidableEq κ] (ops : SinkOps σ) (hasAttachments : Bool) {broken : Bool}

/-- The start is refused at the end of the creation if the way to the process is broken, and the
messages of the process are read from then on. -/
theorem Unborn.created (h : Unborn broken s.context) :
    (happen ops hasAttachments .created s).context.attached = true ∧
      ((happen ops hasAttachments .created s).context.refusal.isSome = broken) := by
  have hadmits : s.context.admits .created = true := by simp [admits, h.unread]
  have hlaunched : (happen ops hasAttachments .created s).context = launched s.context := by
    unfold happen
    rw [if_pos hadmits]
    exact created_eq_launched h.sound
  rw [hlaunched, launched_of_living h.living]
  refine ⟨rfl, ?_⟩
  dsimp only
  rw [h.link, h.unrefused]
  cases broken <;> rfl

/-- A kill before the end of the creation. -/
theorem Unborn.killed (h : Unborn broken s.context) (reason : String) :
    (happen ops hasAttachments (.terminate reason) s).context.status = .terminated ∧
      (happen ops hasAttachments (.terminate reason) s).context.refusal = none := by
  have hopen : s.context.outcome = none := by
    cases ho : s.context.outcome with
    | none => rfl
    | some o => exact absurd (h.sound.unread h.unread (by rw [ho]; rfl)) h.living
  have hgoes : ¬(s.context.status.isTerminal && !s.context.isAlive) = true := by
    rw [h.sound.isTerminal_eq, hopen]
    exact nofun
  have hterminate : happen ops hasAttachments (.terminate reason) s =
      (settle (.terminated reason) (marked s)).mapContext kill := by
    change Context.terminate reason s = _
    unfold Context.terminate
    rw [if_neg h.living, if_neg hgoes]
    rfl
  rw [hterminate]
  change (kill _).status = _ ∧ (kill _).refusal = none
  rw [kill_status, kill_refusal, (aside_settle _ _).refusal]
  exact ⟨settle_of_terminated _ rfl, h.unrefused⟩

/-- Whether the way is broken after an event. -/
def Event.breaks (broken : Bool) : Event → Bool
  | .unlinked => true
  | _ => broken

/-- Any other event leaves a context that waits for its process. -/
theorem Unborn.other (h : Unborn broken s.context) {e : Event} (hcreated : e ≠ .created)
    (hkill : ∀ reason, e ≠ .terminate reason) :
    Unborn (e.breaks broken) (happen ops hasAttachments e s).context := by
  have hnone : ∀ number, s.context.errand? number = none := by
    intro number
    unfold errand?
    rw [h.idle]
    rfl
  have htimers := h.sound.untimed h.unread
  have hsound := (lawful_happen h.sound ops hasAttachments e).sound
  unfold happen at hsound ⊢
  cases e with
  | begin => exact h
  | created => exact absurd rfl hcreated
  | message raw =>
    have hdeaf : ¬s.context.admits (.message raw) = true := by simp [admits, h.unread]
    rw [if_neg hdeaf]
    exact h
  | serve number =>
    have hserve : serve hasAttachments number s = s := by
      unfold serve
      rw [hnone number]
    change Unborn broken (serve hasAttachments number s).context
    rw [hserve]
    exact h
  | fetched number result =>
    have hfetched : fetched number result s = s := by
      unfold fetched
      rw [hnone number]
    change Unborn broken (fetched number result s).context
    rw [hfetched]
    exact h
  | died code =>
    change Unborn broken (step ops hasAttachments s (.died code)).context
    unfold step
    dsimp only
    split
    · exact ⟨{ h.sound with }, h.unread, h.living, h.idle, h.unrefused, h.link⟩
    · exact ⟨{ h.sound with }, h.unread, h.living, h.idle, h.unrefused, h.link⟩
    · exact h
  | ended =>
    have hdeaf : ¬s.context.admits .ended = true := by simp [admits, h.unread]
    rw [if_neg hdeaf]
    exact h
  | unlinked =>
    refine ⟨hsound, h.unread, h.living, h.idle, h.unrefused, ?_⟩
    change (if s.context.link = .intact then Link.broken else s.context.link) = .broken
    rw [h.link]
    cases broken <;> rfl
  | timer timer =>
    have hquiet : onTimer timer s = s := by
      unfold onTimer
      rw [htimers]
      rfl
    change Unborn broken (onTimer timer s).context
    rw [hquiet]
    exact h
  | terminate reason => exact absurd rfl (hkill reason)

section End

/-- Whether the end of its messages will settle a context, if it is not settled by then. -/
def Heard (c : Context) : Prop := c.attached = true ∨ c.status = .terminated

/-- Once its process has been created a context is heard. -/
theorem heard_created (h : Sound s.context) :
    Heard (happen ops hasAttachments .created s).context := by
  unfold happen
  cases ha : s.context.attached with
  | true =>
    have hadmits : ¬s.context.admits .created = true := by simp [admits, ha]
    rw [if_neg hadmits]
    exact .inl ha
  | false =>
    have hadmits : s.context.admits .created = true := by simp [admits, ha]
    rw [if_pos hadmits]
    change Heard (Context.created s).context
    rw [created_eq_launched h]
    by_cases ht : s.context.status = .terminated
    · rw [launched_of_terminated ht]
      exact .inr ((kill_status _).trans ht)
    · rw [launched_of_living ht]
      exact .inl rfl

/-- The end of the messages settles a run that goes on as one that ended unexpectedly. -/
theorem outcome_ended (h : Sound s.context) (ha : s.context.attached = true) :
    (happen ops hasAttachments .ended s).context.outcome = some (s.context.outcome.getD
      ((Verdict.failed (unexpectedExit s.context.exitCode)).outcome s.context s.now)) := by
  have hadmits : s.context.admits .ended = true := ha
  unfold happen
  rw [if_pos hadmits]
  unfold step
  dsimp only
  rw [if_pos ha]
  cases onEnded_cases s with
  | stays settled eq =>
    rw [eq]
    cases ho : s.context.outcome with
    | some o => exact ho
    | none =>
      rw [ho] at settled
      rcases settled with hterminated | hsome
      · exact absurd hterminated (h.not_terminated ho)
      · cases hsome
  | fails ho eq =>
    rw [eq, ho]
    refine (congrArg Context.outcome (settle_context _ ?_ ?_)).trans rfl
    · exact h.begun
    · exact ho

/-- A run goes on at an event at which it can. -/
theorem outcome_goesOn (h : Sound s.context) (ho : s.context.outcome = none) {e : Event}
    (hg : e.GoesOn) : (happen ops hasAttachments e s).context.outcome = none := by
  unfold happen
  split
  · rename_i hadmits
    cases e with
    | begin => cases hadmits
    | created =>
      change (Context.created s).context.outcome = none
      rw [created_eq_launched h]
      by_cases ht : s.context.status = .terminated
      · rw [launched_of_terminated ht]
        exact (kill_outcome _).trans ho
      · rw [launched_of_living ht]
        exact ho
    | message raw =>
      unfold step onMessage
      dsimp only
      split
      · exact ho
      · split
        · exact ho
        · unfold onStarted
          split <;> exact ho
        · exact ho
        · rename_i report hd
          exact absurd hd (hg report)
        · exact ho
    | serve number =>
      unfold step serve
      dsimp only
      split
      · exact (steady_attend hasAttachments _ s).outcome.trans ho
      · exact ho
    | fetched number result =>
      unfold step fetched
      dsimp only
      split
      · exact (steady_reply _ _ s).outcome.trans ho
      · exact ho
    | died code =>
      unfold step
      dsimp only
      split <;> exact ho
    | ended => exact hg.elim
    | unlinked => exact ho
    | timer timer => exact hg.elim
    | terminate reason => exact hg.elim
  · exact ho

end End

section Life

/-- A heard context is heard for life, and its start is refused no more. -/
theorem Heard.lived {c : Context} (h : Heard c) (hs : Sound c) (moments : List (Moment κ σ)) :
    Heard (lived ops hasAttachments c moments) ∧
      (lived ops hasAttachments c moments).refusal = c.refusal := by
  induction moments generalizing c with
  | nil => exact ⟨h, rfl⟩
  | cons m rest ih =>
    obtain ⟨hsame, hattached⟩ := (deed_meet ops hasAttachments hs m).refusal_eq h
    have hnext : Heard (meet ops hasAttachments c m).context :=
      h.imp hattached ((course_meet ops hasAttachments hs m).terminated hs)
    obtain ⟨hheard, hrest⟩ := ih hnext (sound_meet ops hasAttachments hs m)
    exact ⟨hheard, hrest.trans hsame⟩

/-- The start is refused exactly when the way to the process breaks before what to run is sent. -/
theorem Unborn.refusal_lived {c : Context} (h : Unborn broken c) (moments : List (Moment κ σ)) :
    (lived ops hasAttachments c moments).refusal.isSome =
      cutOffFrom broken (moments.map Moment.event) := by
  induction moments generalizing broken c with
  | nil =>
    change c.refusal.isSome = false
    rw [h.unrefused]
    rfl
  | cons m rest ih =>
    have hborn : Unborn broken (m.scene c).context := h
    have hsound := sound_meet ops hasAttachments h.sound m
    change (lived ops hasAttachments (meet ops hasAttachments c m).context rest).refusal.isSome =
      cutOffFrom broken (m.event :: rest.map Moment.event)
    unfold meet at hsound ⊢
    cases he : m.event with
    | created =>
      obtain ⟨hattached, hrefusal⟩ :=
        hborn.created ops hasAttachments
      have hheard : Heard (happen ops hasAttachments .created (m.scene c)).context := .inl hattached
      rw [he] at hsound
      rw [(hheard.lived ops hasAttachments hsound rest).2]
      exact hrefusal
    | terminate reason =>
      obtain ⟨hkilled, hrefusal⟩ :=
        hborn.killed ops hasAttachments reason
      have hheard : Heard (happen ops hasAttachments (.terminate reason) (m.scene c)).context :=
        .inr hkilled
      rw [he] at hsound
      rw [(hheard.lived ops hasAttachments hsound rest).2, hrefusal]
      rfl
    | _ =>
      have hnext := hborn.other ops hasAttachments (e := m.event)
        (by rw [he]; exact nofun) (by rw [he]; exact fun _ => nofun)
      rw [he] at hnext
      exact ih hnext

/-- A run goes on as long as nothing happens that can settle it. -/
theorem outcome_lived_goesOn {c : Context} (h : Sound c) (ho : c.outcome = none)
    (moments : List (Moment κ σ)) (hg : ∀ m ∈ moments, m.event.GoesOn) :
    (lived ops hasAttachments c moments).outcome = none := by
  induction moments generalizing c with
  | nil => exact ho
  | cons m rest ih =>
    have hnext := outcome_goesOn (s := m.scene c) ops hasAttachments h ho (hg m List.mem_cons_self)
    exact ih (sound_meet ops hasAttachments h m) hnext fun n hn => hg n (List.mem_cons_of_mem m hn)

/-- A context is heard once its process has been created. -/
theorem heard_lived {c : Context} (h : Sound c) (moments : List (Moment κ σ))
    (hm : ∃ m ∈ moments, m.event = .created) : Heard (lived ops hasAttachments c moments) := by
  obtain ⟨m, hm, he⟩ := hm
  obtain ⟨before, after, rfl⟩ := List.append_of_mem hm
  have hbefore := sound_lived ops hasAttachments h before
  have hcreated := heard_created (s := m.scene (lived ops hasAttachments c before)) ops
    hasAttachments hbefore
  have hnext := sound_meet ops hasAttachments hbefore m
  rw [← he] at hcreated
  rw [lived_append]
  exact (Heard.lived ops hasAttachments (c := (meet ops hasAttachments _ m).context) hcreated hnext
    after).1

/-- When the end of the messages is read a heard context is settled for good: as it was, or as one
whose process ended unexpectedly. -/
theorem settles_of_heard {c : Context} (hheard : Heard c) (h : Sound c) {last : Moment κ σ}
    (after : List (Moment κ σ)) (hended : last.event = .ended) :
    (lived ops hasAttachments c (last :: after)).outcome =
      some (c.outcome.getD
        ((Verdict.failed (unexpectedExit c.exitCode)).outcome c last.now)) := by
  have hnext := sound_meet ops hasAttachments h last
  have hmeet : (meet ops hasAttachments c last).context.outcome = some (c.outcome.getD
      ((Verdict.failed (unexpectedExit c.exitCode)).outcome c last.now)) := by
    rcases hheard with ha | hk
    · unfold meet
      rw [hended]
      exact outcome_ended (s := last.scene c) ops hasAttachments h ha
    · have hsettled := h.isSome_of_terminated hk
      have hkeep := (course_meet ops hasAttachments h last).outcome_of_settled hsettled
      obtain ⟨o, ho⟩ := Option.isSome_iff_exists.mp hsettled
      rw [hkeep]
      change c.outcome = _
      rw [ho]
      rfl
  have hsettled : (meet ops hasAttachments c last).context.outcome.isSome = true := by
    rw [hmeet]
    rfl
  change (lived ops hasAttachments (meet ops hasAttachments c last).context after).outcome = _
  rw [outcome_lived ops hasAttachments hnext hsettled, hmeet]

/-- A context whose process has been created is settled so at any time of its life. -/
theorem lived_ended {c : Context} (h : Sound c) {before : List (Moment κ σ)} {last : Moment κ σ}
    (after : List (Moment κ σ)) (hcreated : ∃ m ∈ before, m.event = .created)
    (hended : last.event = .ended) :
    (lived ops hasAttachments c (before ++ last :: after)).outcome =
      some ((lived ops hasAttachments c before).outcome.getD
        ((Verdict.failed (unexpectedExit (lived ops hasAttachments c before).exitCode)).outcome
          (lived ops hasAttachments c before) last.now)) := by
  rw [lived_append]
  exact settles_of_heard ops hasAttachments (heard_lived ops hasAttachments h before hcreated)
    (sound_lived ops hasAttachments h before) after hended

/-- What is waited for in a context that has begun is its outcome. -/
theorem Sound.awaited_eq {c : Context} (h : Sound c) : c.awaited = .ok c.outcome := if_pos h.begun

/-- What becomes of a run whose process goes away, whenever it does. -/
structure Outlived (c : Context) (moments : List (Moment κ σ)) : Prop where
  /-- The start fails exactly when the way to the process breaks before what to run is sent. -/
  refused : (∃ f, returned (lived ops hasAttachments c moments) = .error f) ↔
    cutOff (moments.map Moment.event) = true
  /-- Otherwise the outcome is returned, once there is one. -/
  returned : cutOff (moments.map Moment.event) = false →
    returned (lived ops hasAttachments c moments) = .ok (lived ops hasAttachments c moments).outcome
  /-- When the end of the messages has been read after the creation of the process, the context
  is settled. -/
  settles : ∀ (before : List (Moment κ σ)) (last : Moment κ σ) (after : List (Moment κ σ)),
    moments = before ++ last :: after → (∃ m ∈ before, m.event = .created) → last.event = .ended →
      (lived ops hasAttachments c moments).outcome.isSome = true
  /-- If the script had not reported its end by then, and neither a timer nor a kill had stopped
  the run, it has failed because its process ended unexpectedly. -/
  fails : ∀ (before : List (Moment κ σ)) (last : Moment κ σ) (after : List (Moment κ σ)),
    moments = before ++ last :: after → (∃ m ∈ before, m.event = .created) → last.event = .ended →
      (∀ m ∈ before, m.event.GoesOn) →
      ∃ o, (lived ops hasAttachments c moments).outcome = some o ∧ o.status = .failed ∧
        o.error = some (unexpectedExit (lived ops hasAttachments c before).exitCode)

/-- Whenever the process of a context goes away, the context settles, and the run fails if its
script has not reported its end. The start fails only when the way to the process breaks before
what to run is sent. -/
theorem outlived_lived (instanceId : String) (spec : Run.Spec) (first : Moment κ σ)
    (moments : List (Moment κ σ)) : Outlived ops hasAttachments
      (begin (first.scene (create instanceId spec))).context moments := by
  have hunborn := unborn_begin (s := first.scene (create instanceId spec)) instanceId spec rfl
  have hopen : (begin (first.scene (create instanceId spec))).context.outcome = none := rfl
  generalize (begin (first.scene (create instanceId spec))).context = c at hunborn hopen
  have hsound := sound_lived ops hasAttachments hunborn.sound moments
  have hrefusal := hunborn.refusal_lived ops hasAttachments moments
  refine ⟨?refused, ?returned, ?settles, ?fails⟩
  case refused =>
    unfold cutOff
    rw [← hrefusal]
    unfold Context.returned
    cases hr : (lived ops hasAttachments c moments).refusal with
    | some f => exact iff_of_true ⟨f, rfl⟩ rfl
    | none =>
      have hawaited := hsound.awaited_eq
      rw [hawaited]
      refine iff_of_false ?_ nofun
      rintro ⟨f, hf⟩
      cases hf
  case returned =>
    intro hcut
    unfold cutOff at hcut
    rw [hcut] at hrefusal
    unfold Context.returned
    rw [Option.isNone_iff_eq_none.mp (Option.isSome_eq_false_iff.mp hrefusal)]
    exact hsound.awaited_eq
  case settles =>
    rintro before last after rfl hcreated hended
    rw [lived_ended ops hasAttachments hunborn.sound after hcreated hended]
    rfl
  case fails =>
    rintro before last after rfl hcreated hended hgoes
    have hbefore := outcome_lived_goesOn ops hasAttachments hunborn.sound hopen before hgoes
    have hlast := lived_ended ops hasAttachments hunborn.sound after hcreated hended
    rw [hbefore] at hlast
    exact ⟨_, hlast, rfl, rfl⟩

/-- An event at the beginning of time, before anything was drawn. -/
def Event.atOnce (e : Event) : Moment Nat Artifact.Sink := ⟨0, ⟨.empty, .empty⟩, none, 0, e⟩

/-- Whether an event is the script's report of its end. -/
def Event.isReport : Event → Bool
  | .message raw =>
    match Message.FromContext.decode? raw with
    | some (.done _) => true
    | _ => false
  | _ => false

/-- A process that dies, when a timer goes off before the end of its messages is read. -/
def overtaken (heard : List Event) (timer : Timer) : List Event :=
  [.created] ++ heard ++ [.died (some 1), .timer timer, .ended]

/-- What becomes of a run whose process is overtaken by a timer. -/
def overtakenBy (heard : List Event) (timer : Timer) : Context :=
  lived Artifact.Sink.ops false (Fleet.opening "a" ⟨"S", "1h", "", 2000⟩)
    ((overtaken heard timer).map Event.atOnce)

/-- The first who settles a run has the word: a run of a process that died without a report has not
ended unexpectedly when the start timer or the watchdog went off before its end was noticed. -/
theorem overtaken_not_unexpected :
    ((overtaken [] .start).all (!·.isReport) ∧
      (overtakenBy [] .start).outcome.map (·.error) =
        some (some "execution context failed to start") ∧
      (overtakenBy [] .start).outcome.map (·.error) ≠ some (some (unexpectedExit (some 1)))) ∧
    ((overtaken [.message Message.startedView.toWire] .watchdog).all (!·.isReport) ∧
      (overtakenBy [.message Message.startedView.toWire] .watchdog).outcome.map (·.status) =
        some .timedOut) := by
  decide

/-- A process that closes its end and dies while it is being created. -/
def stillborn : List (Moment Nat Artifact.Sink) :=
  [Event.unlinked, .died (some 1), .created, .ended].map Event.atOnce

/-- Its start fails, and so does the run. -/
example : let c := lived Artifact.Sink.ops false (Fleet.opening "a" ⟨"S", "1h", "", 2000⟩) stillborn
    c.refusal = some .brokenPipe ∧ c.status = .failed := by decide

end Life

end Context

end ChartScript
