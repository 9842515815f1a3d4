import ChartScript.Proofs.Context.Lingering
import ChartScript.Proofs.Fleet.Orphans
/-!
# When the stage of a context is closed

Every event that settles a run closes its stage and drops or commits its writes, and so does every
kill, except one: when the start timer goes off after the process is gone, the run settles as one
that failed to start, and the kill that would have closed the stage finds a settled run without a
process and does nothing. Such a run has lapsed. Its stage stays open for good, and plot calls
of its process that are looked at afterwards are put on the stage and answered as if they had been
drawn. Of every other settled run they are refused, and of a killed one they are not answered.
-/

namespace ChartScript.Context

open Artifact (Sink SinkOps Stage Draft)
open Message (Call Drawing Request)

variable {κ σ : Type} {s : Scene κ σ}

/-- Whether the start timer goes off at an event after the process is gone. -/
structure Lapses (c : Context) (e : Event) : Prop where
  /-- The start timer goes off. -/
  event : e = .timer .start
  /-- It is armed. -/
  armed : c.timers.contains .start = true
  /-- The process is gone. -/
  gone : c.process.IsGone

/-- A stage that takes no writes and holds none. -/
def Emptied (stage : Stage) : Prop := stage.isOpen = false ∧ stage.writes = []

/-- A discarded stage takes no writes and holds none. -/
theorem emptied_discard (stage : Stage) : Emptied stage.discard := ⟨rfl, rfl⟩

/-- What is said of a run whose script did not start in time. -/
def startFailure : String := "execution context failed to start"

/-- A run that settled when its start timer went off, after its process was gone. -/
structure Lapsed (c : Context) : Prop where
  /-- It failed to start. -/
  outcome : ∃ o, c.outcome = some o ∧ o.status = .failed ∧ o.error = some startFailure
  /-- It was not killed. -/
  living : c.status ≠ .terminated
  /-- Its process is gone. -/
  gone : c.process.IsGone
  /-- Its stage is open. -/
  isOpen : c.stage.isOpen = true

/-- What an event does to the stage of a context. -/
inductive StageDeed (c d : Context) (e : Event) : Prop where
  /-- It settles nothing, and offers at most a draft. -/
  | offers (draft : Option Draft) (stage : d.stage = c.stage.offered draft)
      (outcome : d.outcome = c.outcome) (status : d.status = .terminated → c.status = .terminated)
  /-- It closes the stage of a run that goes on, or of a process that runs. -/
  | empties (cause : c.outcome = none ∨ c.process = .alive) (stage : d.stage = c.stage.discard)
  /-- The run lapses. -/
  | lapses (at_ : Lapses c e) (lapsed : Lapsed d)

/-- An event that leaves stage, outcome and status as they are. -/
theorem StageDeed.keep {c d : Context} {e : Event} (hstage : d.stage = c.stage)
    (houtcome : d.outcome = c.outcome) (hstatus : d.status = .terminated → c.status = .terminated) :
    StageDeed c d e := .offers none hstage houtcome hstatus

section Steps

/-- A verdict leaves the stage as it is. -/
theorem settle_stage (v : Verdict) (s : Scene κ σ) : (settle v s).context.stage = s.context.stage := by
  unfold settle
  split
  · rfl
  · cases v.line? <;> rfl

/-- A verdict on a run whose stage was discarded. -/
theorem stageDeed_settle {c : Context} {e : Event} (v : Verdict) (ho : c.outcome = none)
    (hs : s.context.stage = c.stage.discard) : StageDeed c (settle v s).context e :=
  .empties (.inl ho) ((settle_stage v s).trans hs)

/-- A kill that has something to do closes the stage. -/
theorem stage_terminate (h : Fleet.isKillable s.context = true) (reason : String) :
    (terminate reason s).context.stage = s.context.stage.discard := by
  have hkill : s.context.status ≠ .terminated ∧
      ¬(s.context.status.isTerminal && !s.context.isAlive) = true := by
    simpa [Fleet.isKillable, Decidable.imp_iff_not_or] using h
  unfold terminate
  rw [if_neg hkill.1, if_neg hkill.2]
  exact (kill_stage _).trans (settle_stage _ _)

/-- A run that can be killed goes on, or its process runs. -/
theorem Sound.cause_of_isKillable {c : Context} (h : Sound c) (hk : Fleet.isKillable c = true) :
    c.outcome = none ∨ c.process = .alive := by
  cases ho : c.outcome with
  | none => exact .inl rfl
  | some o =>
    have hterminal : c.status.isTerminal = true := by
      rw [h.isTerminal_eq, ho]
      rfl
    have halive : c.isAlive = true := (by simpa [Fleet.isKillable, hterminal] using hk : _ ∧ _).2
    exact .inr (of_decide_eq_true halive)

/-- What a kill does to the stage. -/
theorem stageDeed_terminate {e : Event} (h : Sound s.context) (reason : String) :
    StageDeed s.context (terminate reason s).context e := by
  by_cases hk : Fleet.isKillable s.context = true
  · exact .empties (h.cause_of_isKillable hk) (stage_terminate hk reason)
  · rw [Fleet.terminate_of_not_isKillable reason hk]
    exact .keep rfl rfl id

/-- A scene whose start timer has gone off and settled the run. -/
def overdue (s : Scene κ σ) : Scene κ σ := settle (.failed startFailure) (rung .start s)

/-- The start timer of a context that waits for its script settles the run and then kills it. -/
theorem onTimer_start (harmed : s.context.timers.contains .start = true)
    (hc : s.context.status = .created) :
    onTimer .start s = terminate "start timeout" (overdue s) := by
  cases onTimer_cases .start s with
  | unarmed off => exact absurd harmed off
  | spent _ come => exact absurd hc come
  | unstarted _ _ _ eq => exact eq
  | unfinished watchdog => cases watchdog

/-- By then the run has failed, and its process and its stage are as they were. -/
theorem overdue_context (h : Sound s.context) (ho : s.context.outcome = none) :
    (overdue s).context.status = .failed ∧ (overdue s).context.process = s.context.process ∧
      (overdue s).context.stage = s.context.stage ∧
      ∃ o, (overdue s).context.outcome = some o ∧ o.status = .failed ∧ o.error = some startFailure := by
  have hliving : (rung .start s).context.status ≠ .terminated := h.not_terminated ho
  have hcontext := settle_context (s := rung .start s) (.failed startFailure) h.begun ho
  unfold overdue
  rw [hcontext]
  exact ⟨if_neg hliving, rfl, rfl, _, rfl, rfl, rfl⟩

/-- A context that waits for its script when its process is gone lapses. -/
theorem lapsed_onTimer (h : Sound s.context) (hc : s.context.status = .created)
    (hl : Lapses s.context (.timer .start)) : Lapsed (onTimer .start s).context := by
  have ho := (h.of_timer hl.armed).1
  obtain ⟨hstatus, hprocess, hstage, houtcome⟩ := overdue_context h ho
  obtain ⟨code, hcode⟩ := hl.gone
  -- the kill finds a settled run whose process is gone
  have hspared : ¬Fleet.isKillable (overdue s).context = true := by
    simp [Fleet.isKillable, isAlive, hprocess, hcode, hstatus, Run.Status.isTerminal]
  rw [onTimer_start hl.armed hc, Fleet.terminate_of_not_isKillable _ hspared]
  refine ⟨houtcome, ?_, ⟨code, hprocess.trans hcode⟩, ?_⟩
  · rw [hstatus]
    decide
  · rw [hstage]
    exact h.isOpen ho

/-- One whose process runs loses its writes. -/
theorem stage_startTimer (h : Sound s.context) (harmed : s.context.timers.contains .start = true)
    (hc : s.context.status = .created) (hp : s.context.process = .alive) :
    (onTimer .start s).context.stage = s.context.stage.discard := by
  obtain ⟨hstatus, hprocess, hstage, -⟩ := overdue_context h (h.of_timer harmed).1
  have hkillable : Fleet.isKillable (overdue s).context = true := by
    simp [Fleet.isKillable, isAlive, hprocess, hp, hstatus]
  rw [onTimer_start harmed hc, stage_terminate hkillable, hstage]

/-- What a timer that goes off does to the stage. -/
theorem stageDeed_onTimer (h : Sound s.context) (ht : Tethered s.context) (timer : Timer) :
    StageDeed s.context (onTimer timer s).context (.timer timer) := by
  cases onTimer_cases timer s with
  | unarmed _ eq =>
    rw [eq]
    exact .keep rfl rfl id
  | spent _ _ eq =>
    rw [eq]
    exact .keep rfl rfl id
  | unstarted start harmed hc =>
    cases start
    obtain ⟨ho, hattached⟩ := h.of_timer harmed
    -- the process decides whether the kill that follows the failure finds something to do
    cases hp : s.context.process with
    | absent => exact absurd hp ht.made
    | starting => cases (ht.unread hp).symm.trans hattached
    | alive => exact .empties (.inl ho) (stage_startTimer h harmed hc hp)
    | gone code =>
      have hl : Lapses s.context (.timer .start) := ⟨rfl, harmed, code, hp⟩
      exact .lapses hl (lapsed_onTimer h hc hl)
  | unfinished _ _ ho eq =>
    rw [eq]
    exact stageDeed_settle _ ho rfl

/-- What an answer does to the stage that it was given on. -/
theorem stageDeed_reply {c : Context} {e : Event} (draft : Option Draft) (errand : Errand)
    (answer : Except Failure Wire) (hs : s.context = { c with stage := c.stage.offered draft }) :
    StageDeed c (reply errand answer s).context e := by
  have hsteady := steady_reply errand answer s
  have hstage : (reply errand answer s).context.stage = s.context.stage := by
    rw [reply_eq]
    dsimp only [Scene.mapContext]
    split
    · rfl
    · unfold send
      split <;> rfl
  refine .offers draft ?_ ?_ ?_
  · rw [hstage, hs]
  · rw [hsteady.outcome, hs]
  · rw [hsteady.status, hs]
    exact id

/-- What a look at a call does to the stage. -/
theorem stageDeed_attend {e : Event} (hasAttachments : Bool) (errand : Errand) (s : Scene κ σ) :
    StageDeed s.context (attend hasAttachments errand s).context e := by
  rcases attend_cases hasAttachments errand s with ⟨answer, he⟩ | ⟨-, fetch, he⟩
  · rw [he]
    exact stageDeed_reply _ errand answer rfl
  · rw [he]
    exact .keep rfl rfl id

/-- What the end of the messages does to the stage. -/
theorem stageDeed_onEnded {e : Event} (s : Scene κ σ) : StageDeed s.context (onEnded s).context e := by
  cases onEnded_cases s with
  | stays _ eq =>
    rw [eq]
    exact .keep rfl rfl id
  | fails ho eq =>
    rw [eq]
    exact stageDeed_settle _ ho rfl

/-- What the end of the creation does to the stage. -/
theorem stageDeed_created {e : Event} (h : Sound s.context) :
    StageDeed s.context (created s).context e := by
  rw [created_eq_launched h]
  by_cases hk : s.context.status = .terminated
  · rw [launched_of_terminated hk]
    exact .keep (kill_stage _) (kill_outcome _) fun _ => hk
  · rw [launched_of_living hk]
    exact .keep rfl rfl id

variable [DecidableEq κ]

/-- What a message does to the stage: a report of the end discards it or commits it, unless the
sink fails, and nothing else touches it. -/
theorem stageDeed_onMessage {e : Event} (ops : SinkOps σ) (raw : Wire) (s : Scene κ σ) :
    StageDeed s.context (onMessage ops raw s).context e := by
  have hsame : StageDeed s.context s.context e := .keep rfl rfl id
  unfold onMessage
  split
  · exact hsame
  · split
    · exact hsame
    · unfold onStarted
      split
      · exact .keep rfl rfl nofun
      · exact hsame
    · exact hsame
    · rename_i report _
      cases onDone_cases ops report s with
      | stays _ eq =>
        rw [eq]
        exact hsame
      | falls ho v _ eq =>
        rw [eq]
        exact stageDeed_settle v ho rfl
      | succeeds ho _ _ eq =>
        rcases complete_cases ops s with ⟨ids, gallery, -, hc⟩ | ⟨gallery, hc⟩
        · rw [eq, hc]
          exact stageDeed_settle _ ho rfl
        · rw [eq, hc]
          exact .keep rfl rfl id
    · exact .keep rfl rfl id

/-- What an event that can happen does to the stage. -/
theorem stageDeed_step (h : Sound s.context) (ht : Tethered s.context) (ops : SinkOps σ)
    (hasAttachments : Bool) {e : Event} (ha : s.context.admits e = true) :
    StageDeed s.context (step ops hasAttachments s e).context e := by
  have hsame : StageDeed s.context s.context e := .keep rfl rfl id
  cases e with
  | begin => cases ha
  | created => exact stageDeed_created h
  | message raw => exact stageDeed_onMessage ops raw s
  | serve number =>
    unfold step serve
    dsimp only
    split
    · exact stageDeed_attend hasAttachments _ s
    · exact hsame
  | fetched number result =>
    unfold step fetched
    dsimp only
    split
    · exact stageDeed_reply none _ _ rfl
    · exact hsame
  | died code =>
    unfold step
    dsimp only
    split
    · exact .keep rfl rfl id
    · exact .keep rfl rfl id
    · exact hsame
  | ended =>
    unfold step
    dsimp only
    split
    · exact stageDeed_onEnded s
    · exact hsame
  | unlinked => exact .keep rfl rfl id
  | timer timer => exact stageDeed_onTimer h ht timer
  | terminate reason => exact stageDeed_terminate h reason

/-- What happens at a moment, told of the stage. -/
theorem stageDeed_meet (ops : SinkOps σ) (hasAttachments : Bool) {c : Context} (h : Sound c)
    (ht : Tethered c) (m : Moment κ σ) :
    StageDeed c (meet ops hasAttachments c m).context m.event := by
  unfold meet happen
  split
  · exact stageDeed_step (s := m.scene c) h ht ops hasAttachments ‹_›
  · exact .keep rfl rfl id

end Steps

section Calls

variable [DecidableEq κ] (ops : SinkOps σ) (hasAttachments : Bool) {number : Nat} {r : Request}
  {c : Context} {m : Moment κ σ}

/-- What a plot call draws on the stage. -/
def draftOf (id : String) (options : List (String × Wire)) (drawing : Drawing) : Draft :=
  ⟨drawing.kind, id, ⟨drawing.payload, options⟩⟩

/-- The answer to a plot call on a stage. -/
def plotAnswer (stage : Stage) : Except Failure Wire :=
  if stage.isOpen then .ok (.bool true) else .error Stage.closedFailure

omit [DecidableEq κ] in
/-- A plot call that is looked at offers its draft to the stage and is answered at once. -/
theorem attend_plot {errand : Errand} {id : String} {options : List (String × Wire)}
    {drawing : Drawing}
    (hd : Call.decode errand.request.method errand.request.params = .ok (.plot id options drawing))
    (s : Scene κ σ) :
    attend hasAttachments errand s =
      reply errand (plotAnswer s.context.stage) (withOffer s (some (draftOf id options drawing))) := by
  have hserved : Host.serve hasAttachments (.plot id options drawing) s.context.stage =
      .answered (s.context.stage.offered (some (draftOf id options drawing)))
        (plotAnswer s.context.stage) := by
    unfold plotAnswer
    cases ho : s.context.stage.isOpen with
    | true =>
      have hput := s.context.stage.put_of_isOpen ho (draftOf id options drawing)
      simp only [draftOf] at hput
      simp only [Host.serve, hput, draftOf, Stage.offered, ho, if_true]
    | false =>
      have hput := s.context.stage.put_of_closed ho drawing.kind id ⟨drawing.payload, options⟩
      rw [Stage.offered_of_closed ho]
      simp only [Host.serve, hput, Bool.false_eq_true, if_false]
  unfold attend
  rw [hd]
  dsimp only
  rw [hserved]
  rfl

/-- A look at a plot call offers its draft to the stage, and answers it unless the way to the
process is broken. -/
theorem told_plot (hl : c.status ≠ .terminated) (hm : m.event = .serve number)
    (he : c.errand? number = some ⟨number, r, none⟩) {id : String} {options : List (String × Wire)}
    {drawing : Drawing} (hd : Call.decode r.method r.params = .ok (.plot id options drawing)) :
    (told ops hasAttachments c m =
        if c.link = .intact then [replyTo r (plotAnswer c.stage)] else []) ∧
      (meet ops hasAttachments c m).context.stage =
        c.stage.offered (some (draftOf id options drawing)) := by
  have hfound : (m.scene c).context.errand? number = some ⟨number, r, none⟩ := he
  have hmeet : meet ops hasAttachments c m = reply ⟨number, r, none⟩ (plotAnswer c.stage)
      (withOffer (m.scene c) (some (draftOf id options drawing))) := by
    rw [meet_serve ops hasAttachments c hm]
    unfold serve
    rw [hfound]
    exact attend_plot hasAttachments hd (m.scene c)
  have hliving : (withOffer (m.scene c) (some (draftOf id options drawing))).context.status ≠
      .terminated := hl
  constructor
  · split
    · refine told_of_append ?_
      rw [hmeet]
      exact reply_sends none _ hliving ‹_›
    · refine told_of_eq ?_
      rw [hmeet, reply_eq]
      dsimp only [Scene.mapContext]
      rw [if_neg hliving]
      unfold send
      rw [if_neg ‹_›]
      rfl
  · rw [hmeet, reply_eq]
    dsimp only [Scene.mapContext]
    rw [if_neg hliving]
    unfold send
    split <;> rfl

/-- Nothing is sent to the process of a killed context. -/
theorem told_of_terminated (h : Sound c) (ht : c.status = .terminated) (m : Moment κ σ) :
    told ops hasAttachments c m = [] := by
  have hnone (number : Nat) : c.errand? number = none := by
    unfold errand?
    rw [(h.killed ht).2.2]
    rfl
  refine told_of_eq ?_
  cases deed_meet ops hasAttachments h m with
  | aside same => exact same.sent
  | kill marked same status eq => rw [eq, kill_sent, same.sent]
  | create event unread eq =>
    rw [eq, launched_of_terminated ht]
    exact kill_sent _
  | die code before eq => rw [eq]
  | hear r eq => rw [eq]
  | handle number event =>
    rcases Event.of_handles event with he | ⟨result, he⟩
    · rw [meet_serve ops hasAttachments c he, serve_idle hasAttachments]
      · rfl
      · exact fun request => (hnone number).symm ▸ nofun
    · rw [meet_fetched ops hasAttachments c he, fetched_idle result]
      · rfl
      · exact fun request fetch => (hnone number).symm ▸ nofun

end Calls

section Life

variable [DecidableEq κ] (ops : SinkOps σ) (hasAttachments : Bool)

/-- Whether a run lapses at one of some moments. -/
def LapsesIn (c : Context) (moments : List (Moment κ σ)) : Prop :=
  ∃ before m after, moments = before ++ m :: after ∧ Lapses (lived ops hasAttachments c before) m.event

/-- A run lapses at one of the moments or at the one after them. -/
theorem lapsesIn_concat (c : Context) (moments : List (Moment κ σ)) (m : Moment κ σ) :
    LapsesIn ops hasAttachments c (moments ++ [m]) ↔
      LapsesIn ops hasAttachments c moments ∨ Lapses (lived ops hasAttachments c moments) m.event := by
  constructor
  · rintro ⟨before, n, after, heq, hn⟩
    rcases List.eq_nil_or_concat after with rfl | ⟨rest, last, rfl⟩
    · obtain ⟨rfl, hlast⟩ := List.append_inj' heq rfl
      cases hlast
      exact .inr hn
    · rw [List.concat_eq_append, ← List.cons_append, ← List.append_assoc] at heq
      exact .inl ⟨before, n, rest, (List.append_inj' heq rfl).1, hn⟩
  · rintro (⟨before, n, after, rfl, hn⟩ | hn)
    · exact ⟨before, n, after ++ [m], by simp, hn⟩
    · exact ⟨moments, m, [], rfl, hn⟩

variable {ops hasAttachments}

/-- What holds of the process of a context holds for life. -/
theorem Tethered.lived {c : Context} (ht : Tethered c) (h : Sound c) (moments : List (Moment κ σ)) :
    Tethered (Context.lived ops hasAttachments c moments) := by
  induction moments generalizing c with
  | nil => exact ht
  | cons m rest ih =>
    exact ih (ht.deed (deed_meet ops hasAttachments h m)) (sound_meet ops hasAttachments h m)

/-- A run that lapses at a moment has lapsed. -/
theorem lapsed_meet {c : Context} (h : Sound c) (hr : Regular c) {m : Moment κ σ}
    (hl : Lapses c m.event) : Lapsed (meet ops hasAttachments c m).context := by
  have hc : c.status = .created := by
    rcases hr.timers with hnone | ⟨-, hcreated⟩ | ⟨hwatched, -⟩
    · have harmed := hl.armed
      rw [hnone] at harmed
      cases harmed
    · exact hcreated
    · have harmed := hl.armed
      rw [hwatched] at harmed
      cases harmed
  have hmeet : meet ops hasAttachments c m = onTimer .start (m.scene c) := by
    unfold meet
    rw [hl.event]
    rfl
  rw [hmeet]
  exact lapsed_onTimer (s := m.scene c) h hc ⟨rfl, hl.armed, hl.gone⟩

/-- A run that has lapsed stays so. -/
theorem Lapsed.meet {c : Context} (hl : Lapsed c) (h : Sound c) (ht : Tethered c) (m : Moment κ σ) :
    Lapsed (Context.meet ops hasAttachments c m).context := by
  obtain ⟨o, ho, hfailed, herror⟩ := hl.outcome
  obtain ⟨code, hcode⟩ := hl.gone
  have hgone := (deed_meet ops hasAttachments h m).gone hcode
  cases stageDeed_meet ops hasAttachments h ht m with
  | offers draft stage outcome status =>
    refine ⟨⟨o, outcome.trans ho, hfailed, herror⟩, fun hk => hl.living (status hk), ⟨code, hgone⟩, ?_⟩
    rw [stage, Stage.isOpen_offered]
    exact hl.isOpen
  | empties cause =>
    -- the run is settled and its process gone, so nothing closes the stage any more
    rcases cause with hnone | halive
    · cases hnone.symm.trans ho
    · cases halive.symm.trans hcode
  | lapses _ lapsed => exact lapsed

variable (ops hasAttachments)

/-- The stage of a context after some moments. -/
inductive StageFate (c : Context) (moments : List (Moment κ σ)) : Prop where
  /-- The run goes on. -/
  | going (outcome : (lived ops hasAttachments c moments).outcome = none)
      (spared : ¬LapsesIn ops hasAttachments c moments)
  /-- It is settled, and its stage is closed and holds no writes. -/
  | closed (settled : (lived ops hasAttachments c moments).outcome.isSome = true)
      (emptied : Emptied (lived ops hasAttachments c moments).stage)
      (spared : ¬LapsesIn ops hasAttachments c moments)
  /-- It has lapsed. -/
  | lapsed (lapses : LapsesIn ops hasAttachments c moments)
      (lapsed : Lapsed (lived ops hasAttachments c moments))

variable {ops hasAttachments}

/-- The stage after one more moment. -/
theorem StageFate.meet {c : Context} {moments : List (Moment κ σ)}
    (hfate : StageFate ops hasAttachments c moments)
    (h : Sound (lived ops hasAttachments c moments))
    (hr : Regular (lived ops hasAttachments c moments))
    (ht : Tethered (lived ops hasAttachments c moments)) (m : Moment κ σ) :
    StageFate ops hasAttachments c (moments ++ [m]) := by
  have hnext := lived_concat ops hasAttachments c moments m
  by_cases hl : Lapses (lived ops hasAttachments c moments) m.event
  · refine .lapsed ((lapsesIn_concat ops hasAttachments c moments m).mpr (.inr hl)) ?_
    rw [hnext]
    exact lapsed_meet h hr hl
  · have hspared (hn : ¬LapsesIn ops hasAttachments c moments) :
        ¬LapsesIn ops hasAttachments c (moments ++ [m]) := fun hin =>
      ((lapsesIn_concat ops hasAttachments c moments m).mp hin).elim hn hl
    have hdeed := stageDeed_meet ops hasAttachments h ht m
    rw [← hnext] at hdeed
    cases hfate with
    | going outcome spared =>
      cases hdeed with
      | offers draft stage same => exact .going (same.trans outcome) (hspared spared)
      | empties cause stage =>
        cases hn : (lived ops hasAttachments c (moments ++ [m])).outcome with
        | none => exact .going hn (hspared spared)
        | some o =>
          refine .closed (by rw [hn]; rfl) ?_ (hspared spared)
          rw [stage]
          exact emptied_discard _
      | lapses at_ => exact absurd at_ hl
    | closed settled emptied spared =>
      have hsettled : (lived ops hasAttachments c (moments ++ [m])).outcome.isSome = true := by
        rw [hnext, (course_meet ops hasAttachments h m).outcome_of_settled settled]
        exact settled
      refine .closed hsettled ?_ (hspared spared)
      cases hdeed with
      | offers draft stage =>
        rw [stage, Stage.offered_of_closed emptied.1]
        exact emptied
      | empties cause stage =>
        rw [stage]
        exact emptied_discard _
      | lapses at_ => exact absurd at_ hl
    | lapsed lapses lapsed =>
      refine .lapsed ((lapsesIn_concat ops hasAttachments c moments m).mpr (.inl lapses)) ?_
      rw [hnext]
      exact lapsed.meet h ht m

variable (ops hasAttachments)

/-- What becomes of the stage of a context, and of the plot calls that are looked at once its run
is settled. -/
structure Sealed (c : Context) (moments : List (Moment κ σ)) : Prop where
  /-- While the run goes on its stage is open, and the run has not lapsed. -/
  going : (lived ops hasAttachments c moments).outcome = none →
    (lived ops hasAttachments c moments).stage.isOpen = true ∧ ¬LapsesIn ops hasAttachments c moments
  /-- Once it is settled its stage is closed and holds no writes, unless it lapsed. -/
  emptied : (lived ops hasAttachments c moments).outcome.isSome = true →
    ¬LapsesIn ops hasAttachments c moments → Emptied (lived ops hasAttachments c moments).stage
  /-- A plot call that is looked at then is refused by the closed stage, which stays as it is. -/
  refused : (lived ops hasAttachments c moments).outcome.isSome = true →
    ¬LapsesIn ops hasAttachments c moments →
      ∀ (m : Moment κ σ) number r id options drawing, m.event = .serve number →
        (lived ops hasAttachments c moments).errand? number = some ⟨number, r, none⟩ →
          Call.decode r.method r.params = .ok (.plot id options drawing) →
            (told ops hasAttachments (lived ops hasAttachments c moments) m =
                if (lived ops hasAttachments c moments).link = .intact then
                  [replyTo r (.error Stage.closedFailure)] else []) ∧
              (lived ops hasAttachments c (moments ++ [m])).stage =
                (lived ops hasAttachments c moments).stage
  /-- Once the context is killed nothing is answered any more. -/
  unanswered : (lived ops hasAttachments c moments).status = .terminated →
    ∀ m : Moment κ σ, told ops hasAttachments (lived ops hasAttachments c moments) m = []
  /-- A run that lapsed failed to start, was not killed, and its stage is open. -/
  lapsed : LapsesIn ops hasAttachments c moments → Lapsed (lived ops hasAttachments c moments)
  /-- A plot call that is looked at then is put on the stage, and answered as one that was drawn. -/
  accepted : LapsesIn ops hasAttachments c moments →
    ∀ (m : Moment κ σ) number r id options drawing, m.event = .serve number →
      (lived ops hasAttachments c moments).errand? number = some ⟨number, r, none⟩ →
        Call.decode r.method r.params = .ok (.plot id options drawing) →
          (told ops hasAttachments (lived ops hasAttachments c moments) m =
              if (lived ops hasAttachments c moments).link = .intact then
                [replyTo r (.ok (.bool true))] else []) ∧
            (lived ops hasAttachments c (moments ++ [m])).stage =
              (lived ops hasAttachments c moments).stage.add (draftOf id options drawing)

variable {ops hasAttachments}

/-- What the fate of a stage means for the calls that are looked at. -/
theorem StageFate.sealed {c : Context} {moments : List (Moment κ σ)}
    (hfate : StageFate ops hasAttachments c moments) (h : Sound (lived ops hasAttachments c moments)) :
    Sealed ops hasAttachments c moments := by
  have hemptied (hs : (lived ops hasAttachments c moments).outcome.isSome = true)
      (hn : ¬LapsesIn ops hasAttachments c moments) :
      Emptied (lived ops hasAttachments c moments).stage := by
    cases hfate with
    | going outcome =>
      rw [outcome] at hs
      cases hs
    | closed settled emptied => exact emptied
    | lapsed lapses => exact absurd lapses hn
  have hlapsed (hin : LapsesIn ops hasAttachments c moments) :
      Lapsed (lived ops hasAttachments c moments) := by
    cases hfate with
    | going outcome spared => exact absurd hin spared
    | closed settled emptied spared => exact absurd hin spared
    | lapsed lapses lapsed => exact lapsed
  constructor
  case emptied => exact hemptied
  case lapsed => exact hlapsed
  case going =>
    intro hn
    refine ⟨h.isOpen hn, fun hin => ?_⟩
    obtain ⟨o, ho, -⟩ := (hlapsed hin).outcome
    cases hn.symm.trans ho
  case refused =>
    intro hs hn m number r id options drawing hm he hd
    have hclosed := (hemptied hs hn).1
    have hliving : (lived ops hasAttachments c moments).status ≠ .terminated := by
      intro hk
      unfold errand? at he
      rw [(h.killed hk).2.2] at he
      cases he
    have htold := told_plot ops hasAttachments hliving hm he hd
    unfold plotAnswer at htold
    rw [hclosed, Stage.offered_of_closed hclosed] at htold
    rw [lived_concat]
    exact htold
  case unanswered => exact fun hk m => told_of_terminated ops hasAttachments h hk m
  case accepted =>
    intro hin m number r id options drawing hm he hd
    have hopen := (hlapsed hin).isOpen
    have htold := told_plot ops hasAttachments (hlapsed hin).living hm he hd
    unfold plotAnswer Stage.offered at htold
    dsimp only at htold
    rw [if_pos hopen, if_pos hopen] at htold
    rw [lived_concat]
    exact htold

variable (ops hasAttachments)

/-- The stage of a context after any moments of its life. -/
theorem stageFate_lived (instanceId : String) (spec : Run.Spec) (first : Moment κ σ)
    (moments : List (Moment κ σ)) : StageFate ops hasAttachments
      (begin (first.scene (create instanceId spec))).context moments := by
  have hbegin : Sound (begin (first.scene (create instanceId spec))).context :=
    sound_begin (s := first.scene (create instanceId spec)) instanceId spec rfl
  have hfirst : Regular (begin (first.scene (create instanceId spec))).context :=
    regular_begin (s := first.scene (create instanceId spec)) instanceId spec rfl
  have htied : Tethered (begin (first.scene (create instanceId spec))).context :=
    Fleet.tethered_opening instanceId spec
  induction moments using List.reverseRecOn with
  | nil =>
    refine .going rfl ?_
    rintro ⟨before, m, after, heq, -⟩
    cases before <;> cases heq
  | append_singleton moments m ih =>
    obtain ⟨hsound, hregular⟩ := regular_lived ops hasAttachments hbegin hfirst moments
    exact ih.meet hsound hregular (htied.lived hbegin moments) m

/-- In every state that a context can come to, whatever happens to it and in which order, a settled
run has an empty and closed stage that refuses every plot call, exactly unless its start timer went
off after its process was gone. -/
theorem sealed_lived (instanceId : String) (spec : Run.Spec) (first : Moment κ σ)
    (moments : List (Moment κ σ)) : Sealed ops hasAttachments
      (begin (first.scene (create instanceId spec))).context moments := by
  have hbegin : Sound (begin (first.scene (create instanceId spec))).context :=
    sound_begin (s := first.scene (create instanceId spec)) instanceId spec rfl
  exact (stageFate_lived ops hasAttachments instanceId spec first moments).sealed
    (sound_lived ops hasAttachments hbegin moments)

end Life

/-- A process that dies before it was heard. Its start timer goes off, and only then a plot call
that it had sent is read. -/
def lapsing : List (Moment Nat Sink) :=
  [Event.created, .died none, .timer .start, .message (Draft.lineRequest "b").view.toWire].map plainly

/-- The run has failed, and still its plot call is answered as one that was drawn. -/
theorem sealed_lived_lapsing :
    let c := (begin ((plainly .created).scene (create "a" ⟨"S", "1h", "", 2000⟩))).context
    Sealed Sink.ops false c lapsing ∧ LapsesIn Sink.ops false c lapsing ∧
      told Sink.ops false (lived Sink.ops false c lapsing) (plainly (.serve 0)) =
        [replyTo (Draft.lineRequest "b") (.ok (.bool true))] := by
  intro c
  have hsealed : Sealed Sink.ops false c lapsing :=
    sealed_lived Sink.ops false "a" ⟨"S", "1h", "", 2000⟩ (plainly .created) lapsing
  have hlapses : LapsesIn Sink.ops false c lapsing :=
    ⟨[Event.created, .died none].map plainly, plainly (.timer .start),
      [plainly (.message (Draft.lineRequest "b").view.toWire)], rfl, rfl, by decide, none, rfl⟩
  have hasked : (lived Sink.ops false c lapsing).errand? 0 = some ⟨0, Draft.lineRequest "b", none⟩ := by
    rfl
  have hlink : (lived Sink.ops false c lapsing).link = .intact := by rfl
  have htold := (hsealed.accepted hlapses (plainly (.serve 0)) 0 _ _ _ _ rfl hasked
    (Draft.decode_lineRequest (by decide))).1
  rw [if_pos hlink] at htold
  exact ⟨hsealed, hlapses, htold⟩

end ChartScript.Context
