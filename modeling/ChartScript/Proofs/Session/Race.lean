import ChartScript.Proofs.Session.Report
/-!
# The race to report the end

Program and timer race to report the end of a run, and each of them may be interrupted by
the other one: the time can be up while the program still runs, and the report of the timer
come when the program has ended. While the host keeps the connection at most one report is
sent, and the first of the two to come to its end decides what it says. A session that ends
in the ordinary way has sent one, and so has one whose program still runs when the time is
up. A session that ends by what was called off, or by something that cannot be told, sends none of
its own.
-/

namespace ChartScript

open Message (Done Instruction)

/-- A session and the timer that runs beside it. -/
structure Race (π : Type) where
  /-- The session. -/
  session : Session π
  /-- Whether the time is up and the report of the timer is on its way. -/
  due : Bool

namespace Race

open Session (Program Tells Course Unaffordable timeoutReport)

variable {π : Type} {r : Race π}

/-- What comes next in a race. -/
inductive Move where
  /-- Something happens to the session. -/
  | event (e : Session.Event)
  /-- The time is up, and the timer cannot be stopped any more. -/
  | expire
  /-- The report of the timer comes. -/
  | ring

/-- A race before the instruction. -/
def fresh : Race π := ⟨.fresh, false⟩

/-- The race after a move. -/
def step (p : Program π) (r : Race π) : Move → Race π
  | .event e => { r with session := r.session.step p e }
  | .expire => if r.session.budget.isSome then ⟨{ r.session with budget := none }, true⟩ else r
  | .ring => if r.due then ⟨r.session.ring, false⟩ else r

/-- The race after moves. -/
def run (p : Program π) (r : Race π) (moves : List Move) : Race π := moves.foldl (step p) r

/-- One more move is made after the others. -/
theorem run_concat (p : Program π) (r : Race π) (moves : List Move) (m : Move) :
    run p r (moves ++ [m]) = step p (run p r moves) m := by
  unfold run
  rw [List.foldl_append]
  rfl

/-- More moves are made after the others. -/
theorem run_append (p : Program π) (r : Race π) (moves more : List Move) :
    run p r (moves ++ more) = run p (run p r moves) more := List.foldl_append

/-- A race ended by a turn at which there was only a failure to tell what the program had failed
with. -/
def BrokenOff (p : Program π) (moves : List Move) (f : Failure) : Prop :=
  ∃ before after, moves = before ++ .event .turn :: after ∧
    (run p fresh before).session.phase = .active (.untold f)

/-- What has broken off stays so. -/
theorem BrokenOff.concat {p : Program π} {moves : List Move} {f : Failure} (h : BrokenOff p moves f)
    (m : Move) : BrokenOff p (moves ++ [m]) f := by
  obtain ⟨before, after, rfl, hp⟩ := h
  exact ⟨before, after ++ [m], by simp, hp⟩

/-- Whether a move leaves the connection to the host as it is. -/
def Move.isConnected : Move → Bool
  | .event e => e.isConnected
  | _ => true

/-- The report that a move comes to, whether or not another one was first. -/
def report? (r : Race π) : Move → Option Done
  | .event e => r.session.report? e
  | .expire => none
  | .ring => if r.due then some timeoutReport else none

/-- Every move tells its report. -/
theorem tells_step (p : Program π) {m : Move} (hm : m.isConnected = true)
    (hc : r.session.connected = true) : Tells (r.report? m) r.session (step p r m).session := by
  cases m with
  | event e => exact (Session.course_step p hm hc).1
  | expire =>
    unfold step report?
    dsimp only
    split
    · exact .of_sent_eq rfl rfl rfl
    · exact .of_sent_eq rfl rfl rfl
  | ring =>
    unfold step report?
    dsimp only
    split
    · exact (Session.tells_ring hc).1
    · exact .of_sent_eq rfl rfl rfl

/-- What holds of a race after moves. -/
structure Sound (p : Program π) (moves : List Move) (r : Race π) : Prop where
  /-- The host can be reached. -/
  connected : r.session.connected = true
  /-- Before the instruction there is neither timer nor report. -/
  idle : r.session.phase = .idle →
    r.session.finished = false ∧ r.due = false ∧ r.session.budget = none
  /-- While the program runs the timer does, or its report is on its way, or the end was
  reported. -/
  running : r.session.isRunning = true →
    r.session.finished = true ∨ r.session.budget.isSome = true ∨ r.due = true
  /-- A session that is not over in the ordinary way was reported by its timer, if it was. -/
  early : r.session.phase ≠ .over .exit → ∀ report ∈ r.session.reports, report = timeoutReport
  /-- A session that is over in the ordinary way was reported. -/
  exits : r.session.phase = .over .exit → r.session.finished = true
  /-- Any other one was ended by what was called off, by what cannot be told or by its budget. -/
  failed : ∀ f, r.session.phase = .over (.failed f) →
    (f.kind = Failure.cancelledKind ∨ BrokenOff p moves f) ∨
      (∃ raw, .event (.instruct raw) ∈ moves ∧ Unaffordable raw f) ∧
        r.session.finished = false ∧ r.due = false ∧ r.session.budget = none

namespace Sound

variable {p : Program π} {moves : List Move} {t : Session π} {due : Bool}

/-- A timer that is armed or has gone off is that of a session that had its instruction, and
whose budget was a number of seconds. -/
theorem of_timer (h : Sound p moves r) (ht : r.session.budget.isSome = true ∨ r.due = true) :
    r.session.phase ≠ .idle ∧
      ∀ f, r.session.phase = .over (.failed f) →
        f.kind = Failure.cancelledKind ∨ BrokenOff p moves f := by
  have hnone : ¬(r.due = false ∧ r.session.budget = none) := by
    rintro ⟨hd, hb⟩
    rcases ht with ht | ht
    · rw [hb] at ht
      cases ht
    · rw [hd] at ht
      cases ht
  refine ⟨fun hp => hnone (h.idle hp).2, fun f hp => ?_⟩
  rcases h.failed f hp with hk | ⟨-, -, htimer⟩
  · exact hk
  · exact absurd htimer hnone

/-- A race whose session goes on and tells nothing stays sound. -/
theorem goesOn (h : Sound p moves r) (m : Move) (ht : Tells none r.session t)
    (hphase : t.phase = r.session.phase ∨ r.session.isRunning = true ∧ t.isRunning = true)
    (htimer : t.budget = r.session.budget ∧ due = r.due ∨
      r.session.budget.isSome = true ∧ due = true) : Sound p (moves ++ [m]) ⟨t, due⟩ := by
  have hfinished := ht.finished_eq
  have hreports := ht.reports_eq
  have hrest : t.isRunning = false → r.session.phase = t.phase := by
    intro hr
    rcases hphase with hphase | ⟨-, hrunning⟩
    · exact hphase.symm
    · exact absurd (hrunning.symm.trans hr) nofun
  refine ⟨ht.connected.trans h.connected, ?idle, ?running, ?early, ?exits, ?failed⟩
  case idle =>
    intro hp
    have hidle := (hrest (Session.isRunning_of_idle hp)).trans hp
    obtain ⟨hf, hd, hb⟩ := h.idle hidle
    rcases htimer with ⟨htb, htd⟩ | ⟨hs, -⟩
    · exact ⟨hfinished.trans hf, htd.trans hd, htb.trans hb⟩
    · exact absurd hidle (h.of_timer (.inl hs)).1
  case running =>
    intro hr
    have hrunning : r.session.isRunning = true := by
      rcases hphase with hphase | ⟨hrunning, -⟩
      · unfold Session.isRunning at hr ⊢
        rw [hphase] at hr
        exact hr
      · exact hrunning
    rcases htimer with ⟨htb, htd⟩ | ⟨-, hd⟩
    · dsimp only
      rw [hfinished, htb, htd]
      exact h.running hrunning
    · exact .inr (.inr hd)
  case early =>
    intro hp report hm
    refine h.early ?_ report (hreports ▸ hm)
    intro he
    rcases hphase with hphase | ⟨hrunning, -⟩
    · exact hp (hphase.trans he)
    · exact absurd he (Session.phase_ne_over_of_isRunning hrunning .exit)
  case exits =>
    intro hp
    exact hfinished.trans (h.exits ((hrest (Session.isRunning_of_over hp)).trans hp))
  case failed =>
    intro f hp
    have hover := (hrest (Session.isRunning_of_over hp)).trans hp
    rcases htimer with ⟨htb, htd⟩ | ⟨hs, -⟩
    · refine (h.failed f hover).imp (Or.imp_right fun hb => hb.concat m) ?_
      rintro ⟨⟨raw, hm, hu⟩, hf, hd, hb⟩
      exact ⟨⟨raw, List.mem_append_left _ hm, hu⟩, hfinished.trans hf, htd.trans hd, htb.trans hb⟩
    · exact .inl (((h.of_timer (.inl hs)).2 f hover).imp_right fun hb => hb.concat m)

/-- A race whose timer reports stays sound. -/
theorem rings (h : Sound p moves r) (m : Move) (ht : Tells (some timeoutReport) r.session t)
    (hphase : t.phase = r.session.phase)
    (htimer : r.session.budget.isSome = true ∨ r.due = true) : Sound p (moves ++ [m]) ⟨t, due⟩ := by
  have hfinished : t.finished = true := ht.finished.trans (Bool.or_true _)
  obtain ⟨hidle, hended⟩ := h.of_timer htimer
  refine ⟨ht.connected.trans h.connected, ?_, fun _ => .inl hfinished, ?_, fun _ => hfinished, ?_⟩
  · intro hp
    exact absurd (hphase.symm.trans hp) hidle
  · intro hp report hm
    dsimp only at hm
    rw [ht.reports, List.mem_append] at hm
    rcases hm with hm | hm
    · exact h.early (fun he => hp (hphase.trans he)) report hm
    · split at hm
      · cases hm
      · exact List.mem_singleton.mp hm
  · intro f hp
    exact .inl ((hended f (hphase.symm.trans hp)).imp_right fun hb => hb.concat m)

/-- A race whose session breaks off with a failure and tells nothing stays sound, if the failure is one
that ends a session. -/
theorem breaks (h : Sound p moves r) (m : Move) (ht : Tells none r.session t) {f : Failure}
    (hphase : t.phase = .over (.failed f)) (hbefore : r.session.phase ≠ .over .exit)
    (hcause : (f.kind = Failure.cancelledKind ∨ BrokenOff p (moves ++ [m]) f) ∨
      (∃ raw, .event (.instruct raw) ∈ moves ++ [m] ∧ Unaffordable raw f) ∧
        t.finished = false ∧ due = false ∧ t.budget = none) : Sound p (moves ++ [m]) ⟨t, due⟩ := by
  refine ⟨ht.connected.trans h.connected, ?_, ?_, ?_, ?_, ?_⟩
  · intro hp
    cases hphase.symm.trans hp
  · intro hr
    exact absurd (hr.symm.trans (Session.isRunning_of_over hphase)) nofun
  · intro _ report hm
    exact h.early hbefore report (ht.reports_eq ▸ hm)
  · intro hp
    cases hphase.symm.trans hp
  · intro g hp
    cases hphase.symm.trans hp
    exact hcause

/-- Every event of the session leaves a sound race. -/
theorem event (h : Sound p moves r) (hr : r = Race.run p fresh moves) {e : Session.Event}
    (he : e.isConnected = true) : Sound p (moves ++ [.event e]) (step p r (.event e)) := by
  obtain ⟨ht, hcourse⟩ := Session.course_step p he h.connected
  change Sound p (moves ++ [.event e]) ⟨r.session.step p e, r.due⟩
  generalize r.session.step p e = t at ht hcourse ⊢
  generalize r.session.report? e = verdict at ht hcourse
  have hc := ht.connected.trans h.connected
  cases hcourse with
  | goesOn phase budget => exact h.goesOn _ ht phase (.inl ⟨budget, rfl⟩)
  | rings phase budget => exact h.rings _ ht phase (.inl budget)
  | starts phase running budget =>
    have hactive := Session.phase_ne_over_of_isRunning running
    refine ⟨hc, ?_, fun _ => .inr (.inl budget), ?_, fun hp => absurd hp (hactive _),
      fun f hp => absurd hp (hactive _)⟩
    · intro hp
      exact absurd (running.symm.trans (Session.isRunning_of_idle hp)) nofun
    · intro _ report hm
      have hidle : r.session.phase ≠ .over .exit := by
        rw [phase]
        exact nofun
      exact h.early hidle report (ht.reports_eq ▸ hm)
  | exits report begun phase =>
    refine ⟨hc, ?_, ?_, fun hp => absurd phase hp, fun _ => ht.finished.trans (Bool.or_true _), ?_⟩
    · intro hp
      cases phase.symm.trans hp
    · intro hr
      exact absurd (hr.symm.trans (Session.isRunning_of_over phase)) nofun
    · intro f hp
      cases phase.symm.trans hp
  | calledOff f cancelled running phase =>
    exact h.breaks _ ht phase (Session.phase_ne_over_of_isRunning running .exit) (.inl (.inl cancelled))
  | brokenOff f turned failed phase =>
    have running : r.session.isRunning = true := by
      unfold Session.isRunning
      rw [failed]
    subst hr turned
    exact h.breaks _ ht phase (Session.phase_ne_over_of_isRunning running .exit)
      (.inl (.inr ⟨moves, [], rfl, failed⟩))
  | refused raw f instructed budget idle phase timer =>
    obtain ⟨hf, hd, hb⟩ := h.idle idle
    have hmember : Move.event (.instruct raw) ∈ moves ++ [.event e] := by
      rw [instructed]
      exact List.mem_append_right _ (List.mem_singleton_self _)
    refine h.breaks _ ht phase ?_
      (.inr ⟨⟨raw, hmember, budget⟩, ht.finished_eq.trans hf, hd, timer.trans hb⟩)
    rw [idle]
    exact nofun

/-- Every move leaves a sound race. -/
theorem step (h : Sound p moves r) (hr : r = Race.run p fresh moves) {m : Move}
    (hm : m.isConnected = true) : Sound p (moves ++ [m]) (Race.step p r m) := by
  have ht := tells_step p hm h.connected
  cases m with
  | event e => exact h.event hr hm
  | expire =>
    unfold Race.step report? at ht
    unfold Race.step
    dsimp only at ht ⊢
    split
    · rename_i hb
      rw [if_pos hb] at ht
      exact h.goesOn _ ht (.inl rfl) (.inr ⟨hb, rfl⟩)
    · rename_i hb
      rw [if_neg hb] at ht
      exact h.goesOn _ ht (.inl rfl) (.inl ⟨rfl, rfl⟩)
  | ring =>
    unfold Race.step report? at ht
    unfold Race.step
    dsimp only at ht ⊢
    split
    · rename_i hd
      rw [if_pos hd, if_pos hd] at ht
      exact h.rings _ ht (Session.tells_ring h.connected).2.1 (.inr hd)
    · rename_i hd
      rw [if_neg hd, if_neg hd] at ht
      exact h.goesOn _ ht (.inl rfl) (.inl ⟨rfl, rfl⟩)

/-- Moves leave a sound race. -/
theorem run (h : Sound p moves r) (hr : r = Race.run p fresh moves) {rest : List Move}
    (hm : ∀ m ∈ rest, m.isConnected = true) : Sound p (moves ++ rest) (Race.run p r rest) := by
  induction rest generalizing moves r with
  | nil =>
    rw [List.append_nil]
    exact h
  | cons m rest ih =>
    have hfirst := h.step hr (hm m List.mem_cons_self)
    have hreached : Race.step p r m = Race.run p fresh (moves ++ [m]) := by
      rw [run_concat, ← hr]
    have hrest := ih hfirst hreached fun n hn => hm n (List.mem_cons_of_mem m hn)
    rw [List.append_assoc] at hrest
    exact hrest

end Sound

/-- A program that calls its only call off and ends. -/
def callOff : Program Unit where
  start _ := .asks (.request "getBars" (.ok [("symbol", .text "S"), ("timeframe", .text "1h")])) ()
  resume _
    | .call call => .asks (.query call .cancel) ()
    | _ => .ended

/-- A run of the program to its end. -/
def calledOff : List Move :=
  [.event (.instruct (Instruction.view ⟨"", ⟨"S", "1h"⟩, 2000⟩).toWire), .event .turn, .event .turn,
    .event .turn, .event .turn]

end Race

end ChartScript
