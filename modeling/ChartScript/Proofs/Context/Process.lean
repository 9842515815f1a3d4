import ChartScript.Proofs.Context.Deed
/-!
# The process of a context

The process of a context is created once, runs and is gone for good. No event leaves a killed
context with a process that runs: a kill ends the process that there is, and a process whose
creation was under way is killed as soon as it has been created. So a context that was killed,
or whose process is gone, has no process any more once its creation is over. Only the end of the
creation can refuse the start, and it does so when the way to the process is broken by then.
-/

namespace ChartScript

open Artifact (SinkOps)

/-- Whether a process has ended. -/
def Process.IsGone (p : Process) : Prop := ∃ code, p = .gone code

namespace Context

variable {κ σ : Type} {s t : Scene κ σ}

/-- What holds of the process of a context at every moment after it has begun. -/
structure Tethered (c : Context) : Prop where
  /-- Its creation has begun. -/
  made : c.process ≠ .absent
  /-- While it is being created its messages are not read. -/
  unread : c.process = .starting → c.attached = false
  /-- That of a killed context does not run. -/
  killed : c.status = .terminated → c.process ≠ .alive

/-- A context that was killed, or whose process is gone. -/
def Released (c : Context) : Prop := c.status = .terminated ∨ c.process.IsGone

/-- A released context has no process once its creation is over. -/
theorem Released.isGone {c : Context} (h : Released c) (ht : Tethered c)
    (hs : c.process ≠ .starting) : c.process.IsGone := by
  rcases h with hk | hg
  · cases hp : c.process with
    | absent => exact absurd hp ht.made
    | starting => exact absurd hp hs
    | alive => exact absurd hp (ht.killed hk)
    | gone code => exact ⟨code, rfl⟩
  · exact hg

/-- A change that leaves the process alone keeps what holds of it. -/
theorem Tethered.congr {c d : Context} (h : Tethered c) (hp : d.process = c.process)
    (ha : d.attached = c.attached) (hs : d.status = .terminated → c.status = .terminated) :
    Tethered d := by
  refine ⟨hp ▸ h.made, ?_, ?_⟩
  · rw [hp, ha]
    exact h.unread
  · rw [hp]
    exact fun hk => h.killed (hs hk)

/-- What holds of a process holds of it also when it is killed. -/
theorem Tethered.kill {c : Context} (hmade : c.process ≠ .absent)
    (hunread : c.process = .starting → c.attached = false) : Tethered c.kill := by
  by_cases hp : c.process = .alive
  · have hgone : c.kill.process = .gone (some (-9)) := by rw [kill_process, if_pos hp]
    exact ⟨hgone ▸ nofun, hgone ▸ nofun, fun _ => hgone ▸ nofun⟩
  · have hsame : c.kill.process = c.process := by rw [kill_process, if_neg hp]
    refine ⟨hsame ▸ hmade, ?_, fun _ => hsame ▸ hp⟩
    rw [hsame, kill_attached]
    exact hunread

/-- A process that has been created was made, and is being created no more. -/
theorem Tethered.live {c : Context} (h : Tethered c) :
    (if c.process = .starting then Process.alive else c.process) ≠ .absent ∧
      (if c.process = .starting then Process.alive else c.process) ≠ .starting := by
  split
  · exact ⟨nofun, nofun⟩
  · exact ⟨h.made, ‹_›⟩

/-- Every event keeps what holds of the process. -/
theorem Tethered.deed {c d : Context} {e : Event} (h : Tethered c) (k : Deed c d e) :
    Tethered d := by
  cases k with
  | aside same status => exact h.congr same.process same.attached status
  | kill marked same status eq =>
    rw [eq]
    refine .kill ?_ ?_
    · rw [same.process]
      exact h.made
    · rw [same.process, same.attached]
      exact h.unread
  | create event unread eq =>
    obtain ⟨hmade, hstarted⟩ := h.live
    rw [eq]
    by_cases ht : c.status = .terminated
    · rw [launched_of_terminated ht]
      have hkilled := Tethered.kill (c := { c with process := _ }) hmade fun hs => absurd hs hstarted
      exact hkilled.congr rfl rfl id
    · rw [launched_of_living ht]
      exact ⟨hmade, fun hs => absurd hs hstarted, fun hk => absurd hk ht⟩
  | die code before eq =>
    rw [eq]
    exact ⟨nofun, nofun, fun _ => nofun⟩
  | hear r eq =>
    rw [eq]
    exact h.congr rfl rfl id
  | handle number event errands calls process attached refusal status =>
    exact h.congr process attached status.symm.trans

/-- A process that is gone stays so. -/
theorem Deed.gone {c d : Context} {e : Event} (k : Deed c d e) {code : Option Int}
    (hc : c.process = .gone code) : d.process = .gone code := by
  cases k with
  | aside same => exact same.process.trans hc
  | kill marked same status eq =>
    have hmarked : marked.process = .gone code := same.process.trans hc
    rw [eq, kill_process, hmarked]
    rfl
  | create event unread eq =>
    rw [eq]
    by_cases ht : c.status = .terminated
    · rw [launched_of_terminated ht]
      change (Context.kill _).process = _
      rw [kill_process, hc]
      rfl
    · rw [launched_of_living ht, hc]
      rfl
  | die _ before =>
    rw [hc] at before
    rcases before with hb | hb <;> cases hb
  | hear r eq =>
    rw [eq]
    exact hc
  | handle _ _ _ _ process => exact process.trans hc

/-- A context whose messages are read, or that was killed, stays so, and its start is refused no
more. -/
theorem Deed.refusal_eq {c d : Context} {e : Event} (k : Deed c d e)
    (h : c.attached = true ∨ c.status = .terminated) :
    d.refusal = c.refusal ∧ (c.attached = true → d.attached = true) := by
  cases k with
  | aside same => exact ⟨same.refusal, same.attached.trans⟩
  | kill marked same status eq =>
    rw [eq, kill_refusal, kill_attached]
    exact ⟨same.refusal, same.attached.trans⟩
  | create event unread eq =>
    rcases h with ha | hk
    · cases unread.symm.trans ha
    · rw [eq, launched_of_terminated hk]
      exact ⟨kill_refusal _, fun ha => (kill_attached _).trans ha⟩
  | die code before eq =>
    rw [eq]
    exact ⟨rfl, id⟩
  | hear r eq =>
    rw [eq]
    exact ⟨rfl, id⟩
  | handle _ _ _ _ _ attached refusal => exact ⟨refusal, attached.trans⟩

/-- A kill releases a context. -/
theorem released_terminate (h : Sound s.context) (ht : Tethered s.context) (reason : String) :
    Released (terminate reason s).context := by
  unfold terminate
  by_cases hk : s.context.status = .terminated
  · rw [if_pos hk]
    exact .inl hk
  · rw [if_neg hk]
    split
    · -- it has settled, and no process of it runs
      rename_i hover
      obtain ⟨hfinal, hdead⟩ := Bool.and_eq_true_iff.mp hover
      have hsettled : s.context.outcome.isSome = true := by
        rw [← h.isTerminal_eq]
        exact hfinal
      right
      cases hp : s.context.process with
      | absent => exact absurd hp ht.made
      | starting => exact absurd (h.unread (ht.unread hp) hsettled) hk
      | alive => simp [isAlive, hp] at hdead
      | gone code => exact ⟨code, rfl⟩
    · left
      change (kill _).status = _
      rw [kill_status]
      exact settle_of_terminated _ rfl

/-- A released context stays released, whatever happens to it. -/
theorem Released.happen [DecidableEq κ] (hr : Released s.context) (h : Sound s.context)
    (ops : SinkOps σ) (hasAttachments : Bool) (e : Event) :
    Released (happen ops hasAttachments e s).context := by
  rcases hr with hk | ⟨code, hg⟩
  · exact .inl ((course_happen h ops hasAttachments e).terminated h hk)
  · exact .inr ⟨code, (deed_happen h ops hasAttachments e).gone hg⟩

end Context

end ChartScript
