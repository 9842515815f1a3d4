import ChartScript.Proofs.Context.Regular
/-!
# What becomes of a context

An event of a fleet leaves every context as it is, halts it for good, or is an event of
that context itself. Only a start brings a new one, which is the last.
-/

namespace ChartScript

open Artifact (SinkOps)
open Context (Scene)
open Message (IsSuccess)

namespace Context

/-- A context that is settled after a change by which it did not complete. -/
structure Halted (c d : Context) : Prop where
  /-- It is settled. -/
  settled : d.outcome.isSome = true
  /-- An outcome that it had stays. -/
  outcome : c.outcome.isSome = true → d.outcome = c.outcome
  /-- It has not completed, and its outcome says so. -/
  verdict : c.outcome = none → ∀ o, d.outcome = some o → o.status ≠ .completed ∧ o.Fitting

/-- A context that was halted twice was halted. -/
theorem Halted.trans {c d e : Context} (h : c.Halted d) (k : d.Halted e) : c.Halted e := by
  have hsame := k.outcome h.settled
  refine ⟨k.settled, fun hc => hsame.trans (h.outcome hc), ?_⟩
  rw [hsame]
  exact h.verdict

/-- A kill halts a context. -/
theorem halted_terminate {κ σ : Type} {s : Scene κ σ} (h : Sound s.context) (reason : String) :
    s.context.Halted (terminate reason s).context := by
  have hq := quiet_terminate h reason
  have hcourse : Course s (terminate reason s) (.terminate reason) := course_terminate h reason
  refine ⟨isSome_terminate h reason, hq.outcome, fun hn o ho => ⟨(hq.verdict hn o ho).1, ?_⟩⟩
  refine hcourse.fitting (fun before hb => ?_) ho
  cases hn.symm.trans hb

/-- A context that is as it was, or halted. -/
def Rests (c d : Context) : Prop := d = c ∨ c.Halted d

/-- A context that rests twice rests. -/
theorem Rests.trans {c d e : Context} (h : c.Rests d) (k : d.Rests e) : c.Rests e := by
  rcases h with rfl | h
  · exact k
  · rcases k with rfl | k
    · exact .inr h
    · exact .inr (h.trans k)

end Context

namespace Fleet

variable {σ : Type} {f : Fleet σ} {n : Nat} {c : Context}

/-- A context rests when some context of record is killed. -/
theorem Sound.rests_stop (h : f.Sound) (now : Nat) (i reason : String)
    (hc : f.contexts[n]? = some c) : ∃ d, (f.stop now i reason).contexts[n]? = some d ∧ c.Rests d := by
  unfold Fleet.stop
  split
  · rename_i m _
    cases hd : f.contexts[m]? with
    | none =>
      rw [within_of_none hd]
      exact ⟨c, hc, .inl rfl⟩
    | some d =>
      rw [getElem?_within hd]
      by_cases hm : m = n
      · subst hm
        cases hc.symm.trans hd
        rw [if_pos rfl]
        exact ⟨_, rfl, .inr (Context.halted_terminate (s := f.scene now m c) (h.contexts m c hc) reason)⟩
      · rw [if_neg hm]
        exact ⟨c, hc, .inl rfl⟩
  · exact ⟨c, hc, .inl rfl⟩

/-- A context rests when another one is started. -/
theorem Sound.rests_start (h : f.Sound) (now : Nat) (i : String) (spec : Run.Spec)
    (hc : f.contexts[n]? = some c) : ∃ d, (f.start now i spec).1.contexts[n]? = some d ∧ c.Rests d := by
  obtain ⟨d, hd, hr⟩ := (h.register i).rests_stop now i supersededText hc
  have hlt : n < (f.retire now i).contexts.length := (List.getElem?_eq_some_iff.mp hd).1
  refine ⟨d, ?_, hr⟩
  rw [start_fst, getElem?_enlist, if_neg (Nat.ne_of_lt hlt)]
  exact hd

/-- A context rests when an instance is removed. -/
theorem Sound.rests_remove (h : f.Sound) (ops : SinkOps σ) (now : Nat) (i : String)
    (hc : f.contexts[n]? = some c) : ∃ d, (f.remove ops now i).1.contexts[n]? = some d ∧ c.Rests d := by
  unfold Fleet.remove
  split
  · rw [terminate_fst]
    dsimp only
    split <;> exact h.rests_stop now i removedText hc
  · exact ⟨c, hc, .inl rfl⟩

/-- A context rests when instances are removed in turn. -/
theorem Sound.rests_removeAll (h : f.Sound) (ops : SinkOps σ) (now : Nat) (ids : List String)
    (hc : f.contexts[n]? = some c) :
    ∃ d, (f.removeAll ops now ids).1.contexts[n]? = some d ∧ c.Rests d := by
  induction ids generalizing f c with
  | nil => exact ⟨c, hc, .inl rfl⟩
  | cons i rest ih =>
    have hs := h.remove ops now i
    obtain ⟨d, hd, hr⟩ := h.rests_remove ops now i hc
    unfold Fleet.removeAll
    split
    · rename_i he
      rw [he] at hs hd
      obtain ⟨e, hrest, hk⟩ := ih hs hd
      exact ⟨e, hrest, hr.trans hk⟩
    · rename_i he
      rw [he] at hd
      exact ⟨d, hd, hr⟩

/-- A context rests at every event but its own ones. -/
theorem Sound.fate (h : f.Sound) (ops : SinkOps σ) (hasAttachments : Bool) (now : Nat) (e : Event)
    (hc : f.contexts[n]? = some c) :
    ∃ d, (Fleet.step ops hasAttachments now f e).contexts[n]? = some d ∧
      ((∀ own, e ≠ .context n own) ∧ c.Rests d ∨ ∃ own, e = .context n own ∧
        d = (Context.happen ops hasAttachments own (f.scene now n c)).context) := by
  cases e with
  | start i spec =>
    obtain ⟨d, hd, hr⟩ := h.rests_start now i spec hc
    exact ⟨d, hd, .inl ⟨fun _ => nofun, hr⟩⟩
  | terminate i reason =>
    obtain ⟨d, hd, hr⟩ := h.rests_stop now i reason hc
    refine ⟨d, ?_, .inl ⟨fun _ => nofun, hr⟩⟩
    unfold Fleet.step
    dsimp only
    rw [terminate_fst]
    exact hd
  | remove i =>
    obtain ⟨d, hd, hr⟩ := h.rests_remove ops now i hc
    exact ⟨d, hd, .inl ⟨fun _ => nofun, hr⟩⟩
  | shutdown =>
    obtain ⟨d, hd, hr⟩ := h.rests_removeAll ops now f.registry.ids hc
    exact ⟨d, hd, .inl ⟨fun _ => nofun, hr⟩⟩
  | context m own =>
    unfold Fleet.step
    dsimp only
    by_cases hm : m = n
    · subst hm
      rw [getElem?_within hc, if_pos rfl]
      exact ⟨_, rfl, .inr ⟨own, rfl, rfl⟩⟩
    · have hother : ∀ e, Event.context m own ≠ .context n e := by
        rintro e ⟨⟩
        exact hm rfl
      refine ⟨c, ?_, .inl ⟨hother, .inl rfl⟩⟩
      cases hd : f.contexts[m]? with
      | none =>
        rw [within_of_none hd]
        exact hc
      | some d =>
        rw [getElem?_within hd, if_neg hm]
        exact hc

section Length

/-- A start brings one context. -/
theorem length_start (f : Fleet σ) (now : Nat) (i : String) (spec : Run.Spec) :
    (f.start now i spec).1.contexts.length = f.contexts.length + 1 := by
  have hlength : (f.retire now i).contexts.length = f.contexts.length :=
    (f.register i).length_stop now i supersededText
  rw [start_fst]
  change ((f.retire now i).contexts ++ [opening i spec]).length = _
  rw [List.length_append, List.length_singleton, hlength]

/-- A removal neither brings nor drops contexts. -/
theorem length_remove (ops : SinkOps σ) (f : Fleet σ) (now : Nat) (i : String) :
    (f.remove ops now i).1.contexts.length = f.contexts.length := by
  unfold Fleet.remove
  split
  · rw [terminate_fst]
    dsimp only
    split <;> exact f.length_stop now i removedText
  · rfl

/-- Removals in turn neither bring nor drop contexts. -/
theorem length_removeAll (ops : SinkOps σ) (f : Fleet σ) (now : Nat) (ids : List String) :
    (f.removeAll ops now ids).1.contexts.length = f.contexts.length := by
  induction ids generalizing f with
  | nil => rfl
  | cons i rest ih =>
    have hi := f.length_remove ops now i
    unfold Fleet.removeAll
    split
    · rename_i he
      rw [he] at hi
      exact (ih _).trans hi
    · rename_i he
      rw [he] at hi
      exact hi

/-- Only a start changes how many contexts there are. -/
theorem length_step (ops : SinkOps σ) (hasAttachments : Bool) (now : Nat) (f : Fleet σ) {e : Event}
    (he : ∀ i spec, e ≠ .start i spec) :
    (Fleet.step ops hasAttachments now f e).contexts.length = f.contexts.length := by
  cases e with
  | start i spec => exact absurd rfl (he i spec)
  | terminate i reason =>
    unfold Fleet.step
    dsimp only
    rw [terminate_fst]
    exact f.length_stop now i reason
  | remove i => exact f.length_remove ops now i
  | shutdown => exact f.length_removeAll ops now f.registry.ids
  | context n own => exact f.length_within now n _

/-- No event drops contexts. -/
theorem length_le_step (ops : SinkOps σ) (hasAttachments : Bool) (now : Nat) (f : Fleet σ) (e : Event) :
    f.contexts.length ≤ (Fleet.step ops hasAttachments now f e).contexts.length := by
  by_cases hstart : ∃ i spec, e = .start i spec
  · obtain ⟨i, spec, rfl⟩ := hstart
    change f.contexts.length ≤ (f.start now i spec).1.contexts.length
    rw [length_start]
    exact Nat.le_succ _
  · exact Nat.le_of_eq (length_step ops hasAttachments now f fun i spec he => hstart ⟨i, spec, he⟩).symm

end Length

/-- A context that there was not is the last one, and was just started. -/
theorem eq_opening_of_born {d : Context} (ops : SinkOps σ) (hasAttachments : Bool) (now : Nat)
    (e : Event) (hn : f.contexts[n]? = none)
    (hd : (Fleet.step ops hasAttachments now f e).contexts[n]? = some d) :
    n = f.contexts.length ∧ ∃ i spec, e = .start i spec ∧ d = opening i spec := by
  have hge : f.contexts.length ≤ n := List.getElem?_eq_none_iff.mp hn
  have hlt := (List.getElem?_eq_some_iff.mp hd).1
  by_cases hstart : ∃ i spec, e = .start i spec
  · obtain ⟨i, spec, rfl⟩ := hstart
    have hlength := (f.register i).length_stop now i supersededText
    change (f.start now i spec).1.contexts[n]? = some d at hd
    rw [start_fst, getElem?_enlist] at hd
    split at hd
    · rename_i he
      cases hd
      exact ⟨he.trans hlength, i, spec, rfl, rfl⟩
    · have hlt := (List.getElem?_eq_some_iff.mp hd).1
      change n < ((f.register i).stop now i supersededText).contexts.length at hlt
      rw [hlength] at hlt
      exact absurd hlt (Nat.not_lt.mpr hge)
  · rw [length_step ops hasAttachments now f fun i spec he => hstart ⟨i, spec, he⟩] at hlt
    exact absurd hlt (Nat.not_lt.mpr hge)

/-- A context that goes on after an event was just started, or nothing happened to it, or
the event was its own. -/
theorem Sound.goesOn_step {d : Context} (h : f.Sound) (ops : SinkOps σ) (hasAttachments : Bool)
    (now : Nat) (e : Event) (hd : (Fleet.step ops hasAttachments now f e).contexts[n]? = some d)
    (ho : d.outcome = none) :
    (n = f.contexts.length ∧ ∃ i spec, e = .start i spec ∧ d = opening i spec) ∨
      (f.contexts[n]? = some d ∧ ∀ own, e ≠ .context n own) ∨
      ∃ c own, e = .context n own ∧ f.contexts[n]? = some c ∧ c.outcome = none ∧
        d = (Context.happen ops hasAttachments own (f.scene now n c)).context := by
  cases hc : f.contexts[n]? with
  | none => exact .inl (eq_opening_of_born ops hasAttachments now e hc hd)
  | some c =>
    obtain ⟨b, hb, hfate⟩ := h.fate ops hasAttachments now e hc
    cases hb.symm.trans hd
    rcases hfate with ⟨hother, rfl | hhalted⟩ | ⟨own, he, hown⟩
    · exact .inr (.inl ⟨rfl, hother⟩)
    · have hs := hhalted.settled
      rw [ho] at hs
      cases hs
    · refine .inr (.inr ⟨c, own, he, rfl, ?_, hown⟩)
      have hl := Context.lawful_happen (s := f.scene now n c) (h.contexts n c hc) ops hasAttachments own
      cases hn : c.outcome with
      | none => rfl
      | some o =>
        have hkeep := hl.outcome (by change c.outcome.isSome = true; rw [hn]; rfl)
        rw [← hown, ho] at hkeep
        exact absurd (hkeep.trans hn) nofun

/-- Whether the parts of every outcome fit its status. -/
def Fitted (f : Fleet σ) : Prop :=
  ∀ (n : Nat) (c : Context) (o : Run.Outcome), f.contexts[n]? = some c → c.outcome = some o → o.Fitting

/-- Every event leaves fitting outcomes. -/
theorem Sound.fitted_step (h : f.Sound) (k : f.Fitted) (ops : SinkOps σ) (hasAttachments : Bool)
    (now : Nat) (e : Event) : (Fleet.step ops hasAttachments now f e).Fitted := by
  intro n d o hd hdo
  cases hc : f.contexts[n]? with
  | none =>
    obtain ⟨-, i, spec, -, rfl⟩ := eq_opening_of_born ops hasAttachments now e hc hd
    cases hdo
  | some c =>
    obtain ⟨b, hb, hfate⟩ := h.fate ops hasAttachments now e hc
    cases hb.symm.trans hd
    rcases hfate with ⟨-, rfl | hhalted⟩ | ⟨own, -, hown⟩
    · exact k n _ o hc hdo
    · cases hco : c.outcome with
      | none => exact (hhalted.verdict hco o hdo).2
      | some before =>
        have hsame := hhalted.outcome (by rw [hco]; rfl)
        exact k n c o hc (hsame.symm.trans hdo)
    · rw [hown] at hdo
      have hcourse := Context.course_happen (s := f.scene now n c) (h.contexts n c hc) ops
        hasAttachments own
      exact hcourse.fitting (fun before => k n c before hc) hdo

/-- A context completes only by its own message of a successful end. -/
theorem Sound.completes_step {d : Context} {o : Run.Outcome} (h : f.Sound) (ops : SinkOps σ)
    (hasAttachments : Bool) (now : Nat) (e : Event) (hc : f.contexts[n]? = some c)
    (ho : c.outcome = none)
    (hd : (Fleet.step ops hasAttachments now f e).contexts[n]? = some d)
    (hdo : d.outcome = some o) (hs : o.status = .completed) :
    ∃ raw, e = .context n (.message raw) ∧ IsSuccess raw ∧
      Fleet.step ops hasAttachments now f e = f.within now n (Context.complete ops) := by
  obtain ⟨b, hb, hfate⟩ := h.fate ops hasAttachments now e hc
  cases hb.symm.trans hd
  rcases hfate with ⟨-, rfl | hhalted⟩ | ⟨own, rfl, hown⟩
  · rw [ho] at hdo
    cases hdo
  · exact absurd hs (hhalted.verdict ho o hdo).1
  · by_cases ha : c.admits own = true
    · have hstep : Context.happen ops hasAttachments own (f.scene now n c) =
          Context.step ops hasAttachments (f.scene now n c) own := if_pos ha
      rcases Context.step_cases (s := f.scene now n c) (h.contexts n c hc) ops hasAttachments ha with
        hq | ⟨raw, rfl, hsuccess, -, he⟩
      · rw [hown, hstep] at hdo
        exact absurd hs (hq.verdict ho o hdo).1
      · refine ⟨raw, rfl, hsuccess, ?_⟩
        change f.within now n (Context.happen ops hasAttachments (.message raw)) = _
        rw [within_of_some hc, within_of_some hc, hstep, he]
    · have hstep : Context.happen ops hasAttachments own (f.scene now n c) = f.scene now n c := if_neg ha
      rw [hown, hstep] at hdo
      exact absurd (ho.symm.trans hdo) nofun

end Fleet

end ChartScript
