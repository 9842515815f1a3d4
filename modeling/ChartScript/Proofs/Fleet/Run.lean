import ChartScript.Fleet.Basic
import ChartScript.Proofs.Context.Step
/-!
# Runs of a fleet

The fleet changes by events: instances are started, killed and removed, and things happen
to the contexts in any order. After every sequence of events each context is sound, the
context of record of an instance is the newest one, and no other one is still going on.
-/

namespace ChartScript

open Artifact (SinkOps Gallery Registry Record)
open Context (Scene)

namespace Context

variable {κ σ : Type}

/-- A change of one scene that every fleet can take: the context stays sound, keeps its
instance and an outcome that it has, and no context of record changes. -/
structure Lawful (s t : Scene κ σ) : Prop where
  /-- The context is sound. -/
  sound : Sound t.context
  /-- It belongs to the same instance. -/
  instanceId : t.context.instanceId = s.context.instanceId
  /-- A settled run keeps its outcome. -/
  outcome : s.context.outcome.isSome = true → t.context.outcome = s.context.outcome
  /-- Every instance has the same context of record. -/
  contextOf? : ∀ i, t.gallery.registry.contextOf? i = s.gallery.registry.contextOf? i

/-- A quiet change to a sound context is lawful. -/
theorem Quiet.lawful {draft : Option Artifact.Draft} {s t : Scene κ σ} (h : Quiet draft s t)
    (ht : Sound t.context) : Lawful s t :=
  ⟨ht, h.instanceId, h.outcome, fun i => by rw [h.gallery]⟩

/-- An event happens to a context if it can. -/
def happen [DecidableEq κ] (ops : SinkOps σ) (hasAttachments : Bool) (e : Event) (s : Scene κ σ) : Scene κ σ :=
  if s.context.admits e then step ops hasAttachments s e else s

end Context

namespace Artifact

variable {κ σ : Type}

/-- A change of a record that keeps its context keeps every context of record. -/
theorem Registry.contextOf?_modify (registry : Registry κ) (i j : String) {f : Record κ → Record κ}
    (hf : ∀ r, (f r).context = r.context) :
    (registry.modify i f).contextOf? j = registry.contextOf? j := by
  unfold contextOf?
  rw [get?_modify]
  by_cases hj : j = i
  · subst hj
    rw [if_pos rfl]
    cases registry.get? j with
    | none => rfl
    | some r => exact hf r
  · rw [if_neg hj]

/-- Registering an instance keeps every context of record. -/
theorem Registry.contextOf?_ensure (registry : Registry κ) (i j : String) :
    (registry.ensure i).contextOf? j = registry.contextOf? j := by
  unfold contextOf?
  rw [get?_ensure]
  by_cases hj : j = i
  · subst hj
    rw [if_pos rfl]
    cases registry.get? j <;> rfl
  · rw [if_neg hj]

/-- The context of record of every instance once one of them is removed. -/
theorem Registry.contextOf?_remove (registry : Registry κ) (i j : String) :
    (registry.remove i).contextOf? j = if j = i then none else registry.contextOf? j := by
  unfold contextOf?
  rw [get?_remove]
  split <;> rfl

/-- A clear keeps every context of record, also when it fails. -/
theorem Gallery.clear_contextOf? (ops : SinkOps σ) (g : Gallery κ σ) (i j : String) :
    (g.clear ops i).1.registry.contextOf? j = g.registry.contextOf? j := by
  unfold clear
  split
  · rfl
  · exact Registry.contextOf?_modify _ i j fun _ => rfl

/-- A commit keeps every context of record, also when it fails. -/
theorem Gallery.commit_contextOf? [DecidableEq κ] (ops : SinkOps σ) (g : Gallery κ σ)
    (stage : Stage) (owner : Option κ) (j : String) :
    (g.commit ops stage owner).1.registry.contextOf? j = g.registry.contextOf? j := by
  have hclear := g.clear_contextOf? ops stage.instanceId j
  unfold commit
  split
  · split
    · rename_i he
      rw [he] at hclear
      exact hclear
    · rename_i he
      rw [he] at hclear
      split
      · exact hclear
      · rw [← hclear]
        exact Registry.contextOf?_modify _ stage.instanceId j fun _ => rfl
  · rfl

end Artifact

namespace Context

variable {κ σ : Type} {s : Scene κ σ}

/-- A kill is lawful. -/
theorem lawful_terminate (h : Sound s.context) (reason : String) : Lawful s (terminate reason s) :=
  (quiet_terminate h reason).lawful (h.terminate reason)

variable [DecidableEq κ]

/-- A successful end leaves what the commit makes of registry and sink. -/
theorem complete_gallery (ops : SinkOps σ) (s : Scene κ σ) :
    (complete ops s).gallery = (s.gallery.commit ops s.context.stage (some s.self)).1 := by
  unfold complete
  dsimp only
  split
  · rw [settle_gallery]
  · rfl

/-- A successful end is lawful. -/
theorem lawful_complete (h : Sound s.context) (ops : SinkOps σ) (ho : s.context.outcome = none)
    (ha : s.context.attached = true) : Lawful s (complete ops s) := by
  refine ⟨h.complete ops ho ha, ?_, ?_, ?_⟩
  · rcases complete_cases ops s with ⟨ids, gallery, -, he⟩ | ⟨gallery, he⟩
    · rw [he, settle_context]
      · rfl
      · exact h.begun
      · exact ho
    · rw [he]
  · intro hs
    rw [ho] at hs
    cases hs
  · intro i
    rw [complete_gallery]
    exact s.gallery.commit_contextOf? ops s.context.stage (some s.self) i

/-- Only a context whose messages are read can hear one. -/
theorem attached_of_admits {c : Context} {raw : Wire} (h : c.admits (.message raw) = true) :
    c.attached = true := h

/-- Every event is lawful. -/
theorem lawful_happen (h : Sound s.context) (ops : SinkOps σ) (hasAttachments : Bool) (e : Event) :
    Lawful s (happen ops hasAttachments e s) := by
  unfold happen
  by_cases ha : s.context.admits e = true
  · rw [if_pos ha]
    rcases step_cases h ops hasAttachments ha with hq | ⟨raw, rfl, -, ho, he⟩
    · exact hq.lawful (h.step ops hasAttachments ha)
    · rw [he]
      exact lawful_complete h ops ho (attached_of_admits ha)
  · rw [if_neg ha]
    exact ⟨h, rfl, fun _ => rfl, fun _ => rfl⟩

end Context

namespace Fleet

variable {σ : Type}

/-- What can happen to a fleet. -/
inductive Event where
  /-- A context is started for an instance. -/
  | start (instanceId : String) (spec : Run.Spec)
  /-- The context of record of an instance is killed. -/
  | terminate (instanceId reason : String)
  /-- An instance is removed. -/
  | remove (instanceId : String)
  /-- Every instance is removed. -/
  | shutdown
  /-- Something happens to the context of a number. -/
  | context (number : Nat) (event : Context.Event)

/-- The fleet after an event at a moment. An event that cannot happen to a context changes
nothing. -/
def step (ops : SinkOps σ) (hasAttachments : Bool) (now : Nat) (f : Fleet σ) : Event → Fleet σ
  | .start instanceId spec => (f.start now instanceId spec).1
  | .terminate instanceId reason => (f.terminate now instanceId reason).1
  | .remove instanceId => (f.remove ops now instanceId).1
  | .shutdown => (f.shutdown ops now).1
  | .context number e => f.within now number (Context.happen ops hasAttachments e)

/-- The fleet after events, each at its moment. -/
def run (ops : SinkOps σ) (hasAttachments : Bool) (f : Fleet σ) (events : List (Nat × Event)) :
    Fleet σ :=
  events.foldl (fun f e => step ops hasAttachments e.1 f e.2) f

/-- What holds of a fleet at every moment. -/
structure Sound (f : Fleet σ) : Prop where
  /-- Every context is sound. -/
  contexts : ∀ (n : Nat) (c : Context), f.contexts[n]? = some c → Context.Sound c
  /-- The context of record of an instance is its newest one. -/
  record : ∀ i n, f.registry.contextOf? i = some n →
    (∃ c : Context, f.contexts[n]? = some c ∧ c.instanceId = i) ∧
      ∀ (m : Nat) (c : Context), f.contexts[m]? = some c → c.instanceId = i → m ≤ n
  /-- Every run that goes on is that of a context of record. -/
  current : ∀ (n : Nat) (c : Context), f.contexts[n]? = some c → c.outcome = none →
    f.registry.contextOf? c.instanceId = some n

/-- The scene of one of the contexts. -/
def scene (f : Fleet σ) (now number : Nat) (c : Context) : Scene Nat σ :=
  ⟨number, c, f.gallery, f.console, now⟩

/-- What an act on one context makes of the fleet. -/
theorem within_of_some {f : Fleet σ} {n : Nat} {c : Context} (hc : f.contexts[n]? = some c)
    (now : Nat) (act : Scene Nat σ → Scene Nat σ) :
    f.within now n act =
      { f with
        contexts := f.contexts.set n (act (f.scene now n c)).context
        gallery := (act (f.scene now n c)).gallery
        console := (act (f.scene now n c)).console } := by
  unfold within
  rw [hc]
  rfl

/-- Nothing happens to a context that there is not. -/
theorem within_of_none {f : Fleet σ} {n : Nat} (hc : f.contexts[n]? = none) (now : Nat)
    (act : Scene Nat σ → Scene Nat σ) : f.within now n act = f := by
  unfold within
  rw [hc]

/-- The contexts after an act on one of them. -/
theorem getElem?_within {f : Fleet σ} {n : Nat} {c : Context} (hc : f.contexts[n]? = some c)
    (now : Nat) (act : Scene Nat σ → Scene Nat σ) (m : Nat) :
    (f.within now n act).contexts[m]? =
      if n = m then some (act (f.scene now n c)).context else f.contexts[m]? := by
  have hlt : n < f.contexts.length := (List.getElem?_eq_some_iff.mp hc).1
  rw [within_of_some hc]
  dsimp only
  rw [List.getElem?_set]
  simp [hlt]

/-- No act makes or drops contexts. -/
theorem length_within (f : Fleet σ) (now n : Nat) (act : Scene Nat σ → Scene Nat σ) :
    (f.within now n act).contexts.length = f.contexts.length := by
  unfold within
  split
  · rfl
  · exact List.length_set

/-- A lawful change of one context leaves a sound fleet. -/
theorem Sound.within {f : Fleet σ} (h : f.Sound) (now n : Nat) {act : Scene Nat σ → Scene Nat σ}
    (hact : ∀ c, f.contexts[n]? = some c →
      Context.Lawful (f.scene now n c) (act (f.scene now n c))) : (f.within now n act).Sound := by
  cases hc : f.contexts[n]? with
  | none =>
    rw [within_of_none hc]
    exact h
  | some c =>
    have hl := hact c hc
    have hget := getElem?_within hc now act
    have hsame : ∀ i, (f.within now n act).registry.contextOf? i = f.registry.contextOf? i := by
      rw [within_of_some hc]
      exact hl.contextOf?
    refine ⟨?_, ?_, ?_⟩
    · intro m d hd
      rw [hget] at hd
      split at hd
      · cases hd
        exact hl.sound
      · exact h.contexts m d hd
    · intro i m hm
      rw [hsame] at hm
      obtain ⟨⟨d, hd, hi⟩, hnew⟩ := h.record i m hm
      constructor
      · rw [hget]
        by_cases hnm : n = m
        · subst hnm
          rw [hc] at hd
          cases hd
          rw [if_pos rfl]
          exact ⟨_, rfl, hl.instanceId.trans hi⟩
        · rw [if_neg hnm]
          exact ⟨d, hd, hi⟩
      · intro k e he hk
        rw [hget] at he
        split at he
        · rename_i hnk
          subst hnk
          cases he
          exact hnew n c hc (hl.instanceId.symm.trans hk)
        · exact hnew k e he hk
    · intro m d hd ho
      rw [hsame]
      rw [hget] at hd
      split at hd
      · rename_i hnm
        subst hnm
        cases hd
        rw [hl.instanceId]
        refine h.current n c hc ?_
        -- an outcome that there was before would be there still
        cases hn : c.outcome with
        | none => rfl
        | some o =>
          have hkeep := hl.outcome (by change c.outcome.isSome = true; rw [hn]; rfl)
          rw [ho] at hkeep
          exact absurd (hkeep.trans hn) nofun
      · exact h.current m d hd ho

/-- A fleet with the contexts and the contexts of record of a sound one is sound. -/
theorem Sound.congr {f g : Fleet σ} (h : f.Sound) (hc : g.contexts = f.contexts)
    (hr : ∀ i, g.registry.contextOf? i = f.registry.contextOf? i) : g.Sound := by
  refine ⟨?_, ?_, ?_⟩
  · rw [hc]
    exact h.contexts
  · intro i n hn
    rw [hr] at hn
    rw [hc]
    exact h.record i n hn
  · intro n c hn ho
    rw [hc] at hn
    rw [hr]
    exact h.current n c hn ho

/-- When the context of record of an instance is settled, all its contexts are. -/
theorem Sound.settled_of_record {f : Fleet σ} (h : f.Sound) {i : String}
    (hi : ∀ n c, f.registry.contextOf? i = some n → f.contexts[n]? = some c →
      c.outcome.isSome = true) {n : Nat} {c : Context} (hc : f.contexts[n]? = some c)
    (hci : c.instanceId = i) : c.outcome.isSome = true := by
  cases ho : c.outcome with
  | some o => rfl
  | none =>
    have hs := hi n c (hci ▸ h.current n c hc ho) hc
    rw [ho] at hs
    exact hs

/-- The context of a run that goes on may commit. -/
theorem Sound.mayCommit {f : Fleet σ} (h : f.Sound) {n : Nat} {c : Context}
    (hc : f.contexts[n]? = some c) (ho : c.outcome = none) :
    f.gallery.mayCommit c.stage (some n) = true := by
  have hs := h.contexts n c hc
  obtain ⟨r, hr, hn⟩ := Option.bind_eq_some_iff.mp (h.current n c hc ho)
  rw [Gallery.mayCommit_iff, hs.stage.instanceId_eq]
  exact ⟨⟨r, hr, hn⟩, hs.isOpen ho⟩

section Stop

/-- The fleet after a kill of the context of record of an instance, if it has one. -/
def stop (now : Nat) (i reason : String) (f : Fleet σ) : Fleet σ :=
  match f.registry.contextOf? i with
  | some n => f.within now n (Context.terminate reason)
  | none => f

/-- A context that need not be killed is left alone by a kill. -/
theorem terminate_of_not_isKillable {κ : Type} {s : Scene κ σ} (reason : String)
    (h : ¬isKillable s.context = true) : Context.terminate reason s = s := by
  unfold Context.terminate
  by_cases ht : s.context.status = .terminated
  · rw [if_pos ht]
  · rw [if_neg ht, if_pos]
    simpa [isKillable, ht] using h

/-- Killing by the instance is a kill of the context of record. -/
theorem terminate_fst (now : Nat) (i reason : String) (f : Fleet σ) :
    (f.terminate now i reason).1 = f.stop now i reason := by
  unfold terminate stop contextOf?
  cases hn : f.registry.contextOf? i with
  | none => rfl
  | some n =>
    cases hc : f.contexts[n]? with
    | none => simp [hc, within_of_none hc]
    | some c =>
      simp only [Option.bind_eq_bind, Option.bind_some, hc, Option.pure_def]
      by_cases hk : isKillable c = true
      · rw [if_pos hk]
      · obtain ⟨hlt, he⟩ := List.getElem?_eq_some_iff.mp hc
        have hs : Context.terminate reason (f.scene now n c) = f.scene now n c :=
          terminate_of_not_isKillable reason hk
        rw [if_neg hk, within_of_some hc, hs]
        subst he
        simp [scene]

variable {f : Fleet σ}

/-- A kill leaves a sound fleet. -/
theorem Sound.stop (h : f.Sound) (now : Nat) (i reason : String) :
    (f.stop now i reason).Sound := by
  unfold Fleet.stop
  split
  · exact h.within now _ fun c hc => Context.lawful_terminate (h.contexts _ c hc) reason
  · exact h

/-- A kill leaves registry and sink alone. -/
theorem Sound.stop_gallery (h : f.Sound) (now : Nat) (i reason : String) :
    (f.stop now i reason).gallery = f.gallery := by
  unfold Fleet.stop
  split
  · rename_i n hn
    cases hc : f.contexts[n]? with
    | none => rw [within_of_none hc]
    | some c =>
      rw [within_of_some hc]
      exact (Context.quiet_terminate (h.contexts n c hc) reason).gallery
  · rfl

/-- After a kill every context of the instance is settled. -/
theorem Sound.settled_stop (h : f.Sound) (now : Nat) (i reason : String) {n : Nat} {c : Context}
    (hc : (f.stop now i reason).contexts[n]? = some c) (hi : c.instanceId = i) :
    c.outcome.isSome = true := by
  refine (h.stop now i reason).settled_of_record ?_ hc hi
  intro m d hm hd
  rw [registry, h.stop_gallery] at hm
  unfold Fleet.stop at hd
  rw [registry, hm] at hd
  dsimp only at hd
  cases he : f.contexts[m]? with
  | none =>
    rw [within_of_none he, he] at hd
    cases hd
  | some e =>
    rw [getElem?_within he, if_pos rfl] at hd
    cases hd
    exact Context.isSome_terminate (h.contexts m e he) reason

/-- No kill makes or drops contexts. -/
theorem length_stop (f : Fleet σ) (now : Nat) (i reason : String) :
    (f.stop now i reason).contexts.length = f.contexts.length := by
  unfold Fleet.stop
  split
  · exact f.length_within now _ _
  · rfl

end Stop

section Start

/-- The fleet in which an instance is registered. -/
def register (i : String) (f : Fleet σ) : Fleet σ :=
  { f with gallery := { f.gallery with registry := f.registry.ensure i } }

/-- The fleet in which an instance is registered and has no run that goes on. -/
def retire (now : Nat) (i : String) (f : Fleet σ) : Fleet σ :=
  (f.register i).stop now i supersededText

/-- A context whose process is being created. -/
def opening (i : String) (spec : Run.Spec) : Context :=
  { Context.create i spec with begun := true, process := .starting, link := .intact }

/-- The fleet with one more context, which is the one of record of its instance. -/
def enlist (i : String) (spec : Run.Spec) (f : Fleet σ) : Fleet σ :=
  { f with
    contexts := f.contexts ++ [opening i spec]
    gallery := { f.gallery with
      registry := f.registry.modify i fun r =>
        { r with context := some f.contexts.length, spec := some spec } } }

/-- A context that joins the fleet and begins is enlisted. -/
theorem within_begin (now : Nat) (i : String) (spec : Run.Spec) (f : Fleet σ)
    (g : Gallery Nat σ) :
    Fleet.within now f.contexts.length Context.begin
        { f with contexts := f.contexts ++ [Context.create i spec], gallery := g } =
      { f with contexts := f.contexts ++ [opening i spec], gallery := g } := by
  have hc : (f.contexts ++ [Context.create i spec])[f.contexts.length]? =
      some (Context.create i spec) := by simp
  rw [within_of_some hc]
  simp [opening, scene, Context.begin, Scene.mapContext, Context.create]

/-- A start retires the instance and enlists its next context. -/
theorem start_fst (now : Nat) (i : String) (spec : Run.Spec) (f : Fleet σ) :
    (f.start now i spec).1 = (f.retire now i).enlist i spec :=
  within_begin now i spec (f.retire now i) _

variable {f : Fleet σ}

/-- Registering an instance leaves a sound fleet. -/
theorem Sound.register (h : f.Sound) (i : String) : (f.register i).Sound :=
  h.congr rfl fun j => f.registry.contextOf?_ensure i j

/-- Retiring an instance leaves a sound fleet. -/
theorem Sound.retire (h : f.Sound) (now : Nat) (i : String) : (f.retire now i).Sound :=
  (h.register i).stop now i supersededText

/-- A retired instance is registered. -/
theorem Sound.isSome_get?_retire (h : f.Sound) (now : Nat) (i : String) :
    ((f.retire now i).registry.get? i).isSome = true := by
  rw [registry, Fleet.retire, (h.register i).stop_gallery]
  change ((f.registry.ensure i).get? i).isSome = true
  rw [Registry.get?_ensure, if_pos rfl]
  rfl

/-- The context of record of every instance once another context is enlisted. -/
theorem contextOf?_enlist (i : String) (spec : Run.Spec)
    (hi : (f.registry.get? i).isSome = true) (j : String) :
    (f.enlist i spec).registry.contextOf? j =
      if j = i then some f.contexts.length else f.registry.contextOf? j := by
  obtain ⟨r, hr⟩ := Option.isSome_iff_exists.mp hi
  change (Registry.modify _ _ _).contextOf? j = _
  unfold Registry.contextOf?
  rw [Registry.get?_modify]
  by_cases hj : j = i
  · rw [if_pos hj, if_pos hj, hr]
    rfl
  · rw [if_neg hj, if_neg hj]

/-- The contexts once another one is enlisted. -/
theorem getElem?_enlist (i : String) (spec : Run.Spec) (n : Nat) :
    (f.enlist i spec).contexts[n]? =
      if n = f.contexts.length then some (opening i spec) else f.contexts[n]? := by
  change (f.contexts ++ [opening i spec])[n]? = _
  rw [List.getElem?_append]
  by_cases hlt : n < f.contexts.length
  · rw [if_pos hlt, if_neg (by omega)]
  · by_cases he : n = f.contexts.length
    · simp [he]
    · have hge : f.contexts.length ≤ n := by omega
      have hgt : [opening i spec].length ≤ n - f.contexts.length := by
        rw [List.length_singleton]
        omega
      rw [if_neg hlt, if_neg he, List.getElem?_eq_none hge, List.getElem?_eq_none hgt]

/-- The context that a start brings. -/
theorem getElem?_start (f : Fleet σ) (now : Nat) (i : String) (spec : Run.Spec) :
    (f.start now i spec).1.contexts[f.contexts.length]? = some (opening i spec) := by
  have hlength : (f.retire now i).contexts.length = f.contexts.length :=
    (f.register i).length_stop now i supersededText
  rw [start_fst, getElem?_enlist, hlength, if_pos rfl]

/-- A registered instance without a run that goes on can enlist another context. -/
theorem Sound.enlist (h : f.Sound) (i : String) (spec : Run.Spec)
    (hi : (f.registry.get? i).isSome = true)
    (hs : ∀ (n : Nat) (c : Context), f.contexts[n]? = some c → c.instanceId = i →
      c.outcome.isSome = true) : (f.enlist i spec).Sound := by
  have hlt : ∀ {n : Nat} {c : Context}, f.contexts[n]? = some c → n < f.contexts.length :=
    fun hc => (List.getElem?_eq_some_iff.mp hc).1
  refine ⟨?_, ?_, ?_⟩
  · intro n c hc
    rw [getElem?_enlist] at hc
    split at hc
    · cases hc
      exact Context.sound_begin (s := ⟨n, Context.create i spec, f.gallery, f.console, 0⟩) i spec rfl
    · exact h.contexts n c hc
  · intro j n hn
    rw [contextOf?_enlist i spec hi] at hn
    by_cases hj : j = i
    · rw [if_pos hj] at hn
      cases hn
      refine ⟨⟨opening i spec, ?_, hj.symm⟩, ?_⟩
      · rw [getElem?_enlist, if_pos rfl]
      · intro m c hc _
        rw [getElem?_enlist] at hc
        split at hc
        · omega
        · exact Nat.le_of_lt (hlt hc)
    · rw [if_neg hj] at hn
      obtain ⟨⟨c, hc, hci⟩, hnew⟩ := h.record j n hn
      refine ⟨⟨c, ?_, hci⟩, ?_⟩
      · have := hlt hc
        rw [getElem?_enlist, if_neg (by omega)]
        exact hc
      · intro m d hd hdj
        rw [getElem?_enlist] at hd
        split at hd
        · cases hd
          exact absurd hdj.symm hj
        · exact hnew m d hd hdj
  · intro n c hc ho
    rw [contextOf?_enlist i spec hi]
    rw [getElem?_enlist] at hc
    split at hc
    · rename_i hn
      cases hc
      rw [hn]
      exact if_pos rfl
    · by_cases hj : c.instanceId = i
      · have hset := hs n c hc hj
        rw [ho] at hset
        cases hset
      · rw [if_neg hj]
        exact h.current n c hc ho

/-- A start leaves a sound fleet. -/
theorem Sound.start (h : f.Sound) (now : Nat) (i : String) (spec : Run.Spec) :
    (f.start now i spec).1.Sound := by
  rw [start_fst]
  exact (h.retire now i).enlist i spec (h.isSome_get?_retire now i)
    fun _ _ hc hi => (h.register i).settled_stop now i supersededText hc hi

end Start

section Remove

variable {f : Fleet σ}

/-- The fleet that has forgotten an instance. -/
def forget (i : String) (f : Fleet σ) : Fleet σ :=
  { f with gallery := { f.gallery with registry := f.registry.remove i } }

/-- An instance without a run that goes on can be forgotten. -/
theorem Sound.forget (h : f.Sound) (i : String)
    (hs : ∀ (n : Nat) (c : Context), f.contexts[n]? = some c → c.instanceId = i →
      c.outcome.isSome = true) : (f.forget i).Sound := by
  have hget : ∀ j, (f.forget i).registry.contextOf? j =
      if j = i then none else f.registry.contextOf? j :=
    f.registry.contextOf?_remove i
  refine ⟨h.contexts, ?_, ?_⟩
  · intro j n hn
    rw [hget] at hn
    split at hn
    · cases hn
    · exact h.record j n hn
  · intro n c hc ho
    rw [hget]
    by_cases hj : c.instanceId = i
    · have hset := hs n c hc hj
      rw [ho] at hset
      cases hset
    · rw [if_neg hj]
      exact h.current n c hc ho

/-- A removal leaves a sound fleet, also when the sink fails. -/
theorem Sound.remove (h : f.Sound) (ops : SinkOps σ) (now : Nat) (i : String) :
    (f.remove ops now i).1.Sound := by
  unfold Fleet.remove
  split
  · rw [terminate_fst]
    have hclear : ∀ j, ((f.stop now i removedText).gallery.clear ops i).1.registry.contextOf? j =
        (f.stop now i removedText).registry.contextOf? j :=
      (f.stop now i removedText).gallery.clear_contextOf? ops i
    dsimp only
    split
    · rename_i gallery e he
      rw [he] at hclear
      exact (h.stop now i removedText).congr rfl hclear
    · rename_i gallery count he
      rw [he] at hclear
      have hc : Sound { f.stop now i removedText with gallery } :=
        (h.stop now i removedText).congr rfl hclear
      exact hc.forget i fun _ _ hd hi => h.settled_stop now i removedText hd hi
  · exact h

/-- Removals in turn leave a sound fleet. -/
theorem Sound.removeAll (h : f.Sound) (ops : SinkOps σ) (now : Nat) (ids : List String) :
    (f.removeAll ops now ids).1.Sound := by
  induction ids generalizing f with
  | nil => exact h
  | cons i rest ih =>
    have hr := h.remove ops now i
    unfold Fleet.removeAll
    split
    · rename_i he
      rw [he] at hr
      exact ih hr
    · rename_i he
      rw [he] at hr
      exact hr

end Remove

/-- There is no context before the first start. -/
theorem sound_empty (sink : σ) (console : Option Console) (defaultTimeoutMs : Int) :
    (empty sink console defaultTimeoutMs).Sound := by
  refine ⟨?_, ?_, ?_⟩
  · intro n c hc
    cases hc
  · intro i n hn
    cases hn
  · intro n c hc
    cases hc

/-- Every event leaves a sound fleet. -/
theorem Sound.step {f : Fleet σ} (h : f.Sound) (ops : SinkOps σ) (hasAttachments : Bool) (now : Nat)
    (e : Event) : (Fleet.step ops hasAttachments now f e).Sound := by
  cases e with
  | start i spec => exact h.start now i spec
  | terminate i reason =>
    unfold Fleet.step
    dsimp only
    rw [terminate_fst]
    exact h.stop now i reason
  | remove i => exact h.remove ops now i
  | shutdown => exact h.removeAll ops now f.registry.ids
  | context n e =>
    exact h.within now n fun c hc => Context.lawful_happen (h.contexts n c hc) ops hasAttachments e

/-- Every run of events leaves a sound fleet. -/
theorem Sound.run {f : Fleet σ} (h : f.Sound) (ops : SinkOps σ) (hasAttachments : Bool)
    (events : List (Nat × Event)) : (Fleet.run ops hasAttachments f events).Sound := by
  induction events generalizing f with
  | nil => exact h
  | cons e rest ih => exact ih (h.step ops hasAttachments e.1 e.2)

section Keeps

/-- Every context stays in its place, with its instance and with an outcome that it has. -/
def Keeps (f g : Fleet σ) : Prop :=
  ∀ (n : Nat) (c : Context), f.contexts[n]? = some c → ∃ d, g.contexts[n]? = some d ∧
    d.instanceId = c.instanceId ∧ (c.outcome.isSome = true → d.outcome = c.outcome)

variable {f g : Fleet σ}

/-- Everything stays in a fleet with the same contexts. -/
theorem Keeps.of_contexts_eq (h : g.contexts = f.contexts) : f.Keeps g := by
  intro n c hc
  exact ⟨c, h ▸ hc, rfl, fun _ => rfl⟩

/-- What stays twice stays. -/
theorem Keeps.trans {e : Fleet σ} (h : e.Keeps f) (k : f.Keeps g) : e.Keeps g := by
  intro n c hc
  obtain ⟨d, hd, hdi, hdo⟩ := h n c hc
  obtain ⟨b, hb, hbi, hbo⟩ := k n d hd
  refine ⟨b, hb, hbi.trans hdi, fun hs => ?_⟩
  have he := hdo hs
  rw [← he]
  exact hbo (he ▸ hs)

/-- Everything stays when a context changes lawfully. -/
theorem keeps_within (now n : Nat) {act : Scene Nat σ → Scene Nat σ}
    (hact : ∀ c, f.contexts[n]? = some c →
      Context.Lawful (f.scene now n c) (act (f.scene now n c))) : f.Keeps (f.within now n act) := by
  intro m c hc
  cases hd : f.contexts[n]? with
  | none =>
    rw [within_of_none hd]
    exact ⟨c, hc, rfl, fun _ => rfl⟩
  | some d =>
    rw [getElem?_within hd]
    by_cases hnm : n = m
    · subst hnm
      rw [hd] at hc
      cases hc
      have hl := hact c hd
      rw [if_pos rfl]
      exact ⟨_, rfl, hl.instanceId, hl.outcome⟩
    · rw [if_neg hnm]
      exact ⟨c, hc, rfl, fun _ => rfl⟩

/-- Everything stays when a context of record is killed. -/
theorem Sound.keeps_stop (h : f.Sound) (now : Nat) (i reason : String) :
    f.Keeps (f.stop now i reason) := by
  unfold Fleet.stop
  split
  · exact keeps_within now _ fun c hc => Context.lawful_terminate (h.contexts _ c hc) reason
  · exact .of_contexts_eq rfl

/-- Everything stays when a context is enlisted. -/
theorem keeps_enlist (i : String) (spec : Run.Spec) : f.Keeps (f.enlist i spec) := by
  intro n c hc
  have hlt : n < f.contexts.length := (List.getElem?_eq_some_iff.mp hc).1
  refine ⟨c, ?_, rfl, fun _ => rfl⟩
  rw [getElem?_enlist, if_neg (by omega)]
  exact hc

/-- Everything stays when an instance is removed. -/
theorem Sound.keeps_remove (h : f.Sound) (ops : SinkOps σ) (now : Nat) (i : String) :
    f.Keeps (f.remove ops now i).1 := by
  unfold Fleet.remove
  split
  · rw [terminate_fst]
    dsimp only
    split
    · exact (h.keeps_stop now i removedText).trans (.of_contexts_eq rfl)
    · exact (h.keeps_stop now i removedText).trans (.of_contexts_eq rfl)
  · exact .of_contexts_eq rfl

/-- Everything stays when instances are removed in turn. -/
theorem Sound.keeps_removeAll (h : f.Sound) (ops : SinkOps σ) (now : Nat) (ids : List String) :
    f.Keeps (f.removeAll ops now ids).1 := by
  induction ids generalizing f with
  | nil => exact .of_contexts_eq rfl
  | cons i rest ih =>
    have hs := h.remove ops now i
    have hk := h.keeps_remove ops now i
    unfold Fleet.removeAll
    split
    · rename_i he
      rw [he] at hs hk
      exact hk.trans (ih hs)
    · rename_i he
      rw [he] at hk
      exact hk

/-- Everything stays at every event. -/
theorem Sound.keeps_step (h : f.Sound) (ops : SinkOps σ) (hasAttachments : Bool) (now : Nat)
    (e : Event) : f.Keeps (Fleet.step ops hasAttachments now f e) := by
  cases e with
  | start i spec =>
    unfold Fleet.step
    dsimp only
    rw [start_fst]
    have hr : f.Keeps (f.register i) := .of_contexts_eq rfl
    exact (hr.trans ((h.register i).keeps_stop now i supersededText)).trans (keeps_enlist i spec)
  | terminate i reason =>
    unfold Fleet.step
    dsimp only
    rw [terminate_fst]
    exact h.keeps_stop now i reason
  | remove i => exact h.keeps_remove ops now i
  | shutdown => exact h.keeps_removeAll ops now f.registry.ids
  | context n e =>
    exact keeps_within now n fun c hc => Context.lawful_happen (h.contexts n c hc) ops hasAttachments e

/-- Everything stays over a run of events. -/
theorem Sound.keeps_run (h : f.Sound) (ops : SinkOps σ) (hasAttachments : Bool)
    (events : List (Nat × Event)) : f.Keeps (Fleet.run ops hasAttachments f events) := by
  induction events generalizing f with
  | nil => exact .of_contexts_eq rfl
  | cons e rest ih =>
    exact (h.keeps_step ops hasAttachments e.1 e.2).trans (ih (h.step ops hasAttachments e.1 e.2))

end Keeps

end Fleet

end ChartScript
