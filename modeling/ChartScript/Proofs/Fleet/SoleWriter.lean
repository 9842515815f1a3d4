import ChartScript.Proofs.Fleet.Fate
import ChartScript.Proofs.Fleet.Ledger
/-!
# The sole writer of an instance

However starts, runs, reruns, kills and removals come between each other and between the
events of the contexts: a run that goes on is that of the context of record of its instance,
and its stage is open. So no instance has two runs that go on, a commit is never refused for
being stale, and a completed run lists the id of every draft that its stage took.
-/

namespace ChartScript

open Artifact (SinkOps Stage Draft Key Gallery)
open Context (Scene)

namespace Artifact.Gallery

variable {κ σ : Type} [DecidableEq κ]

/-- A commit that is not stale gives the ids of its stage, unless the sink fails. -/
theorem commit_of_mayCommit (ops : SinkOps σ) {g : Gallery κ σ} {stage : Stage} {owner : Option κ}
    (h : g.mayCommit stage owner = true) :
    (g.commit ops stage owner).2 = (stage.discard, .ok stage.ids) ∨
      ∃ f, (g.commit ops stage owner).2 = (stage, .error f) := by
  unfold commit
  rw [if_pos h]
  split
  · exact .inr ⟨_, rfl⟩
  · split
    · exact .inr ⟨_, rfl⟩
    · exact .inl rfl

end Artifact.Gallery

namespace Context

variable {κ σ : Type} [DecidableEq κ] {s : Scene κ σ}

/-- What a successful end makes of a run that goes on and may commit: it settles it with the
ids of its stage, or it leaves it as it is when the sink fails. -/
theorem complete_of_mayCommit (ops : SinkOps σ) (hb : s.context.begun = true)
    (ho : s.context.outcome = none) (hm : s.gallery.mayCommit s.context.stage (some s.self) = true) :
    (complete ops s).context.outcome =
        some ((Verdict.completed s.context.stage.ids).outcome s.context s.now) ∨
      (complete ops s).context = s.context := by
  unfold complete
  rcases s.gallery.commit_of_mayCommit ops hm with he | ⟨f, he⟩
  · simp only [he]
    left
    rw [settle_context]
    · rfl
    · exact hb
    · exact ho
  · right
    simp only [he]

end Context

namespace Fleet

variable {σ : Type}

/-- What is asked of a fleet, and what happens to it. -/
inductive Operation where
  /-- An event. -/
  | event (e : Event)
  /-- An instance is to run something, and the outcome is waited for. -/
  | run (instanceId : String) (spec : Run.Spec)
  /-- An instance is to run again what it was last asked to run, with another budget if one is
  given. -/
  | rerun (instanceId : String) (timeoutMs : Option Int)

/-- The event that an operation comes to, if it comes to any: an instance that was never
asked to run anything cannot do so again. -/
def eventOf? (f : Fleet σ) : Operation → Option Event
  | .event e => some e
  | .run instanceId spec => some (.start instanceId spec)
  | .rerun instanceId timeoutMs =>
    match f.lastSpec instanceId timeoutMs with
    | .ok spec => some (.start instanceId spec)
    | .error _ => none

/-- The fleet after an operation at a moment. -/
def operate (ops : SinkOps σ) (hasAttachments : Bool) (now : Nat) (f : Fleet σ) (o : Operation) :
    Fleet σ :=
  match f.eventOf? o with
  | some e => f.step ops hasAttachments now e
  | none => f

end Fleet

/-- A fleet and what the stage of each of its contexts took. -/
structure Folio (σ : Type) where
  /-- The fleet. -/
  fleet : Fleet σ
  /-- The drafts that the stage of each context took, in order. -/
  staged : Nat → List Draft

namespace Folio

open Fleet (Event Operation opening)

variable {σ : Type} {fo : Folio σ}

/-- The folio before the first operation. -/
def empty (sink : σ) (console : Option Console) (defaultTimeoutMs : Int) : Folio σ :=
  ⟨.empty sink console defaultTimeoutMs, fun _ => []⟩

/-- The folio after an event at a moment. -/
def step (ops : SinkOps σ) (hasAttachments : Bool) (now : Nat) (fo : Folio σ) (e : Event) :
    Folio σ where
  fleet := fo.fleet.step ops hasAttachments now e
  staged n := fo.staged n ++ (fo.fleet.taken? n e).toList

/-- The folio after an operation at a moment. -/
def operate (ops : SinkOps σ) (hasAttachments : Bool) (now : Nat) (fo : Folio σ) (o : Operation) :
    Folio σ where
  fleet := fo.fleet.operate ops hasAttachments now o
  staged n := fo.staged n ++ ((fo.fleet.eventOf? o).bind (fo.fleet.taken? n)).toList

/-- An operation is an event, or nothing comes of it. -/
theorem operate_eq (ops : SinkOps σ) (hasAttachments : Bool) (now : Nat) (fo : Folio σ) (o : Operation) :
    operate ops hasAttachments now fo o =
      match fo.fleet.eventOf? o with
      | some e => step ops hasAttachments now fo e
      | none => fo := by
  unfold operate Fleet.operate step
  cases fo.fleet.eventOf? o with
  | some e => rfl
  | none => simp

/-- The folio after operations, each at its moment. -/
def run (ops : SinkOps σ) (hasAttachments : Bool) (fo : Folio σ) (operations : List (Nat × Operation)) :
    Folio σ :=
  operations.foldl (fun fo o => operate ops hasAttachments o.1 fo o.2) fo

/-- What holds of a folio at every moment. -/
structure Sound (fo : Folio σ) : Prop where
  /-- The fleet is sound. -/
  fleet : fo.fleet.Sound
  /-- The stage of a run that goes on holds what its drafts leave. -/
  stage : ∀ (n : Nat) (c : Context), fo.fleet.contexts[n]? = some c → c.outcome = none →
    c.stage.writes = Draft.staged c.instanceId (fo.staged n)
  /-- A context that there is not has no drafts. -/
  fresh : ∀ n, fo.fleet.contexts.length ≤ n → fo.staged n = []
  /-- The outcome of a completed run lists the ids of its drafts. -/
  listed : ∀ (n : Nat) (c : Context) (o : Run.Outcome), fo.fleet.contexts[n]? = some c →
    c.outcome = some o → o.status = .completed →
    o.artifacts = (Draft.keys c.instanceId (fo.staged n)).map Key.id

/-- There is nothing in a folio before the first operation. -/
theorem sound_empty (sink : σ) (console : Option Console) (defaultTimeoutMs : Int) :
    (empty sink console defaultTimeoutMs).Sound := by
  refine ⟨Fleet.sound_empty sink console defaultTimeoutMs, ?_, fun _ _ => rfl, ?_⟩
  · intro n c hc
    cases hc
  · intro n c o hc
    cases hc

namespace Sound

/-- The ids of a stage that holds what some drafts leave. -/
theorem ids_eq (h : fo.Sound) {n : Nat} {c : Context} (hc : fo.fleet.contexts[n]? = some c)
    (ho : c.outcome = none) : c.stage.ids = (Draft.keys c.instanceId (fo.staged n)).map Key.id := by
  have hkeys := Draft.keys_staged c.instanceId (fo.staged n)
  rw [← h.stage n c hc ho] at hkeys
  rw [← hkeys]
  simp [Stage.ids, Assoc.keys]

/-- Only an event of a context offers a draft to its stage. -/
theorem taken_of_other {n : Nat} {e : Event} (he : ∀ own, e ≠ .context n own) :
    fo.fleet.taken? n e = none := by
  cases e with
  | context m own =>
    have hm : ¬m = n := by
      rintro rfl
      exact he own rfl
    exact if_neg hm
  | _ => rfl

/-- The draft that the stage of a run that goes on takes is the one that is offered. -/
theorem taken_of_own (h : fo.Sound) {n : Nat} {c : Context} (hc : fo.fleet.contexts[n]? = some c)
    (ho : c.outcome = none) (own : Context.Event) :
    fo.fleet.taken? n (.context n own) = c.draft? own := by
  have hopen := (h.fleet.contexts n c hc).isOpen ho
  unfold Fleet.taken?
  dsimp only
  rw [if_pos rfl, hc, Option.bind_some, if_pos hopen]

/-- The stage of a settled run takes nothing if the run has completed. -/
theorem taken_of_completed (h : fo.Sound) {n : Nat} {c : Context} {o : Run.Outcome}
    (hc : fo.fleet.contexts[n]? = some c) (ho : c.outcome = some o) (hs : o.status = .completed)
    (e : Event) : fo.fleet.taken? n e = none := by
  have hclosed := (h.fleet.contexts n c hc).closed o ho hs
  cases e with
  | context m own =>
    unfold Fleet.taken?
    dsimp only
    split
    · rw [hc, Option.bind_some, hclosed]
      rfl
    · rfl
  | _ => rfl

/-- The stage of a run that still goes on after an event of its context holds what its drafts
leave. -/
theorem stage_of_own (h : fo.Sound) (ops : SinkOps σ) (hasAttachments : Bool) (now : Nat) {n : Nat}
    {c : Context} (hc : fo.fleet.contexts[n]? = some c) (ho : c.outcome = none) (own : Context.Event)
    (hd : (Context.happen ops hasAttachments own (fo.fleet.scene now n c)).context.outcome = none) :
    (Context.happen ops hasAttachments own (fo.fleet.scene now n c)).context.stage.writes =
      Draft.staged c.instanceId (fo.staged n ++ (c.draft? own).toList) := by
  have hs := h.fleet.contexts n c hc
  have hopen := hs.isOpen ho
  have hwrites := h.stage n c hc ho
  have hsame : c.stage.writes = Draft.staged c.instanceId (fo.staged n ++ (none : Option Draft).toList) := by
    rw [Option.toList_none, List.append_nil]
    exact hwrites
  unfold Context.happen at hd ⊢
  by_cases ha : c.admits own = true
  · have hadmits : (fo.fleet.scene now n c).context.admits own = true := ha
    rw [if_pos hadmits] at hd ⊢
    rcases Context.step_cases (s := fo.fleet.scene now n c) hs ops hasAttachments ha with
      hq | ⟨raw, rfl, -, -, he⟩
    · have hstage : _ = c.stage.offered (c.draft? own) := hq.stage hd
      rw [hstage]
      cases c.draft? own with
      | none => exact hsame
      | some d =>
        have hadd : c.stage.offered (some d) = c.stage.add d := if_pos hopen
        rw [hadd, Option.toList_some, Draft.staged_concat, ← hwrites, ← hs.stage.instanceId_eq]
        rfl
    · -- the sink has failed, and the run goes on as it was
      rw [he] at hd ⊢
      rcases Context.complete_of_mayCommit (s := fo.fleet.scene now n c) ops hs.begun ho
        (h.fleet.mayCommit hc ho) with hdone | hkept
      · rw [hdone] at hd
        cases hd
      · rw [hkept]
        exact hsame
  · have hadmits : ¬(fo.fleet.scene now n c).context.admits own = true := ha
    rw [if_neg hadmits, Chronicle.Ledger.draft?_of_not_admits ha]
    exact hsame

/-- After every event the stage of a run that goes on holds what its drafts leave. -/
theorem stage_step (h : fo.Sound) (ops : SinkOps σ) (hasAttachments : Bool) (now : Nat) (e : Event)
    {n : Nat} {d : Context} (hd : (fo.fleet.step ops hasAttachments now e).contexts[n]? = some d)
    (ho : d.outcome = none) : d.stage.writes =
      Draft.staged d.instanceId (fo.staged n ++ (fo.fleet.taken? n e).toList) := by
  rcases h.fleet.goesOn_step ops hasAttachments now e hd ho with
    ⟨hn, i, spec, rfl, rfl⟩ | ⟨hc, hother⟩ | ⟨c, own, rfl, hc, hco, hown⟩
  · have hnone : fo.fleet.taken? n (.start i spec) = none := taken_of_other fun _ => nofun
    rw [hnone, h.fresh n (Nat.le_of_eq hn.symm)]
    rfl
  · rw [taken_of_other hother, Option.toList_none, List.append_nil]
    exact h.stage n d hc ho
  · have hlaw := Context.lawful_happen (s := fo.fleet.scene now n c) (h.fleet.contexts n c hc) ops
      hasAttachments own
    have hi : d.instanceId = c.instanceId := by
      rw [hown]
      exact hlaw.instanceId
    rw [h.taken_of_own hc hco, hi]
    rw [hown] at ho ⊢
    exact h.stage_of_own ops hasAttachments now hc hco own ho

/-- After every event the outcome of a completed run lists the ids of its drafts. -/
theorem listed_step (h : fo.Sound) (ops : SinkOps σ) (hasAttachments : Bool) (now : Nat) (e : Event)
    {n : Nat} {d : Context} {o : Run.Outcome}
    (hd : (fo.fleet.step ops hasAttachments now e).contexts[n]? = some d) (ho : d.outcome = some o)
    (hs : o.status = .completed) : o.artifacts =
      (Draft.keys d.instanceId (fo.staged n ++ (fo.fleet.taken? n e).toList)).map Key.id := by
  cases hc : fo.fleet.contexts[n]? with
  | none =>
    obtain ⟨-, i, spec, -, rfl⟩ := Fleet.eq_opening_of_born ops hasAttachments now e hc hd
    cases ho
  | some c =>
    obtain ⟨b, hb, hi, hkeep⟩ := h.fleet.keeps_step ops hasAttachments now e n c hc
    cases hb.symm.trans hd
    rw [hi]
    cases hco : c.outcome with
    | some p =>
      have hp : p = o := by
        have hsame := hkeep (by rw [hco]; rfl)
        rw [ho, hco] at hsame
        exact (Option.some.inj hsame).symm
      rw [hp] at hco
      rw [h.taken_of_completed hc hco hs, Option.toList_none, List.append_nil]
      exact h.listed n c o hc hco hs
    | none =>
      obtain ⟨raw, rfl, -, hstep⟩ :=
        h.fleet.completes_step ops hasAttachments now e hc hco hd ho hs
      have htaken : fo.fleet.taken? n (.context n (.message raw)) = none :=
        (h.taken_of_own hc hco (.message raw)).trans rfl
      rw [htaken, Option.toList_none, List.append_nil, ← h.ids_eq hc hco]
      rw [hstep, Fleet.getElem?_within hc, if_pos rfl] at hd
      cases hd
      have hsound := h.fleet.contexts n c hc
      rcases Context.complete_of_mayCommit (s := fo.fleet.scene now n c) ops hsound.begun hco
        (h.fleet.mayCommit hc hco) with hdone | hkept
      · cases hdone.symm.trans ho
        rfl
      · rw [hkept] at ho
        cases hco.symm.trans ho

/-- Every event leaves a sound folio. -/
theorem step (h : fo.Sound) (ops : SinkOps σ) (hasAttachments : Bool) (now : Nat) (e : Event) :
    (Folio.step ops hasAttachments now fo e).Sound := by
  refine ⟨h.fleet.step ops hasAttachments now e, ?_, ?_, ?_⟩
  · intro n d hd ho
    exact h.stage_step ops hasAttachments now e hd ho
  · intro n hn
    have hle := Fleet.length_le_step ops hasAttachments now fo.fleet e
    have hold : fo.fleet.contexts.length ≤ n := Nat.le_trans hle hn
    have htaken : fo.fleet.taken? n e = none := by
      cases e with
      | context m own =>
        unfold Fleet.taken?
        dsimp only
        rw [List.getElem?_eq_none hold]
        split
        · rfl
        · rfl
      | _ => rfl
    change fo.staged n ++ (fo.fleet.taken? n e).toList = []
    rw [htaken, h.fresh n hold]
    rfl
  · intro n d o hd ho hs
    exact h.listed_step ops hasAttachments now e hd ho hs

/-- Operations leave a sound folio. -/
theorem run (h : fo.Sound) (ops : SinkOps σ) (hasAttachments : Bool)
    (operations : List (Nat × Operation)) : (Folio.run ops hasAttachments fo operations).Sound := by
  induction operations generalizing fo with
  | nil => exact h
  | cons o rest ih =>
    have hnext : (operate ops hasAttachments o.1 fo o.2).Sound := by
      rw [operate_eq]
      split
      · exact h.step ops hasAttachments o.1 _
      · exact h
    exact ih hnext

end Sound

/-- Every instance has at most one run that goes on, and this one can write. -/
structure SoleWriter (ops : SinkOps σ) (fo : Folio σ) : Prop where
  /-- A run that goes on is that of the context of record of its instance, and its stage is
  open. -/
  record : ∀ (n : Nat) (c : Context), fo.fleet.contexts[n]? = some c → c.outcome = none →
    fo.fleet.contextOf? c.instanceId = some (n, c) ∧ c.stage.isOpen = true
  /-- No instance has two runs that go on. -/
  single : ∀ (m n : Nat) (c d : Context), fo.fleet.contexts[m]? = some c →
    fo.fleet.contexts[n]? = some d → c.outcome = none → d.outcome = none →
    c.instanceId = d.instanceId → m = n
  /-- A report of the end does nothing in a context that may not commit, so that no commit is
  ever found to be stale. -/
  stale : ∀ (n : Nat) (c : Context) (now : Nat) (report : Message.Done),
    fo.fleet.contexts[n]? = some c → fo.fleet.gallery.mayCommit c.stage (some n) = false →
    Context.onDone ops report (fo.fleet.scene now n c) = fo.fleet.scene now n c
  /-- The outcome of a completed run lists the ids of the drafts that its stage took, and no
  others. -/
  lists : ∀ (n : Nat) (c : Context) (o : Run.Outcome), fo.fleet.contexts[n]? = some c →
    c.outcome = some o → o.status = .completed →
    o.artifacts = (Draft.keys c.instanceId (fo.staged n)).map Key.id ∧
      ∀ d ∈ fo.staged n, (d.key c.instanceId).id ∈ o.artifacts

/-- A sound folio has sole writers. -/
theorem Sound.soleWriter (h : fo.Sound) (ops : SinkOps σ) : fo.SoleWriter ops := by
  refine ⟨?record, ?single, ?stale, ?lists⟩
  case record =>
    intro n c hc ho
    have hrecord := h.fleet.current n c hc ho
    refine ⟨?_, (h.fleet.contexts n c hc).isOpen ho⟩
    unfold Fleet.contextOf?
    simp [hrecord, hc]
  case single =>
    intro m n c d hc hd hco hdo hi
    have hm := h.fleet.current m c hc hco
    have hn := h.fleet.current n d hd hdo
    rw [hi, hn] at hm
    exact (Option.some.inj hm).symm
  case stale =>
    intro n c now report hc hm
    have hsettled : (fo.fleet.scene now n c).context.outcome.isSome = true := by
      cases ho : c.outcome with
      | none => exact absurd ((h.fleet.mayCommit hc ho).symm.trans hm) nofun
      | some o =>
        change c.outcome.isSome = true
        rw [ho]
        rfl
    unfold Context.onDone
    rw [if_pos hsettled]
  case lists =>
    intro n c o hc ho hs
    have hlisted := h.listed n c o hc ho hs
    refine ⟨hlisted, fun d hd => ?_⟩
    have hkey : d.key c.instanceId ∈ Draft.keys c.instanceId (fo.staged n) :=
      (Draft.mem_keys_iff c.instanceId (fo.staged n) _).mpr ⟨d, hd, rfl⟩
    rw [hlisted]
    exact List.mem_map_of_mem hkey

/-- However operations and events come one after the other, every instance has at most one run
that goes on, and this one can write. -/
theorem soleWriter_run (ops : SinkOps σ) (hasAttachments : Bool) (sink : σ) (console : Option Console)
    (defaultTimeoutMs : Int) (operations : List (Nat × Operation)) :
    (run ops hasAttachments (empty sink console defaultTimeoutMs) operations).SoleWriter ops :=
  ((sound_empty sink console defaultTimeoutMs).run ops hasAttachments operations).soleWriter ops

end Folio

end ChartScript
