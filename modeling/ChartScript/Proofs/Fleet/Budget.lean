import ChartScript.Proofs.Host.Answer
import ChartScript.Proofs.System.Instruction
/-!
# The budgets of a fleet

Nothing that happens to a context changes what it runs, and the record of an instance names what
its context of record runs. So whether every budget is positive is decided by the requests that
start contexts. A specification that is made is checked, and one that cannot be made changes
nothing. A rerun takes the specification of the record, and puts another budget into it as it is:
the budgets of a fleet are all positive exactly if every budget that a rerun brought was.
-/

namespace ChartScript

open Artifact (SinkOps Gallery Registry Record)
open Context (Scene)

namespace Context

variable {κ σ : Type} {s : Scene κ σ}

/-- The creation of the process leaves what is run as it is. -/
theorem spec_created (s : Scene κ σ) : (created s).context.spec = s.context.spec := by
  unfold created
  dsimp only
  split
  · refine (withheld_settle _ _).spec.trans ?_
    exact (withheld_kill _).spec
  · unfold Scene.mapContext send
    dsimp only
    repeat' split
    all_goals rfl

/-- An answer leaves what is run as it is. -/
theorem spec_reply (errand : Errand) (answer : Except Failure Wire) (s : Scene κ σ) :
    (reply errand answer s).context.spec = s.context.spec := by
  obtain ⟨message, -, he⟩ := reply_context errand answer s
  rw [he]
  unfold Scene.mapContext send
  dsimp only
  repeat' split
  all_goals rfl

/-- Looking at a call leaves what is run as it is. -/
theorem spec_serve (hasAttachments : Bool) (number : Nat) (s : Scene κ σ) :
    (serve hasAttachments number s).context.spec = s.context.spec := by
  unfold serve
  split
  · rename_i request _
    rcases attend_cases hasAttachments ⟨number, request, none⟩ s with ⟨answer, he⟩ | ⟨-, fetch, he⟩
    · rw [he]
      exact spec_reply _ answer _
    · rw [he]
      rfl
  · rfl

variable [DecidableEq κ]

/-- A message leaves what is run as it is. -/
theorem spec_onMessage (ops : SinkOps σ) (raw : Wire) (s : Scene κ σ) :
    (onMessage ops raw s).context.spec = s.context.spec := by
  unfold onMessage
  split
  · rfl
  · split
    · rfl
    · unfold onStarted
      split <;> rfl
    · rfl
    · rename_i report _
      cases onDone_cases ops report s with
      | stays _ eq => rw [eq]
      | falls _ v _ eq =>
        rw [eq]
        exact (withheld_settle v _).spec
      | succeeds _ _ _ eq =>
        rw [eq]
        rcases complete_cases ops s with ⟨ids, gallery, -, he⟩ | ⟨gallery, he⟩
        · rw [he]
          exact (withheld_settle _ _).spec
        · rw [he]
    · rfl

/-- No event changes what a context runs. -/
theorem spec_happen (ops : SinkOps σ) (hasAttachments : Bool) (e : Event) (s : Scene κ σ) :
    (happen ops hasAttachments e s).context.spec = s.context.spec := by
  unfold happen
  split
  · cases e with
    | begin => rfl
    | created => exact spec_created s
    | message raw => exact spec_onMessage ops raw s
    | serve number => exact spec_serve hasAttachments number s
    | fetched number result =>
      unfold step fetched
      dsimp only
      split
      · exact spec_reply _ _ s
      · rfl
    | died code =>
      unfold step
      dsimp only
      split <;> rfl
    | ended =>
      unfold step
      dsimp only
      split
      · exact (withheld_onEnded s).spec
      · rfl
    | unlinked => rfl
    | timer timer => exact (withheld_onTimer timer s).spec
    | terminate reason => exact (withheld_terminate reason s).spec
  · rfl

/-- A context runs the same all its life. -/
theorem spec_lived (ops : SinkOps σ) (hasAttachments : Bool) (c : Context)
    (moments : List (Moment κ σ)) : (lived ops hasAttachments c moments).spec = c.spec := by
  induction moments generalizing c with
  | nil => rfl
  | cons m rest ih => exact (ih _).trans (spec_happen ops hasAttachments m.event (m.scene c))

end Context

namespace Artifact

variable {κ σ : Type}

/-- What an instance was last asked to run, and its context of record. -/
def Registry.assignment? (registry : Registry κ) (i : String) : Option (Option Run.Spec × Option κ) :=
  (registry.get? i).map fun r => (r.spec, r.context)

/-- A change of a record that keeps its assignment keeps every assignment. -/
theorem Registry.assignment?_modify (registry : Registry κ) (i j : String) {f : Record κ → Record κ}
    (hf : ∀ r, ((f r).spec, (f r).context) = (r.spec, r.context)) :
    (registry.modify i f).assignment? j = registry.assignment? j := by
  unfold assignment?
  rw [get?_modify]
  by_cases hj : j = i
  · subst hj
    rw [if_pos rfl, Option.map_map]
    exact congrArg (Option.map · (registry.get? j)) (funext hf)
  · rw [if_neg hj]

/-- A clear keeps every assignment, also when it fails. -/
theorem Gallery.clear_assignment? (ops : SinkOps σ) (g : Gallery κ σ) (i j : String) :
    (g.clear ops i).1.registry.assignment? j = g.registry.assignment? j := by
  unfold clear
  split
  · rfl
  · exact Registry.assignment?_modify _ i j fun _ => rfl

/-- A commit keeps every assignment, also when it fails. -/
theorem Gallery.commit_assignment? [DecidableEq κ] (ops : SinkOps σ) (g : Gallery κ σ)
    (stage : Stage) (owner : Option κ) (j : String) :
    (g.commit ops stage owner).1.registry.assignment? j = g.registry.assignment? j := by
  have hclear := g.clear_assignment? ops stage.instanceId j
  unfold commit
  split
  · split
    · rename_i he
      rw [he] at hclear
      exact hclear
    · rename_i he
      rw [he] at hclear
      split
      · exact hclear
      · rw [← hclear]
        exact Registry.assignment?_modify _ stage.instanceId j fun _ => rfl
  · rfl

end Artifact

namespace Schema

/-- A field with a default that was accepted holds the default or an accepted value. -/
theorem Source.withDefault_eq_valid {α : Type} {o : Source} {names : List String} {fallback : α}
    {check : Check α} {a : α} (h : o.withDefault names fallback check = .valid a) :
    a = fallback ∨ ∃ w, check w = .valid a := by
  unfold withDefault at h
  split at h
  · rename_i name w _
    cases hc : check w with
    | valid b =>
      rw [hc] at h
      cases h
      exact Or.inr ⟨w, hc⟩
    | invalid vs =>
      rw [hc] at h
      cases h
  · cases h
    exact Or.inl rfl

end Schema

namespace Run.Spec

/-- A specification that is accepted has a positive budget, also when it names none. -/
theorem isValid_of_check {w : Wire} {spec : Spec} (h : check w = .valid spec) : spec.IsValid := by
  cases w with
  | object fields =>
    obtain ⟨ofBudget, budget, hsource, hbudget, rfl⟩ := Schema.Checked.seq_eq_valid h
    obtain ⟨ofSource, source, hframe, -, rfl⟩ := Schema.Checked.seq_eq_valid hsource
    obtain ⟨ofFrame, timeframe, hsymbol, -, rfl⟩ := Schema.Checked.seq_eq_valid hframe
    obtain ⟨symbol, -, rfl⟩ := Schema.Checked.map_eq_valid hsymbol
    rcases Schema.Source.withDefault_eq_valid hbudget with rfl | ⟨w, hw⟩
    · exact (by decide : 0 < defaultTimeoutMs)
    · have hpositive := Schema.of_ensuring hw
      exact of_decide_eq_true hpositive
  | _ => cases h

end Run.Spec

namespace Fleet

variable {σ : Type} {f g : Fleet σ}

/-- Every specification that a record names in the second fleet it names in the first one, for the
same context. -/
def Inherits (f g : Fleet σ) : Prop := ∀ i spec own,
  g.registry.assignment? i = some (some spec, own) → f.registry.assignment? i = some (some spec, own)

/-- The same assignments are inherited. -/
theorem Inherits.of_eq (h : ∀ i, g.registry.assignment? i = f.registry.assignment? i) :
    f.Inherits g := fun i _ _ ha => h i ▸ ha

/-- What is inherited twice is inherited. -/
theorem Inherits.trans {e : Fleet σ} (h : e.Inherits f) (k : f.Inherits g) : e.Inherits g :=
  fun i spec own ha => h i spec own (k i spec own ha)

/-- A newly registered instance has nothing to run yet. -/
theorem inherits_register (i : String) : f.Inherits (f.register i) := by
  intro j spec own ha
  change (f.registry.ensure i).assignment? j = _ at ha
  unfold Registry.assignment? at ha ⊢
  rw [Registry.get?_ensure] at ha
  split at ha
  · rename_i hj
    rw [hj]
    cases hr : f.registry.get? i with
    | none =>
      rw [hr] at ha
      cases ha
    | some r =>
      rw [hr] at ha
      exact ha
  · exact ha

/-- A kill inherits every assignment. -/
theorem Sound.inherits_stop (h : f.Sound) (now : Nat) (i reason : String) :
    f.Inherits (f.stop now i reason) :=
  .of_eq fun j => by unfold registry; rw [h.stop_gallery]

/-- A removal inherits all that it does not remove. -/
theorem Sound.inherits_remove (h : f.Sound) (ops : SinkOps σ) (now : Nat) (i : String) :
    f.Inherits (f.remove ops now i).1 := by
  unfold Fleet.remove
  split
  · rw [terminate_fst]
    have hclear : ∀ j, ((f.stop now i removedText).gallery.clear ops i).1.registry.assignment? j =
        f.registry.assignment? j := by
      intro j
      rw [Gallery.clear_assignment?, h.stop_gallery]
      rfl
    dsimp only
    split
    · rename_i he
      rw [he] at hclear
      exact .of_eq hclear
    · rename_i gallery _ he
      rw [he] at hclear
      intro j spec own ha
      rw [← hclear j]
      change (gallery.registry.remove i).assignment? j = _ at ha
      unfold Registry.assignment? at ha ⊢
      rw [Registry.get?_remove] at ha
      split at ha
      · cases ha
      · exact ha
  · exact .of_eq fun _ => rfl

/-- Removals in turn inherit all that they do not remove. -/
theorem Sound.inherits_removeAll (h : f.Sound) (ops : SinkOps σ) (now : Nat) (ids : List String) :
    f.Inherits (f.removeAll ops now ids).1 := by
  induction ids generalizing f with
  | nil => exact .of_eq fun _ => rfl
  | cons i rest ih =>
    have hs := h.remove ops now i
    have hi := h.inherits_remove ops now i
    unfold Fleet.removeAll
    split
    · rename_i he
      rw [he] at hs hi
      exact hi.trans (ih hs)
    · rename_i he
      rw [he] at hi
      exact hi

/-- What happens to a context leaves every assignment as it is. -/
theorem Sound.inherits_context (h : f.Sound) (ops : SinkOps σ) (hasAttachments : Bool)
    (now n : Nat) (e : Context.Event) :
    f.Inherits (f.within now n (Context.happen ops hasAttachments e)) := by
  cases hc : f.contexts[n]? with
  | none =>
    rw [within_of_none hc]
    exact .of_eq fun _ => rfl
  | some c =>
    refine .of_eq fun i => ?_
    rw [within_of_some hc]
    change (Context.happen ops hasAttachments e (f.scene now n c)).gallery.registry.assignment? i = _
    unfold Context.happen
    split
    · rename_i ha
      rcases Context.step_cases (h.contexts n c hc) ops hasAttachments ha with hq | ⟨-, -, -, -, he⟩
      · rw [hq.gallery]
        rfl
      · rw [he, Context.complete_gallery, Gallery.commit_assignment?]
        rfl
    · rfl

/-- Only a start assigns something new. -/
theorem Sound.inherits_step (h : f.Sound) (ops : SinkOps σ) (hasAttachments : Bool) (now : Nat)
    {e : Event} (he : ∀ i spec, e ≠ .start i spec) :
    f.Inherits (f.step ops hasAttachments now e) := by
  cases e with
  | start i spec => exact absurd rfl (he i spec)
  | terminate i reason =>
    unfold Fleet.step
    dsimp only
    rw [terminate_fst]
    exact h.inherits_stop now i reason
  | remove i => exact h.inherits_remove ops now i
  | shutdown => exact h.inherits_removeAll ops now f.registry.ids
  | context n own => exact h.inherits_context ops hasAttachments now n own

/-- A context runs after every event what it ran before. -/
theorem spec_step (ops : SinkOps σ) (hasAttachments : Bool) (now : Nat) (e : Event) {n : Nat}
    {c : Context} (hc : f.contexts[n]? = some c) :
    ∃ d, (f.step ops hasAttachments now e).contexts[n]? = some d ∧ d.spec = c.spec := by
  obtain ⟨moments, -, hd⟩ := lived_step ops hasAttachments now e hc
  exact ⟨_, hd, Context.spec_lived ops hasAttachments c moments⟩

/-- A start assigns its specification and the new context to its instance. -/
theorem Sound.assignment?_start (h : f.Sound) (now : Nat) (i : String) (spec : Run.Spec) (j : String) :
    (f.start now i spec).1.registry.assignment? j =
      if j = i then some (some spec, some f.contexts.length)
      else (f.retire now i).registry.assignment? j := by
  have hlength : (f.retire now i).contexts.length = f.contexts.length :=
    (f.register i).length_stop now i supersededText
  obtain ⟨r, hr⟩ := Option.isSome_iff_exists.mp (h.isSome_get?_retire now i)
  rw [start_fst]
  change Registry.assignment? (Registry.modify _ _ _) j = _
  unfold Registry.assignment?
  rw [Registry.get?_modify, hlength]
  split
  · rw [hr]
    rfl
  · rfl

/-- What a start does not assign is inherited. -/
theorem Sound.inherits_retire (h : f.Sound) (now : Nat) (i : String) : f.Inherits (f.retire now i) :=
  (inherits_register i).trans ((h.register i).inherits_stop now i supersededText)

/-- Whether what every instance was last asked to run is what its context of record runs. -/
def Assigned (f : Fleet σ) : Prop := ∀ i spec own, f.registry.assignment? i = some (some spec, own) →
  ∃ n c, own = some n ∧ f.contexts[n]? = some c ∧ c.spec = spec

/-- Every event leaves the instances assigned. -/
theorem Sound.assigned_step (h : f.Sound) (k : f.Assigned) (ops : SinkOps σ) (hasAttachments : Bool)
    (now : Nat) (e : Event) : (f.step ops hasAttachments now e).Assigned := by
  -- What was assigned before the event is still run by its context.
  have hold : ∀ i spec own, f.registry.assignment? i = some (some spec, own) →
      ∃ n c, own = some n ∧ (f.step ops hasAttachments now e).contexts[n]? = some c ∧ c.spec = spec := by
    intro i spec own ha
    obtain ⟨n, c, hn, hc, hspec⟩ := k i spec own ha
    obtain ⟨d, hd, hsame⟩ := spec_step ops hasAttachments now e hc
    exact ⟨n, d, hn, hd, hsame.trans hspec⟩
  intro j spec own ha
  by_cases hstart : ∃ i given, e = .start i given
  · obtain ⟨i, given, rfl⟩ := hstart
    change (f.start now i given).1.registry.assignment? j = _ at ha
    rw [h.assignment?_start] at ha
    split at ha
    · cases ha
      exact ⟨f.contexts.length, _, rfl, getElem?_start _ now i _, rfl⟩
    · exact hold j spec own (h.inherits_retire now i j spec own ha)
  · have hother : ∀ i given, e ≠ .start i given := fun i given he => hstart ⟨i, given, he⟩
    exact hold j spec own (h.inherits_step ops hasAttachments now hother j spec own ha)

section Requests

/-- What is asked of a fleet, and what happens to it. -/
inductive Request where
  /-- A specification is to be made, and an instance started or run on it. -/
  | specify (instanceId : String) (source symbol timeframe timeoutMs : Wire)
  /-- An instance is to be started or run on a specification that there is. -/
  | start (instanceId : String) (spec : { spec : Run.Spec // spec.IsValid })
  /-- An instance is to run again what it was last asked to run, with another budget if one is
  given. -/
  | rerun (instanceId : String) (timeoutMs : Option Int)
  /-- The context of record of an instance is to be killed. -/
  | terminate (instanceId reason : String)
  /-- An instance is to be removed. -/
  | remove (instanceId : String)
  /-- Every instance is to be removed. -/
  | shutdown
  /-- Something happens to the context of a number. -/
  | context (number : Nat) (event : Context.Event)

/-- The event that a request comes to, or why it is refused. -/
def eventFor (f : Fleet σ) : Request → Except Failure Event
  | .specify i source symbol timeframe timeoutMs =>
    (f.specify source symbol timeframe timeoutMs).map (.start i)
  | .start i spec => .ok (.start i spec.val)
  | .rerun i timeoutMs => (f.lastSpec i timeoutMs).map (.start i)
  | .terminate i reason => .ok (.terminate i reason)
  | .remove i => .ok (.remove i)
  | .shutdown => .ok .shutdown
  | .context n e => .ok (.context n e)

/-- The fleet after a request at a moment, which is refused or taken. -/
def serve (ops : SinkOps σ) (hasAttachments : Bool) (now : Nat) (f : Fleet σ) (r : Request) :
    Fleet σ × Except Failure Unit :=
  match f.eventFor r with
  | .ok e => (f.step ops hasAttachments now e, .ok ())
  | .error failure => (f, .error failure)

/-- The fleet after requests, each at its moment. -/
def serveAll (ops : SinkOps σ) (hasAttachments : Bool) (f : Fleet σ) (requests : List (Nat × Request)) :
    Fleet σ :=
  requests.foldl (fun f r => (f.serve ops hasAttachments r.1 r.2).1) f

/-- The budget that a request puts into a specification, if it is a rerun that is taken. -/
def override? (f : Fleet σ) : Request → Option Int
  | .rerun i (some budget) => (f.lastSpec i (some budget)).toOption.map Run.Spec.timeoutMs
  | _ => none

/-- The budgets that requests put into specifications. -/
def overrides (ops : SinkOps σ) (hasAttachments : Bool) :
    Fleet σ → List (Nat × Request) → List Int
  | _, [] => []
  | f, r :: rest =>
    (f.override? r.2).toList ++ overrides ops hasAttachments (f.serve ops hasAttachments r.1 r.2).1 rest

/-- Whether all contexts have positive budgets. -/
def Budgeted (f : Fleet σ) : Prop :=
  ∀ (n : Nat) (c : Context), f.contexts[n]? = some c → c.spec.IsValid

/-- A specification that is made has a positive budget. -/
theorem isValid_of_specify {source symbol timeframe timeoutMs : Wire} {spec : Run.Spec}
    (h : f.specify source symbol timeframe timeoutMs = .ok spec) : spec.IsValid := by
  have hmade := ok_of_mapError h
  unfold Schema.Checked.toExcept at hmade
  split at hmade
  · rename_i checked hcheck
    cases hmade
    exact Run.Spec.isValid_of_check hcheck
  · cases hmade

/-- What an instance is asked to run again. -/
theorem lastSpec_eq_ok {i : String} {budget : Option Int} {spec : Run.Spec}
    (h : f.lastSpec i budget = .ok spec) : ∃ last own,
      f.registry.assignment? i = some (some last, own) ∧
        spec = { last with timeoutMs := budget.getD last.timeoutMs } := by
  unfold lastSpec at h
  unfold Registry.assignment?
  cases hr : f.registry.get? i with
  | none =>
    rw [hr] at h
    cases h
  | some r =>
    rw [hr, Option.bind_some] at h
    cases hlast : r.spec with
    | none =>
      rw [hlast] at h
      cases h
    | some last =>
      rw [hlast] at h
      cases h
      exact ⟨last, r.context, by rw [Option.map_some, hlast], rfl⟩

/-- An event leaves all budgets positive exactly if they were, and if it starts nothing with another
one. -/
theorem budgeted_step (ops : SinkOps σ) (hasAttachments : Bool) (now : Nat) (e : Event) :
    (f.step ops hasAttachments now e).Budgeted ↔
      f.Budgeted ∧ ∀ i spec, e = .start i spec → spec.IsValid := by
  constructor
  · intro h
    constructor
    · intro n c hc
      obtain ⟨d, hd, hsame⟩ := spec_step ops hasAttachments now e hc
      exact hsame ▸ h n d hd
    · rintro i spec rfl
      exact h f.contexts.length _ (getElem?_start _ now i spec)
  · rintro ⟨h, hstart⟩ n d hd
    cases hc : f.contexts[n]? with
    | none =>
      obtain ⟨-, i, spec, he, rfl⟩ := eq_opening_of_born ops hasAttachments now e hc hd
      exact hstart i spec he
    | some c =>
      obtain ⟨b, hb, hsame⟩ := spec_step ops hasAttachments now e hc
      cases hb.symm.trans hd
      rw [hsame]
      exact h n c hc

/-- What a request starts has a positive budget exactly if the one that it puts into a
specification, if it does, is positive. -/
theorem Assigned.isValid_started_iff (k : f.Assigned) (h : f.Budgeted) {r : Request} {e : Event}
    (he : f.eventFor r = .ok e) : (∀ i spec, e = .start i spec → spec.IsValid) ↔
      ∀ budget ∈ (f.override? r).toList, 0 < budget := by
  cases r with
  | specify i source symbol timeframe timeoutMs =>
    obtain ⟨made, hmade, rfl⟩ := ok_of_map he
    refine ⟨fun _ _ hm => absurd hm List.not_mem_nil, ?_⟩
    rintro - j spec ⟨⟩
    exact isValid_of_specify hmade
  | start i spec =>
    cases he
    refine ⟨fun _ _ hm => absurd hm List.not_mem_nil, ?_⟩
    rintro - j given ⟨⟩
    exact spec.property
  | rerun i budget =>
    obtain ⟨again, hagain, rfl⟩ := ok_of_map he
    obtain ⟨last, own, hlast, rfl⟩ := lastSpec_eq_ok hagain
    cases budget with
    | none =>
      -- Without an override it runs what a context runs already.
      refine ⟨fun _ _ hm => absurd hm List.not_mem_nil, ?_⟩
      rintro - j spec ⟨⟩
      obtain ⟨n, c, -, hc, rfl⟩ := k i last own hlast
      exact h n c hc
    | some budget =>
      have hover : (f.override? (.rerun i (some budget))).toList = [budget] := by
        unfold override?
        dsimp only
        rw [hagain]
        rfl
      rw [hover]
      constructor
      · intro hvalid t ht
        rw [List.mem_singleton.mp ht]
        exact hvalid i _ rfl
      · rintro hpositive j spec ⟨⟩
        exact hpositive budget (List.mem_singleton_self budget)
  | _ =>
    cases he
    exact ⟨fun _ _ hm => absurd hm List.not_mem_nil, fun _ _ _ => nofun⟩

/-- A request that is refused puts no budget into a specification. -/
theorem override?_of_refused {r : Request} {failure : Failure} (h : f.eventFor r = .error failure) :
    f.override? r = none := by
  unfold override?
  split
  · rename_i i budget
    unfold eventFor at h
    dsimp only at h
    cases hlast : f.lastSpec i (some budget) with
    | ok spec =>
      rw [hlast] at h
      cases h
    | error _ => rfl
  · rfl

/-- A request leaves all budgets positive exactly if they were, and if the one that it puts into a
specification, if it does, is. -/
theorem Assigned.budgeted_serve (k : f.Assigned) (ops : SinkOps σ) (hasAttachments : Bool) (now : Nat)
    (r : Request) : (f.serve ops hasAttachments now r).1.Budgeted ↔
      f.Budgeted ∧ ∀ budget ∈ (f.override? r).toList, 0 < budget := by
  unfold serve
  cases he : f.eventFor r with
  | ok e =>
    dsimp only
    rw [budgeted_step]
    exact and_congr_right fun h => k.isValid_started_iff h he
  | error failure =>
    rw [override?_of_refused he]
    exact ⟨fun h => ⟨h, fun _ hm => absurd hm List.not_mem_nil⟩, And.left⟩

/-- A request leaves a sound fleet whose instances are assigned. -/
theorem Sound.assigned_serve (h : f.Sound) (k : f.Assigned) (ops : SinkOps σ) (hasAttachments : Bool)
    (now : Nat) (r : Request) : (f.serve ops hasAttachments now r).1.Sound ∧
      (f.serve ops hasAttachments now r).1.Assigned := by
  unfold serve
  split
  · exact ⟨h.step ops hasAttachments now _, h.assigned_step k ops hasAttachments now _⟩
  · exact ⟨h, k⟩

/-- Requests leave a sound fleet whose instances are assigned, and all budgets positive exactly if
they were, and if those that were put into specifications are. -/
theorem Sound.budgeted_serveAll (h : f.Sound) (k : f.Assigned) (ops : SinkOps σ) (hasAttachments : Bool)
    (requests : List (Nat × Request)) : (f.serveAll ops hasAttachments requests).Sound ∧
      (f.serveAll ops hasAttachments requests).Assigned ∧
        ((f.serveAll ops hasAttachments requests).Budgeted ↔
          f.Budgeted ∧ ∀ budget ∈ f.overrides ops hasAttachments requests, 0 < budget) := by
  induction requests generalizing f with
  | nil => exact ⟨h, k, fun hb => ⟨hb, fun _ hm => absurd hm List.not_mem_nil⟩, And.left⟩
  | cons r rest ih =>
    obtain ⟨hnext, knext⟩ := h.assigned_serve k ops hasAttachments r.1 r.2
    obtain ⟨hsound, hassigned, hiff⟩ := ih hnext knext
    refine ⟨hsound, hassigned, hiff.trans ?_⟩
    rw [k.budgeted_serve, and_assoc]
    simp only [overrides, List.forall_mem_append]

end Requests

/-- What holds of the budgets of a fleet that took certain budgets from reruns. -/
structure Budgets (ops : SinkOps σ) (hasAttachments : Bool) (f : Fleet σ) (taken : List Int) : Prop where
  /-- The budgets of all contexts are positive exactly if all those that reruns brought are. -/
  contexts : (∀ (n : Nat) (c : Context), f.contexts[n]? = some c → c.spec.IsValid) ↔
    ∀ budget ∈ taken, 0 < budget
  /-- So are those of all records. -/
  records : (∀ budget ∈ taken, 0 < budget) → ∀ i r spec, f.registry.get? i = some r →
    r.spec = some spec → spec.IsValid
  /-- The specification of a record is the one that its context of record runs. -/
  same : ∀ i r spec, f.registry.get? i = some r → r.spec = some spec →
    ∃ n c, r.context = some n ∧ f.contexts[n]? = some c ∧ c.spec = spec
  /-- When a specification is to be made, an instance is started on a valid one, or the request is
  refused and changes nothing. -/
  made : ∀ now i source symbol timeframe timeoutMs,
    (∃ spec : Run.Spec, spec.IsValid ∧
      f.serve ops hasAttachments now (.specify i source symbol timeframe timeoutMs) =
        ((f.start now i spec).1, .ok ())) ∨
    ∃ failure, f.serve ops hasAttachments now (.specify i source symbol timeframe timeoutMs) =
      (f, .error failure)
  /-- A rerun of an instance that was asked to run something is never refused: whatever budget it
  brings is that of the next context, and of the record. -/
  rerun : ∀ now i r spec budget, f.registry.get? i = some r → r.spec = some spec →
    ∃ c s, (f.serve ops hasAttachments now (.rerun i (some budget))).2 = .ok () ∧
      (f.serve ops hasAttachments now (.rerun i (some budget))).1.contexts[f.contexts.length]? = some c ∧
      c.spec = { spec with timeoutMs := budget } ∧
      (f.serve ops hasAttachments now (.rerun i (some budget))).1.registry.get? i = some s ∧
      s.spec = some { spec with timeoutMs := budget }

/-- However requests and events come one after the other, the budgets of a fleet are all positive
exactly if every budget that a rerun brought was: specifications are checked when they are made, but
not when they are given another budget. -/
theorem budgets_serveAll (ops : SinkOps σ) (hasAttachments : Bool) (sink : σ) (console : Option Console)
    (defaultTimeoutMs : Int) (requests : List (Nat × Request)) :
    Budgets ops hasAttachments
      ((empty sink console defaultTimeoutMs).serveAll ops hasAttachments requests)
      ((empty sink console defaultTimeoutMs).overrides ops hasAttachments requests) := by
  have hassigned : (empty sink console defaultTimeoutMs).Assigned := by
    intro i spec own ha
    cases ha
  have hnone : (empty sink console defaultTimeoutMs).Budgeted := by
    intro n c hc
    cases hc
  obtain ⟨h, k, hiff⟩ := (sound_empty sink console defaultTimeoutMs).budgeted_serveAll hassigned ops
    hasAttachments requests
  generalize (empty sink console defaultTimeoutMs).serveAll ops hasAttachments requests = f at h k hiff ⊢
  generalize (empty sink console defaultTimeoutMs).overrides ops hasAttachments requests = taken at hiff ⊢
  rw [and_iff_right hnone] at hiff
  have hsame : ∀ i r spec, f.registry.get? i = some r → r.spec = some spec →
      ∃ n c, r.context = some n ∧ f.contexts[n]? = some c ∧ c.spec = spec := by
    intro i r spec hr hspec
    refine k i spec r.context ?_
    unfold Registry.assignment?
    rw [hr, Option.map_some, hspec]
  refine ⟨hiff, ?records, hsame, ?made, ?rerun⟩
  case records =>
    intro hpositive i r spec hr hspec
    obtain ⟨n, c, -, hc, rfl⟩ := hsame i r spec hr hspec
    exact hiff.mpr hpositive n c hc
  case made =>
    intro now i source symbol timeframe timeoutMs
    unfold serve eventFor
    dsimp only
    cases hmade : f.specify source symbol timeframe timeoutMs with
    | ok spec => exact .inl ⟨spec, isValid_of_specify hmade, rfl⟩
    | error failure => exact .inr ⟨failure, rfl⟩
  case rerun =>
    intro now i r spec budget hr hspec
    have hlast : f.lastSpec i (some budget) = .ok { spec with timeoutMs := budget } := by
      unfold lastSpec
      rw [hr, Option.bind_some, hspec]
      rfl
    have hserve : f.serve ops hasAttachments now (.rerun i (some budget)) =
        ((f.start now i { spec with timeoutMs := budget }).1, .ok ()) := by
      unfold serve eventFor
      dsimp only
      rw [hlast]
      rfl
    have hassignment := h.assignment?_start now i { spec with timeoutMs := budget } i
    rw [if_pos rfl] at hassignment
    obtain ⟨s, hs, hassigned⟩ := Option.map_eq_some_iff.mp hassignment
    rw [hserve]
    exact ⟨_, s, rfl, getElem?_start _ now i _, rfl, hs, congrArg Prod.fst hassigned⟩

end Fleet

end ChartScript
