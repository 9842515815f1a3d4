import ChartScript.Proofs.Artifact.Apart
import ChartScript.Proofs.Fleet.Completion
/-!
# What a fleet shows

The artifacts of an instance over a whole run of a fleet on the sink in memory. Beside the
fleet a chronicle notes which drafts every stage took and when every instance was removed.
What the sink holds under the prefix of an instance is then what the drafts of its latest
completed run since that removal leave, and only a completion or a removal changes it.
-/

namespace ChartScript

open Artifact (Sink Stage Draft Key Content Gallery Registry Apart ownPrefix startsWith)
open Context (Scene)

namespace Fleet

variable {σ : Type}

/-- The draft that the stage of a context takes at an event: one that is offered to it
while it is open. -/
def taken? (f : Fleet σ) (n : Nat) : Event → Option Draft
  | .context m e =>
    if m = n then (f.contexts[n]?).bind fun c => if c.stage.isOpen then c.draft? e else none
    else none
  | _ => none

/-- Whether an event removes a registered instance. -/
def removes (f : Fleet σ) (i : String) : Event → Bool
  | .remove j => i = j && f.registry.has i
  | .shutdown => f.registry.has i
  | _ => false

/-- Whether an event starts, if anything, one of some instances. -/
def Event.startsIn (among : String → Prop) : Event → Prop
  | .start i _ => among i
  | _ => True

/-- The fleet that has neither a record nor artifacts of an instance. -/
def wiped (i : String) (f : Fleet Sink) : Fleet Sink :=
  { f with gallery :=
    ⟨(f.registry.modify i fun r => { r with artifacts := [] }).remove i,
      f.gallery.sink.without (ownPrefix i) Plot.Kind.all⟩ }

/-- A removal from the sink in memory kills, wipes and never fails. -/
theorem remove_memory (f : Fleet Sink) (now : Nat) {i : String} (hi : f.registry.has i = true) :
    f.remove Sink.ops now i = ((f.stop now i removedText).wiped i, .ok true) := by
  obtain ⟨total, hc⟩ := (f.stop now i removedText).gallery.clear_memory i
  unfold remove
  rw [if_pos hi, terminate_fst]
  dsimp only
  rw [hc]
  rfl

/-- Nothing is removed with an instance that is not registered. -/
theorem remove_of_not_has (f : Fleet Sink) (now : Nat) {i : String}
    (hi : f.registry.has i = false) : f.remove Sink.ops now i = (f, .ok false) := by
  unfold remove
  rw [hi]
  rfl

/-- The records that are left when an instance is wiped. -/
theorem get?_wiped (f : Fleet Sink) (i j : String) :
    (f.wiped i).registry.get? j = if j = i then none else f.registry.get? j := by
  change (Registry.remove _ i).get? j = _
  rw [Registry.get?_remove, Registry.get?_modify]
  by_cases hj : j = i
  · rw [if_pos hj, if_pos hj]
  · rw [if_neg hj, if_neg hj, if_neg hj]

end Fleet

/-- A fleet with the sink in memory and what is noted of its run. -/
structure Chronicle where
  /-- The fleet. -/
  fleet : Fleet Sink
  /-- The drafts that the stage of each context took, in order. -/
  staged : Nat → List Draft
  /-- How many contexts there were when each instance was removed last. -/
  born : String → Nat

namespace Chronicle

/-- The chronicle before the first event. -/
def empty (console : Option Console) (defaultTimeoutMs : Int) : Chronicle :=
  ⟨.empty .empty console defaultTimeoutMs, fun _ => [], fun _ => 0⟩

/-- The chronicle after an event at a moment. -/
def step (hasAttachments : Bool) (now : Nat) (ch : Chronicle) (e : Fleet.Event) : Chronicle where
  fleet := ch.fleet.step Sink.ops hasAttachments now e
  staged n := ch.staged n ++ (ch.fleet.taken? n e).toList
  born i := if ch.fleet.removes i e then ch.fleet.contexts.length else ch.born i

/-- The chronicle after events, each at its moment. -/
def run (hasAttachments : Bool) (ch : Chronicle) (events : List (Nat × Fleet.Event)) : Chronicle :=
  events.foldl (fun ch e => step hasAttachments e.1 ch e.2) ch

/-- The fleet of a chronicle is that of the run. -/
theorem fleet_run (hasAttachments : Bool) (ch : Chronicle) (events : List (Nat × Fleet.Event)) :
    (run hasAttachments ch events).fleet = ch.fleet.run Sink.ops hasAttachments events := by
  induction events generalizing ch with
  | nil => rfl
  | cons e rest ih => exact ih (step hasAttachments e.1 ch e.2)

/-- A context of an instance completed, and was started after the last removal of the
instance. -/
def Completed (ch : Chronicle) (i : String) (n : Nat) : Prop :=
  ch.born i ≤ n ∧ ∃ c o, ch.fleet.contexts[n]? = some c ∧ c.instanceId = i ∧
    c.outcome = some o ∧ o.status = .completed

/-- The latest context of an instance that completed since its last removal. -/
def Latest (ch : Chronicle) (i : String) (n : Nat) : Prop :=
  ch.Completed i n ∧ ∀ m, ch.Completed i m → m ≤ n

/-- The drafts whose artifacts are to be seen: those of the latest completed run. -/
def Published (ch : Chronicle) (i : String) (drafts : List Draft) : Prop :=
  (∃ n, ch.Latest i n ∧ drafts = ch.staged n) ∨ (∀ n, ¬ch.Completed i n) ∧ drafts = []

/-- The same drafts are published while the completed runs and their drafts are the same. -/
theorem Published.congr {ch next : Chronicle} {i : String} {drafts : List Draft}
    (h : ch.Published i drafts) (hc : ∀ n, next.Completed i n ↔ ch.Completed i n)
    (hs : ∀ n, ch.Completed i n → next.staged n = ch.staged n) : next.Published i drafts := by
  rcases h with ⟨n, hn, rfl⟩ | ⟨hn, rfl⟩
  · refine .inl ⟨n, ⟨(hc n).mpr hn.1, fun m hm => hn.2 m ((hc m).mp hm)⟩, (hs n hn.1).symm⟩
  · exact .inr ⟨fun n hm => hn n ((hc n).mp hm), rfl⟩

/-- Only one list of drafts is published. -/
theorem Published.unique {ch : Chronicle} {i : String} {first second : List Draft}
    (h : ch.Published i first) (k : ch.Published i second) : first = second := by
  rcases h with ⟨n, hn, rfl⟩ | ⟨hn, rfl⟩ <;> rcases k with ⟨m, hm, rfl⟩ | ⟨hm, rfl⟩
  · rw [Nat.le_antisymm (hm.2 n hn.1) (hn.2 m hm.1)]
  · exact absurd hn.1 (hm n)
  · exact absurd hm.1 (hn m)
  · rfl

/-- A completed run stays completed while nothing is removed. -/
theorem Completed.mono {ch next : Chronicle} {i : String} {n : Nat} (h : ch.Completed i n)
    (hb : next.born i = ch.born i) (hk : ch.fleet.Keeps next.fleet) : next.Completed i n := by
  obtain ⟨hle, c, o, hc, hci, hco, ho⟩ := h
  obtain ⟨d, hd, hdi, hdo⟩ := hk n c hc
  refine ⟨hb.symm ▸ hle, d, o, hd, hdi.trans hci, ?_, ho⟩
  rw [hdo (by rw [hco]; rfl), hco]

/-- The completed runs are the same when every context that is completed was completed
before. -/
theorem completed_iff {ch next : Chronicle} {i : String} (hb : next.born i = ch.born i)
    (hk : ch.fleet.Keeps next.fleet)
    (hn : ∀ (n : Nat) (d : Context) (o : Run.Outcome), next.fleet.contexts[n]? = some d →
      d.instanceId = i → d.outcome = some o → o.status = .completed →
      ∃ c, ch.fleet.contexts[n]? = some c ∧ c.outcome = some o) (n : Nat) :
    next.Completed i n ↔ ch.Completed i n := by
  refine ⟨?_, fun h => h.mono hb hk⟩
  rintro ⟨hle, d, o, hd, hdi, hdo, ho⟩
  obtain ⟨c, hc, hco⟩ := hn n d o hd hdi hdo ho
  obtain ⟨e, he, hei, -⟩ := hk n c hc
  rw [hd] at he
  cases he
  exact ⟨hb ▸ hle, c, o, hc, hei.symm.trans hdi, hco, ho⟩

end Chronicle

end ChartScript
