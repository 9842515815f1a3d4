import ChartScript.Proofs.Fleet.Chronicle
/-!
# The ledger of a chronicle

The invariant that ties together the registry, the contexts of record, their stages and
outcomes, and the sink: at every moment each instance shows the drafts that it has
published. It is kept by everything that can happen, in any order, as long as no prefix of
an instance begins with that of another one.
-/

namespace ChartScript.Chronicle

open Artifact (Sink Stage Draft Key Gallery Registry Apart ownPrefix startsWith)
open Context (Scene)
open Fleet (Completes)

/-- Instances that are apart from each other. -/
def PrefixFree (among : String → Prop) : Prop := ∀ i j, among i → among j → j ≠ i → Apart i j

/-- The sink and the record of an instance show exactly what some drafts leave. -/
structure Shows (g : Gallery Nat Sink) (i : String) (drafts : List Draft) : Prop where
  /-- Under the prefix of the instance lies the content of the last draft of each key. -/
  entries : ∀ k : Key, startsWith (ownPrefix i) k.id = true →
    g.sink.get? k = Draft.last? i drafts k
  /-- The record of the instance lists the ids. -/
  artifacts : ∀ r, g.registry.get? i = some r →
    r.artifacts = ((Draft.keys i drafts).map Key.id).eraseDups

/-- What holds of a chronicle at every moment of a run over some instances. -/
structure Ledger (among : String → Prop) (ch : Chronicle) : Prop where
  /-- The fleet is sound. -/
  sound : ch.fleet.Sound
  /-- Every id stands once in the sink. -/
  keyed : ch.fleet.gallery.sink.Keyed
  /-- Only some instances are registered. -/
  members : ∀ i r, ch.fleet.registry.get? i = some r → among i
  /-- The stage of a run that goes on holds what its drafts leave. -/
  stage : ∀ (n : Nat) (c : Context), ch.fleet.contexts[n]? = some c → c.outcome = none →
    c.stage.writes = Draft.staged c.instanceId (ch.staged n)
  /-- A context that there is not has no drafts. -/
  fresh : ∀ n, ch.fleet.contexts.length ≤ n → ch.staged n = []
  /-- No instance was removed after a context that there is not yet. -/
  born_le : ∀ i, ch.born i ≤ ch.fleet.contexts.length
  /-- The context of record was started after the last removal. -/
  current : ∀ i n, ch.fleet.registry.contextOf? i = some n → ch.born i ≤ n
  /-- An instance that completed a run since its last removal is registered. -/
  registered : ∀ i n, ch.Completed i n → (ch.fleet.registry.get? i).isSome = true
  /-- The outcome of a completed run lists the ids of its drafts. -/
  listed : ∀ (n : Nat) (c : Context) (o : Run.Outcome), ch.fleet.contexts[n]? = some c →
    c.outcome = some o → o.status = .completed →
    o.artifacts = (Draft.keys c.instanceId (ch.staged n)).map Key.id
  /-- Every one of the instances shows what it has published. -/
  shows : ∀ i, among i → ∃ drafts, ch.Published i drafts ∧ Shows ch.fleet.gallery i drafts

namespace Ledger

variable {among : String → Prop} {ch : Chronicle}

/-- What every stage took once a context was offered a draft. -/
def offeredTo (ch : Chronicle) (n : Nat) (c : Context) (draft : Option Draft) (m : Nat) : List Draft :=
  ch.staged m ++ (if n = m then if c.stage.isOpen then draft else none else none).toList

/-- An offer changes none of the drafts of a completed run. -/
theorem offeredTo_of_completed (h : Ledger among ch) {n : Nat} {c : Context}
    (hc : ch.fleet.contexts[n]? = some c) (draft : Option Draft) {m : Nat} {d : Context}
    {o : Run.Outcome} (hd : ch.fleet.contexts[m]? = some d) (ho : d.outcome = some o)
    (hs : o.status = .completed) : offeredTo ch n c draft m = ch.staged m := by
  unfold offeredTo
  by_cases hnm : n = m
  · subst hnm
    rw [hc] at hd
    cases hd
    have hopen := (h.sound.contexts n c hc).closed o ho hs
    rw [if_pos rfl, hopen]
    simp
  · rw [if_neg hnm]
    simp

/-- The stage of a run that goes on after a quiet change holds what its drafts leave. -/
theorem writes_of_quiet (h : Ledger among ch) {n : Nat} {c : Context}
    (hc : ch.fleet.contexts[n]? = some c) {now : Nat} {t : Scene Nat Sink} {draft : Option Draft}
    (hq : Context.Quiet draft (ch.fleet.scene now n c) t) (ht : t.context.outcome = none) :
    t.context.stage.writes = Draft.staged t.context.instanceId (offeredTo ch n c draft n) := by
  have ho : c.outcome = none := by
    cases ho : c.outcome with
    | none => rfl
    | some o =>
      have hkeep := hq.outcome (by change c.outcome.isSome = true; rw [ho]; rfl)
      rw [ht] at hkeep
      exact absurd (hkeep.trans ho) nofun
  have hs := h.sound.contexts n c hc
  have hopen := hs.isOpen ho
  have hw := h.stage n c hc ho
  have hi : t.context.instanceId = c.instanceId := hq.instanceId
  have hst : t.context.stage = c.stage.offered draft := hq.stage ht
  rw [hst, hi]
  unfold offeredTo
  rw [if_pos rfl, if_pos hopen]
  cases draft with
  | none => simpa using hw
  | some d =>
    have hadd : c.stage.offered (some d) = c.stage.add d := by
      unfold Stage.offered
      exact if_pos hopen
    rw [hadd, Option.toList_some, Draft.staged_concat, ← hw, ← hs.stage.instanceId_eq]
    rfl

/-- A context that is completed after a quiet change of one context was completed before. -/
theorem completed_before {n : Nat} {c : Context}
    (hc : ch.fleet.contexts[n]? = some c) {now : Nat} {act : Scene Nat Sink → Scene Nat Sink}
    {draft : Option Draft}
    (hq : Context.Quiet draft (ch.fleet.scene now n c) (act (ch.fleet.scene now n c)))
    {m : Nat} {d : Context} {o : Run.Outcome}
    (hd : (ch.fleet.within now n act).contexts[m]? = some d) (ho : d.outcome = some o)
    (hs : o.status = .completed) :
    ∃ e, ch.fleet.contexts[m]? = some e ∧ e.instanceId = d.instanceId ∧ e.outcome = some o := by
  rw [Fleet.getElem?_within hc] at hd
  split at hd
  · rename_i hnm
    subst hnm
    cases hd
    refine ⟨c, hc, hq.instanceId.symm, ?_⟩
    cases hn : c.outcome with
    | none => exact absurd hs (hq.verdict hn o ho).1
    | some p =>
      have hkeep := hq.outcome (by change c.outcome.isSome = true; rw [hn]; rfl)
      rw [← ho, hkeep]
      exact hn.symm
  · exact ⟨d, hd, rfl, ho⟩

/-- A quiet change of one context keeps the ledger. -/
theorem within_quiet (h : Ledger among ch) {n : Nat} {c : Context}
    (hc : ch.fleet.contexts[n]? = some c) (now : Nat) {act : Scene Nat Sink → Scene Nat Sink}
    {draft : Option Draft}
    (hq : Context.Quiet draft (ch.fleet.scene now n c) (act (ch.fleet.scene now n c)))
    (hs : Context.Sound (act (ch.fleet.scene now n c)).context) :
    Ledger among
      { ch with fleet := ch.fleet.within now n act, staged := offeredTo ch n c draft } := by
  have hact : ∀ d, ch.fleet.contexts[n]? = some d →
      Context.Lawful (ch.fleet.scene now n d) (act (ch.fleet.scene now n d)) := by
    intro d hd
    rw [hc] at hd
    cases hd
    exact hq.lawful hs
  have hgallery : (ch.fleet.within now n act).gallery = ch.fleet.gallery := by
    rw [Fleet.within_of_some hc]
    exact hq.gallery
  have hget := Fleet.getElem?_within hc now act
  have hcompleted : ∀ (i : String) (m : Nat),
      Completed { ch with fleet := ch.fleet.within now n act, staged := offeredTo ch n c draft } i m ↔
        ch.Completed i m := by
    intro i
    refine completed_iff ?_ ?_ ?_
    · rfl
    · exact Fleet.keeps_within now n hact
    · intro m d o hd _ ho hco
      obtain ⟨e, he, -, heo⟩ := completed_before hc hq hd ho hco
      exact ⟨e, he, heo⟩
  refine ⟨h.sound.within now n hact, ?keyed, ?members, ?stage, ?fresh, ?born_le, ?current,
    ?registered, ?listed, ?shows⟩
  case keyed =>
    dsimp only
    rw [hgallery]
    exact h.keyed
  case members =>
    dsimp only [Fleet.registry]
    rw [hgallery]
    exact h.members
  case stage =>
    intro m d hd ho
    dsimp only at hd ⊢
    rw [hget] at hd
    split at hd
    · rename_i hnm
      subst hnm
      cases hd
      exact h.writes_of_quiet hc hq ho
    · rename_i hnm
      rw [h.stage m d hd ho, offeredTo, if_neg hnm]
      simp
  case fresh =>
    intro m hm
    dsimp only at hm ⊢
    rw [Fleet.length_within] at hm
    have hlt : n < ch.fleet.contexts.length := (List.getElem?_eq_some_iff.mp hc).1
    have hnm : ¬n = m := by omega
    rw [offeredTo, if_neg hnm, h.fresh m hm]
    rfl
  case born_le =>
    intro i
    dsimp only
    rw [Fleet.length_within]
    exact h.born_le i
  case current =>
    dsimp only [Fleet.registry]
    rw [hgallery]
    exact h.current
  case registered =>
    intro i m hm
    dsimp only [Fleet.registry]
    rw [hgallery]
    exact h.registered i m ((hcompleted i m).mp hm)
  case listed =>
    intro m d o hd ho hco
    dsimp only at hd ⊢
    obtain ⟨e, he, hei, heo⟩ := completed_before hc hq hd ho hco
    rw [h.offeredTo_of_completed hc draft he heo hco, ← hei]
    exact h.listed m e o he heo hco
  case shows =>
    intro i hi
    dsimp only
    rw [hgallery]
    obtain ⟨drafts, hp, hshow⟩ := h.shows i hi
    refine ⟨drafts, hp.congr (hcompleted i) ?_, hshow⟩
    rintro m ⟨-, d, o, hd, -, ho, hco⟩
    exact h.offeredTo_of_completed hc draft hd ho hco

/-- Registering one of the instances keeps the ledger. -/
theorem register (h : Ledger among ch) {i : String} (hi : among i) :
    Ledger among { ch with fleet := ch.fleet.register i } := by
  have hget : ∀ j, (ch.fleet.register i).registry.get? j =
      if j = i then some ((ch.fleet.registry.get? i).getD ⟨none, none, []⟩)
      else ch.fleet.registry.get? j := ch.fleet.registry.get?_ensure i
  refine ⟨h.sound.register i, h.keyed, ?members, h.stage, h.fresh, h.born_le, ?current, ?registered,
    h.listed, ?shows⟩
  case members =>
    intro j r hr
    by_cases hj : j = i
    · rw [hj]
      exact hi
    · dsimp only at hr
      rw [hget, if_neg hj] at hr
      exact h.members j r hr
  case current =>
    intro j n hn
    exact h.current j n ((ch.fleet.registry.contextOf?_ensure i j).symm.trans hn)
  case registered =>
    intro j n hn
    dsimp only
    rw [hget]
    split
    · rfl
    · exact h.registered j n hn
  case shows =>
    intro j hj
    obtain ⟨drafts, hp, hs⟩ := h.shows j hj
    refine ⟨drafts, hp, hs.entries, ?_⟩
    intro r hr
    change (ch.fleet.register i).registry.get? j = some r at hr
    rw [hget] at hr
    by_cases hji : j = i
    · rw [if_pos hji, ← hji] at hr
      cases hr0 : ch.fleet.registry.get? j with
      | some r0 =>
        rw [hr0] at hr
        cases hr
        exact hs.artifacts r0 hr0
      | none =>
        -- an instance that is not registered has completed nothing
        have hnone : ∀ n, ¬ch.Completed j n := by
          intro n hn
          have hsome := h.registered j n hn
          rw [hr0] at hsome
          cases hsome
        have hempty : ch.Published j [] := .inr ⟨hnone, rfl⟩
        rw [hp.unique hempty]
        rw [hr0] at hr
        cases hr
        rfl
    · rw [if_neg hji] at hr
      exact hs.artifacts r hr

/-- An offer of nothing changes no drafts. -/
theorem offeredTo_none (ch : Chronicle) (n : Nat) (c : Context) :
    offeredTo ch n c none = ch.staged := by
  funext m
  simp [offeredTo]

/-- Killing the context of record of an instance keeps the ledger. -/
theorem stop (h : Ledger among ch) (now : Nat) (i reason : String) :
    Ledger among { ch with fleet := ch.fleet.stop now i reason } := by
  unfold Fleet.stop
  split
  · rename_i n hn
    cases hc : ch.fleet.contexts[n]? with
    | none =>
      rw [Fleet.within_of_none hc]
      exact h
    | some c =>
      have hs : Context.Sound (ch.fleet.scene now n c).context := h.sound.contexts n c hc
      have hq := h.within_quiet hc now (Context.quiet_terminate hs reason) (hs.terminate reason)
      rw [offeredTo_none] at hq
      exact hq
  · exact h

/-- Enlisting a context completes none. -/
theorem completed_enlist (ch : Chronicle) (i : String) (spec : Run.Spec) (j : String) (n : Nat) :
    Completed { ch with fleet := ch.fleet.enlist i spec } j n ↔ ch.Completed j n := by
  refine completed_iff ?_ ?_ ?_ n
  · rfl
  · exact Fleet.keeps_enlist i spec
  · intro n d o hd _ ho _
    rw [Fleet.getElem?_enlist] at hd
    split at hd
    · cases hd
      cases ho
    · exact ⟨d, hd, ho⟩

/-- Enlisting a context of an instance without a run that goes on keeps the ledger. -/
theorem enlist (h : Ledger among ch) {i : String} (spec : Run.Spec)
    (hi : (ch.fleet.registry.get? i).isSome = true) (hs : (ch.fleet.enlist i spec).Sound) :
    Ledger among { ch with fleet := ch.fleet.enlist i spec } := by
  have hreg : ∀ j, (ch.fleet.enlist i spec).registry.get? j = if j = i then
      (ch.fleet.registry.get? i).map fun r =>
        { r with context := some ch.fleet.contexts.length, spec := some spec }
      else ch.fleet.registry.get? j := fun j => Registry.get?_modify _ i j _
  refine ⟨hs, h.keyed, ?members, ?stage, ?fresh, ?born_le, ?current, ?registered, ?listed, ?shows⟩
  case members =>
    intro j r hr
    dsimp only at hr
    rw [hreg] at hr
    by_cases hj : j = i
    · obtain ⟨r0, hr0⟩ := Option.isSome_iff_exists.mp hi
      rw [hj]
      exact h.members i r0 hr0
    · rw [if_neg hj] at hr
      exact h.members j r hr
  case stage =>
    intro n c hc ho
    dsimp only at hc ⊢
    rw [Fleet.getElem?_enlist] at hc
    split at hc
    · cases hc
      rw [h.fresh n (by omega)]
      rfl
    · exact h.stage n c hc ho
  case fresh =>
    intro n hn
    refine h.fresh n ?_
    simp only [Fleet.enlist, List.length_append, List.length_singleton] at hn
    omega
  case born_le =>
    intro j
    have hle := h.born_le j
    simp only [Fleet.enlist, List.length_append, List.length_singleton]
    omega
  case current =>
    intro j n hn
    dsimp only at hn ⊢
    rw [Fleet.contextOf?_enlist i spec hi] at hn
    split at hn
    · cases hn
      exact h.born_le j
    · exact h.current j n hn
  case registered =>
    intro j n hn
    dsimp only
    rw [hreg]
    split
    · rw [Option.isSome_map]
      exact hi
    · exact h.registered j n ((completed_enlist ch i spec j n).mp hn)
  case listed =>
    intro n c o hc ho hco
    dsimp only at hc ⊢
    rw [Fleet.getElem?_enlist] at hc
    split at hc
    · cases hc
      cases ho
    · exact h.listed n c o hc ho hco
  case shows =>
    intro j hj
    obtain ⟨drafts, hp, hshow⟩ := h.shows j hj
    refine ⟨drafts, hp.congr (completed_enlist ch i spec j) fun _ _ => rfl, hshow.entries, ?_⟩
    intro r hr
    change (ch.fleet.enlist i spec).registry.get? j = some r at hr
    rw [hreg] at hr
    by_cases hji : j = i
    · rw [if_pos hji, ← hji] at hr
      obtain ⟨r0, hr0, rfl⟩ := Option.map_eq_some_iff.mp hr
      exact hshow.artifacts r0 hr0
    · rw [if_neg hji] at hr
      exact hshow.artifacts r hr

/-- A start of one of the instances keeps the ledger. -/
theorem start (h : Ledger among ch) (now : Nat) {i : String} (hi : among i) (spec : Run.Spec) :
    Ledger among { ch with fleet := (ch.fleet.start now i spec).1 } := by
  have hr : Ledger among { ch with fleet := ch.fleet.retire now i } :=
    (h.register hi).stop now i Fleet.supersededText
  have hs := h.sound.start now i spec
  rw [Fleet.start_fst] at hs ⊢
  exact hr.enlist spec (h.sound.isSome_get?_retire now i) hs

/-- The chronicle after an instance was wiped. -/
def wiped (i : String) (ch : Chronicle) : Chronicle :=
  { ch with
    fleet := ch.fleet.wiped i
    born := fun j => if j = i then ch.fleet.contexts.length else ch.born j }

/-- Wiping an instance whose artifacts are apart from those of the others keeps the ledger. -/
theorem wipe (h : Ledger among ch) {i : String} (hs : (ch.fleet.wiped i).Sound)
    (hfree : ∀ j, among j → j ≠ i → Apart i j) : Ledger among (wiped i ch) := by
  have hcompleted : ∀ j, j ≠ i → ∀ n, (wiped i ch).Completed j n ↔ ch.Completed j n := by
    intro j hj
    refine completed_iff ?_ (.of_contexts_eq rfl) fun n d o hd _ ho _ => ⟨d, hd, ho⟩
    exact if_neg hj
  have hnone : ∀ n, ¬(wiped i ch).Completed i n := by
    rintro n ⟨hle, c, o, hc, -⟩
    have hlt : n < ch.fleet.contexts.length := (List.getElem?_eq_some_iff.mp hc).1
    have hborn : (wiped i ch).born i = ch.fleet.contexts.length := if_pos rfl
    omega
  refine ⟨hs, h.keyed.without _ _, ?members, h.stage, h.fresh, ?born_le, ?current, ?registered,
    h.listed, ?shows⟩
  case members =>
    intro j r hr
    have hget := (ch.fleet.get?_wiped i j).symm.trans hr
    split at hget
    · cases hget
    · exact h.members j r hget
  case born_le =>
    intro j
    dsimp only [wiped]
    split
    · exact Nat.le_refl _
    · exact h.born_le j
  case current =>
    intro j n hn
    unfold Registry.contextOf? at hn
    dsimp only [wiped] at hn ⊢
    rw [Fleet.get?_wiped] at hn
    by_cases hj : j = i
    · rw [if_pos hj] at hn
      cases hn
    · rw [if_neg hj] at hn ⊢
      exact h.current j n hn
  case registered =>
    intro j n hn
    have hj : j ≠ i := by
      rintro rfl
      exact hnone n hn
    dsimp only [wiped]
    rw [Fleet.get?_wiped, if_neg hj]
    exact h.registered j n ((hcompleted j hj n).mp hn)
  case shows =>
    intro j hj
    have hsink : ∀ k : Key, (wiped i ch).fleet.gallery.sink.get? k =
        if startsWith (ownPrefix i) k.id = true then none else ch.fleet.gallery.sink.get? k :=
      ch.fleet.gallery.sink.get?_without_all (ownPrefix i)
    by_cases hji : j = i
    · subst hji
      refine ⟨[], .inr ⟨hnone, rfl⟩, ?_, ?_⟩
      · intro k hk
        rw [hsink, if_pos hk]
        rfl
      · intro r hr
        have hget := (ch.fleet.get?_wiped j j).symm.trans hr
        rw [if_pos rfl] at hget
        cases hget
    · obtain ⟨drafts, hp, hshow⟩ := h.shows j hj
      refine ⟨drafts, hp.congr (hcompleted j hji) fun _ _ => rfl, ?_, ?_⟩
      · intro k hk
        have hout := (hfree j hj hji).symm.not_startsWith hk
        rw [hsink, hout, if_neg Bool.false_ne_true]
        exact hshow.entries k hk
      · intro r hr
        have hget := (ch.fleet.get?_wiped i j).symm.trans hr
        rw [if_neg hji] at hget
        exact hshow.artifacts r hget

/-- The chronicle after some instances were removed in turn. -/
def removed (now : Nat) (ids : List String) (ch : Chronicle) : Chronicle :=
  { ch with
    fleet := (ch.fleet.removeAll Sink.ops now ids).1
    born := fun j =>
      if decide (j ∈ ids) && ch.fleet.registry.has j then ch.fleet.contexts.length else ch.born j }

/-- Removing instances in turn begins with the first of them. -/
theorem removed_cons (hs : ch.fleet.Sound) (now : Nat) (i : String) (rest : List String) :
    removed now (i :: rest) ch = removed now rest (if ch.fleet.registry.has i = true then
      wiped i { ch with fleet := ch.fleet.stop now i Fleet.removedText } else ch) := by
  by_cases hi : ch.fleet.registry.has i = true
  · have hfleet : ch.fleet.removeAll Sink.ops now (i :: rest) =
        ((ch.fleet.stop now i Fleet.removedText).wiped i).removeAll Sink.ops now rest := by
      rw [Fleet.removeAll, ch.fleet.remove_memory now hi]
    have hlength : ((ch.fleet.stop now i Fleet.removedText).wiped i).contexts.length =
        ch.fleet.contexts.length := ch.fleet.length_stop now i Fleet.removedText
    have hhas : ∀ j, ((ch.fleet.stop now i Fleet.removedText).wiped i).registry.has j =
        if j = i then false else ch.fleet.registry.has j := by
      intro j
      rw [Registry.has_eq, Registry.has_eq, Fleet.get?_wiped, Fleet.registry, hs.stop_gallery]
      by_cases hj : j = i
      · rw [if_pos hj, if_pos hj]
        rfl
      · rw [if_neg hj, if_neg hj]
        rfl
    rw [if_pos hi]
    unfold removed
    rw [hfleet]
    congr 1
    funext j
    simp only [wiped, hhas, hlength, ch.fleet.length_stop]
    by_cases hj : j = i
    · simp [hj, hi]
    · simp [hj]
  · have hno : ch.fleet.registry.has i = false := by simpa using hi
    have hfleet : ch.fleet.removeAll Sink.ops now (i :: rest) =
        ch.fleet.removeAll Sink.ops now rest := by
      rw [Fleet.removeAll, ch.fleet.remove_of_not_has now hno]
    rw [if_neg hi]
    unfold removed
    rw [hfleet]
    congr 1
    funext j
    by_cases hj : j = i
    · simp [hj, hno]
    · simp [hj]

/-- Removing instances in turn keeps the ledger. -/
theorem removeAll (h : Ledger among ch)
    (hfree : PrefixFree among) (now : Nat) (ids : List String) :
    Ledger among (removed now ids ch) := by
  induction ids generalizing ch with
  | nil =>
    have he : removed now [] ch = ch := by
      unfold removed
      simp [Fleet.removeAll]
    rw [he]
    exact h
  | cons i rest ih =>
    rw [removed_cons h.sound]
    by_cases hi : ch.fleet.registry.has i = true
    · rw [if_pos hi]
      have hs := h.sound.remove Sink.ops now i
      rw [ch.fleet.remove_memory now hi] at hs
      have hget : (ch.fleet.registry.get? i).isSome = true := by
        rw [← Registry.has_eq]
        exact hi
      obtain ⟨r, hr⟩ := Option.isSome_iff_exists.mp hget
      have hi' := h.members i r hr
      exact ih ((h.stop now i Fleet.removedText).wipe hs fun j hj hji => hfree i j hi' hj hji)
    · rw [if_neg hi]
      exact ih h

/-- The run of a context that goes on is completed by a successful end. -/
theorem completes (h : Ledger among ch) {n : Nat} {c : Context}
    (hc : ch.fleet.contexts[n]? = some c) (now : Nat) (ho : c.outcome = none)
    (ha : c.attached = true) :
    Completes ch.fleet (ch.fleet.within now n (Context.complete Sink.ops)) n c (ch.staged n) :=
  h.sound.completes hc now ho ha (h.stage n c hc ho)

/-- The completed runs of the other instances are the same. -/
theorem completed_iff_of_completes {next : Fleet Sink} {n : Nat} {c : Context} {drafts : List Draft}
    (hn : Completes ch.fleet next n c drafts) {j : String} (hj : j ≠ c.instanceId) (m : Nat) :
    Completed { ch with fleet := next } j m ↔ ch.Completed j m := by
  refine Chronicle.completed_iff ?_ hn.keeps ?_ m
  · rfl
  · intro k d o hd hdj ho _
    by_cases hk : k = n
    · obtain ⟨e, -, he, hei, -⟩ := hn.completed
      rw [hk] at hd
      cases he.symm.trans hd
      exact absurd (hdj.symm.trans hei) hj
    · exact ⟨d, (hn.others k hk).symm.trans hd, ho⟩

/-- The context of record that completes is the latest one that did. -/
theorem latest_of_completes (h : Ledger among ch) {next : Fleet Sink} {n : Nat} {c : Context}
    {drafts : List Draft} (hn : Completes ch.fleet next n c drafts)
    (hr : ch.fleet.registry.contextOf? c.instanceId = some n) :
    Latest { ch with fleet := next } c.instanceId n := by
  obtain ⟨d, o, hd, hdi, ho, hs, -⟩ := hn.completed
  refine ⟨⟨h.current _ _ hr, d, o, hd, hdi, ho, hs⟩, ?_⟩
  rintro m ⟨-, e, p, he, hei, -⟩
  exact (hn.sound.record _ n ((hn.contextOf? _).trans hr)).2 m e he hei

/-- A successful end of a run whose artifacts are apart from those of the other instances
keeps the ledger: from then on its drafts are published. -/
theorem complete (h : Ledger among ch) {n : Nat} {c : Context}
    (hc : ch.fleet.contexts[n]? = some c) (ho : c.outcome = none)
    (hfree : ∀ j, among j → j ≠ c.instanceId → Apart c.instanceId j) {next : Fleet Sink}
    (hn : Completes ch.fleet next n c (ch.staged n)) : Ledger among { ch with fleet := next } := by
  have hrecord := h.sound.current n c hc ho
  obtain ⟨d, o, hd, hdi, hdo, hstatus, hlist⟩ := hn.completed
  refine ⟨hn.sound, hn.keyed h.keyed, ?members, ?stage, ?fresh, ?born_le, ?current, ?registered,
    ?listed, ?shows⟩
  case members =>
    intro j r hr
    have hr' := (hn.records j).symm.trans hr
    split at hr'
    · obtain ⟨r0, hr0, -⟩ := Option.map_eq_some_iff.mp hr'
      exact h.members j r0 hr0
    · exact h.members j r hr'
  case stage =>
    intro m e he hnone
    by_cases hm : m = n
    · rw [hm] at he
      cases hd.symm.trans he
      rw [hdo] at hnone
      cases hnone
    · exact h.stage m e ((hn.others m hm).symm.trans he) hnone
  case fresh =>
    intro m hm
    exact h.fresh m (hn.length ▸ hm)
  case born_le =>
    intro j
    dsimp only
    rw [hn.length]
    exact h.born_le j
  case current =>
    intro j m hm
    exact h.current j m ((hn.contextOf? j).symm.trans hm)
  case registered =>
    intro j m hm
    dsimp only
    rw [hn.records]
    by_cases hj : j = c.instanceId
    · obtain ⟨r, hr, -⟩ := Option.bind_eq_some_iff.mp hrecord
      rw [if_pos hj, Option.isSome_map, hj]
      exact Option.isSome_of_mem hr
    · rw [if_neg hj]
      exact h.registered j m ((completed_iff_of_completes hn hj m).mp hm)
  case listed =>
    intro m e p he hp hcompleted
    by_cases hm : m = n
    · subst hm
      cases hd.symm.trans he
      cases hdo.symm.trans hp
      rw [hdi]
      exact hlist
    · exact h.listed m e p ((hn.others m hm).symm.trans he) hp hcompleted
  case shows =>
    intro j hj
    by_cases hji : j = c.instanceId
    · refine ⟨ch.staged n, .inl ⟨n, hji ▸ h.latest_of_completes hn hrecord, rfl⟩, ?_, ?_⟩
      · intro k hk
        rw [hn.entries, ← hji, if_pos hk, Option.or_none]
      · intro r hr
        have hr' := (hn.records j).symm.trans hr
        rw [if_pos hji] at hr'
        obtain ⟨r0, -, rfl⟩ := Option.map_eq_some_iff.mp hr'
        rw [hji]
    · obtain ⟨drafts, hp, hshow⟩ := h.shows j hj
      refine ⟨drafts, hp.congr (completed_iff_of_completes hn hji) fun _ _ => rfl, ?_, ?_⟩
      · intro k hk
        have hout := (hfree j hj hji).symm.not_startsWith hk
        rw [hn.entries, hout, Draft.last?_of_not_startsWith _ hout, if_neg Bool.false_ne_true,
          Option.none_or]
        exact hshow.entries k hk
      · intro r hr
        have hr' := (hn.records j).symm.trans hr
        rw [if_neg hji] at hr'
        exact hshow.artifacts r hr'

/-- An event that cannot happen to a context offers no draft. -/
theorem draft?_of_not_admits {c : Context} {e : Context.Event} (h : ¬c.admits e = true) :
    c.draft? e = none := by
  cases e with
  | serve number => exact absurd rfl h
  | _ => rfl

/-- What an event at a context makes of a chronicle. -/
theorem step_context (hasAttachments : Bool) (now : Nat) {n : Nat} {c : Context}
    (hc : ch.fleet.contexts[n]? = some c) (e : Context.Event) :
    step hasAttachments now ch (.context n e) =
      { ch with
        fleet := ch.fleet.within now n (Context.happen Sink.ops hasAttachments e)
        staged := offeredTo ch n c (c.draft? e) } := by
  unfold step offeredTo
  congr 1
  funext m
  by_cases hnm : n = m
  · subst hnm
    simp [Fleet.taken?, hc]
  · simp [Fleet.taken?, hnm]

/-- Nothing becomes of an event at a context that there is not. -/
theorem step_context_of_none (hasAttachments : Bool) (now : Nat) {n : Nat}
    (hc : ch.fleet.contexts[n]? = none) (e : Context.Event) :
    step hasAttachments now ch (.context n e) = ch := by
  have hfleet : ch.fleet.step Sink.ops hasAttachments now (.context n e) = ch.fleet :=
    Fleet.within_of_none hc now _
  unfold step
  rw [hfleet]
  congr 1
  funext m
  by_cases hnm : n = m
  · subst hnm
    simp [Fleet.taken?, hc]
  · simp [Fleet.taken?, hnm]

/-- Every event at a context keeps the ledger. -/
theorem context (h : Ledger among ch) (hfree : PrefixFree among)
    (hasAttachments : Bool) (now n : Nat) (e : Context.Event) :
    Ledger among (step hasAttachments now ch (.context n e)) := by
  cases hc : ch.fleet.contexts[n]? with
  | none =>
    rw [step_context_of_none hasAttachments now hc]
    exact h
  | some c =>
    have hs : Context.Sound (ch.fleet.scene now n c).context := h.sound.contexts n c hc
    have hlaw := Context.lawful_happen hs Sink.ops hasAttachments e
    rw [step_context hasAttachments now hc]
    by_cases ha : c.admits e = true
    · have hhappen : Context.happen Sink.ops hasAttachments e (ch.fleet.scene now n c) =
          Context.step Sink.ops hasAttachments (ch.fleet.scene now n c) e := if_pos ha
      rcases Context.step_cases hs Sink.ops hasAttachments ha with hq | ⟨raw, rfl, -, ho, he⟩
      · rw [← hhappen] at hq
        exact h.within_quiet hc now hq hlaw.sound
      · have hcomplete : ch.fleet.within now n (Context.happen Sink.ops hasAttachments (.message raw)) =
            ch.fleet.within now n (Context.complete Sink.ops) := by
          rw [Fleet.within_of_some hc, Fleet.within_of_some hc, hhappen, he]
        have hdraft : c.draft? (.message raw) = none := rfl
        rw [hdraft, offeredTo_none, hcomplete]
        refine h.complete hc ho (fun j hj hji => ?_) (h.completes hc now ho ha)
        obtain ⟨r, hr, -⟩ := Option.bind_eq_some_iff.mp (h.sound.current n c hc ho)
        exact hfree _ j (h.members _ r hr) hj hji
    · have hhappen : Context.happen Sink.ops hasAttachments e (ch.fleet.scene now n c) =
          ch.fleet.scene now n c := if_neg ha
      have hq : Context.Quiet none (ch.fleet.scene now n c)
          (Context.happen Sink.ops hasAttachments e (ch.fleet.scene now n c)) := by
        rw [hhappen]
        exact .refl _
      rw [draft?_of_not_admits ha]
      exact h.within_quiet hc now hq hlaw.sound

/-- A removal is noted as such. -/
theorem step_remove (hasAttachments : Bool) (now : Nat) (i : String) :
    Chronicle.step hasAttachments now ch (.remove i) = removed now [i] ch := by
  have hfleet : (ch.fleet.removeAll Sink.ops now [i]).1 = (ch.fleet.remove Sink.ops now i).1 := by
    rw [Fleet.removeAll]
    rcases ch.fleet.remove Sink.ops now i with ⟨f, e | b⟩ <;> rfl
  unfold Chronicle.step removed
  rw [hfleet]
  congr 1
  · funext n
    simp [Fleet.taken?]
  · funext j
    by_cases hj : j = i
    · subst hj
      simp [Fleet.removes]
    · simp [Fleet.removes, hj]

/-- A shutdown is noted as the removal of every instance. -/
theorem step_shutdown (hasAttachments : Bool) (now : Nat) :
    Chronicle.step hasAttachments now ch .shutdown = removed now ch.fleet.registry.ids ch := by
  unfold Chronicle.step removed
  congr 1
  · funext n
    simp [Fleet.taken?]
  · funext j
    have hmem : ch.fleet.registry.has j = true ↔ j ∈ ch.fleet.registry.ids :=
      Assoc.has_iff_mem_keys _ j
    by_cases hj : ch.fleet.registry.has j = true
    · simp [Fleet.removes, hj, hmem.mp hj]
    · simp [Fleet.removes, hj]

/-- Every event keeps the ledger, if what it starts is one of the instances. -/
theorem step (h : Ledger among ch) (hfree : PrefixFree among)
    (hasAttachments : Bool) (now : Nat) {e : Fleet.Event} (he : e.startsIn among) :
    Ledger among (Chronicle.step hasAttachments now ch e) := by
  have hnothing : (fun n => ch.staged n ++ (none : Option Draft).toList) = ch.staged := by
    funext n
    simp
  cases e with
  | start i spec =>
    have hs := h.start now he spec
    rw [← hnothing] at hs
    exact hs
  | terminate i reason =>
    have hs := h.stop now i reason
    rw [← hnothing, ← Fleet.terminate_fst] at hs
    exact hs
  | remove i =>
    rw [step_remove]
    exact h.removeAll hfree now [i]
  | shutdown =>
    rw [step_shutdown]
    exact h.removeAll hfree now ch.fleet.registry.ids
  | context n e => exact h.context hfree hasAttachments now n e

end Ledger

end ChartScript.Chronicle
