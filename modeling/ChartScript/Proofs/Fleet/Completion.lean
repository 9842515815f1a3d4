import ChartScript.Proofs.Fleet.Run
/-!
# Completions

What the successful end of a run makes of a fleet on the sink in memory. The contents of
the last drafts take the place of whatever was stored for the instance, the record and the
outcome list their ids, and nothing else changes.
-/

namespace ChartScript

open Artifact (Sink Stage Draft Key ownPrefix startsWith)
open Context (Scene)

namespace Context

/-- A successful end of a run that may commit writes what the stage holds in place of what
is under the prefix of the instance, and lists the ids in the outcome. -/
theorem complete_memory {κ : Type} [DecidableEq κ] {s : Scene κ Sink} (hb : s.context.begun = true)
    (ho : s.context.outcome = none)
    (hm : s.gallery.mayCommit s.context.stage (some s.self) = true) :
    (complete Sink.ops s).gallery.sink =
        (s.gallery.sink.without (ownPrefix s.context.stage.instanceId) Plot.Kind.all).withAll
          s.context.stage.writes ∧
      (∀ j, (complete Sink.ops s).gallery.registry.get? j =
        if j = s.context.stage.instanceId then
          (s.gallery.registry.get? j).map fun r =>
            { r with artifacts := s.context.stage.ids.eraseDups }
        else s.gallery.registry.get? j) ∧
      ∃ o, (complete Sink.ops s).context.outcome = some o ∧ o.status = .completed ∧
        o.artifacts = s.context.stage.ids := by
  obtain ⟨registry, hcommit, hget⟩ := s.gallery.commit_memory s.context.stage (some s.self) hm
  have hgallery := complete_gallery Sink.ops s
  rw [hcommit] at hgallery
  refine ⟨by rw [hgallery], fun j => by rw [hgallery]; exact hget j, ?_⟩
  unfold complete
  simp only [hcommit]
  rw [settle_context]
  · exact ⟨_, rfl, rfl, rfl⟩
  · exact hb
  · exact ho

end Context

namespace Fleet

/-- What a successful end of the run of a context makes of a fleet, when its stage took some
drafts. -/
structure Completes (f next : Fleet Sink) (n : Nat) (c : Context) (drafts : List Draft) : Prop where
  /-- The fleet is sound. -/
  sound : next.Sound
  /-- Every context stays, with the outcome that it has. -/
  keeps : f.Keeps next
  /-- There are as many contexts. -/
  length : next.contexts.length = f.contexts.length
  /-- Every instance has the same context of record. -/
  contextOf? : ∀ j, next.registry.contextOf? j = f.registry.contextOf? j
  /-- The context is completed and lists the ids of its drafts. -/
  completed : ∃ d o, next.contexts[n]? = some d ∧ d.instanceId = c.instanceId ∧
    d.outcome = some o ∧ o.status = .completed ∧
    o.artifacts = (Draft.keys c.instanceId drafts).map Key.id
  /-- The other contexts are the same. -/
  others : ∀ m, m ≠ n → next.contexts[m]? = f.contexts[m]?
  /-- Every id stands once in the sink if it did before. -/
  keyed : f.gallery.sink.Keyed → next.gallery.sink.Keyed
  /-- The drafts take the place of what was under the prefix of the instance. -/
  entries : ∀ k, next.gallery.sink.get? k = (Draft.last? c.instanceId drafts k).or
    (if startsWith (ownPrefix c.instanceId) k.id = true then none else f.gallery.sink.get? k)
  /-- One artifact is written for each of their keys, in order. -/
  writes : next.gallery.sink.writes = f.gallery.sink.writes ++ Draft.keys c.instanceId drafts
  /-- The record of the instance lists their ids. -/
  records : ∀ j, next.registry.get? j =
    if j = c.instanceId then (f.registry.get? j).map fun r =>
      { r with artifacts := ((Draft.keys c.instanceId drafts).map Key.id).eraseDups }
    else f.registry.get? j

/-- The run of a context that goes on is completed by a successful end. -/
theorem Sound.completes {f : Fleet Sink} (h : f.Sound) {n : Nat} {c : Context}
    (hc : f.contexts[n]? = some c) (now : Nat) (ho : c.outcome = none) (ha : c.attached = true)
    {drafts : List Draft} (hw : c.stage.writes = Draft.staged c.instanceId drafts) :
    Completes f (f.within now n (Context.complete Sink.ops)) n c drafts := by
  have hsound := h.contexts n c hc
  have hi := hsound.stage.instanceId_eq
  have hkeys : Assoc.keys c.stage.writes = Draft.keys c.instanceId drafts := by
    rw [hw, Draft.keys_staged]
  have hids : c.stage.ids = (Draft.keys c.instanceId drafts).map Key.id := by
    rw [← hkeys]
    simp [Stage.ids, Assoc.keys]
  have hnodup : (Assoc.keys c.stage.writes).Nodup := by
    rw [hkeys]
    exact Draft.keys_nodup _ _
  have hlaw := Context.lawful_complete (s := f.scene now n c) hsound Sink.ops ho ha
  have hact : ∀ d, f.contexts[n]? = some d → Context.Lawful (f.scene now n d)
      (Context.complete Sink.ops (f.scene now n d)) := by
    intro d hd
    rw [hc] at hd
    cases hd
    exact hlaw
  have hget := getElem?_within hc now (Context.complete Sink.ops)
  have hgallery : (f.within now n (Context.complete Sink.ops)).gallery =
      (Context.complete Sink.ops (f.scene now n c)).gallery := by
    rw [within_of_some hc]
  obtain ⟨hsink, hregistry, o, hout, hstatus, hlist⟩ :=
    Context.complete_memory (s := f.scene now n c) hsound.begun ho (h.mayCommit hc ho)
  refine ⟨h.within now n hact, keeps_within now n hact, length_within _ _ _ _, ?record, ?completed,
    ?others, ?keyed, ?entries, ?writes, ?records⟩
  case record =>
    intro j
    rw [registry, hgallery]
    exact hlaw.contextOf? j
  case completed =>
    refine ⟨_, o, ?_, hlaw.instanceId, hout, hstatus, hlist.trans hids⟩
    rw [hget, if_pos rfl]
  case others =>
    intro m hm
    rw [hget, if_neg fun he => hm he.symm]
  case keyed =>
    intro hkeyed
    rw [hgallery, hsink]
    exact (hkeyed.without _ _).withAll _
  case entries =>
    intro k
    rw [hgallery, hsink]
    change ((f.gallery.sink.without (ownPrefix c.stage.instanceId) _).withAll
      c.stage.writes).get? k = _
    rw [Sink.get?_withAll _ hnodup, Sink.get?_without_all, hi, hw, Draft.get?_staged]
  case writes =>
    rw [hgallery, hsink, Sink.writes_withAll, Sink.writes_without]
    exact congrArg (f.gallery.sink.writes ++ ·) hkeys
  case records =>
    intro j
    rw [registry, hgallery, hregistry]
    change (if j = c.stage.instanceId then (f.registry.get? j).map
      (fun r => { r with artifacts := c.stage.ids.eraseDups })
      else f.registry.get? j) = _
    rw [hi, hids]

end Fleet

end ChartScript
