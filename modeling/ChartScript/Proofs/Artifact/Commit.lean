import ChartScript.Artifact.Commit
import ChartScript.Proofs.Artifact.Sink
/-!
# Commits to the sink in memory

The sink in memory never fails. A clear removes everything under the prefix of an
instance, and a commit that is allowed replaces it by the writes of the stage; the record
of the instance follows, and nothing else changes.
-/

namespace ChartScript.Artifact

namespace Registry

variable {κ : Type}

/-- A record that is put is the one of its instance. -/
theorem get?_put (registry : Registry κ) (i j : String) (record : Record κ) :
    (registry.put i record).get? j = if j = i then some record else registry.get? j :=
  Assoc.get?_put registry.records i j record

/-- A change is one of the record of its instance, if there is one. -/
theorem get?_modify (registry : Registry κ) (i j : String) (f : Record κ → Record κ) :
    (registry.modify i f).get? j = if j = i then (registry.get? i).map f else registry.get? j := by
  unfold modify
  cases h : registry.get? i with
  | none =>
    by_cases hj : j = i
    · simp [hj, h]
    · simp [hj]
  | some record => simp [get?_put]

/-- A removed instance has no record, and the others keep theirs. -/
theorem get?_remove (registry : Registry κ) (i j : String) :
    (registry.remove i).get? j = if j = i then none else registry.get? j :=
  Assoc.get?_erase registry.records i j

/-- An instance is registered exactly when it has a record. -/
theorem has_eq (registry : Registry κ) (i : String) : registry.has i = (registry.get? i).isSome := by
  rw [Bool.eq_iff_iff]
  exact (Assoc.has_iff_mem_keys _ i).trans (Assoc.isSome_get?_iff _ i).symm

/-- Registering gives an instance without a record an empty one. -/
theorem get?_ensure (registry : Registry κ) (i j : String) :
    (registry.ensure i).get? j =
      if j = i then some ((registry.get? i).getD ⟨none, none, []⟩) else registry.get? j := by
  unfold ensure
  rw [has_eq]
  cases h : registry.get? i with
  | none => simp [get?_put]
  | some record =>
    by_cases hj : j = i
    · simp [hj, h]
    · simp [hj]

end Registry

namespace Gallery

variable {κ σ : Type}

/-- The removals of a clear, one kind after the other. -/
theorem clearKinds_memory (start : String) (kinds : List Plot.Kind) (sink : Sink) (count : Nat) :
    ∃ total, clearKinds Sink.ops start kinds sink count = (sink.without start kinds, .ok total) := by
  induction kinds generalizing sink count with
  | nil => exact ⟨count, rfl⟩
  | cons kind rest ih => exact ih (sink.clearPrefix kind start).1 _

/-- A clear removes what is under the prefix and empties the record. -/
theorem clear_memory (g : Gallery κ Sink) (i : String) :
    ∃ total, g.clear Sink.ops i =
      (⟨g.registry.modify i fun r => { r with artifacts := [] },
        g.sink.without (ownPrefix i) Plot.Kind.all⟩, .ok total) := by
  obtain ⟨total, h⟩ := clearKinds_memory (ownPrefix i) Plot.Kind.all g.sink 0
  refine ⟨total, ?_⟩
  unfold clear
  rw [h]

/-- The writes of a commit, one after the other. -/
theorem writeAll_memory (writes : List (Key × Content)) (sink : Sink) :
    writeAll Sink.ops writes sink = (sink.withAll writes, .ok ()) := by
  induction writes generalizing sink with
  | nil => rfl
  | cons w rest ih => exact ih (sink.write w.1 w.2)

/-- A context may commit exactly when it is the one of record and the stage is open. -/
theorem mayCommit_iff [DecidableEq κ] (g : Gallery κ σ) (stage : Stage) (owner : Option κ) :
    g.mayCommit stage owner = true ↔
      (∃ r, g.registry.get? stage.instanceId = some r ∧ r.context = owner) ∧
        stage.isOpen = true := by
  unfold mayCommit
  cases g.registry.get? stage.instanceId with
  | none => simp
  | some r => simp

/-- A commit that is allowed replaces what is under the prefix by the writes of the stage
and records their ids. -/
theorem commit_memory [DecidableEq κ] (g : Gallery κ Sink) (stage : Stage) (owner : Option κ)
    (h : g.mayCommit stage owner = true) :
    ∃ registry, g.commit Sink.ops stage owner =
        (⟨registry, (g.sink.without (ownPrefix stage.instanceId) Plot.Kind.all).withAll stage.writes⟩,
          stage.discard, .ok stage.ids) ∧
      ∀ j, registry.get? j =
        if j = stage.instanceId then
          (g.registry.get? j).map fun r => { r with artifacts := stage.ids.eraseDups }
        else g.registry.get? j := by
  obtain ⟨total, hc⟩ := g.clear_memory stage.instanceId
  let emptied := g.registry.modify stage.instanceId fun r => { r with artifacts := [] }
  refine ⟨emptied.modify stage.instanceId
    fun r => { r with artifacts := stage.ids.eraseDups }, ?_, ?_⟩
  · unfold commit
    rw [if_pos h, hc]
    dsimp only
    rw [writeAll_memory]
  · intro j
    rw [Registry.get?_modify, Registry.get?_modify, Registry.get?_modify, if_pos rfl]
    by_cases hj : j = stage.instanceId
    · rw [hj, if_pos rfl, if_pos rfl, Option.map_map]
      rfl
    · rw [if_neg hj, if_neg hj, if_neg hj]

end Gallery

end ChartScript.Artifact
