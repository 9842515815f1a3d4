import ChartScript.Artifact.Sink
import ChartScript.Proofs.Data.Assoc
/-!
# The sink in memory

What is found under a key after a write, a removal, and after all the removals and writes
of a commit. Every id stands once among the artifacts of its kind, so that what is found
under the keys is all there is in the sink.
-/

namespace ChartScript.Artifact

namespace Sink

/-- A write is found under its key, and what is under other keys stays. -/
theorem get?_write (sink : Sink) (key k : Key) (content : Content) :
    (sink.write key content).get? k = if k = key then some content else sink.get? k := by
  obtain ⟨kind, id⟩ := key
  obtain ⟨l, i⟩ := k
  unfold get? write
  rw [ByKind.get_set]
  by_cases hk : kind = l
  · subst hk
    rw [if_pos rfl, Assoc.get?_put]
    simp
  · have hl : ¬l = kind := fun h => hk h.symm
    rw [if_neg hk]
    simp [hl]

/-- Exactly the artifacts of the kind under the prefix are removed. -/
theorem get?_clearPrefix (sink : Sink) (kind : Plot.Kind) (start : String) (k : Key) :
    (sink.clearPrefix kind start).1.get? k =
      if k.kind = kind ∧ startsWith start k.id = true then none else sink.get? k := by
  unfold get? clearPrefix
  dsimp only
  rw [ByKind.get_set]
  by_cases hk : kind = k.kind
  · subst hk
    rw [if_pos rfl, Assoc.get?_filter fun id => !startsWith start id]
    cases startsWith start k.id <;> simp
  · have hl : ¬k.kind = kind := fun h => hk h.symm
    rw [if_neg hk, if_neg fun h => hl h.1]

/-- Every id occurs once among the artifacts of a kind. -/
def Keyed (sink : Sink) : Prop := ∀ kind, (Assoc.keys (sink.artifacts.get kind)).Nodup

/-- A write keeps every id once. -/
theorem Keyed.write {sink : Sink} (h : sink.Keyed) (key : Key) (content : Content) :
    (sink.write key content).Keyed := by
  intro kind
  rw [Sink.write, ByKind.get_set]
  split
  · exact Assoc.nodup_keys_put (h key.kind) key.id content
  · exact h kind

/-- A removal keeps every id once. -/
theorem Keyed.clearPrefix {sink : Sink} (h : sink.Keyed) (kind : Plot.Kind) (start : String) :
    (sink.clearPrefix kind start).1.Keyed := by
  intro l
  unfold Sink.clearPrefix
  dsimp only
  rw [ByKind.get_set]
  split
  · exact Assoc.nodup_keys_filter (h kind) _
  · exact h l

/-- The sink without the artifacts under a prefix of some kinds. -/
def without (sink : Sink) (start : String) (kinds : List Plot.Kind) : Sink :=
  kinds.foldl (fun acc kind => (acc.clearPrefix kind start).1) sink

/-- The sink after some writes in turn. -/
def withAll (sink : Sink) (writes : List (Key × Content)) : Sink :=
  writes.foldl (fun acc w => acc.write w.1 w.2) sink

/-- What is left of a kind that was cleared is what lies outside the prefix. -/
theorem get?_without (sink : Sink) (start : String) (kinds : List Plot.Kind) (k : Key) :
    (sink.without start kinds).get? k =
      if k.kind ∈ kinds ∧ startsWith start k.id = true then none else sink.get? k := by
  induction kinds generalizing sink with
  | nil => simp [without]
  | cons kind rest ih =>
    have hstep : sink.without start (kind :: rest) =
        (sink.clearPrefix kind start).1.without start rest := rfl
    rw [hstep, ih, get?_clearPrefix]
    by_cases hs : startsWith start k.id = true
    · by_cases hk : k.kind = kind <;> by_cases hr : k.kind ∈ rest <;> simp [hs, hk, hr]
    · simp [hs]

/-- Clearing every kind leaves exactly what lies outside the prefix. -/
theorem get?_without_all (sink : Sink) (start : String) (k : Key) :
    (sink.without start Plot.Kind.all).get? k =
      if startsWith start k.id = true then none else sink.get? k := by
  rw [get?_without]
  simp [Plot.Kind.mem_all]

/-- After writes under distinct keys each of them is found, and the rest stays. -/
theorem get?_withAll (sink : Sink) {writes : List (Key × Content)}
    (hn : (Assoc.keys writes).Nodup) (k : Key) :
    (sink.withAll writes).get? k = (Assoc.get? writes k).or (sink.get? k) := by
  induction writes generalizing sink with
  | nil => rfl
  | cons w rest ih =>
    simp only [Assoc.keys, List.map_cons, List.nodup_cons] at hn
    have hstep : sink.withAll (w :: rest) = (sink.write w.1 w.2).withAll rest := rfl
    rw [hstep, ih _ hn.2, get?_write, Assoc.get?_cons]
    by_cases hk : k = w.1
    · subst hk
      have hr : Assoc.get? rest w.1 = none := (Assoc.get?_eq_none_iff rest w.1).mpr hn.1
      simp [hr]
    · have hw : ¬w.1 = k := fun h => hk h.symm
      rw [if_neg hk, if_neg hw]

/-- The record of writes grows by the keys in turn. -/
theorem writes_withAll (sink : Sink) (writes : List (Key × Content)) :
    (sink.withAll writes).writes = sink.writes ++ Assoc.keys writes := by
  induction writes generalizing sink with
  | nil => simp [withAll, Assoc.keys]
  | cons w rest ih =>
    have hstep : sink.withAll (w :: rest) = (sink.write w.1 w.2).withAll rest := rfl
    rw [hstep, ih]
    simp [Sink.write, Assoc.keys]

/-- A removal is no write. -/
theorem writes_without (sink : Sink) (start : String) (kinds : List Plot.Kind) :
    (sink.without start kinds).writes = sink.writes := by
  induction kinds generalizing sink with
  | nil => rfl
  | cons kind rest ih => exact ih _

/-- Removals keep every id once. -/
theorem Keyed.without {sink : Sink} (h : sink.Keyed) (start : String) (kinds : List Plot.Kind) :
    (sink.without start kinds).Keyed := by
  induction kinds generalizing sink with
  | nil => exact h
  | cons kind rest ih => exact ih (h.clearPrefix kind start)

/-- Writes keep every id once. -/
theorem Keyed.withAll {sink : Sink} (h : sink.Keyed) (writes : List (Key × Content)) :
    (sink.withAll writes).Keyed := by
  induction writes generalizing sink with
  | nil => exact h
  | cons w rest ih => exact ih (h.write w.1 w.2)

end Sink

end ChartScript.Artifact
