import ChartScript.Proofs.Artifact.Commit
import ChartScript.Proofs.Artifact.Draft
/-!
# What a commit leaves in the sink

A commit by the context of record keeps the entries outside the prefix of the instance, kind by
kind and in their order, and puts those of the stage behind them. What the stage holds is decided
by the drafts that were put into it: one entry for every key, with the content of the last draft
under it. A commit that is not allowed changes nothing but the stage.
-/

namespace ChartScript.Artifact

section Entries

/-- The entries under a prefix. -/
def entriesUnder (start : String) (entries : List (String × Content)) : List (String × Content) :=
  entries.filter fun e => startsWith start e.1

/-- The entries outside a prefix. -/
def entriesOutside (start : String) (entries : List (String × Content)) : List (String × Content) :=
  entries.filter fun e => !startsWith start e.1

/-- The entries that writes leave among those of a kind. -/
def entriesOf (kind : Plot.Kind) (writes : List (Key × Content)) : List (String × Content) :=
  writes.filterMap fun w => if w.1.kind = kind then some (w.1.id, w.2) else none

variable {start : String} {entries : List (String × Content)}

/-- Entries outside a prefix stay when those under it are set apart. -/
theorem entriesOutside_of_outside (h : ∀ e ∈ entries, startsWith start e.1 = false) :
    entriesOutside start entries = entries ∧ entriesUnder start entries = [] := by
  refine ⟨List.filter_eq_self.mpr fun e he => ?_, List.filter_eq_nil_iff.mpr fun e he => ?_⟩
  · rw [h e he]
    rfl
  · rw [h e he]
    exact Bool.false_ne_true

/-- Entries under a prefix stay when those outside it are set apart. -/
theorem entriesOutside_of_under (h : ∀ e ∈ entries, startsWith start e.1 = true) :
    entriesOutside start entries = [] ∧ entriesUnder start entries = entries := by
  refine ⟨List.filter_eq_nil_iff.mpr fun e he => ?_, List.filter_eq_self.mpr fun e he => h e he⟩
  rw [h e he]
  exact Bool.false_ne_true

/-- The entries outside a prefix are outside it. -/
theorem startsWith_of_mem_entriesOutside {e : String × Content}
    (h : e ∈ entriesOutside start entries) : startsWith start e.1 = false := by
  simpa using (List.mem_filter.mp h).2

/-- Entries outside a prefix with entries under it behind them. -/
theorem entries_append (entries : List (String × Content)) {mine : List (String × Content)}
    (h : ∀ e ∈ mine, startsWith start e.1 = true) :
    entriesOutside start (entriesOutside start entries ++ mine) = entriesOutside start entries ∧
      entriesUnder start (entriesOutside start entries ++ mine) = mine := by
  have houtside : ∀ e ∈ entriesOutside start entries, startsWith start e.1 = false := fun e he =>
    startsWith_of_mem_entriesOutside he
  have hkept := entriesOutside_of_outside houtside
  have hmine := entriesOutside_of_under h
  refine ⟨?_, ?_⟩
  · rw [entriesOutside, List.filter_append]
    exact (congrArg₂ _ hkept.1 hmine.1).trans (List.append_nil _)
  · rw [entriesUnder, List.filter_append]
    exact congrArg₂ _ hkept.2 hmine.2

/-- The ids that writes leave among those of a kind. -/
theorem keys_entriesOf (kind : Plot.Kind) (writes : List (Key × Content)) :
    Assoc.keys (entriesOf kind writes) =
      ((Assoc.keys writes).filter fun k => decide (k.kind = kind)).map Key.id := by
  induction writes with
  | nil => rfl
  | cons w rest ih =>
    have hkeys : Assoc.keys (w :: rest) = w.1 :: Assoc.keys rest := rfl
    rw [hkeys, List.filter_cons]
    by_cases hw : w.1.kind = kind
    · have hentries : entriesOf kind (w :: rest) = (w.1.id, w.2) :: entriesOf kind rest := by
        simp [entriesOf, hw]
      rw [hentries, if_pos (decide_eq_true hw), List.map_cons, ← ih]
      rfl
    · have hentries : entriesOf kind (w :: rest) = entriesOf kind rest := by
        simp [entriesOf, hw]
      rw [hentries, ih, if_neg (by simpa using hw)]

/-- Writes under distinct keys leave every id of a kind once. -/
theorem nodup_keys_entriesOf {writes : List (Key × Content)} (h : (Assoc.keys writes).Nodup)
    (kind : Plot.Kind) : (Assoc.keys (entriesOf kind writes)).Nodup := by
  rw [keys_entriesOf]
  refine (h.filter _).map_on fun k hk l hl hid => ?_
  have hkind : k.kind = kind := by simpa using (List.mem_filter.mp hk).2
  have hlike : l.kind = kind := by simpa using (List.mem_filter.mp hl).2
  obtain ⟨kindOfKey, id⟩ := k
  obtain ⟨kindOfOther, other⟩ := l
  cases hkind
  cases hlike
  cases hid
  rfl

end Entries

/-- Values for all kinds are known by the value of every kind. -/
theorem ByKind.eq_of_get {α : Type} {b c : ByKind α} (h : ∀ kind, b.get kind = c.get kind) : b = c := by
  obtain ⟨line, bands, histogram, boxes, labels⟩ := b
  cases h .line
  cases h .bands
  cases h .histogram
  cases h .boxes
  cases h .labels
  rfl

namespace Sink

/-- A clear keeps the entries of a kind outside the prefix, if the kind is cleared. -/
theorem artifacts_without (sink : Sink) (start : String) (kinds : List Plot.Kind) (kind : Plot.Kind) :
    (sink.without start kinds).artifacts.get kind =
      if kind ∈ kinds then entriesOutside start (sink.artifacts.get kind)
      else sink.artifacts.get kind := by
  induction kinds generalizing sink with
  | nil => rfl
  | cons first rest ih =>
    have hstep : sink.without start (first :: rest) =
        (sink.clearPrefix first start).1.without start rest := rfl
    have hfirst : (sink.clearPrefix first start).1.artifacts.get kind =
        if first = kind then entriesOutside start (sink.artifacts.get kind)
        else sink.artifacts.get kind := by
      unfold clearPrefix
      dsimp only
      rw [ByKind.get_set]
      by_cases hk : first = kind
      · rw [if_pos hk, if_pos hk, hk]
        rfl
      · rw [if_neg hk, if_neg hk]
    rw [hstep, ih, hfirst]
    by_cases hk : first = kind
    · have htwice : entriesOutside start (entriesOutside start (sink.artifacts.get kind)) =
          entriesOutside start (sink.artifacts.get kind) :=
        (entriesOutside_of_outside fun _ => startsWith_of_mem_entriesOutside).1
      rw [if_pos hk, if_pos (List.mem_cons.mpr (.inl hk.symm)), htwice, ite_self]
    · have hmem : kind ∈ first :: rest ↔ kind ∈ rest := by
        rw [List.mem_cons, or_iff_right fun h => hk h.symm]
      rw [if_neg hk]
      exact if_congr hmem.symm rfl rfl

/-- Writes under distinct keys that are absent are put behind the entries of their kind. -/
theorem artifacts_withAll (sink : Sink) {writes : List (Key × Content)}
    (hn : (Assoc.keys writes).Nodup) (habsent : ∀ k ∈ Assoc.keys writes, sink.get? k = none)
    (kind : Plot.Kind) :
    (sink.withAll writes).artifacts.get kind = sink.artifacts.get kind ++ entriesOf kind writes := by
  induction writes generalizing sink with
  | nil => exact (List.append_nil _).symm
  | cons w rest ih =>
    have hkeys : Assoc.keys (w :: rest) = w.1 :: Assoc.keys rest := rfl
    rw [hkeys] at hn habsent
    have hstep : sink.withAll (w :: rest) = (sink.write w.1 w.2).withAll rest := rfl
    have hlater : ∀ k ∈ Assoc.keys rest, (sink.write w.1 w.2).get? k = none := by
      intro k hk
      have hne : ¬k = w.1 := fun h => (List.nodup_cons.mp hn).1 (h ▸ hk)
      rw [get?_write, if_neg hne]
      exact habsent k (List.mem_cons_of_mem _ hk)
    have hwrite : (sink.write w.1 w.2).artifacts.get kind =
        sink.artifacts.get kind ++ (if w.1.kind = kind then [(w.1.id, w.2)] else []) := by
      unfold write
      rw [ByKind.get_set]
      by_cases hw : w.1.kind = kind
      · have hnone : Assoc.has (sink.artifacts.get w.1.kind) w.1.id = false := by
          refine Bool.eq_false_iff.mpr fun hhas => ?_
          exact (Assoc.get?_eq_none_iff _ _).mp (habsent w.1 List.mem_cons_self)
            ((Assoc.has_iff_mem_keys _ _).mp hhas)
        rw [if_pos hw, if_pos hw, Assoc.put, hnone, hw]
        rfl
      · rw [if_neg hw, if_neg hw, List.append_nil]
    rw [hstep, ih _ (List.nodup_cons.mp hn).2 hlater, hwrite, List.append_assoc]
    by_cases hw : w.1.kind = kind <;> simp [entriesOf, hw]

end Sink

namespace Stage

/-- The stage after drafts are put one by one, or why one of them is refused. -/
def putAll (stage : Stage) : List Draft → Except Failure Stage
  | [] => .ok stage
  | d :: rest =>
    match stage.put d.kind d.id d.content with
    | .ok (next, _) => next.putAll rest
    | .error f => .error f

/-- An open stage takes every draft. -/
theorem putAll_of_isOpen {stage : Stage} (ho : stage.isOpen = true) (drafts : List Draft) :
    stage.putAll drafts = .ok { stage with
      writes := drafts.foldl (fun writes d =>
        Assoc.putLast writes (d.key stage.instanceId) d.content) stage.writes } := by
  induction drafts generalizing stage with
  | nil => rfl
  | cons d rest ih =>
    unfold putAll
    rw [put_of_isOpen stage ho d]
    exact @ih (stage.add d) ho

/-- A new stage after drafts are put. -/
def ofDrafts (i : String) (drafts : List Draft) : Stage := ⟨i, Draft.staged i drafts, true⟩

/-- A new stage takes every draft. -/
theorem putAll_forInstance (i : String) (drafts : List Draft) :
    (forInstance i).putAll drafts = .ok (ofDrafts i drafts) := putAll_of_isOpen rfl drafts

/-- The entries of a stage of an instance are under its prefix. -/
theorem IsOf.startsWith_of_mem_entriesOf {stage : Stage} {i : String} (h : stage.IsOf i)
    (kind : Plot.Kind) : ∀ e ∈ entriesOf kind stage.writes, startsWith (ownPrefix i) e.1 = true := by
  intro e he
  obtain ⟨w, hw, hentry⟩ := List.mem_filterMap.mp he
  by_cases hk : w.1.kind = kind
  · rw [if_pos hk] at hentry
    cases hentry
    exact h.owned w.1 (List.mem_map_of_mem hw)
  · rw [if_neg hk] at hentry
    cases hentry

/-- A new stage after drafts is one of its instance. -/
theorem isOf_ofDrafts (i : String) (drafts : List Draft) : (ofDrafts i drafts).IsOf i := by
  have hkeys : Assoc.keys (ofDrafts i drafts).writes = Draft.keys i drafts :=
    Draft.keys_staged i drafts
  refine ⟨rfl, fun k hk => ?_, ?_⟩
  · obtain ⟨d, -, rfl⟩ := (Draft.mem_keys_iff i drafts k).mp (hkeys ▸ hk)
    exact Draft.startsWith_key i d
  · rw [hkeys]
    exact Draft.keys_nodup i drafts

end Stage

namespace Gallery

variable {κ : Type} [DecidableEq κ]

/-- A commit that is not allowed discards the stage and changes nothing else. -/
theorem commit_of_not_mayCommit {σ : Type} (ops : SinkOps σ) {g : Gallery κ σ} {stage : Stage}
    {owner : Option κ} (h : g.mayCommit stage owner = false) :
    g.commit ops stage owner = (g, stage.discard, .ok []) := by
  unfold commit
  rw [h]
  rfl

/-- The entries of every kind after a commit that is allowed: those outside the prefix, and behind
them those of the stage. -/
theorem artifacts_commit {g : Gallery κ Sink} {stage : Stage} {owner : Option κ}
    (h : g.mayCommit stage owner = true) (hs : stage.IsOf stage.instanceId) (kind : Plot.Kind) :
    (g.commit Sink.ops stage owner).1.sink.artifacts.get kind =
      entriesOutside (ownPrefix stage.instanceId) (g.sink.artifacts.get kind) ++
        entriesOf kind stage.writes := by
  obtain ⟨registry, hcommit, -⟩ := g.commit_memory stage owner h
  have habsent : ∀ k ∈ Assoc.keys stage.writes,
      (g.sink.without (ownPrefix stage.instanceId) Plot.Kind.all).get? k = none := by
    intro k hk
    rw [Sink.get?_without_all, if_pos (hs.owned k hk)]
  rw [hcommit]
  dsimp only
  rw [Sink.artifacts_withAll _ hs.distinct habsent, Sink.artifacts_without,
    if_pos (Plot.Kind.mem_all kind)]

/-- What a commit of drafts by the context of record makes of the sink, the registry and the
stage. -/
structure Replaced (i : String) (drafts : List Draft) (before after : Gallery κ Sink)
    (closed : Stage) (answer : Except Failure (List String)) : Prop where
  /-- The entries outside the prefix are those from before, in their order. -/
  foreign : ∀ kind, entriesOutside (ownPrefix i) (after.sink.artifacts.get kind) =
    entriesOutside (ownPrefix i) (before.sink.artifacts.get kind)
  /-- Under the prefix there is one entry for every key of a draft, in the order of the last drafts
  under them. -/
  ids : ∀ kind, Assoc.keys (entriesUnder (ownPrefix i) (after.sink.artifacts.get kind)) =
    ((Draft.keys i drafts).filter fun k => decide (k.kind = kind)).map Key.id
  /-- No id of a kind is there twice. -/
  once : ∀ kind, (Assoc.keys (entriesUnder (ownPrefix i) (after.sink.artifacts.get kind))).Nodup
  /-- An entry has the data and options of the last draft under its key. -/
  content : ∀ k : Key, startsWith (ownPrefix i) k.id = true →
    after.sink.get? k = Draft.last? i drafts k
  /-- The record of writes grows by the keys in the order of the last drafts under them. -/
  writes : after.sink.writes = before.sink.writes ++ Draft.keys i drafts
  /-- The answer names the ids in the same order. -/
  answer : answer = .ok ((Draft.keys i drafts).map Key.id)
  /-- The record of the instance keeps everything but its artifacts, which are these ids. -/
  record : ∀ r, before.registry.get? i = some r → ∃ artifacts : List String,
    after.registry.get? i = some { r with artifacts } ∧
      ∀ id, id ∈ artifacts ↔ id ∈ (Draft.keys i drafts).map Key.id
  /-- The other records stay. -/
  others : ∀ j, j ≠ i → after.registry.get? j = before.registry.get? j
  /-- The stage is closed and empty. -/
  closed : closed = ⟨i, [], false⟩

/-- A commit of drafts that is allowed replaces what is under the prefix by them. -/
theorem replaced_of_mayCommit {g : Gallery κ Sink} {i : String} {drafts : List Draft}
    {owner : Option κ} (h : g.mayCommit (.ofDrafts i drafts) owner = true) :
    Replaced i drafts g (g.commit Sink.ops (.ofDrafts i drafts) owner).1
      (g.commit Sink.ops (.ofDrafts i drafts) owner).2.1
      (g.commit Sink.ops (.ofDrafts i drafts) owner).2.2 := by
  have hs := Stage.isOf_ofDrafts i drafts
  have hkeys : Assoc.keys (Stage.ofDrafts i drafts).writes = Draft.keys i drafts :=
    Draft.keys_staged i drafts
  have hids : (Stage.ofDrafts i drafts).ids = (Draft.keys i drafts).map Key.id := by
    rw [← hkeys]
    exact (List.map_map ..).symm
  have hentries := artifacts_commit h hs
  have hparts (kind : Plot.Kind) :=
    entries_append (g.sink.artifacts.get kind) (hs.startsWith_of_mem_entriesOf kind)
  obtain ⟨registry, hcommit, hregistry⟩ := g.commit_memory (.ofDrafts i drafts) owner h
  have hunder (kind : Plot.Kind) : entriesUnder (ownPrefix i)
      ((g.commit Sink.ops (.ofDrafts i drafts) owner).1.sink.artifacts.get kind) =
        entriesOf kind (Stage.ofDrafts i drafts).writes := by
    rw [hentries]
    exact (hparts kind).2
  refine ⟨fun kind => ?_, fun kind => ?_, fun kind => ?_, fun k hk => ?_, ?_, ?_, fun r hr => ?_,
    fun j hj => ?_, ?_⟩
  · rw [hentries]
    exact (hparts kind).1
  · rw [hunder, keys_entriesOf, hkeys]
  · rw [hunder]
    exact nodup_keys_entriesOf hs.distinct kind
  · have hcleared : (g.sink.without (ownPrefix i) Plot.Kind.all).get? k = none := by
      rw [Sink.get?_without_all, if_pos hk]
    rw [hcommit]
    dsimp only
    rw [Sink.get?_withAll _ hs.distinct]
    refine (congrArg (Option.or _) hcleared).trans ?_
    rw [Option.or_none]
    exact Draft.get?_staged i drafts k
  · rw [hcommit]
    dsimp only
    rw [Sink.writes_withAll, Sink.writes_without, hkeys]
  · rw [hcommit, ← hids]
  · refine ⟨(Stage.ofDrafts i drafts).ids.eraseDups, ?_, fun id => ?_⟩
    · rw [hcommit]
      refine (hregistry i).trans ?_
      rw [hr]
      exact if_pos rfl
    · rw [List.mem_eraseDups, hids]
  · rw [hcommit]
    exact (hregistry j).trans (if_neg hj)
  · rw [hcommit]
    rfl

/-- The same drafts committed twice leave what they left the first time, whatever became of the
registry in between. -/
theorem artifacts_commit_again {g : Gallery κ Sink} {i : String} {drafts : List Draft}
    {owner : Option κ} (h : g.mayCommit (.ofDrafts i drafts) owner = true)
    {registry : Registry κ} {next : Option κ}
    (hnext : mayCommit ⟨registry, (g.commit Sink.ops (.ofDrafts i drafts) owner).1.sink⟩
      (.ofDrafts i drafts) next = true) :
    (commit Sink.ops ⟨registry, (g.commit Sink.ops (.ofDrafts i drafts) owner).1.sink⟩
        (.ofDrafts i drafts) next).1.sink.artifacts =
      (g.commit Sink.ops (.ofDrafts i drafts) owner).1.sink.artifacts := by
  have hs := Stage.isOf_ofDrafts i drafts
  have hsame : ∀ kind, (commit Sink.ops
      ⟨registry, (g.commit Sink.ops (.ofDrafts i drafts) owner).1.sink⟩
      (.ofDrafts i drafts) next).1.sink.artifacts.get kind =
        (g.commit Sink.ops (.ofDrafts i drafts) owner).1.sink.artifacts.get kind := by
    intro kind
    rw [artifacts_commit hnext hs, artifacts_commit h hs]
    exact congrArg (· ++ _) (entries_append _ (hs.startsWith_of_mem_entriesOf kind)).1
  exact ByKind.eq_of_get hsame

/-- An id and the same id behind the prefix of an instance are one id to it exactly when the id is
not under the prefix already. -/
theorem qualify_ownPrefix_append_iff (i id : String) :
    qualify i (ownPrefix i ++ id) = qualify i id ↔ startsWith (ownPrefix i) id = false := by
  rw [qualify_of_startsWith (startsWith_append _ _)]
  unfold qualify
  cases h : startsWith (ownPrefix i) id with
  | false => simp
  | true =>
    have hlonger : ownPrefix i ++ id ≠ id := by
      intro heq
      have hlength := congrArg String.length heq
      simp only [ownPrefix, separator, String.length_append] at hlength
      have hseparator : "::".length = 2 := rfl
      omega
    simpa using hlonger

/-- What it comes to when a context commits drafts that were put into a new stage of an instance. -/
structure Commits (g : Gallery κ Sink) (i : String) (drafts : List Draft) (owner : Option κ) :
    Prop where
  /-- The stage takes every draft. -/
  staged : (Stage.forInstance i).putAll drafts = .ok (.ofDrafts i drafts)
  /-- A draft under an id and one under the same id behind the prefix have one key, unless the id
  was under the prefix already. -/
  sameKey : ∀ kind id content other,
    (⟨kind, ownPrefix i ++ id, content⟩ : Draft).key i = (⟨kind, id, other⟩ : Draft).key i ↔
      startsWith (ownPrefix i) id = false
  /-- The context of record replaces what is under the prefix. -/
  replaces : ∀ r, g.registry.get? i = some r → r.context = owner →
    Replaced i drafts g (g.commit Sink.ops (.ofDrafts i drafts) owner).1
      (g.commit Sink.ops (.ofDrafts i drafts) owner).2.1
      (g.commit Sink.ops (.ofDrafts i drafts) owner).2.2
  /-- Committing the same drafts once more, by whatever context is of record by then, leaves the
  contents of the sink as they are. -/
  again : ∀ r, g.registry.get? i = some r → r.context = owner →
    ∀ (registry : Registry κ) (later : Record κ), registry.get? i = some later →
      (commit Sink.ops ⟨registry, (g.commit Sink.ops (.ofDrafts i drafts) owner).1.sink⟩
          (.ofDrafts i drafts) later.context).1.sink.artifacts =
        (g.commit Sink.ops (.ofDrafts i drafts) owner).1.sink.artifacts
  /-- Any other context, and any context of an unknown instance, changes nothing. -/
  refuses : (∀ r, g.registry.get? i = some r → r.context ≠ owner) →
    g.commit Sink.ops (.ofDrafts i drafts) owner = (g, ⟨i, [], false⟩, .ok [])
  /-- A closed stage changes nothing, whoever commits it. -/
  refusesClosed : ∀ stage : Stage, stage.isOpen = false →
    g.commit Sink.ops stage owner = (g, stage.discard, .ok [])

/-- This is what every commit of drafts comes to. -/
theorem replaced_commit (g : Gallery κ Sink) (i : String) (drafts : List Draft) (owner : Option κ) :
    Commits g i drafts owner := by
  have hmay : ∀ (g : Gallery κ Sink) (r : Record κ) (owner : Option κ), g.registry.get? i = some r →
      r.context = owner → g.mayCommit (.ofDrafts i drafts) owner = true :=
    fun g r owner hr howner => (g.mayCommit_iff _ owner).mpr ⟨⟨r, hr, howner⟩, rfl⟩
  refine ⟨Stage.putAll_forInstance i drafts, fun kind id content other => ?_,
    fun r hr howner => replaced_of_mayCommit (hmay g r owner hr howner),
    fun r hr howner registry later hlater => ?_, fun hother => ?_, fun stage hclosed => ?_⟩
  · rw [← qualify_ownPrefix_append_iff]
    unfold Draft.key
    rw [Key.mk.injEq]
    exact and_iff_right rfl
  · exact artifacts_commit_again (hmay g r owner hr howner) (hmay ⟨registry, _⟩ later _ hlater rfl)
  · refine commit_of_not_mayCommit Sink.ops (Bool.eq_false_iff.mpr fun hallowed => ?_)
    obtain ⟨⟨r, hr, howner⟩, -⟩ := (g.mayCommit_iff _ owner).mp hallowed
    exact hother r hr howner
  · refine commit_of_not_mayCommit Sink.ops (Bool.eq_false_iff.mpr fun hallowed => ?_)
    have hopen := ((g.mayCommit_iff stage owner).mp hallowed).2
    exact Bool.false_ne_true (hclosed.symm.trans hopen)

/-- A sink with an entry of an instance and one of another instance whose name begins alike. -/
def crowded : Gallery Nat Sink :=
  ⟨⟨[("a", ⟨none, some 1, ["a::old"]⟩)]⟩,
    ⟨⟨[("a::old", ⟨[], []⟩), ("ab::x", ⟨[], []⟩)], [], [], [], [("a::old", ⟨[], []⟩)]⟩, []⟩⟩

/-- Drafts of which the last one has the key of the first one. -/
def redrawing : List Draft :=
  [⟨.line, "x", ⟨[.int 1], []⟩⟩, ⟨.bands, "y", ⟨[], []⟩⟩, ⟨.line, "a::x", ⟨[.int 2], []⟩⟩]

/-- The context of record replaces the entries of its instance by one line and one pair of bands,
and the line of the other instance stays. -/
theorem replaced_commit_crowded :
    crowded.registry.get? "a" = some ⟨none, some 1, ["a::old"]⟩ ∧
      Draft.keys "a" redrawing = [⟨.bands, "a::y"⟩, ⟨.line, "a::x"⟩] ∧
      Replaced "a" redrawing crowded (crowded.commit Sink.ops (.ofDrafts "a" redrawing) (some 1)).1
        (crowded.commit Sink.ops (.ofDrafts "a" redrawing) (some 1)).2.1
        (crowded.commit Sink.ops (.ofDrafts "a" redrawing) (some 1)).2.2 ∧
      crowded.commit Sink.ops (.ofDrafts "a" redrawing) (some 2) = (crowded, ⟨"a", [], false⟩, .ok []) :=
  ⟨rfl, by decide, (replaced_commit crowded "a" redrawing (some 1)).replaces _ rfl rfl,
    (replaced_commit crowded "a" redrawing (some 2)).refuses fun r hr => by
      cases hr
      decide⟩

end Gallery

end ChartScript.Artifact
