import ChartScript.Proofs.Fleet.Ledger
/-!
# The artifacts of an instance

The sink entries under the prefix of an instance are the contents of the last drafts of
its latest completed run since its last removal, whatever else happened and in whatever
order. The record and the outcome list the same ids, and only a completion of the instance
or its removal changes any of this.
-/

namespace ChartScript.Chronicle

open Artifact (Sink Draft Key Gallery ownPrefix startsWith)

/-- What is stored and listed for an instance is what its latest completed run drew. -/
structure Faithful (ch : Chronicle) (i : String) : Prop where
  /-- There is a latest completed run, unless there is no completed one at all. -/
  decided : (∃ n, ch.Latest i n) ∨ ∀ n, ¬ch.Completed i n
  /-- Under the prefix lies what the last drafts of the latest completed run leave. -/
  latest : ∀ n, ch.Latest i n → ∀ k : Key, startsWith (ownPrefix i) k.id = true →
    ch.fleet.gallery.sink.get? k = Draft.last? i (ch.staged n) k
  /-- Under the prefix lies nothing when there is no completed run. -/
  nothing : (∀ n, ¬ch.Completed i n) → ∀ k : Key, startsWith (ownPrefix i) k.id = true →
    ch.fleet.gallery.sink.get? k = none
  /-- The record lists exactly the ids that lie under the prefix. -/
  recorded : ∀ r, ch.fleet.registry.get? i = some r → ∀ id, id ∈ r.artifacts ↔
    startsWith (ownPrefix i) id = true ∧
      ∃ kind, (ch.fleet.gallery.sink.get? ⟨kind, id⟩).isSome = true
  /-- The outcome of a completed run lists its ids in the order of the last drafts. -/
  listed : ∀ (n : Nat) (c : Context) (o : Run.Outcome), ch.fleet.contexts[n]? = some c →
    c.instanceId = i → c.outcome = some o → o.status = .completed →
    o.artifacts = (Draft.keys i (ch.staged n)).map Key.id

/-- The same is stored and listed for an instance before and after. -/
structure SameFor (i : String) (g next : Gallery Nat Sink) : Prop where
  /-- The same lies under every key of the instance. -/
  entries : ∀ k : Key, startsWith (ownPrefix i) k.id = true → next.sink.get? k = g.sink.get? k
  /-- A record that stays lists the same ids. -/
  artifacts : ∀ r s, g.registry.get? i = some r → next.registry.get? i = some s →
    s.artifacts = r.artifacts

variable {among : String → Prop} {ch : Chronicle} {i : String}

/-- There is nothing to know of an empty chronicle. -/
theorem ledger_empty (console : Option Console) (defaultTimeoutMs : Int) :
    Ledger among (empty console defaultTimeoutMs) := by
  have hnone : ∀ i n, ¬(empty console defaultTimeoutMs).Completed i n := by
    rintro i n ⟨-, c, o, hc, -⟩
    cases hc
  refine ⟨Fleet.sound_empty _ _ _, ?_, ?_, ?_, fun _ _ => rfl, fun _ => Nat.le_refl 0, ?_, ?_, ?_, ?_⟩
  · intro kind
    cases kind <;> exact List.nodup_nil
  · intro i r hr
    cases hr
  · intro n c hc
    cases hc
  · intro i n hn
    cases hn
  · intro i n hn
    exact absurd hn (hnone i n)
  · intro n c o hc
    cases hc
  · intro i _
    refine ⟨[], .inr ⟨hnone i, rfl⟩, ?_, ?_⟩
    · intro k _
      obtain ⟨kind, id⟩ := k
      cases kind <;> rfl
    · intro r hr
      cases hr

/-- Every run of events keeps the ledger, if it starts only some instances. -/
theorem Ledger.run (h : Ledger among ch) (hfree : PrefixFree among) (hasAttachments : Bool)
    (events : List (Nat × Fleet.Event)) (hin : ∀ e ∈ events, e.2.startsIn among) :
    Ledger among (Chronicle.run hasAttachments ch events) := by
  induction events generalizing ch with
  | nil => exact h
  | cons e rest ih =>
    have he := hin e List.mem_cons_self
    exact ih (h.step hfree hasAttachments e.1 he) fun d hd => hin d (List.mem_cons_of_mem e hd)

/-- A key under the prefix of an instance has a content exactly when its id is one of those
that some drafts leave. -/
theorem Shows.exists_iff {g : Gallery Nat Sink} {drafts : List Draft} (h : Shows g i drafts)
    (id : String) : id ∈ (Draft.keys i drafts).map Key.id ↔
      startsWith (ownPrefix i) id = true ∧ ∃ kind, (g.sink.get? ⟨kind, id⟩).isSome = true := by
  constructor
  · intro hm
    obtain ⟨k, hk, rfl⟩ := List.mem_map.mp hm
    obtain ⟨d, -, rfl⟩ := (Draft.mem_keys_iff i drafts k).mp hk
    have hs := Draft.startsWith_key i d
    refine ⟨hs, d.kind, ?_⟩
    change (g.sink.get? (d.key i)).isSome = true
    rw [h.entries _ hs]
    exact (Draft.isSome_last?_iff i drafts _).mpr hk
  · rintro ⟨hs, kind, hsome⟩
    rw [h.entries ⟨kind, id⟩ hs, Draft.isSome_last?_iff] at hsome
    exact List.mem_map_of_mem hsome

/-- A ledger is faithful to every one of its instances. -/
theorem Ledger.faithful (h : Ledger among ch) (hi : among i) : ch.Faithful i := by
  obtain ⟨drafts, hp, hs⟩ := h.shows i hi
  refine ⟨?_, ?_, ?_, ?_, ?_⟩
  · rcases hp with ⟨n, hn, -⟩ | ⟨hn, -⟩
    · exact .inl ⟨n, hn⟩
    · exact .inr hn
  · intro n hn k hk
    have hlatest : ch.Published i (ch.staged n) := .inl ⟨n, hn, rfl⟩
    rw [hs.entries k hk, hp.unique hlatest]
  · intro hn k hk
    have hempty : ch.Published i [] := .inr ⟨hn, rfl⟩
    rw [hs.entries k hk, hp.unique hempty]
    rfl
  · intro r hr id
    rw [hs.artifacts r hr, List.mem_eraseDups]
    exact hs.exists_iff id
  · rintro n c o hc rfl ho hstatus
    exact h.listed n c o hc ho hstatus

/-- The stage of a completed run takes nothing at any event. -/
theorem Ledger.staged_step (h : Ledger among ch) (hasAttachments : Bool) (now : Nat)
    (e : Fleet.Event) {n : Nat} (hn : ch.Completed i n) :
    (Chronicle.step hasAttachments now ch e).staged n = ch.staged n := by
  obtain ⟨-, c, o, hc, -, ho, hs⟩ := hn
  have hclosed := (h.sound.contexts n c hc).closed o ho hs
  have htaken : ch.fleet.taken? n e = none := by
    cases e with
    | context m e => simp [Fleet.taken?, hc, hclosed]
    | _ => rfl
  unfold Chronicle.step
  dsimp only
  rw [htaken]
  exact List.append_nil _

/-- An event that neither removes an instance nor completes a run of it changes nothing of
what is stored and listed for it. -/
theorem Ledger.sameFor (h : Ledger among ch) (hfree : PrefixFree among) (hi : among i)
    (hasAttachments : Bool) (now : Nat) {e : Fleet.Event} (he : e.startsIn among)
    (hr : ch.fleet.removes i e = false)
    (hc : ∀ n, (Chronicle.step hasAttachments now ch e).Completed i n → ch.Completed i n) :
    SameFor i ch.fleet.gallery (Chronicle.step hasAttachments now ch e).fleet.gallery := by
  obtain ⟨drafts, hp, hs⟩ := h.shows i hi
  obtain ⟨later, hq, hnext⟩ := (h.step hfree hasAttachments now he).shows i hi
  have hborn : (Chronicle.step hasAttachments now ch e).born i = ch.born i := by
    unfold Chronicle.step
    dsimp only
    rw [hr]
    rfl
  have hkeeps := h.sound.keeps_step Sink.ops hasAttachments now e
  have hiff : ∀ n, (Chronicle.step hasAttachments now ch e).Completed i n ↔ ch.Completed i n :=
    fun n => ⟨hc n, fun hn => hn.mono hborn hkeeps⟩
  have hsame := (hp.congr hiff fun n hn => h.staged_step hasAttachments now e hn).unique hq
  subst hsame
  refine ⟨?_, ?_⟩
  · intro k hk
    rw [hnext.entries k hk, hs.entries k hk]
  · intro r s hr hs'
    rw [hnext.artifacts s hs', hs.artifacts r hr]

/-- Over instances none of whose prefixes begins with another one, after every order of
starts, kills, removals and events of contexts: what the sink holds under the prefix of an
instance is what the drafts of its latest completed run since its last removal leave, the
record and the outcome list its ids, and a further event that neither completes a run of
the instance nor removes it leaves all this as it is. -/
theorem artifacts_of_latest_completed (hfree : PrefixFree among) (hasAttachments : Bool)
    (console : Option Console) (defaultTimeoutMs : Int) (events : List (Nat × Fleet.Event))
    (hin : ∀ e ∈ events, e.2.startsIn among) (hi : among i) :
    (run hasAttachments (empty console defaultTimeoutMs) events).fleet.gallery.sink.Keyed ∧
      (run hasAttachments (empty console defaultTimeoutMs) events).Faithful i ∧
      ∀ (now : Nat) (e : Fleet.Event), e.startsIn among →
        (run hasAttachments (empty console defaultTimeoutMs) events).fleet.removes i e = false →
        (∀ n, (step hasAttachments now
            (run hasAttachments (empty console defaultTimeoutMs) events) e).Completed i n →
          (run hasAttachments (empty console defaultTimeoutMs) events).Completed i n) →
        SameFor i (run hasAttachments (empty console defaultTimeoutMs) events).fleet.gallery
          (step hasAttachments now
            (run hasAttachments (empty console defaultTimeoutMs) events) e).fleet.gallery := by
  have h : Ledger among (run hasAttachments (empty console defaultTimeoutMs) events) :=
    (ledger_empty console defaultTimeoutMs).run hfree hasAttachments events hin
  exact ⟨h.keyed, h.faithful hi, fun now _ he hr hc => h.sameFor hfree hi hasAttachments now he hr hc⟩

/-- A run of one instance that draws a line, ends well and is killed afterwards. -/
def lineEvents : List (Nat × Fleet.Event) :=
  [(0, .start "a" ⟨"S", "1h", "", 2000⟩),
    (1, .context 0 .created),
    (2, .context 0 (.message Message.startedView.toWire)),
    (3, .context 0 (.message (Draft.lineRequest "x").view.toWire)),
    (4, .context 0 (.serve 0)),
    (5, .context 0 (.message (Message.Done.view ⟨none, none⟩).toWire)),
    (6, .terminate "a" "late")]

/-- The line is stored under the prefix of the instance, also after the kill. -/
theorem artifacts_of_lineEvents :
    PrefixFree (fun i => i = "a") ∧ (∀ e ∈ lineEvents, e.2.startsIn fun i => i = "a") ∧
      (run false (empty none 2000) lineEvents).Latest "a" 0 ∧
      (run false (empty none 2000) lineEvents).fleet.gallery.sink.get? ⟨.line, "a::x"⟩ =
        some ⟨[], []⟩ := by
  have hfree : PrefixFree fun i => i = "a" := fun i j hi hj hne => absurd (hj.trans hi.symm) hne
  have hin : ∀ e ∈ lineEvents, e.2.startsIn fun i => i = "a" := by
    simp [lineEvents, Fleet.Event.startsIn]
  have hlatest : (run false (empty none 2000) lineEvents).Latest "a" 0 := by
    refine ⟨⟨Nat.le_refl 0, _, _, rfl, rfl, rfl, rfl⟩, ?_⟩
    rintro m ⟨-, c, o, hc, -⟩
    have hlt := (List.getElem?_eq_some_iff.mp hc).1
    have hlength : (run false (empty none 2000) lineEvents).fleet.contexts.length = 1 := rfl
    omega
  have h := artifacts_of_latest_completed hfree false none 2000 lineEvents hin rfl
  exact ⟨hfree, hin, hlatest, (h.2.1.latest 0 hlatest ⟨.line, "a::x"⟩ rfl).trans rfl⟩

end ChartScript.Chronicle
