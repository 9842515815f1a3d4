import ChartScript.Proofs.Context.Process
import ChartScript.Proofs.Fleet.Fate
/-!
# No orphans

A context that is not the one of record of its instance was killed, or its process is gone:
it was superseded, or its instance was removed. So no process outlives the record of its
context by more than the time that its creation takes. A shutdown removes all instances, and
what is started later takes no place among the contexts that there were.
-/

namespace ChartScript

open Artifact (SinkOps Gallery Registry Sink)
open Context (Scene)

namespace Artifact

variable {κ σ : Type}

/-- An instance with a context of record is registered. -/
theorem Registry.mem_ids_of_contextOf? {registry : Registry κ} {i : String} {k : κ}
    (h : registry.contextOf? i = some k) : i ∈ registry.ids := by
  obtain ⟨r, hr, -⟩ := Option.bind_eq_some_iff.mp h
  exact (Assoc.isSome_get?_iff registry.records i).mp (Option.isSome_iff_exists.mpr ⟨r, hr⟩)

/-- An instance that is not registered has no context of record. -/
theorem Registry.contextOf?_of_not_has {registry : Registry κ} {i : String}
    (h : ¬registry.has i = true) : registry.contextOf? i = none := by
  rw [has_eq, Bool.not_eq_true, Option.isSome_eq_false_iff, Option.isNone_iff_eq_none] at h
  unfold contextOf?
  rw [h]
  rfl

/-- A clear succeeds when the sink never fails. -/
theorem Gallery.clear_ok (ops : SinkOps σ)
    (hops : ∀ kind start sink, ∃ r, ops.clearPrefix kind start sink = .ok r) (g : Gallery κ σ)
    (i : String) : ∃ count, (g.clear ops i).2 = .ok count := by
  have hkinds : ∀ kinds sink n, ∃ next count,
      clearKinds ops (ownPrefix i) kinds sink n = (next, .ok count) := by
    intro kinds
    induction kinds with
    | nil => exact fun sink n => ⟨sink, n, rfl⟩
    | cons kind rest ih =>
      intro sink n
      obtain ⟨⟨next, removed⟩, hr⟩ := hops kind (ownPrefix i) sink
      obtain ⟨last, count, hl⟩ := ih next (n + removed)
      refine ⟨last, count, ?_⟩
      unfold clearKinds
      rw [hr]
      exact hl
  obtain ⟨next, count, hk⟩ := hkinds Plot.Kind.all g.sink 0
  refine ⟨count, ?_⟩
  unfold clear
  rw [hk]

end Artifact

namespace Context

variable {κ σ : Type} {s : Scene κ σ}

/-- A lawful change of one scene that loses no process. -/
structure Tended (s t : Scene κ σ) : Prop where
  /-- It is lawful. -/
  lawful : Lawful s t
  /-- The context still has the process that its state calls for. -/
  tethered : Tethered s.context → Tethered t.context
  /-- A released context stays released. -/
  released : Released s.context → Released t.context

/-- A kill loses no process. -/
theorem tended_terminate (h : Sound s.context) (ht : Tethered s.context) (reason : String) :
    Tended s (terminate reason s) := by
  have hdeed : Deed s.context (terminate reason s).context (.terminate reason) :=
    deed_terminate reason ⟨rfl, rfl, rfl, rfl, rfl, rfl⟩ id
  exact ⟨lawful_terminate h reason, fun hm => hm.deed hdeed, fun _ => released_terminate h ht reason⟩

/-- Nothing that happens to a context loses a process. -/
theorem tended_happen [DecidableEq κ] (h : Sound s.context) (ops : SinkOps σ) (hasAttachments : Bool)
    (e : Event) : Tended s (happen ops hasAttachments e s) :=
  ⟨lawful_happen h ops hasAttachments e, fun ht => ht.deed (deed_happen h ops hasAttachments e),
    fun hr => hr.happen h ops hasAttachments e⟩

end Context

namespace Fleet

open Context (Tethered Released Tended)

variable {σ : Type} {f : Fleet σ}

/-- What holds of the processes of a fleet at every moment. -/
structure Accounted (f : Fleet σ) : Prop where
  /-- The fleet is sound. -/
  sound : f.Sound
  /-- Every context has the process that its state calls for. -/
  tethered : ∀ (n : Nat) (c : Context), f.contexts[n]? = some c → Tethered c
  /-- A context that is not of record is released. -/
  released : ∀ (n : Nat) (c : Context), f.contexts[n]? = some c →
    f.registry.contextOf? c.instanceId ≠ some n → Released c

/-- The process of a context that is not of record is gone once its creation is over. -/
theorem Accounted.isGone (h : f.Accounted) {n : Nat} {c : Context} (hc : f.contexts[n]? = some c)
    (hr : f.registry.contextOf? c.instanceId ≠ some n) (hs : c.process ≠ .starting) :
    c.process.IsGone := (h.released n c hc hr).isGone (h.tethered n c hc) hs

/-- A change of one context that loses no process keeps all of them accounted for. -/
theorem Accounted.within (h : f.Accounted) (now n : Nat) {act : Scene Nat σ → Scene Nat σ}
    (hact : ∀ c, f.contexts[n]? = some c → Tended (f.scene now n c) (act (f.scene now n c))) :
    (f.within now n act).Accounted := by
  have hsound := h.sound.within now n fun c hc => (hact c hc).lawful
  cases hc : f.contexts[n]? with
  | none =>
    rw [within_of_none hc]
    exact h
  | some c =>
    have ht := hact c hc
    have hget := getElem?_within hc now act
    have hsame : ∀ i, (f.within now n act).registry.contextOf? i = f.registry.contextOf? i := by
      rw [within_of_some hc]
      exact ht.lawful.contextOf?
    refine ⟨hsound, ?_, ?_⟩
    · intro m d hd
      rw [hget] at hd
      split at hd
      · cases hd
        exact ht.tethered (h.tethered n c hc)
      · exact h.tethered m d hd
    · intro m d hd hr
      rw [hsame] at hr
      rw [hget] at hd
      split at hd
      · rename_i hnm
        subst hnm
        cases hd
        rw [ht.lawful.instanceId] at hr
        exact ht.released (h.released n c hc hr)
      · exact h.released m d hd hr

/-- The processes of a fleet with the same contexts and the same contexts of record. -/
theorem Accounted.congr {g : Fleet σ} (h : f.Accounted) (hc : g.contexts = f.contexts)
    (hr : ∀ i, g.registry.contextOf? i = f.registry.contextOf? i) : g.Accounted := by
  refine ⟨h.sound.congr hc hr, ?_, ?_⟩
  · rw [hc]
    exact h.tethered
  · intro n c hn hrecord
    rw [hc] at hn
    rw [hr] at hrecord
    exact h.released n c hn hrecord

section Stop

/-- A kill keeps all processes accounted for. -/
theorem Accounted.stop (h : f.Accounted) (now : Nat) (i reason : String) :
    (f.stop now i reason).Accounted := by
  unfold Fleet.stop
  split
  · exact h.within now _ fun c hc =>
      Context.tended_terminate (h.sound.contexts _ c hc) (h.tethered _ c hc) reason
  · exact h

/-- After a kill every context of the instance is released. -/
theorem Accounted.released_stop (h : f.Accounted) (now : Nat) (i reason : String) {n : Nat}
    {c : Context} (hc : (f.stop now i reason).contexts[n]? = some c) (hi : c.instanceId = i) :
    Released c := by
  by_cases hr : (f.stop now i reason).registry.contextOf? c.instanceId = some n
  · -- the context of record is the one that was killed
    rw [registry, h.sound.stop_gallery, hi] at hr
    unfold Fleet.stop at hc
    rw [registry, hr] at hc
    dsimp only at hc
    cases hd : f.contexts[n]? with
    | none =>
      rw [within_of_none hd, hd] at hc
      cases hc
    | some d =>
      rw [getElem?_within hd, if_pos rfl] at hc
      cases hc
      exact Context.released_terminate (s := f.scene now n d) (h.sound.contexts n d hd)
        (h.tethered n d hd) reason
  · exact (h.stop now i reason).released n c hc hr

end Stop

section Start

/-- A context whose process is being created is tethered. -/
theorem tethered_opening (i : String) (spec : Run.Spec) : Tethered (opening i spec) :=
  ⟨nofun, fun _ => rfl, nofun⟩

/-- Registering an instance keeps all processes accounted for. -/
theorem Accounted.register (h : f.Accounted) (i : String) : (f.register i).Accounted :=
  h.congr rfl fun j => f.registry.contextOf?_ensure i j

/-- A start keeps all processes accounted for. -/
theorem Accounted.start (h : f.Accounted) (now : Nat) (i : String) (spec : Run.Spec) :
    (f.start now i spec).1.Accounted := by
  have hsound := h.sound.start now i spec
  have hretired : (f.retire now i).Accounted := (h.register i).stop now i supersededText
  have hregistered := h.sound.isSome_get?_retire now i
  rw [start_fst] at hsound ⊢
  refine ⟨hsound, ?_, ?_⟩
  · intro n c hc
    rw [getElem?_enlist] at hc
    split at hc
    · cases hc
      exact tethered_opening i spec
    · exact hretired.tethered n c hc
  · intro n c hc hr
    rw [contextOf?_enlist i spec hregistered] at hr
    rw [getElem?_enlist] at hc
    split at hc
    · rename_i hn
      cases hc
      rw [hn] at hr
      exact absurd (if_pos rfl) hr
    · by_cases hi : c.instanceId = i
      · exact (h.register i).released_stop now i supersededText hc hi
      · rw [if_neg hi] at hr
        exact hretired.released n c hc hr

end Start

section Remove

/-- The fleet after a removal: nothing is removed, or the sink fails once the context of record
is killed, or the instance is forgotten as well. -/
theorem Sound.remove_cases (h : f.Sound) (ops : SinkOps σ) (now : Nat) (i : String) :
    f.remove ops now i = (f, .ok false) ∧ f.registry.contextOf? i = none ∨
      ∃ g : Fleet σ, g.contexts = (f.stop now i removedText).contexts ∧
        (∀ j, g.registry.contextOf? j = f.registry.contextOf? j) ∧
        ((∃ e, f.remove ops now i = (g, .error e) ∧
            ((f.stop now i removedText).gallery.clear ops i).2 = .error e) ∨
          f.remove ops now i = (g.forget i, .ok true)) := by
  have hclear : ∀ j, ((f.stop now i removedText).gallery.clear ops i).1.registry.contextOf? j =
      f.registry.contextOf? j := by
    intro j
    rw [Gallery.clear_contextOf?, h.stop_gallery]
    rfl
  unfold Fleet.remove
  by_cases hi : f.registry.has i = true
  · rw [if_pos hi, terminate_fst]
    dsimp only
    split
    · rename_i gallery e he
      rw [he] at hclear ⊢
      exact .inr ⟨{ f.stop now i removedText with gallery }, rfl, hclear, .inl ⟨e, rfl, rfl⟩⟩
    · rename_i gallery count he
      rw [he] at hclear
      exact .inr ⟨{ f.stop now i removedText with gallery }, rfl, hclear, .inr rfl⟩
  · rw [if_neg hi]
    exact .inl ⟨rfl, Registry.contextOf?_of_not_has hi⟩

/-- A removal keeps all processes accounted for, also when the sink fails. -/
theorem Accounted.remove (h : f.Accounted) (ops : SinkOps σ) (now : Nat) (i : String) :
    (f.remove ops now i).1.Accounted := by
  have hsound := h.sound.remove ops now i
  rcases h.sound.remove_cases ops now i with ⟨he, -⟩ | ⟨g, hg, hr, ⟨e, he, -⟩ | he⟩
  · rw [he]
    exact h
  · rw [he]
    refine (h.stop now i removedText).congr hg fun j => ?_
    rw [hr, registry, registry, h.sound.stop_gallery]
  · rw [he] at hsound ⊢
    refine ⟨hsound, ?_, ?_⟩
    · intro n c hc
      change g.contexts[n]? = some c at hc
      rw [hg] at hc
      exact (h.stop now i removedText).tethered n c hc
    · intro n c hc hn
      change g.contexts[n]? = some c at hc
      change (g.registry.remove i).contextOf? c.instanceId ≠ some n at hn
      rw [hg] at hc
      rw [Registry.contextOf?_remove, hr] at hn
      by_cases hi : c.instanceId = i
      · exact h.released_stop now i removedText hc hi
      · rw [if_neg hi] at hn
        refine (h.stop now i removedText).released n c hc ?_
        rw [registry, h.sound.stop_gallery]
        exact hn

/-- The contexts of record after a removal. -/
theorem Sound.contextOf?_remove (h : f.Sound) (ops : SinkOps σ) (now : Nat) (i : String) :
    (∃ e, (f.remove ops now i).2 = .error e) ∧
        (∀ j, (f.remove ops now i).1.registry.contextOf? j = f.registry.contextOf? j) ∨
      (∃ removed, (f.remove ops now i).2 = .ok removed) ∧
        ∀ j, (f.remove ops now i).1.registry.contextOf? j =
          if j = i then none else f.registry.contextOf? j := by
  rcases h.remove_cases ops now i with ⟨he, hi⟩ | ⟨g, -, hr, ⟨e, he, -⟩ | he⟩
  · rw [he]
    refine .inr ⟨⟨false, rfl⟩, fun j => ?_⟩
    by_cases hj : j = i
    · rw [if_pos hj, hj, hi]
    · rw [if_neg hj]
  · rw [he]
    exact .inl ⟨⟨e, rfl⟩, hr⟩
  · rw [he]
    refine .inr ⟨⟨true, rfl⟩, fun j => ?_⟩
    change (g.registry.remove i).contextOf? j = _
    rw [Registry.contextOf?_remove, hr]

/-- Removals in turn keep all processes accounted for. -/
theorem Accounted.removeAll (h : f.Accounted) (ops : SinkOps σ) (now : Nat) (ids : List String) :
    (f.removeAll ops now ids).1.Accounted := by
  induction ids generalizing f with
  | nil => exact h
  | cons i rest ih =>
    have hr := h.remove ops now i
    unfold Fleet.removeAll
    split
    · rename_i he
      rw [he] at hr
      exact ih hr
    · rename_i he
      rw [he] at hr
      exact hr

/-- Removals in turn give no instance a context of record. When they succeed none of the
instances has one. -/
theorem Sound.contextOf?_removeAll (h : f.Sound) (ops : SinkOps σ) (now : Nat) (ids : List String)
    {j : String} {n : Nat} (hj : (f.removeAll ops now ids).1.registry.contextOf? j = some n) :
    f.registry.contextOf? j = some n ∧ ((f.removeAll ops now ids).2 = .ok () → j ∉ ids) := by
  induction ids generalizing f with
  | nil => exact ⟨hj, fun _ => List.not_mem_nil⟩
  | cons i rest ih =>
    have hs := h.remove ops now i
    unfold Fleet.removeAll at hj ⊢
    rcases h.contextOf?_remove ops now i with ⟨⟨e, hresult⟩, hr⟩ | ⟨⟨removed, hresult⟩, hr⟩
    · generalize f.remove ops now i = result at *
      obtain ⟨g, answer⟩ := result
      cases hresult
      refine ⟨(hr j).symm.trans hj, fun hok => ?_⟩
      cases hok
    · generalize f.remove ops now i = result at *
      obtain ⟨g, answer⟩ := result
      cases hresult
      obtain ⟨hg, hrest⟩ := ih hs hj
      rw [hr] at hg
      split at hg
      · cases hg
      · rename_i hne
        refine ⟨hg, fun hok hm => ?_⟩
        rcases List.mem_cons.mp hm with he | hm
        · exact hne he
        · exact hrest hok hm

/-- Removals in turn succeed when the sink never fails. -/
theorem Sound.removeAll_ok (h : f.Sound) (ops : SinkOps σ)
    (hops : ∀ kind start sink, ∃ r, ops.clearPrefix kind start sink = .ok r) (now : Nat)
    (ids : List String) : (f.removeAll ops now ids).2 = .ok () := by
  induction ids generalizing f with
  | nil => rfl
  | cons i rest ih =>
    have hs := h.remove ops now i
    unfold Fleet.removeAll
    rcases h.remove_cases ops now i with ⟨he, -⟩ | ⟨g, -, -, ⟨e, -, hclear⟩ | he⟩
    · rw [he] at hs ⊢
      exact ih hs
    · obtain ⟨count, hok⟩ := Gallery.clear_ok ops hops (f.stop now i removedText).gallery i
      rw [hclear] at hok
      cases hok
    · rw [he] at hs ⊢
      exact ih hs

end Remove

/-- There is no process before the first start. -/
theorem accounted_empty (sink : σ) (console : Option Console) (defaultTimeoutMs : Int) :
    (empty sink console defaultTimeoutMs).Accounted := by
  refine ⟨sound_empty sink console defaultTimeoutMs, ?_, ?_⟩
  · intro n c hc
    cases hc
  · intro n c hc
    cases hc

/-- Every event keeps all processes accounted for. -/
theorem Accounted.step (h : f.Accounted) (ops : SinkOps σ) (hasAttachments : Bool) (now : Nat)
    (e : Event) : (Fleet.step ops hasAttachments now f e).Accounted := by
  cases e with
  | start i spec => exact h.start now i spec
  | terminate i reason =>
    unfold Fleet.step
    dsimp only
    rw [terminate_fst]
    exact h.stop now i reason
  | remove i => exact h.remove ops now i
  | shutdown => exact h.removeAll ops now f.registry.ids
  | context n e =>
    exact h.within now n fun c hc =>
      Context.tended_happen (h.sound.contexts n c hc) ops hasAttachments e

/-- Every run of events keeps all processes accounted for. -/
theorem Accounted.run (h : f.Accounted) (ops : SinkOps σ) (hasAttachments : Bool)
    (events : List (Nat × Event)) : (Fleet.run ops hasAttachments f events).Accounted := by
  induction events generalizing f with
  | nil => exact h
  | cons e rest ih => exact ih (h.step ops hasAttachments e.1 e.2)

section Record

/-- No event makes a context that there is the one of record. -/
theorem Sound.contextOf?_step (h : f.Sound) (ops : SinkOps σ) (hasAttachments : Bool) (now : Nat)
    (e : Event) {i : String} {n : Nat} (hn : n < f.contexts.length)
    (hr : (Fleet.step ops hasAttachments now f e).registry.contextOf? i = some n) :
    f.registry.contextOf? i = some n := by
  cases e with
  | start j spec =>
    have hlength : (f.retire now j).contexts.length = f.contexts.length :=
      (f.register j).length_stop now j supersededText
    change (f.start now j spec).1.registry.contextOf? i = some n at hr
    rw [start_fst, contextOf?_enlist j spec (h.isSome_get?_retire now j), hlength] at hr
    split at hr
    · cases hr
      exact absurd hn (Nat.lt_irrefl _)
    · rw [registry, Fleet.retire, (h.register j).stop_gallery] at hr
      exact (f.registry.contextOf?_ensure j i).symm.trans hr
  | terminate j reason =>
    unfold Fleet.step at hr
    dsimp only at hr
    rw [terminate_fst, registry, h.stop_gallery] at hr
    exact hr
  | remove j =>
    change (f.remove ops now j).1.registry.contextOf? i = some n at hr
    rcases h.contextOf?_remove ops now j with ⟨-, hj⟩ | ⟨-, hj⟩
    · exact (hj i).symm.trans hr
    · rw [hj] at hr
      split at hr
      · cases hr
      · exact hr
  | shutdown => exact (h.contextOf?_removeAll ops now f.registry.ids hr).1
  | context m own =>
    unfold Fleet.step at hr
    dsimp only at hr
    cases hc : f.contexts[m]? with
    | none =>
      rw [within_of_none hc] at hr
      exact hr
    | some c =>
      rw [within_of_some hc] at hr
      have hl := Context.lawful_happen (s := f.scene now m c) (h.contexts m c hc) ops hasAttachments own
      exact (hl.contextOf? i).symm.trans hr

/-- No run of events makes a context that there is the one of record. -/
theorem Sound.contextOf?_run (h : f.Sound) (ops : SinkOps σ) (hasAttachments : Bool)
    (events : List (Nat × Event)) {i : String} {n : Nat} (hn : n < f.contexts.length)
    (hr : (Fleet.run ops hasAttachments f events).registry.contextOf? i = some n) :
    f.registry.contextOf? i = some n := by
  induction events generalizing f with
  | nil => exact hr
  | cons e rest ih =>
    have hlength := f.length_le_step ops hasAttachments e.1 e.2
    have hnext := ih (h.step ops hasAttachments e.1 e.2) (Nat.lt_of_lt_of_le hn hlength) hr
    exact h.contextOf?_step ops hasAttachments e.1 e.2 hn hnext

/-- After a shutdown no instance has a context of record. -/
theorem Sound.contextOf?_shutdown (h : f.Sound) (ops : SinkOps σ) (now : Nat)
    (hok : (f.shutdown ops now).2 = .ok ()) (i : String) :
    (f.shutdown ops now).1.registry.contextOf? i = none := by
  cases hr : (f.shutdown ops now).1.registry.contextOf? i with
  | none => rfl
  | some n =>
    obtain ⟨hrecord, hgone⟩ := h.contextOf?_removeAll ops now f.registry.ids hr
    exact absurd (Registry.mem_ids_of_contextOf? hrecord) (hgone hok)

end Record

/-- No process is orphaned. -/
structure NoOrphans (ops : SinkOps σ) (hasAttachments : Bool) (f : Fleet σ) : Prop where
  /-- The process of a context that is not of record is gone, unless it is being created. -/
  replaced : ∀ (n : Nat) (c : Context), f.contexts[n]? = some c →
    f.registry.contextOf? c.instanceId ≠ some n → c.process ≠ .starting → c.process.IsGone
  /-- After a shutdown, and whatever happens then, this holds of every context that there was. -/
  shutdown : ∀ now, (f.shutdown ops now).2 = .ok () → ∀ (later : List (Nat × Event)) (n : Nat)
    (c : Context), n < f.contexts.length →
      (run ops hasAttachments (f.shutdown ops now).1 later).contexts[n]? = some c →
        c.process ≠ .starting → c.process.IsGone
  /-- A shutdown succeeds when the sink never fails. -/
  succeeds : (∀ kind start sink, ∃ r, ops.clearPrefix kind start sink = .ok r) →
    ∀ now, (f.shutdown ops now).2 = .ok ()

/-- In every state that a fleet can come to, no process is orphaned. -/
theorem noOrphans_run (ops : SinkOps σ) (hasAttachments : Bool) (sink : σ)
    (console : Option Console) (defaultTimeoutMs : Int) (events : List (Nat × Event)) :
    NoOrphans ops hasAttachments
      (run ops hasAttachments (empty sink console defaultTimeoutMs) events) := by
  have h := (accounted_empty sink console defaultTimeoutMs).run ops hasAttachments events
  generalize run ops hasAttachments (empty sink console defaultTimeoutMs) events = f at h
  refine ⟨fun n c hc => h.isGone hc, ?_, ?_⟩
  · intro now hok later n c hn hc
    have hafter : (f.shutdown ops now).1.Accounted := h.removeAll ops now f.registry.ids
    have hlength : (f.shutdown ops now).1.contexts.length = f.contexts.length :=
      length_removeAll ops f now f.registry.ids
    refine (hafter.run ops hasAttachments later).isGone hc fun hr => ?_
    have hbefore := hafter.sound.contextOf?_run ops hasAttachments later (hlength ▸ hn) hr
    rw [h.sound.contextOf?_shutdown ops now hok] at hbefore
    cases hbefore
  · exact fun hops now => h.sound.removeAll_ok ops hops now f.registry.ids

/-- A run that is superseded while its process is being created. -/
example : (run Sink.ops false (empty .empty none 2000)
    [(0, .start "a" ⟨"S", "1h", "", 2000⟩), (1, .start "a" ⟨"S", "1h", "", 2000⟩),
      (2, .context 0 .created), (3, .context 1 .created)]).contexts.map Context.process =
    [.gone (some (-9)), .alive] := by rfl

end Fleet

end ChartScript
