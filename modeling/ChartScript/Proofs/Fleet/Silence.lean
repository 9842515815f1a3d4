import ChartScript.Proofs.Fleet.Feed
/-!
# What is heard of a context that was dropped

A context is dropped when its instance is started anew or removed. Whether anything is heard of
it later is decided at that moment: of a context that lingered then everything is, its lines go
to the console and its calls to the collaborators, and of any other one nothing is, whatever is
still queued for it. So the feed of an instance that was cleared and started anew has the lines
of its new runs alone exactly if none of its contexts lingered.
-/

namespace ChartScript.Fleet

open Artifact (SinkOps Sink)
open Context (Lingers Mute Asks Tethered lived meet happen remark?)
open Message (Call FromContext LogLine Request requestOf?)

variable {σ : Type} (ops : SinkOps σ) (hasAttachments : Bool)

/-- Whether nothing of the context of a number is heeded from now on: none of its events, after
whatever else happens, says anything in the console, changes registry or sink, or asks a
collaborator for anything. -/
def Ignores (f : Fleet σ) (n : Nat) : Prop :=
  ∀ (later : List (Nat × Event)) (now : Nat) (own : Context.Event) (c : Context),
    (run ops hasAttachments f later).contexts[n]? = some c →
      Mute ((run ops hasAttachments f later).scene now n c)
        (happen ops hasAttachments own ((run ops hasAttachments f later).scene now n c))

/-- What is heard of the context of a number from now on, after whatever else happens. -/
structure Heeds (f : Fleet σ) (n : Nat) : Prop where
  /-- It is there. -/
  present : ∀ later, ∃ c, (run ops hasAttachments f later).contexts[n]? = some c
  /-- Every line that its process logged is written to the console. -/
  logged : ∀ later now raw line c, FromContext.decode? raw = some (.log line) →
    (run ops hasAttachments f later).contexts[n]? = some c →
      note? ops hasAttachments now (run ops hasAttachments f later) (.context n (.message raw)) =
        some ⟨n, c.instanceId, ⟨line.level.name, line.text⟩⟩
  /-- Every call of its process that has to be fetched is passed on to a collaborator when it is
  looked at, once its request was heard. -/
  asked : ∀ later first second raw r call fetch c d, requestOf? raw = some r →
    Call.decode r.method r.params = .ok call →
      (∀ stage, Host.serve hasAttachments call stage = .waiting fetch) →
        (run ops hasAttachments f later).contexts[n]? = some c →
          (run ops hasAttachments f
            (later ++ [(first, .context n (.message raw))])).contexts[n]? = some d →
            ∃ e, (run ops hasAttachments f (later ++ [(first, .context n (.message raw)),
                (second, .context n (.serve c.calls))])).contexts[n]? = some e ∧ Asks d e fetch

/-- What becomes of the contexts that an instance had when something happens to it. -/
structure Drops (i : String) (f g : Fleet σ) : Prop where
  /-- Nothing is heeded of a context that did not linger. -/
  ignored : ∀ n c, f.contexts[n]? = some c → c.instanceId = i → ¬Lingers c →
    Ignores ops hasAttachments g n
  /-- Everything is heard of a context that lingered. -/
  heeded : ∀ n c, f.contexts[n]? = some c → c.instanceId = i → Lingers c → Heeds ops hasAttachments g n

/-- A fleet in which the feed of an instance has been cleared. -/
def cleared (i : String) (f : Fleet σ) : Fleet σ :=
  { f with console := f.console.map fun console => console.clear i }

/-- What the feed of an instance shows after it was cleared and the instance was started anew. -/
structure Refreshed (now : Nat) (i : String) (spec : Run.Spec) (f : Fleet σ) : Prop where
  /-- It shows the last lines, within the limit, of those that contexts of the instance have
  left since. -/
  feed : ∀ (later : List (Nat × Event)) (console : Console), f.console = some console →
    ∃ after, (run ops hasAttachments ((f.cleared i).start now i spec).1 later).console =
        some after ∧
      after.lines i = Console.trim console.limit (linesOf i
        (notes ops hasAttachments ((f.cleared i).start now i spec).1 later))
  /-- All of these are by contexts that were started since, exactly if no context that the
  instance had lingered. -/
  fresh : (∀ later, ∀ note ∈ notes ops hasAttachments ((f.cleared i).start now i spec).1 later,
      note.instanceId = i → f.contexts.length ≤ note.number) ↔
    ∀ (n : Nat) (c : Context), f.contexts[n]? = some c → c.instanceId = i → ¬Lingers c

variable {ops hasAttachments} {f : Fleet σ} {n : Nat} {c : Context}

section Fate

/-- A run in two parts. -/
theorem run_append (f : Fleet σ) (before after : List (Nat × Event)) :
    run ops hasAttachments f (before ++ after) =
      run ops hasAttachments (run ops hasAttachments f before) after := List.foldl_append

/-- A call that has to be fetched is passed on to a collaborator when it is looked at, once its
request was heard. -/
theorem asks_of_requested {raw : Wire} {r : Request} {call : Call} {fetch : Host.Fetch}
    {first second : Nat} {d : Context} (hc : f.contexts[n]? = some c) (hcounted : Context.Counted c)
    (ha : c.attached = true) (ht : c.status ≠ .terminated) (hr : requestOf? raw = some r)
    (hcall : Call.decode r.method r.params = .ok call)
    (hfetch : ∀ stage, Host.serve hasAttachments call stage = .waiting fetch)
    (hd : (run ops hasAttachments f [(first, .context n (.message raw))]).contexts[n]? = some d) :
    ∃ e, (run ops hasAttachments f [(first, .context n (.message raw)),
        (second, .context n (.serve c.calls))]).contexts[n]? = some e ∧ Asks d e fetch := by
  have hheard := getElem?_within hc first (happen ops hasAttachments (.message raw)) n
  rw [if_pos rfl] at hheard
  cases hheard.symm.trans hd
  have hlooked := getElem?_within hd second (happen ops hasAttachments (.serve c.calls)) n
  rw [if_pos rfl] at hlooked
  have herrand := Context.errand?_heard (s := f.scene first n c) ops hasAttachments hcounted ha ht hr
  exact ⟨_, hlooked, Context.asks_of_unseen
    (s := (run ops hasAttachments f [(first, .context n (.message raw))]).scene second n _) ops
    hasAttachments herrand hcall (hfetch _)⟩

/-- Of a killed context nothing is heeded. -/
theorem ignores_of_terminated (h : f.Sound) (hc : f.contexts[n]? = some c)
    (ht : c.status = .terminated) : Ignores ops hasAttachments f n := by
  intro later now own d hd
  have hsound := h.run ops hasAttachments later
  obtain ⟨moments, hlived⟩ := lived_run ops hasAttachments later hc
  cases hlived.symm.trans hd
  have hkilled := Context.terminated_lived ops hasAttachments (h.contexts n c hc) ht moments
  exact Context.mute_of_terminated (s := (run ops hasAttachments f later).scene now n _) ops
    hasAttachments (hsound.contexts n _ hd) hkilled own

/-- Of a context that lingers everything is heard. -/
theorem heeds_of_lingers (h : f.Sound) (k : f.CountsCalls) (hc : f.contexts[n]? = some c)
    (hl : Lingers c) : Heeds ops hasAttachments f n := by
  have hlater : ∀ later d, (run ops hasAttachments f later).contexts[n]? = some d →
      Lingers d ∧ d.attached = true := by
    intro later d hd
    have hsound := (h.run ops hasAttachments later).contexts n d hd
    obtain ⟨moments, hlived⟩ := lived_run ops hasAttachments later hc
    cases hlived.symm.trans hd
    have hlingers := hl.lived ops hasAttachments (h.contexts n c hc) moments
    exact ⟨hlingers, hlingers.attached hsound⟩
  refine ⟨?present, ?logged, ?asked⟩
  case present =>
    intro later
    obtain ⟨moments, hlived⟩ := lived_run ops hasAttachments later hc
    exact ⟨_, hlived⟩
  case logged =>
    intro later now raw line d hline hd
    have hsound := (h.run ops hasAttachments later).contexts n d hd
    have hremark := (hlater later d hd).1.remark?_logged
      (s := (run ops hasAttachments f later).scene now n d) hsound
      (happen ops hasAttachments (.message raw) ((run ops hasAttachments f later).scene now n d)) hline
    unfold note?
    dsimp only
    rw [hd, Option.bind_some, hremark]
    rfl
  case asked =>
    intro later first second raw r call fetch d e hr hcall hfetch hd he
    have hcounted := (k.run ops hasAttachments h later) n d hd
    have hheard := (hlater later d hd).2
    have hliving := (hlater later d hd).1.living
    rw [run_append] at he ⊢
    exact asks_of_requested hd hcounted hheard hliving hr hcall hfetch he

end Fate

section Dropping

/-- Whether something that happened to an instance has left those of its contexts alone that
lingered, and killed all the others. -/
def Dismisses (i : String) (f g : Fleet σ) : Prop :=
  ∀ (n : Nat) (c : Context), f.contexts[n]? = some c → c.instanceId = i →
    ∃ d, g.contexts[n]? = some d ∧ (Lingers c → d = c) ∧ (¬Lingers c → d.status = .terminated)

/-- A context that is not of record was killed or lingers. -/
theorem Accounted.terminated_or_lingers (h : f.Accounted) (hc : f.contexts[n]? = some c)
    (hr : f.registry.contextOf? c.instanceId ≠ some n) : c.status = .terminated ∨ Lingers c := by
  have hs : c.outcome.isSome = true := by
    cases ho : c.outcome with
    | some o => rfl
    | none => exact absurd (h.sound.current n c hc ho) hr
  by_cases ht : c.status = .terminated
  · exact .inl ht
  · rcases h.released n c hc hr with hk | hg
    · exact absurd hk ht
    · exact .inr ⟨hs, ht, hg⟩

/-- A kill of the context of record dismisses all contexts of the instance. -/
theorem Accounted.dismisses_stop (h : f.Accounted) (now : Nat) (i reason : String) :
    Dismisses i f (f.stop now i reason) := by
  intro n c hc hi
  have hother : f.registry.contextOf? i ≠ some n →
      (Lingers c → c = c) ∧ (¬Lingers c → c.status = .terminated) := by
    intro hr
    have hcases := h.terminated_or_lingers hc (by rw [hi]; exact hr)
    exact ⟨fun _ => rfl, hcases.resolve_right⟩
  unfold Fleet.stop
  cases hm : f.registry.contextOf? i with
  | none =>
    have hr : f.registry.contextOf? i ≠ some n := by
      rw [hm]
      exact nofun
    exact ⟨c, hc, hother hr⟩
  | some m =>
    dsimp only
    cases hd : f.contexts[m]? with
    | none =>
      have hr : f.registry.contextOf? i ≠ some n := by
        rw [hm]
        rintro ⟨⟩
        cases hc.symm.trans hd
      rw [within_of_none hd]
      exact ⟨c, hc, hother hr⟩
    | some d =>
      rw [getElem?_within hd]
      by_cases hmn : m = n
      · subst hmn
        cases hc.symm.trans hd
        rw [if_pos rfl]
        refine ⟨_, rfl, ?_⟩
        have hiff := Context.not_isKillable_iff (h.sound.contexts m c hc) (h.tethered m c hc)
        by_cases hk : isKillable c = true
        · have hmarked : (Context.terminate reason (f.scene now m c)).context.status = .terminated :=
            Context.terminate_of_isKillable (s := f.scene now m c) hk reason
          exact ⟨fun hl => absurd hk (hiff.mpr (.inr hl)), fun _ => hmarked⟩
        · have hsame : Context.terminate reason (f.scene now m c) = f.scene now m c :=
            terminate_of_not_isKillable (s := f.scene now m c) reason hk
          rw [hsame]
          exact ⟨fun _ => rfl, (hiff.mp hk).resolve_right⟩
      · have hr : f.registry.contextOf? i ≠ some n := by
          rw [hm]
          exact fun he => hmn (Option.some.inj he)
        rw [if_neg hmn]
        exact ⟨c, hc, hother hr⟩

/-- A start dismisses all contexts that the instance had. -/
theorem Accounted.dismisses_start (h : f.Accounted) (now : Nat) (i : String) (spec : Run.Spec) :
    Dismisses i f (f.start now i spec).1 := by
  intro n c hc hi
  obtain ⟨d, hd, hfate⟩ := (h.register i).dismisses_stop now i supersededText n c hc hi
  have hlt : n < (f.retire now i).contexts.length := (List.getElem?_eq_some_iff.mp hd).1
  refine ⟨d, ?_, hfate⟩
  rw [start_fst, getElem?_enlist, if_neg (Nat.ne_of_lt hlt)]
  exact hd

/-- A removal dismisses all contexts of the instance, also when the sink fails. -/
theorem Accounted.dismisses_remove (h : f.Accounted) (now : Nat) (i : String) :
    Dismisses i f (f.remove ops now i).1 := by
  intro n c hc hi
  have hstop := h.dismisses_stop now i removedText n c hc hi
  rcases h.sound.remove_cases ops now i with ⟨he, hnone⟩ | ⟨g, hg, -, ⟨e, he, -⟩ | he⟩
  · have hr : f.registry.contextOf? c.instanceId ≠ some n := by
      rw [hi, hnone]
      exact nofun
    rw [he]
    exact ⟨c, hc, fun _ => rfl, (h.terminated_or_lingers hc hr).resolve_right⟩
  · rw [he, hg]
    exact hstop
  · rw [he]
    change ∃ d, g.contexts[n]? = some d ∧ _
    rw [hg]
    exact hstop

/-- A context that was dismissed and did not linger stays killed. -/
theorem Dismisses.terminated {i : String} {g : Fleet σ} (h : Dismisses i f g) (hg : g.Sound)
    (hc : f.contexts[n]? = some c) (hi : c.instanceId = i) (hl : ¬Lingers c)
    (later : List (Nat × Event)) {d : Context}
    (hd : (run ops hasAttachments g later).contexts[n]? = some d) : d.status = .terminated := by
  obtain ⟨b, hb, -, hkilled⟩ := h n c hc hi
  obtain ⟨moments, hlived⟩ := lived_run ops hasAttachments later hb
  cases hlived.symm.trans hd
  exact Context.terminated_lived ops hasAttachments (hg.contexts n b hb) (hkilled hl) moments

/-- What happened to an instance drops its contexts if it dismissed them. -/
theorem Dismisses.drops {i : String} {g : Fleet σ} (h : Dismisses i f g) (hg : g.Sound)
    (k : g.CountsCalls) : Drops ops hasAttachments i f g := by
  constructor
  · intro n c hc hi hl
    obtain ⟨d, hd, -, hkilled⟩ := h n c hc hi
    exact ignores_of_terminated hg hd (hkilled hl)
  · intro n c hc hi hl
    obtain ⟨d, hd, hsame, -⟩ := h n c hc hi
    cases hsame hl
    exact heeds_of_lingers hg k hd hl

end Dropping

section Refreshing

/-- The processes of a fleet in which a feed has been cleared. -/
theorem Accounted.cleared (h : f.Accounted) (i : String) : (f.cleared i).Accounted :=
  h.congr rfl fun _ => rfl

/-- A cleared feed is empty. -/
theorem lines_clear (console : Console) (i : String) : (console.clear i).lines i = [] := by
  unfold Console.clear Console.lines
  dsimp only
  rw [Assoc.get?_erase, if_pos rfl]
  rfl

/-- A note in a run of events is left by one of them. -/
theorem exists_of_mem_notes {events : List (Nat × Event)} {note : Note}
    (h : note ∈ notes ops hasAttachments f events) : ∃ before e after, events = before ++ e :: after ∧
      note? ops hasAttachments e.1 (run ops hasAttachments f before) e.2 = some note := by
  induction events generalizing f with
  | nil => cases h
  | cons e rest ih =>
    rcases List.mem_append.mp h with hfirst | hrest
    · exact ⟨[], e, rest, rfl, Option.mem_toList.mp hfirst⟩
    · obtain ⟨before, last, after, hevents, hnote⟩ := ih hrest
      refine ⟨e :: before, last, after, ?_, hnote⟩
      rw [hevents]
      rfl

/-- A note is by a context of its instance that was not killed. -/
theorem of_note? (h : f.Sound) {now : Nat} {e : Event} {note : Note}
    (hnote : note? ops hasAttachments now f e = some note) :
    ∃ c, f.contexts[note.number]? = some c ∧ c.instanceId = note.instanceId ∧
      c.status ≠ .terminated := by
  unfold note? at hnote
  split at hnote
  · rename_i n own
    obtain ⟨c, hc, hremark⟩ := Option.bind_eq_some_iff.mp hnote
    obtain ⟨line, hline, rfl⟩ := Option.map_eq_some_iff.mp hremark
    refine ⟨c, hc, rfl, fun ht => ?_⟩
    rw [Context.remark?_of_terminated (s := f.scene now n c) ops hasAttachments
      (h.contexts n c hc) ht] at hline
    cases hline
  · cases hnote

/-- What the feed of an instance shows after it was cleared and the instance was started. -/
theorem Accounted.refreshed (h : f.Accounted) (k : f.CountsCalls) (now : Nat) (i : String)
    (spec : Run.Spec) : Refreshed ops hasAttachments now i spec f := by
  have hsound := (h.cleared i).sound.start now i spec
  have hdismisses := (h.cleared i).dismisses_start now i spec
  have hcounts : ((f.cleared i).start now i spec).1.CountsCalls := by
    have hk : (f.cleared i).CountsCalls := k
    exact hk.step ops hasAttachments (h.cleared i).sound now (.start i spec)
  constructor
  · intro later console hconsole
    have hrun := hsound.console_run ops hasAttachments later
    have hcleared : (f.cleared i).console = some (console.clear i) := by
      unfold Fleet.cleared
      rw [hconsole]
      rfl
    rw [start_console, hcleared] at hrun
    exact ⟨_, hrun, lines_noteAll_of_empty i _ (lines_clear console i)⟩
  · constructor
    · intro hfresh n c hc hi hl
      have hlt : n < f.contexts.length := (List.getElem?_eq_some_iff.mp hc).1
      obtain ⟨d, hd, hsame, -⟩ := hdismisses n c hc hi
      cases hsame hl
      -- a line that it has logged would still be written
      have hheeds : Heeds ops hasAttachments _ n := heeds_of_lingers hsound hcounts hd hl
      have hnote := hheeds.logged [] now (LogLine.mk .info "").view.toWire ⟨.info, ""⟩ c rfl hd
      have hmem := hfresh [(now, .context n (.message (LogLine.mk .info "").view.toWire))]
        ⟨n, c.instanceId, ⟨"info", ""⟩⟩ (List.mem_append_left _ (Option.mem_toList.mpr hnote)) hi
      exact absurd hlt (Nat.not_lt.mpr hmem)
    · intro hnone later note hnote hi
      by_contra hold
      have hlt : note.number < f.contexts.length := Nat.lt_of_not_le hold
      obtain ⟨before, e, after, rfl, hleft⟩ := exists_of_mem_notes hnote
      obtain ⟨d, hd, hdi, hliving⟩ := of_note? (hsound.run ops hasAttachments before) hleft
      obtain ⟨c, hc⟩ : ∃ c, f.contexts[note.number]? = some c := ⟨_, List.getElem?_eq_getElem hlt⟩
      have hkeeps := ((h.cleared i).sound.keeps_step ops hasAttachments now (.start i spec)).trans
        (hsound.keeps_run ops hasAttachments before)
      obtain ⟨b, hb, hbi, -⟩ := hkeeps note.number c hc
      cases hb.symm.trans hd
      have hci : c.instanceId = i := hbi.symm.trans (hdi.trans hi)
      exact hliving (hdismisses.terminated hsound hc hci (hnone _ c hc hci) before hd)

end Refreshing

variable (ops hasAttachments) in
/-- In every state that a fleet can come to, whatever of the contexts of an instance is still
queued, whether their processes run or have ended, and whatever happens later: once the instance
is started anew or removed nothing is heeded of those that did not linger and everything is heard
of those that did, and the feed shows only what new contexts say exactly if none lingered. -/
theorem dropped_run (sink : σ) (console : Option Console) (defaultTimeoutMs : Int)
    (events : List (Nat × Event)) (now : Nat) (i : String) (spec : Run.Spec) :
    let f := run ops hasAttachments (empty sink console defaultTimeoutMs) events
    Drops ops hasAttachments i f (f.start now i spec).1 ∧
      Drops ops hasAttachments i f (f.remove ops now i).1 ∧
      Refreshed ops hasAttachments now i spec f := by
  intro f
  have h : f.Accounted := (accounted_empty sink console defaultTimeoutMs).run ops hasAttachments events
  have hempty : (empty sink console defaultTimeoutMs).CountsCalls := fun n c hc => by cases hc
  have k : f.CountsCalls :=
    hempty.run ops hasAttachments (sound_empty sink console defaultTimeoutMs) events
  have hstart : (f.start now i spec).1.CountsCalls := k.step ops hasAttachments h.sound now (.start i spec)
  have hremove : (f.remove ops now i).1.CountsCalls := k.step ops hasAttachments h.sound now (.remove i)
  exact ⟨(h.dismisses_start now i spec).drops (h.sound.start now i spec) hstart,
    (h.dismisses_remove now i).drops (h.sound.remove ops now i) hremove, h.refreshed k now i spec⟩

/-- A run that was out of time and whose process has ended since, and then another one. -/
def lateLine : List (Nat × Event) :=
  [(0, .start "a" ⟨"S", "1h", "", 2000⟩), (1, .context 0 .created),
    (2, .context 0 (.message Message.startedView.toWire)),
    (3, .context 0 (.message (Message.Done.view ⟨none, some true⟩).toWire)),
    (4, .context 0 (.died (some 0))), (5, .start "a" ⟨"S", "1h", "", 2000⟩),
    (6, .context 0 (.message (LogLine.mk .info "late").view.toWire))]

/-- A line of the first run that comes late is in the feed of the second one. -/
example : ((run Sink.ops false (empty .empty (some (.empty none)) 2000) lateLine).console.map
    fun console => console.lines "a") =
      some [⟨"error", "Runtime timed out"⟩, ⟨"info", "late"⟩] := rfl

end ChartScript.Fleet
