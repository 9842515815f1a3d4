import ChartScript.Proofs.Context.Lingering
import ChartScript.Proofs.Data.Assoc
import ChartScript.Proofs.Fleet.Orphans
/-!
# The feed of a fleet

Whatever happens to a fleet takes every one of its contexts through moments of its life. The
console holds what these say: every event leaves at most one note, with the context that it is
by, no start, kill or removal leaves any, and the feed of an instance that was cleared shows the
last notes of its contexts since.
-/

namespace ChartScript

open Artifact (SinkOps)
open Context (Moment lived meet happen remark? written Counted)

namespace Console

/-- The lines of the instances after one of them has another line. -/
theorem lines_append (console : Console) (i j : String) (line : ConsoleLine) :
    (console.append i line).lines j =
      if j = i then trim console.limit (console.lines i ++ [line]) else console.lines j := by
  unfold append lines
  dsimp only
  rw [Assoc.get?_put]
  split <;> rfl

/-- The last lines of the last lines and another one are the last of all. -/
theorem trim_trim_append (limit : Option Nat) (old : List ConsoleLine) (line : ConsoleLine) :
    trim limit (trim limit old ++ [line]) = trim limit (old ++ [line]) := by
  cases limit with
  | none => rfl
  | some n =>
    unfold trim
    dsimp only
    have hdrop : old.drop (old.length - n) ++ [line] = (old ++ [line]).drop (old.length - n) := by
      rw [List.drop_append_of_le_length (Nat.sub_le _ _)]
    rw [hdrop, List.drop_drop]
    congr 1
    simp only [List.length_drop, List.length_append, List.length_singleton]
    omega

end Console

namespace Fleet

variable {σ : Type} (ops : SinkOps σ) (hasAttachments : Bool)

section Life

variable {f : Fleet σ} {n : Nat} {c : Context}

/-- Moments at which a context is killed, and nothing else happens to it. -/
def AllKills (moments : List (Moment Nat σ)) : Prop := ∀ m ∈ moments, ∃ reason, m.event = .terminate reason

/-- A kill is a moment of the context that is killed. -/
theorem lived_stop (now : Nat) (i reason : String) (hc : f.contexts[n]? = some c) :
    ∃ moments : List (Moment Nat σ), AllKills moments ∧
      (f.stop now i reason).contexts[n]? = some (lived ops hasAttachments c moments) := by
  have hnone : AllKills ([] : List (Moment Nat σ)) := fun m hm => absurd hm List.not_mem_nil
  unfold Fleet.stop
  split
  · rename_i m _
    cases hd : f.contexts[m]? with
    | none =>
      rw [within_of_none hd]
      exact ⟨[], hnone, hc⟩
    | some d =>
      rw [getElem?_within hd]
      by_cases hm : m = n
      · subst hm
        cases hc.symm.trans hd
        rw [if_pos rfl]
        refine ⟨[⟨m, f.gallery, f.console, now, .terminate reason⟩], ?_, rfl⟩
        intro moment hmoment
        rw [List.mem_singleton.mp hmoment]
        exact ⟨reason, rfl⟩
      · rw [if_neg hm]
        exact ⟨[], hnone, hc⟩
  · exact ⟨[], hnone, hc⟩

/-- A removal is a moment of the context that is killed. -/
theorem lived_remove (now : Nat) (i : String) (hc : f.contexts[n]? = some c) :
    ∃ moments : List (Moment Nat σ), AllKills moments ∧
      (f.remove ops now i).1.contexts[n]? = some (lived ops hasAttachments c moments) := by
  unfold Fleet.remove
  split
  · rw [terminate_fst]
    dsimp only
    split <;> exact lived_stop ops hasAttachments now i removedText hc
  · exact ⟨[], fun m hm => absurd hm List.not_mem_nil, hc⟩

/-- Removals in turn are moments of the contexts that are killed. -/
theorem lived_removeAll (now : Nat) (ids : List String) (hc : f.contexts[n]? = some c) :
    ∃ moments : List (Moment Nat σ), AllKills moments ∧
      (f.removeAll ops now ids).1.contexts[n]? = some (lived ops hasAttachments c moments) := by
  induction ids generalizing f c with
  | nil => exact ⟨[], fun m hm => absurd hm List.not_mem_nil, hc⟩
  | cons i rest ih =>
    obtain ⟨first, hkills, hfirst⟩ := lived_remove ops hasAttachments now i hc
    unfold Fleet.removeAll
    split
    · rename_i he
      rw [he] at hfirst
      obtain ⟨more, hothers, hmore⟩ := ih hfirst
      refine ⟨first ++ more, ?_, ?_⟩
      · intro m hm
        exact (List.mem_append.mp hm).elim (hkills m) (hothers m)
      · rw [Context.lived_append]
        exact hmore
    · rename_i he
      rw [he] at hfirst
      exact ⟨first, hkills, hfirst⟩

/-- Every event takes every context through moments of its life: kills, or the event if it is its
own. -/
theorem lived_step (now : Nat) (e : Event) (hc : f.contexts[n]? = some c) :
    ∃ moments : List (Moment Nat σ),
      (AllKills moments ∨ ∃ m, moments = [m] ∧ e = .context n m.event) ∧
        (step ops hasAttachments now f e).contexts[n]? = some (lived ops hasAttachments c moments) := by
  have hnone : AllKills ([] : List (Moment Nat σ)) := fun m hm => absurd hm List.not_mem_nil
  cases e with
  | start i spec =>
    obtain ⟨moments, hkills, hd⟩ :=
      lived_stop ops hasAttachments (f := f.register i) now i supersededText hc
    have hlt : n < (f.retire now i).contexts.length := (List.getElem?_eq_some_iff.mp hd).1
    refine ⟨moments, .inl hkills, ?_⟩
    unfold step
    dsimp only
    rw [start_fst, getElem?_enlist, if_neg (Nat.ne_of_lt hlt)]
    exact hd
  | terminate i reason =>
    obtain ⟨moments, hkills, hd⟩ := lived_stop ops hasAttachments now i reason hc
    refine ⟨moments, .inl hkills, ?_⟩
    unfold step
    dsimp only
    rw [terminate_fst]
    exact hd
  | remove i =>
    obtain ⟨moments, hkills, hd⟩ := lived_remove ops hasAttachments now i hc
    exact ⟨moments, .inl hkills, hd⟩
  | shutdown =>
    obtain ⟨moments, hkills, hd⟩ := lived_removeAll ops hasAttachments now f.registry.ids hc
    exact ⟨moments, .inl hkills, hd⟩
  | context m own =>
    unfold step
    dsimp only
    cases hd : f.contexts[m]? with
    | none =>
      rw [within_of_none hd]
      exact ⟨[], .inl hnone, hc⟩
    | some d =>
      rw [getElem?_within hd]
      by_cases hm : m = n
      · subst hm
        cases hc.symm.trans hd
        rw [if_pos rfl]
        exact ⟨[⟨m, f.gallery, f.console, now, own⟩], .inr ⟨_, rfl, rfl⟩, rfl⟩
      · rw [if_neg hm]
        exact ⟨[], .inl hnone, hc⟩

/-- Every run of events takes every context through moments of its life. -/
theorem lived_run (events : List (Nat × Event)) (hc : f.contexts[n]? = some c) :
    ∃ moments : List (Moment Nat σ),
      (run ops hasAttachments f events).contexts[n]? = some (lived ops hasAttachments c moments) := by
  induction events generalizing f c with
  | nil => exact ⟨[], hc⟩
  | cons e rest ih =>
    obtain ⟨first, -, hfirst⟩ := lived_step ops hasAttachments e.1 e.2 hc
    obtain ⟨more, hmore⟩ := ih hfirst
    refine ⟨first ++ more, ?_⟩
    rw [Context.lived_append]
    exact hmore

/-- Whether every context of a fleet counts its calls upwards. -/
def CountsCalls (f : Fleet σ) : Prop := ∀ (n : Nat) (c : Context), f.contexts[n]? = some c → Counted c

/-- Every event leaves contexts that count their calls upwards. -/
theorem CountsCalls.step (h : f.CountsCalls) (hs : f.Sound) (now : Nat) (e : Event) :
    (Fleet.step ops hasAttachments now f e).CountsCalls := by
  intro n d hd
  cases hc : f.contexts[n]? with
  | none =>
    obtain ⟨-, i, spec, -, rfl⟩ := eq_opening_of_born ops hasAttachments now e hc hd
    exact fun errand herrand => absurd herrand List.not_mem_nil
  | some c =>
    obtain ⟨moments, -, hlived⟩ := lived_step ops hasAttachments now e hc
    cases hlived.symm.trans hd
    exact ((h n c hc).lived ops hasAttachments (hs.contexts n c hc) moments).1

/-- Every run of events leaves contexts that count their calls upwards. -/
theorem CountsCalls.run (h : f.CountsCalls) (hs : f.Sound) (events : List (Nat × Event)) :
    (Fleet.run ops hasAttachments f events).CountsCalls := by
  induction events generalizing f with
  | nil => exact h
  | cons e rest ih =>
    exact ih (h.step ops hasAttachments hs e.1 e.2) (hs.step ops hasAttachments e.1 e.2)

end Life

/-- A line that the console was given, and the context that it is by. -/
structure Note where
  /-- The number of the context. -/
  number : Nat
  /-- The instance of the context. -/
  instanceId : String
  /-- The line. -/
  line : ConsoleLine

/-- The note that an event leaves. -/
def note? (now : Nat) (f : Fleet σ) : Event → Option Note
  | .context n e =>
    (f.contexts[n]?).bind fun c =>
      (remark? (f.scene now n c) (happen ops hasAttachments e (f.scene now n c)) e).map
        fun line => ⟨n, c.instanceId, line⟩
  | _ => none

/-- The notes that events leave, oldest first. -/
def notes : Fleet σ → List (Nat × Event) → List Note
  | _, [] => []
  | f, e :: rest =>
    (note? ops hasAttachments e.1 f e.2).toList ++ notes (step ops hasAttachments e.1 f e.2) rest

/-- A console after notes. -/
def noteAll (notes : List Note) (console : Console) : Console :=
  notes.foldl (fun console note => console.append note.instanceId note.line) console

/-- The lines of an instance among notes. -/
def linesOf (i : String) (notes : List Note) : List ConsoleLine :=
  (notes.filter fun note => note.instanceId = i).map Note.line

section Console

variable {f : Fleet σ}

/-- A kill leaves the console alone. -/
theorem stop_console (now : Nat) (i reason : String) (f : Fleet σ) :
    (f.stop now i reason).console = f.console := by
  unfold stop
  split
  · rename_i n _
    cases hc : f.contexts[n]? with
    | none => rw [within_of_none hc]
    | some c =>
      rw [within_of_some hc]
      exact Context.terminate_console reason (f.scene now n c)
  · rfl

/-- A start leaves the console alone. -/
theorem start_console (now : Nat) (i : String) (spec : Run.Spec) (f : Fleet σ) :
    (f.start now i spec).1.console = f.console := by
  rw [start_fst]
  exact (f.register i).stop_console now i supersededText

/-- A removal leaves the console alone. -/
theorem remove_console (now : Nat) (i : String) (f : Fleet σ) :
    (f.remove ops now i).1.console = f.console := by
  unfold remove
  split
  · rw [terminate_fst]
    dsimp only
    split <;> exact f.stop_console now i removedText
  · rfl

/-- Removals in turn leave the console alone. -/
theorem removeAll_console (now : Nat) (ids : List String) (f : Fleet σ) :
    (f.removeAll ops now ids).1.console = f.console := by
  induction ids generalizing f with
  | nil => rfl
  | cons i rest ih =>
    have hfirst := remove_console ops now i f
    unfold removeAll
    split
    · rename_i he
      rw [he] at hfirst
      exact (ih _).trans hfirst
    · rename_i he
      rw [he] at hfirst
      exact hfirst

/-- The console after an event has the note that the event leaves. -/
theorem Sound.console_step (h : f.Sound) (now : Nat) (e : Event) :
    (Fleet.step ops hasAttachments now f e).console =
      f.console.map (noteAll (note? ops hasAttachments now f e).toList) := by
  have hsame : ∀ console : Option Console, console = console.map (noteAll []) := by
    intro console
    cases console <;> rfl
  cases e with
  | start i spec => exact (start_console now i spec f).trans (hsame f.console)
  | terminate i reason =>
    unfold Fleet.step
    dsimp only
    rw [terminate_fst]
    exact (stop_console now i reason f).trans (hsame f.console)
  | remove i => exact (remove_console ops now i f).trans (hsame f.console)
  | shutdown => exact (removeAll_console ops now f.registry.ids f).trans (hsame f.console)
  | context n own =>
    unfold Fleet.step note?
    dsimp only
    cases hc : f.contexts[n]? with
    | none =>
      rw [within_of_none hc]
      exact hsame f.console
    | some c =>
      have hconsole := Context.console_happen (s := f.scene now n c) ops hasAttachments
        (h.contexts n c hc) own
      rw [within_of_some hc, Option.bind_some]
      dsimp only
      rw [hconsole]
      cases remark? (f.scene now n c) (happen ops hasAttachments own (f.scene now n c)) own with
      | none => exact hsame f.console
      | some line => rfl

/-- The console after a run of events has the notes that these leave. -/
theorem Sound.console_run (h : f.Sound) (events : List (Nat × Event)) :
    (Fleet.run ops hasAttachments f events).console =
      f.console.map (noteAll (notes ops hasAttachments f events)) := by
  induction events generalizing f with
  | nil =>
    change f.console = f.console.map (noteAll [])
    cases f.console <;> rfl
  | cons e rest ih =>
    have hfirst := h.console_step ops hasAttachments e.1 e.2
    have hrest := ih (h.step ops hasAttachments e.1 e.2)
    change (Fleet.run ops hasAttachments (Fleet.step ops hasAttachments e.1 f e.2) rest).console =
      f.console.map (noteAll ((note? ops hasAttachments e.1 f e.2).toList ++
        notes ops hasAttachments (Fleet.step ops hasAttachments e.1 f e.2) rest))
    rw [hrest, hfirst, Option.map_map]
    congr 1
    funext console
    exact List.foldl_append.symm

/-- The feed of an instance after notes: the last lines within the limit. -/
theorem lines_noteAll (i : String) (notes : List Note) (console : Console) (old : List ConsoleLine)
    (hold : console.lines i = Console.trim console.limit old) :
    (noteAll notes console).lines i = Console.trim console.limit (old ++ linesOf i notes) := by
  induction notes generalizing console old with
  | nil =>
    change console.lines i = Console.trim console.limit (old ++ [])
    rw [List.append_nil]
    exact hold
  | cons note rest ih =>
    have hlines := console.lines_append note.instanceId i note.line
    change (noteAll rest (console.append note.instanceId note.line)).lines i = _
    by_cases hi : note.instanceId = i
    · have hmine : linesOf i (note :: rest) = note.line :: linesOf i rest := by simp [linesOf, hi]
      have hnext : (console.append note.instanceId note.line).lines i =
          Console.trim console.limit (old ++ [note.line]) := by
        rw [hlines, if_pos hi.symm, hi, hold, Console.trim_trim_append]
      rw [hmine, List.append_cons]
      exact ih _ (old ++ [note.line]) hnext
    · have hother : linesOf i (note :: rest) = linesOf i rest := by simp [linesOf, hi]
      have hnext : (console.append note.instanceId note.line).lines i =
          Console.trim console.limit old := by
        rw [hlines, if_neg fun he => hi he.symm, hold]
      rw [hother]
      exact ih _ old hnext

/-- The feed of an instance without lines shows the last of the notes that are left since. -/
theorem lines_noteAll_of_empty (i : String) (notes : List Note) {console : Console}
    (hnone : console.lines i = []) :
    (noteAll notes console).lines i = Console.trim console.limit (linesOf i notes) := by
  have hold : console.lines i = Console.trim console.limit [] := by
    rw [hnone]
    cases console.limit <;> simp [Console.trim]
  exact lines_noteAll i notes console [] hold

end Console

end Fleet

end ChartScript
