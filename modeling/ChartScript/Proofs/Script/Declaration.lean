import ChartScript.Proofs.Script.Placement
/-!
# Names that are declared where they cannot be

The rules on names go over the events of a script with a stack of open scopes. Balanced events break
a rule or leave the stack as high as it was, so what breaks a rule wherever it comes is found wherever
it stands: two parameters of one name in a function, and at the top a declaration of a name of an
outer function.
-/

namespace ChartScript.Script.Scope

section Names

/-- Binding a name outside of comprehensions opens and closes no scope. -/
theorem length_bindOutside (id : String) (scopes : List Names) :
    (bindOutside id scopes).length = scopes.length := by
  induction scopes with
  | nil => rfl
  | cons n rest ih =>
    unfold bindOutside
    split
    · exact congrArg (· + 1) ih
    · rfl

/-- Nor does binding a name inside an expression. -/
theorem length_bindInside (id : String) (scopes : List Names) :
    (bindInside id scopes).length = scopes.length := by
  cases scopes with
  | nil => rfl
  | cons n rest =>
    rw [bindInside]
    split
    · exact congrArg (· + 1) (length_bindOutside id rest)
    · rfl

/-- Whether events, met with these scopes open, break a rule on names whatever comes after them, or
go on with as many open scopes. -/
def GoesOn (top : Names) (outer : List Names) (es : List Event) : Prop :=
  (∀ rest, (checkNames (top :: outer) (es ++ rest)).isSome = true) ∨
    ∃ top' outer', outer'.length = outer.length ∧
      ∀ rest, checkNames (top :: outer) (es ++ rest) = checkNames (top' :: outer') rest

/-- An event that opens and closes nothing. -/
theorem goesOn_mark {e : Event} (he : e.isMark = true) (top : Names) (outer : List Names) :
    GoesOn top outer [e] := by
  have hstop (r : Report) (h : ∀ rest, checkNames (top :: outer) (e :: rest) = some r) :
      GoesOn top outer [e] := .inl fun rest => by rw [List.singleton_append, h]; rfl
  have hgo (next : Names) (h : ∀ rest, checkNames (top :: outer) (e :: rest) = checkNames (next :: outer) rest) :
      GoesOn top outer [e] := .inr ⟨next, outer, rfl, h⟩
  cases e with
  | enter => cases he
  | leave => cases he
  | opening => cases he
  | closing => cases he
  | begin role =>
    cases role with
    | source => exact hgo { top with sources := top.sources + 1 } fun _ => rfl
    | target => exact hgo { top with inTarget := true } fun _ => rfl
  | finish role =>
    cases role with
    | source => exact hgo { top with sources := top.sources - 1 } fun _ => rfl
    | target => exact hgo { top with inTarget := false } fun _ => rfl
  | use line id =>
    by_cases h : (top.inTarget && top.outward.contains id) = true
    · exact hstop ⟨line, .targetRebinds id⟩ fun _ => if_pos h
    · exact hgo { top with
        used := id :: top.used
        targeted := if top.inTarget then id :: top.targeted else top.targeted } fun _ => if_neg h
  | bind line id =>
    by_cases h : top.outward.contains id = true
    · exact hstop ⟨line, .targetRebinds id⟩ fun _ => if_pos h
    · exact hgo { top with bound := id :: top.bound } fun _ => if_neg h
  | bindOuter line id =>
    by_cases hsource : (top.sources != 0) = true
    · exact hstop ⟨line, .bindsInSource⟩ fun _ => if_pos hsource
    by_cases htarget : isCompTarget id (top :: outer) = true
    · exact hstop ⟨line, .rebindsTarget id⟩ fun _ => (if_neg hsource).trans (if_pos htarget)
    by_cases hclass : isInClass (top :: outer) = true
    · exact hstop ⟨line, .bindsInClass⟩ fun _ =>
        (if_neg hsource).trans ((if_neg htarget).trans (if_pos hclass))
    by_cases hin : top.inTarget = true
    · exact hstop ⟨line, .targetRebinds id⟩ fun _ =>
        (if_neg hsource).trans ((if_neg htarget).trans ((if_neg hclass).trans (if_pos hin)))
    have hlength := length_bindInside id (top :: outer)
    cases hscopes : bindInside id (top :: outer) with
    | nil =>
      rw [hscopes] at hlength
      cases hlength
    | cons next others =>
      rw [hscopes] at hlength
      refine .inr ⟨next, others, Nat.succ.inj hlength, fun rest => ?_⟩
      rw [← hscopes]
      exact (if_neg hsource).trans ((if_neg htarget).trans ((if_neg hclass).trans (if_neg hin)))
  | annotate line id =>
    by_cases hglobal : (top.kind != .module && top.globals.contains id) = true
    · exact hstop ⟨line, .annotatedDeclared id "global"⟩ fun _ => if_pos hglobal
    by_cases hnonlocal : (top.kind != .module && top.nonlocals.contains id) = true
    · exact hstop ⟨line, .annotatedDeclared id "nonlocal"⟩ fun _ =>
        (if_neg hglobal).trans (if_pos hnonlocal)
    exact hgo { top with annotated := id :: top.annotated } fun _ =>
      (if_neg hglobal).trans (if_neg hnonlocal)
  | param line id =>
    by_cases h : top.params.contains id = true
    · exact hstop ⟨line, .duplicateParam id⟩ fun _ => if_pos h
    · exact hgo { top with params := id :: top.params } fun _ => if_neg h
  | declareGlobal line id =>
    cases h : top.declared? id "global" with
    | some v => exact hstop ⟨line, v⟩ fun _ => by simp only [checkNames, h]
    | none => exact hgo (top.declareGlobal line id) fun _ => by simp only [checkNames, h]
  | declareNonlocal line id =>
    cases h : top.declared? id "nonlocal" with
    | some v => exact hstop ⟨line, v⟩ fun _ => by simp only [checkNames, h]
    | none => exact hgo (top.declareNonlocal line id) fun _ => by simp only [checkNames, h]
  | yield line =>
    cases h : top.kind with
    | comprehension kind => exact hstop ⟨line, .yieldInside kind⟩ fun _ => by simp only [checkNames, h]
    | _ => exact hgo top fun _ => by simp only [checkNames, h]
  | yieldFrom line =>
    cases h : top.kind with
    | comprehension kind => exact hstop ⟨line, .yieldInside kind⟩ fun _ => by simp only [checkNames, h]
    | _ => exact hgo top fun _ => by simp only [checkNames, h]
  | _ => exact hgo top fun _ => rfl

/-- Balanced events break a rule on names or leave as many scopes open as there were. -/
theorem Balanced.goesOn {es : List Event} (h : Balanced es) (top : Names) (outer : List Names) :
    GoesOn top outer es := by
  induction h generalizing top outer with
  | nil => exact .inr ⟨top, outer, rfl, fun _ => rfl⟩
  | mark he => exact goesOn_mark he top outer
  | append ha hb iha ihb =>
    rcases iha top outer with hreport | ⟨next, others, hlength, hgo⟩
    · refine .inl fun rest => ?_
      rw [List.append_assoc]
      exact hreport _
    · rcases ihb next others with hreport | ⟨last, remaining, hlength', hgo'⟩
      · refine .inl fun rest => ?_
        rw [List.append_assoc, hgo]
        exact hreport rest
      · refine .inr ⟨last, remaining, hlength'.trans hlength, fun rest => ?_⟩
        rw [List.append_assoc, hgo, hgo']
  | @scope line kind inside h ih =>
    have henter (rest : List Event) :
        checkNames (top :: outer) ((.enter line kind :: inside ++ [.leave]) ++ rest) =
          checkNames ({ kind, sources := top.sources } :: top :: outer) (inside ++ .leave :: rest) := by
      rw [List.cons_append, List.cons_append, List.append_assoc]
      rfl
    rcases ih { kind, sources := top.sources } (top :: outer) with hreport | ⟨next, others, hlength, hgo⟩
    · refine .inl fun rest => ?_
      rw [henter]
      exact hreport _
    · cases others with
      | nil => cases hlength
      | cons top' outer' =>
        refine .inr ⟨top', outer', Nat.succ.inj hlength, fun rest => ?_⟩
        rw [henter, hgo]
        rfl
  | @region r inside h ih =>
    have hregion (rest : List Event) : checkNames (top :: outer) (within r inside ++ rest) =
        checkNames (top :: outer) (inside ++ .closing r :: rest) := by
      rw [within, List.cons_append, List.cons_append, List.append_assoc]
      rfl
    rcases ih top outer with hreport | ⟨next, others, hlength, hgo⟩
    · refine .inl fun rest => ?_
      rw [hregion]
      exact hreport _
    · refine .inr ⟨next, others, hlength, fun rest => ?_⟩
      rw [hregion, hgo]
      rfl

/-- A property of events that is not lost by what comes before them in a balanced way, nor by what
comes after them. -/
structure Persists (shows : List Event → Prop) : Prop where
  /-- What comes before them is balanced. -/
  after : ∀ {a b : List Event}, Balanced a → shows b → shows (a ++ b)
  /-- What comes after them is anything. -/
  before : ∀ {a : List Event}, shows a → ∀ b, shows (a ++ b)

section Persistence

variable {shows : List Event → Prop}

/-- Such a property of events among others. -/
theorem Persists.flatMap (hshows : Persists shows) {α : Type} {f : α → List Event} {xs : List α}
    (hb : ∀ x ∈ xs, Balanced (f x)) {x : α} (hx : x ∈ xs) (h : shows (f x)) : shows (xs.flatMap f) := by
  induction xs with
  | nil => cases hx
  | cons y rest ih =>
    obtain ⟨hy, hrest⟩ := List.forall_mem_cons.mp hb
    rcases List.mem_cons.mp hx with rfl | hx
    · exact hshows.before h _
    · exact hshows.after hy (ih hrest hx)

/-- A piece has such a property if a step of its plan has. -/
theorem Persists.piece (hshows : Persists shows) {n : Piece} {s : Step} (hs : s ∈ n.plan)
    (h : shows s.events) : shows n.events := by
  rw [events_eq_codeOf]
  exact hshows.flatMap (fun t ht => balanced_step (balanced_plan n t ht)) hs h

/-- A script has such a property if one of its statements has. -/
theorem Persists.script (hshows : Persists shows) {script : List Stmt} {s : Stmt} (hs : s ∈ script)
    (h : shows (Piece.stmt s).events) : shows (ofBlock script) := by
  rw [ofBlock_eq_flatMap]
  exact hshows.flatMap (fun s _ => balanced_events (.stmt s)) hs h

end Persistence

/-- Events that break a rule on names wherever they come. -/
def Reports (es : List Event) : Prop :=
  ∀ (top : Names) (outer : List Names) (rest : List Event),
    (checkNames (top :: outer) (es ++ rest)).isSome = true

/-- Breaking a rule on names persists. -/
theorem persists_reports : Persists Reports where
  after ha h top outer rest := by
    rw [List.append_assoc]
    rcases ha.goesOn top outer with hreport | ⟨next, others, -, hgo⟩
    · exact hreport _
    · rw [hgo]
      exact h next others rest
  before h b top outer rest := by
    rw [List.append_assoc]
    exact h top outer _

/-- A step breaks a rule on names if one of its items does. -/
theorem reports_step {s : Step} (hb : ∀ i ∈ s.items, Balanced i.events) {i : Item} (hi : i ∈ s.items)
    (h : Reports i.events) : Reports s.events := by
  have hitems : Reports (eventsOf s.items) := persists_reports.flatMap hb hi h
  cases s with
  | item j =>
    obtain rfl : i = j := List.mem_singleton.mp hi
    exact h
  | scope line kind inside =>
    exact fun top outer =>
      persists_reports.before hitems [.leave] { kind, sources := top.sources } (top :: outer)
  | region r inside => exact persists_reports.before hitems [.closing r]

/-- A script breaks a rule on names if something that stands in it does. -/
theorem StandsIn.reports {script : List Stmt} {p : Place} {n : Piece} (h : StandsIn script p n)
    (hn : Reports n.events) : Reports (ofBlock script) := by
  induction h with
  | top hs => exact persists_reports.script hs hn
  | part h hs hm ih =>
    exact ih (persists_reports.piece hs (reports_step (balanced_plan _ _ hs) hm hn))

/-- Whether a piece is a function of which two parameters have one name. -/
def Piece.RepeatsParam : Piece → Prop
  | .value (.lambda _ params _) => ¬(params.all.map Param.name).Nodup
  | .stmt (.function _ _ _ params _ _ _) => ¬(params.all.map Param.name).Nodup
  | _ => False

/-- Whether names are of the same scope, with all that is declared. -/
structure Names.Extends (n' n : Names) : Prop where
  /-- The scope. -/
  kind : n'.kind = n.kind
  /-- Declarations. -/
  declared : n.declared ⊆ n'.declared
  /-- Names of outer functions. -/
  nonlocals : n.nonlocals ⊆ n'.nonlocals

theorem Names.Extends.refl (n : Names) : n.Extends n := ⟨rfl, List.Subset.refl _, List.Subset.refl _⟩

theorem Names.Extends.trans {n n' n'' : Names} (h : n'.Extends n) (h' : n''.Extends n') : n''.Extends n :=
  ⟨h'.kind.trans h.kind, List.Subset.trans h.declared h'.declared,
    List.Subset.trans h.nonlocals h'.nonlocals⟩

end Names

section Check

variable {script : List Stmt}

/-- Whether a script breaks no rule on names. -/
def NamesFit (script : List Stmt) : Prop :=
  checkNames [{ kind := .module }] (ofBlock script) = none ∧ checkTop (ofBlock script) = none ∧
    checkNonlocals [] (ofBlock script) = none

/-- Whether a piece breaks a rule at a place, whatever else the script holds: it means nothing there,
or it is a function with two parameters of one name, or it declares a name of an outer function where
there is none. -/
def Piece.Breaks (p : Place) (n : Piece) : Prop :=
  n.Misplaced p ∨ n.RepeatsParam ∨
    p.kind = .module ∧ ∃ line names, n = .stmt (.nonlocal line names) ∧ names ≠ []

example : check [.function 1 false "f" .none [.pass 2] [] none, .return 3 none] =
    some ⟨3, .returnOutside⟩ := by decide

example : let loops (n : Nat) : List Stmt :=
      Nat.repeat (fun body => [.while 1 (.constant 1 (.bool true)) body []]) n [.pass 2]
    check (loops 20) = none ∧ check (loops 21) = some ⟨1, .nestedTooDeep⟩ := by decide

end Check

end ChartScript.Script.Scope
