import ChartScript.Proofs.Script.Piece
/-!
# Code that closes what it opens

The events that a piece has of its own neither open nor close anything, so every scope and every
region in its code is one of its plan and ends where the plan ends it.
-/

namespace ChartScript.Script.Scope

/-- Whether an event neither opens nor closes anything. -/
def Event.isMark : Event → Bool
  | .enter _ _ => false
  | .leave => false
  | .opening _ => false
  | .closing _ => false
  | _ => true

section Marks

/-- Whether the events that an item has of its own obey a rule. -/
def Item.Obeys (rule : List Event → Prop) : Item → Prop
  | marks es => rule es
  | part _ => True

/-- Whether the own events of several items obey a rule. -/
def AllObey (rule : List Event → Prop) (items : List Item) : Prop := ∀ i ∈ items, i.Obeys rule

/-- Events that open and close nothing. -/
def AllMarks (es : List Event) : Prop := ∀ e ∈ es, e.isMark = true

@[simp] theorem allMarks_singleton (e : Event) : AllMarks [e] ↔ e.isMark = true :=
  List.forall_mem_singleton

/-- Events that are there or not. -/
theorem allMarks_ite {c : Prop} [Decidable c] {e : Event} (h : e.isMark = true) :
    AllMarks (if c then [e] else []) := by
  split
  · exact (allMarks_singleton e).mpr h
  · exact List.forall_mem_nil _

/-- The faults of keywords. -/
theorem allMarks_keywordFaults (ks : List Keyword) : AllMarks (keywordFaults ks) := by
  have hrepetitions (name : String) (ks : List Keyword) : AllMarks (repetitions name ks) := by
    induction ks with
    | nil => exact List.forall_mem_nil _
    | cons k rest ih =>
      cases k
      exact List.forall_mem_append.mpr ⟨allMarks_ite rfl, ih⟩
  induction ks with
  | nil => exact List.forall_mem_nil _
  | cons k rest ih =>
    obtain ⟨line, _ | name, value⟩ := k
    · exact ih
    · exact List.forall_mem_append.mpr
        ⟨List.forall_mem_append.mpr ⟨allMarks_ite rfl, hrepetitions name rest⟩, ih⟩

/-- The fault of parameters. -/
theorem allMarks_paramFaults (line : Nat) (ps : Params) : AllMarks (paramFaults line ps) :=
  allMarks_ite rfl

/-- The fault of a handler. -/
theorem allMarks_catchAllFault (line : Nat) (type : Option Expr) (rest : List Handler) :
    AllMarks (catchAllFault line type rest) := allMarks_ite rfl

/-- The fault of a pattern. -/
theorem allMarks_patternFaults (isLast : Bool) (p : Pattern) :
    AllMarks (patternFaults isLast p) := List.forall_mem_map.mpr fun _ _ => rfl

/-- The event of a comprehension that has to be waited for. -/
theorem allMarks_waiting (line : Nat) (kind : CompKind) (inside : List Event) :
    AllMarks (waiting line kind inside) := allMarks_ite rfl

/-- The fault of a display. -/
theorem allMarks_starFaults (line : Nat) (items : List Expr) : AllMarks (starFaults line items) :=
  List.forall_mem_map.mpr fun _ _ => rfl

/-- The name that an expression binds. -/
theorem allMarks_ofNamed (target : Expr) : AllMarks (ofNamed target) := by
  cases target with
  | name line id => exact List.forall_mem_singleton.mpr rfl
  | _ => exact List.forall_mem_nil _

/-- The parameters of a function in the order in which its code binds them. -/
def inOrder : Params → List Param
  | .mk positional plain rest named others => positional ++ plain ++ named ++ rest.toList ++ others.toList

/-- The event of a parameter. -/
def paramEvent : Param → Event
  | .mk line name _ _ => .param line name

theorem ofParams_eq (ps : Params) : ofParams ps = (inOrder ps).map paramEvent := by
  have hnames (ps : List Param) : ofParamNames ps = ps.map paramEvent := by
    induction ps with
    | nil => rfl
    | cons p rest ih =>
      cases p
      exact congrArg (List.cons _) ih
  have hrest (p : Option Param) : ofRestName p = p.toList.map paramEvent := by
    cases p with
    | none => rfl
    | some p =>
      cases p
      rfl
  cases ps
  simp [ofParams, inOrder, hnames, hrest]

/-- A bare name that is annotated. -/
theorem allMarks_ofAnnotated (line : Nat) (id : String) (simple hasValue : Bool) :
    AllMarks (ofAnnotated (.name line id) simple hasValue) := by
  cases simple <;> cases hasValue <;> simp [ofAnnotated, AllMarks, Event.isMark]

/-- The names of parameters. -/
theorem allMarks_ofParams (ps : Params) : AllMarks (ofParams ps) := by
  rw [ofParams_eq]
  exact List.forall_mem_map.mpr fun p _ => by cases p; rfl

/-- Names that are declared to belong to the module. -/
theorem allMarks_declareGlobal (line : Nat) (names : List String) :
    AllMarks (names.map (Event.declareGlobal line)) := List.forall_mem_map.mpr fun _ _ => rfl

/-- Names that are declared to belong to an outer function. -/
theorem allMarks_declareNonlocal (line : Nat) (names : List String) :
    AllMarks (names.map (Event.declareNonlocal line)) := List.forall_mem_map.mpr fun _ _ => rfl

section Rules

variable {rule : List Event → Prop}

@[simp] theorem obeys_marks (es : List Event) : (Item.marks es).Obeys rule ↔ rule es := .rfl

@[simp] theorem obeys_part (m : Piece) : (Item.part m).Obeys rule := trivial

@[simp] theorem obeys_valueItem (e : Expr) : (valueItem e).Obeys rule := trivial

@[simp] theorem allObey_nil : AllObey rule [] := List.forall_mem_nil _

@[simp] theorem allObey_cons (i : Item) (rest : List Item) :
    AllObey rule (i :: rest) ↔ i.Obeys rule ∧ AllObey rule rest := List.forall_mem_cons

@[simp] theorem allObey_append (a b : List Item) :
    AllObey rule (a ++ b) ↔ AllObey rule a ∧ AllObey rule b := List.forall_mem_append

/-- Parts have no events of their own. -/
theorem allObey_parts {α : Type} (f : α → Piece) (xs : List α) :
    AllObey rule (xs.map fun x => .part (f x)) := List.forall_mem_map.mpr fun _ _ => trivial

/-- Items that come one group after the other. -/
theorem allObey_flatMap {α : Type} {f : α → List Item} (hf : ∀ x, AllObey rule (f x)) (xs : List α) :
    AllObey rule (xs.flatMap f) := by
  intro i hi
  obtain ⟨x, -, hmem⟩ := List.mem_flatMap.mp hi
  exact hf x i hmem

@[simp] theorem allObey_valueItems (es : List Expr) : AllObey rule (valueItems es) := allObey_parts _ es

@[simp] theorem allObey_optionItems (e : Option Expr) : AllObey rule (optionItems e) :=
  allObey_parts _ e.toList

@[simp] theorem allObey_targetItems (es : List Expr) : AllObey rule (targetItems es) :=
  allObey_parts _ es

@[simp] theorem allObey_targets (es : List Expr) : AllObey rule (es.map fun e => .part (.target e)) :=
  allObey_parts _ es

@[simp] theorem allObey_patternItems (ps : List Pattern) : AllObey rule (patternItems ps) :=
  allObey_parts _ ps

@[simp] theorem allObey_blockItems (ss : List Stmt) : AllObey rule (blockItems ss) := allObey_parts _ ss

@[simp] theorem allObey_entryItems (es : List DictEntry) : AllObey rule (es.flatMap entryItems) :=
  allObey_flatMap (fun e => by cases e <;> simp [entryItems]) es

@[simp] theorem allObey_keywordItem (ks : List Keyword) : AllObey rule (ks.map keywordItem) :=
  List.forall_mem_map.mpr fun k _ => by cases k; trivial

@[simp] theorem allObey_defaultItems (ps : Params) : AllObey rule (defaultItems ps) := by
  have hparams (ps : List Param) : AllObey rule (ps.flatMap paramItems) :=
    allObey_flatMap (fun p => by cases p; simp [paramItems]) ps
  have hrest (p : Option Param) : AllObey rule (restItems p) := by
    cases p with
    | none => exact allObey_nil
    | some p =>
      cases p
      exact allObey_optionItems _
  cases ps
  simp [defaultItems, hparams, hrest]

@[simp] theorem allObey_roleItems (role : Role) (i : Item) :
    AllObey rule (roleItems role i) ↔ rule [.begin role] ∧ i.Obeys rule ∧ rule [.finish role] := by
  simp [roleItems]

/-- The items of a with statement open their blocks. -/
theorem allObey_withItems (h : ∀ line count, rule [.blocks line count]) (line opened : Nat)
    (is : List WithItem) : AllObey rule (withItems line opened is) := by
  induction is generalizing opened with
  | nil => exact allObey_nil
  | cons i rest ih =>
    obtain ⟨context, _ | target⟩ := i <;> simp [withItems, h, ih]

@[simp] theorem allObey_startItems (line : Nat) (isAsync : Bool) (source : Expr) :
    AllObey rule (startItems line isAsync source) ↔
      (isAsync = true → rule [.asyncFor line]) ∧ rule [.blocks line 1] := by
  cases isAsync <;> simp [startItems]

@[simp] theorem allObey_asyncItems (isAsync : Bool) (e : Event) :
    AllObey rule (asyncItems isAsync e) ↔ (isAsync = true → rule [e]) := by
  cases isAsync <;> simp [asyncItems]

/-- The first source of a comprehension has no events of its own but those of its role. -/
theorem allObey_sourceItems (h : ∀ role, rule [.begin role] ∧ rule [.finish role]) (cs : List Clause) :
    AllObey rule (sourceItems cs) := by
  cases cs with
  | nil => exact allObey_nil
  | cons c rest =>
    cases c
    simp [sourceItems, h]

/-- Inside of a comprehension only its parts in their roles and loops that wait have events of their
own. -/
theorem allObey_clauseItems (h : ∀ role, rule [.begin role] ∧ rule [.finish role])
    (hawait : ∀ inner line count, rule [.await inner, .blocks line count]) (line opened : Nat)
    (isFirst : Bool) (cs : List Clause) : AllObey rule (clauseItems line opened isFirst cs) := by
  induction cs generalizing opened isFirst with
  | nil => exact allObey_nil
  | cons c rest ih =>
    obtain ⟨isAsync, target, iter, conditions⟩ := c
    cases isFirst <;> cases isAsync <;> simp [clauseItems, ih, h, hawait]

/-- The elements of a comprehension have no events of their own. -/
@[simp] theorem allObey_insideItems (line : Nat) (cs : List Clause) (elements : List Expr) :
    AllObey rule (insideItems line cs elements) ↔ AllObey rule (clauseItems line 0 true cs) :=
  (allObey_append _ _).trans (and_iff_left (allObey_parts _ elements))

/-- A name that is bound. -/
theorem allObey_nameItems (h : ∀ line id, rule [.bind line id]) (line : Nat) (name : Option String) :
    AllObey rule (nameItems line name) := List.forall_mem_map.mpr fun id _ => h line id

/-- Handlers have their faults, bind names and open their blocks. -/
theorem allObey_handlerItems (h : ∀ line id, rule [.bind line id])
    (hfault : ∀ line type rest, rule (catchAllFault line type rest))
    (hblocks : ∀ line, rule [.blocks line 0]) (hs : List Handler) : AllObey rule (handlerItems hs) := by
  induction hs with
  | nil => exact allObey_nil
  | cons k rest ih =>
    cases k
    simp [handlerItems, allObey_nameItems h, hfault, hblocks, ih]

/-- Cases have the faults of their patterns. -/
theorem allObey_caseItems (hfault : ∀ isLast p, rule (patternFaults isLast p))
    (cs : List MatchCase) : AllObey rule (caseItems cs) := by
  induction cs with
  | nil => exact allObey_nil
  | cons c rest ih =>
    cases c
    simp [caseItems, hfault, ih]

/-- Only a bare name that is annotated has events of its own. -/
theorem allObey_annotatedItems
    (h : ∀ line id simple hasValue, rule (ofAnnotated (.name line id) simple hasValue)) (target : Expr)
    (simple hasValue : Bool) : AllObey rule (annotatedItems target simple hasValue) := by
  cases target <;> simp [annotatedItems, h]

end Rules

/-- No piece has events of its own that open or close anything. -/
theorem allMarks_items (n : Piece) : AllObey AllMarks n.items := by
  have hrole (role : Role) : AllMarks [.begin role] ∧ AllMarks [.finish role] :=
    ⟨(allMarks_singleton _).mpr rfl, (allMarks_singleton _).mpr rfl⟩
  have hbind (line : Nat) (id : String) : AllMarks [.bind line id] := (allMarks_singleton _).mpr rfl
  have hblocks (line count : Nat) : AllMarks [.blocks line count] := (allMarks_singleton _).mpr rfl
  have hawait (inner line count : Nat) : AllMarks [.await inner, .blocks line count] :=
    List.forall_mem_cons.mpr ⟨rfl, hblocks line count⟩
  have hsource := allObey_sourceItems hrole
  have hclauses := allObey_clauseItems hrole hawait
  have hwith := allObey_withItems hblocks
  have hnames := allObey_nameItems hbind
  have hhandlers := allObey_handlerItems hbind allMarks_catchAllFault fun line => hblocks line 0
  have hcases := allObey_caseItems allMarks_patternFaults
  have hannotated := allObey_annotatedItems allMarks_ofAnnotated
  unfold Piece.items
  cases n with
  | value e =>
    cases e <;> simp [Piece.plan, valuePlan, comprehensionPlan, Step.items, allMarks_keywordFaults,
      allMarks_paramFaults, allMarks_ofParams, allMarks_ofNamed, allMarks_waiting, Event.isMark, *]
  | target e => cases e <;> simp [Piece.plan, targetPlan, allMarks_starFaults, Event.isMark, *]
  | pattern p => cases p <;> simp [Piece.plan, patternPlan, *]
  | stmt s =>
    cases s <;> simp [Piece.plan, stmtPlan, Step.items, allMarks_keywordFaults, allMarks_paramFaults,
      allMarks_ofParams, allMarks_declareGlobal, allMarks_declareNonlocal, Event.isMark, *]

end Marks

section Balance

/-- Events in which every scope and every region that begins also ends. -/
inductive Balanced : List Event → Prop where
  /-- No events. -/
  | nil : Balanced []
  /-- An event that opens and closes nothing. -/
  | mark {e : Event} (h : e.isMark = true) : Balanced [e]
  /-- One after the other. -/
  | append {a b : List Event} (ha : Balanced a) (hb : Balanced b) : Balanced (a ++ b)
  /-- A scope. -/
  | scope (line : Nat) (kind : Kind) {inside : List Event} (h : Balanced inside) :
    Balanced (.enter line kind :: inside ++ [.leave])
  /-- A region. -/
  | region (r : Region) {inside : List Event} (h : Balanced inside) : Balanced (within r inside)

/-- Events that open and close nothing. -/
theorem Balanced.marks {es : List Event} (h : AllMarks es) : Balanced es := by
  induction es with
  | nil => exact .nil
  | cons e rest ih =>
    obtain ⟨he, hrest⟩ := List.forall_mem_cons.mp h
    exact (Balanced.mark he).append (ih hrest)

/-- What is balanced part by part is balanced. -/
theorem Balanced.flatMap {α : Type} {f : α → List Event} {xs : List α} (h : ∀ x ∈ xs, Balanced (f x)) :
    Balanced (xs.flatMap f) := by
  induction xs with
  | nil => exact .nil
  | cons x rest ih =>
    obtain ⟨hx, hrest⟩ := List.forall_mem_cons.mp h
    exact hx.append (ih hrest)

/-- A step is balanced if its items are. -/
theorem balanced_step {s : Step} (h : ∀ i ∈ s.items, Balanced i.events) : Balanced s.events := by
  cases s with
  | item i => exact h i (List.mem_singleton_self i)
  | scope line kind inside => exact .scope line kind (.flatMap h)
  | region r inside => exact .region r (.flatMap h)

/-- The code of everything in the plan of a piece is balanced. -/
theorem balanced_plan (n : Piece) : ∀ s ∈ n.plan, ∀ i ∈ s.items, Balanced i.events := by
  induction n using Piece.induction_parts with
  | h n ih =>
    intro s hs i hi
    have hmem : i ∈ n.items := List.mem_flatMap.mpr ⟨s, hs, hi⟩
    cases i with
    | marks es => exact .marks (allMarks_items n _ hmem)
    | part m =>
      rw [Item.events, events_eq_codeOf]
      exact .flatMap fun t ht => balanced_step (ih m hmem t ht)

/-- The code of a piece is balanced. -/
theorem balanced_events (n : Piece) : Balanced n.events := by
  rw [events_eq_codeOf]
  exact .flatMap fun s hs => balanced_step (balanced_plan n s hs)

/-- The code of a block, statement by statement. -/
theorem ofBlock_eq_flatMap (script : List Stmt) :
    ofBlock script = script.flatMap fun s => (Piece.stmt s).events := by
  rw [← eventsOf_blockItems, eventsOf, blockItems, List.flatMap_map]
  rfl

end Balance

end ChartScript.Script.Scope
