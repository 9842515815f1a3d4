import ChartScript.Proofs.Script.Balance
/-!
# Places where a construct means nothing

The rules on places go over the events of a script with a stack of open scopes. Since the code of a
piece closes every scope and every region that it opens, it is checked at the place where the piece
stands, whatever comes before and after it. So a rule on places is broken exactly if some piece stands
at a place where it means nothing.
-/

namespace ChartScript.Script.Scope

section Places

/-- Balanced events hand out a value, or what comes after them does. -/
theorem handsOut_append {es : List Event} (h : Balanced es) (depth : Nat) (rest : List Event) :
    handsOut depth (es ++ rest) = (handsOut depth es || handsOut depth rest) := by
  induction h generalizing depth rest with
  | nil => rfl
  | @mark e he =>
    cases e with
    | enter => cases he
    | leave => cases he
    | opening => cases he
    | closing => cases he
    | _ => simp [handsOut]
  | append ha hb iha ihb => rw [List.append_assoc, iha, ihb, iha, Bool.or_assoc]
  | scope line kind h ih =>
    simp only [List.cons_append, List.append_assoc, handsOut, ih]
    simp
  | region r h ih =>
    simp only [within, List.cons_append, List.append_assoc, handsOut, ih]
    simp

/-- Balanced events wait for something, or what comes after them does. -/
theorem waits_append {es : List Event} (h : Balanced es) (depth : Nat) (rest : List Event) :
    waits depth (es ++ rest) = (waits depth es || waits depth rest) := by
  induction h generalizing depth rest with
  | nil => rfl
  | @mark e he =>
    cases e with
    | enter => cases he
    | leave => cases he
    | opening => cases he
    | closing => cases he
    | _ => simp [waits]
  | append ha hb iha ihb => rw [List.append_assoc, iha, ihb, iha, Bool.or_assoc]
  | scope line kind h ih =>
    simp only [List.cons_append, List.append_assoc, waits, ih]
    simp
  | region r h ih =>
    simp only [within, List.cons_append, List.append_assoc, waits, ih]
    simp

/-- The place where a scope begins depends on the events up to its end. -/
theorem placeOf_leave (kind : Kind) (isIdle : Bool) {inside : List Event} (h : Balanced inside)
    (rest : List Event) :
    placeOf kind isIdle (inside ++ .leave :: rest) = placeOf kind isIdle inside := by
  unfold placeOf
  rw [handsOut_append h, waits_append h]
  simp [handsOut, waits]

/-- The place in a region. -/
def Place.opened (p : Place) (r : Region) : Place := { p with regions := r :: p.regions }

/-- No event breaks no rule. -/
theorem checkPlaces_nil (places : List Place) : checkPlaces places [] = none := by
  cases places <;> rfl

/-- An event that breaks no rule anywhere is allowed whether code is made of it or not. -/
theorem refusal_eq_none {e : Event} {p : Place} (h : p.violation? e = none) : p.refusal? e = none := by
  unfold Place.refusal?
  rw [h]
  exact ite_self none

/-- Nothing is checked where a scope begins. -/
theorem checkPlaces_enter (p : Place) (outer : List Place) (line : Nat) (kind : Kind)
    (rest : List Event) : checkPlaces (p :: outer) (.enter line kind :: rest) =
      checkPlaces (placeOf kind p.isSkipped rest :: p :: outer) rest := by
  rw [checkPlaces, refusal_eq_none rfl]

/-- Nothing is checked where a scope ends. -/
theorem checkPlaces_leave (q p : Place) (outer : List Place) (rest : List Event) :
    checkPlaces (q :: p :: outer) (.leave :: rest) = checkPlaces (p :: outer) rest := by
  rw [checkPlaces, refusal_eq_none rfl]

/-- Nothing is checked where a region begins. -/
theorem checkPlaces_opening (p : Place) (outer : List Place) (r : Region) (rest : List Event) :
    checkPlaces (p :: outer) (.opening r :: rest) = checkPlaces (p.opened r :: outer) rest := by
  rw [checkPlaces, refusal_eq_none rfl]
  rfl

/-- Nothing is checked where a region ends. -/
theorem checkPlaces_closing (p : Place) (outer : List Place) (r : Region) (rest : List Event) :
    checkPlaces (p.opened r :: outer) (.closing r :: rest) = checkPlaces (p :: outer) rest := by
  rw [checkPlaces, refusal_eq_none rfl]
  rfl

/-- An event that opens and closes nothing is checked where it comes. -/
theorem checkPlaces_mark {e : Event} (he : e.isMark = true) (p : Place) (outer : List Place)
    (rest : List Event) : checkPlaces (p :: outer) (e :: rest) =
      (p.refusal? e).or (checkPlaces (p :: outer) rest) := by
  conv => lhs; unfold checkPlaces
  cases p.refusal? e with
  | some r => rfl
  | none =>
    cases e with
    | enter => cases he
    | leave => cases he
    | opening => cases he
    | closing => cases he
    | _ => rfl

/-- Events that are checked alone, whatever comes after them. -/
def ChecksAlone (es : List Event) : Prop :=
  ∀ (p : Place) (outer : List Place) (rest : List Event),
    checkPlaces (p :: outer) (es ++ rest) = (checkPlaces [p] es).or (checkPlaces (p :: outer) rest)

/-- A scope of such events. -/
theorem checkPlaces_scope {inside : List Event} (h : Balanced inside) (halone : ChecksAlone inside)
    (line : Nat) (kind : Kind) (p : Place) (outer : List Place) (rest : List Event) :
    checkPlaces (p :: outer) (.enter line kind :: (inside ++ .leave :: rest)) =
      (checkPlaces [placeOf kind p.isSkipped inside] inside).or (checkPlaces (p :: outer) rest) := by
  rw [checkPlaces_enter, placeOf_leave kind p.isSkipped h, halone, checkPlaces_leave]

/-- A region of such events. -/
theorem checkPlaces_within {inside : List Event} (halone : ChecksAlone inside) (r : Region) (p : Place)
    (outer : List Place) (rest : List Event) :
    checkPlaces (p :: outer) (.opening r :: (inside ++ .closing r :: rest)) =
      (checkPlaces [p.opened r] inside).or (checkPlaces (p :: outer) rest) := by
  rw [checkPlaces_opening, halone, checkPlaces_closing]

/-- Balanced events are checked alone. -/
theorem Balanced.checksAlone {es : List Event} (h : Balanced es) : ChecksAlone es := by
  induction h with
  | nil => exact fun _ _ _ => rfl
  | @mark e he =>
    intro p outer rest
    rw [List.singleton_append, checkPlaces_mark he, checkPlaces_mark he, checkPlaces_nil, Option.or_none]
  | append ha hb iha ihb =>
    intro p outer rest
    rw [List.append_assoc, iha, ihb, iha, Option.or_assoc]
  | @scope line kind inside h ih =>
    intro p outer rest
    have hscope := checkPlaces_scope h ih line kind p
    rw [List.cons_append, List.cons_append, List.append_assoc, List.singleton_append, hscope, hscope,
      checkPlaces_nil, Option.or_none]
  | @region r inside h ih =>
    intro p outer rest
    have hregion := checkPlaces_within ih r p
    rw [within, List.cons_append, List.cons_append, List.append_assoc, List.singleton_append, hregion,
      hregion, checkPlaces_nil, Option.or_none]

/-- What is checked part by part at a place. -/
theorem checkPlaces_flatMap {α : Type} {f : α → List Event} {xs : List α}
    (h : ∀ x ∈ xs, Balanced (f x)) (p : Place) :
    checkPlaces [p] (xs.flatMap f) = xs.findSome? fun x => checkPlaces [p] (f x) := by
  induction xs with
  | nil => rfl
  | cons x rest ih =>
    obtain ⟨hx, hrest⟩ := List.forall_mem_cons.mp h
    rw [List.flatMap_cons, hx.checksAlone, ih hrest, List.findSome?_cons]
    cases checkPlaces [p] (f x) <;> rfl

/-- The place at which the items of a step stand. -/
def Step.place (p : Place) : Step → Place
  | item _ => p
  | scope _ kind inside => placeOf kind p.isSkipped (eventsOf inside)
  | region r _ => p.opened r

/-- A step is checked item by item at the place where the items stand. -/
theorem checkPlaces_step {s : Step} (h : ∀ i ∈ s.items, Balanced i.events) (p : Place) :
    checkPlaces [p] s.events = s.items.findSome? fun i => checkPlaces [s.place p] i.events := by
  cases s with
  | item i => exact (List.findSome?_singleton).symm
  | scope line kind inside =>
    have hinside : Balanced (eventsOf inside) := .flatMap h
    have hscope := checkPlaces_scope hinside hinside.checksAlone line kind p [] []
    rw [checkPlaces_nil, Option.or_none] at hscope
    exact hscope.trans (checkPlaces_flatMap h _)
  | region r inside =>
    have hinside : Balanced (eventsOf inside) := .flatMap h
    have hregion := checkPlaces_within hinside.checksAlone r p [] []
    rw [checkPlaces_nil, Option.or_none] at hregion
    exact hregion.trans (checkPlaces_flatMap h _)

end Places

section Pieces

/-- Whether a piece of a script stands at a place. -/
inductive StandsIn (script : List Stmt) : Place → Piece → Prop where
  /-- A statement of the script itself stands at the top. -/
  | top {s : Stmt} (hs : s ∈ script) : StandsIn script topPlace (.stmt s)
  /-- A part stands at the place of the step in which it comes. -/
  | part {p : Place} {n m : Piece} {s : Step} (h : StandsIn script p n) (hs : s ∈ n.plan)
    (hm : .part m ∈ s.items) : StandsIn script (s.place p) m

/-- Whether a handler of everything comes before another handler. -/
def catchesAllEarly : List Handler → Bool
  | [] => false
  | .mk _ type _ _ :: rest => type.isNone && !rest.isEmpty || catchesAllEarly rest

/-- Whether a handler binds the name that no script can bind. -/
def handlersBindDebug (handlers : List Handler) : Bool :=
  handlers.any fun | .mk _ _ name _ => name = some debugName

/-- Whether the pattern of a case has a fault. -/
def hasFaultyPattern : List MatchCase → Bool
  | [] => false
  | .mk _ form guard _ :: rest =>
    (patternFault? (guard.isSome || rest.isEmpty) form).isSome || hasFaultyPattern rest

/-- How many blocks a comprehension opens: one for every clause that waits. -/
def blocksOf (clauses : List Clause) : Nat := clauses.countP fun | .mk isAsync _ _ _ => isAsync

/-- Whether a target is a bare name that no script can bind. -/
def isDebugName : Expr → Bool
  | .name _ id => id = debugName
  | _ => false

/-- Whether a piece means nothing at a place of which code is made. -/
def Piece.MeansNothing (p : Place) : Piece → Prop
  | .stmt (.return _ result) =>
    (∀ isAsync, p.kind ≠ .function isAsync) ∨
      p.waits = true ∧ p.handsOut = true ∧ result.isSome = true ∨ ∃ r ∈ p.regions, r.isGroup = true
  | .stmt (.break _) => p.around? ≠ some .loop
  | .stmt (.continue _) => p.around? ≠ some .loop
  | .stmt (.while _ _ _ _) => maxBlocks < p.blocks + 1
  | .stmt (.for _ isAsync _ _ _ _) =>
    isAsync = true ∧ p.kind.canWait = false ∨ maxBlocks < p.blocks + 1
  | .stmt (.with _ isAsync items _) =>
    isAsync = true ∧ p.kind.canWait = false ∨ items ≠ [] ∧ maxBlocks < p.blocks + items.length
  | .stmt (.annotate _ subject _ result _) => result.isSome = true ∧ isDebugName subject = true
  | .stmt (.try _ _ _ handlers _ final) =>
    catchesAllEarly handlers = true ∨ handlersBindDebug handlers = true ∨
      maxBlocks < p.blocks + blocksFor final + 2 * blocksFor handlers
  | .stmt (.match _ _ cases) => hasFaultyPattern cases = true
  | .stmt (.function _ _ name params _ _ _) =>
    bindDebug params = true ∨ name = debugName
  | .stmt (.classDef _ name _ keywords _ _) => keywordFaults keywords ≠ [] ∨ name = debugName
  | .value (.call _ _ _ keywords) => keywordFaults keywords ≠ []
  | .value (.lambda _ params _) => bindDebug params = true
  | .value (.starred _ _) => True
  | .value (.await _ _) => p.kind.canWait = false
  | .value (.yield _ _) => p.kind.isFunction = false
  | .value (.yieldFrom _ _) => p.kind.isFunction = false ∨ p.kind = .function true
  | .value (.listComp line element clauses) =>
    waits 0 (eventsOf (insideItems line clauses [element])) = true ∧ p.kind.canWait = false ∨
      maxBlocks < blocksOf clauses
  | .value (.setComp line element clauses) =>
    waits 0 (eventsOf (insideItems line clauses [element])) = true ∧ p.kind.canWait = false ∨
      maxBlocks < blocksOf clauses
  | .value (.dictComp line key element clauses) =>
    waits 0 (eventsOf (insideItems line clauses [key, element])) = true ∧ p.kind.canWait = false ∨
      maxBlocks < blocksOf clauses
  | .value (.generator _ _ clauses) => maxBlocks < blocksOf clauses
  | .target (.name _ id) => id = debugName
  | .target (.starred _ _) => True
  | .target (.list _ items) => (starFault? items).isSome = true
  | .target (.tuple _ items) => (starFault? items).isSome = true
  | .pattern (.capture _ name) => name = some debugName
  | .pattern (.star _ name) => name = some debugName
  | .pattern (.mapping _ _ _ rest) => rest = some debugName
  | .pattern (.as _ _ name) => name = debugName
  | _ => False

/-- Whether a piece is misplaced: code is made of it, and it means nothing. -/
def Piece.Misplaced (p : Place) (n : Piece) : Prop := p.isSkipped = false ∧ n.MeansNothing p

/-- Whether events break no rule on places. -/
def Passes (p : Place) (es : List Event) : Prop := checkPlaces [p] es = none

/-- Whether events break no rule on places where code is made of them. -/
def Allows (p : Place) (es : List Event) : Prop := ∀ e ∈ es, p.violation? e = none

/-- Whether a step breaks no rule on places by the own events of its items. -/
def Step.Kept (p : Place) (s : Step) : Prop := AllObey (Passes (s.place p)) s.items

/-- Events that open and close nothing pass where no code is made of them or all are allowed. -/
theorem passes_iff {es : List Event} (h : AllMarks es) (p : Place) :
    Passes p es ↔ p.isSkipped = true ∨ Allows p es := by
  induction es with
  | nil => simp [Passes, checkPlaces, Allows]
  | cons e rest ih =>
    obtain ⟨he, hrest⟩ := List.forall_mem_cons.mp h
    unfold Passes Allows at ih ⊢
    rw [checkPlaces_mark he, Option.or_eq_none_iff, ih hrest, List.forall_mem_cons, Place.refusal?]
    cases p.isSkipped <;> simp

variable (p : Place)

section Marks

@[simp] theorem allows_nil : Allows p [] := List.forall_mem_nil _

@[simp] theorem allows_singleton (e : Event) : Allows p [e] ↔ p.violation? e = none :=
  List.forall_mem_singleton

/-- Faults are allowed nowhere. -/
theorem allows_faults {es : List Event} (h : ∀ e ∈ es, ∃ line what, e = .fault line what) :
    Allows p es ↔ es = [] := by
  cases es with
  | nil => simp
  | cons e rest =>
    obtain ⟨line, what, rfl⟩ := h e (List.mem_cons_self ..)
    simp [Allows, Place.violation?]

@[simp] theorem allows_ofNamed (target : Expr) : Allows p (ofNamed target) := by
  cases target with
  | name line id => exact (allows_singleton p _).mpr rfl
  | _ => exact allows_nil p

@[simp] theorem allows_ofAnnotated (line : Nat) (id : String) (simple hasValue : Bool) :
    Allows p (ofAnnotated (.name line id) simple hasValue) ↔ ¬(hasValue = true ∧ id = debugName) := by
  cases simple <;> cases hasValue <;> simp [ofAnnotated, Allows, Place.violation?]

@[simp] theorem allows_ofParams (ps : Params) : Allows p (ofParams ps) := by
  rw [ofParams_eq]
  exact List.forall_mem_map.mpr fun q _ => by cases q; rfl

@[simp] theorem allows_declareGlobal (line : Nat) (names : List String) :
    Allows p (names.map (Event.declareGlobal line)) := List.forall_mem_map.mpr fun _ _ => rfl

@[simp] theorem allows_declareNonlocal (line : Nat) (names : List String) :
    Allows p (names.map (Event.declareNonlocal line)) := List.forall_mem_map.mpr fun _ _ => rfl

@[simp] theorem violation_return (line : Nat) (hasValue : Bool) :
    p.violation? (.return line hasValue) = none ↔
      ¬((∀ isAsync, p.kind ≠ .function isAsync) ∨
        p.waits = true ∧ p.handsOut = true ∧ hasValue = true ∨ ∃ r ∈ p.regions, r.isGroup = true) := by
  unfold Place.violation?
  cases p.kind with
  | function isAsync =>
    simp only [Bool.and_eq_true, and_assoc]
    split <;> simp_all
  | _ => simp

/-- Leaving a loop is allowed exactly if a loop is the innermost region around. -/
theorem leaving_eq_none_iff (outside : Violation) :
    p.leaving? outside = none ↔ p.around? = some .loop := by
  unfold Place.leaving?
  cases p.around? with
  | none => simp
  | some r => cases r <;> simp

@[simp] theorem violation_break (line : Nat) :
    p.violation? (.break line) = none ↔ p.around? = some .loop := by
  simp [Place.violation?, leaving_eq_none_iff]

@[simp] theorem violation_continue (line : Nat) :
    p.violation? (.continue line) = none ↔ p.around? = some .loop := by
  simp [Place.violation?, leaving_eq_none_iff]

@[simp] theorem violation_begin (role : Role) : p.violation? (.begin role) = none := rfl

@[simp] theorem violation_finish (role : Role) : p.violation? (.finish role) = none := rfl

@[simp] theorem violation_use (line : Nat) (id : String) : p.violation? (.use line id) = none := rfl

@[simp] theorem violation_bind (line : Nat) (id : String) :
    p.violation? (.bind line id) = none ↔ id ≠ debugName := by
  simp [Place.violation?]

@[simp] theorem violation_fault (line : Nat) (what : Fault) :
    p.violation? (.fault line what) ≠ none := by
  simp [Place.violation?]

@[simp] theorem violation_asyncComprehension (line : Nat) :
    p.violation? (.asyncComprehension line) = none ↔ p.kind.canWait = true := by
  simp [Place.violation?]

@[simp] theorem violation_asyncFor (line : Nat) :
    p.violation? (.asyncFor line) = none ↔ p.kind.canWait = true := by
  simp [Place.violation?]

@[simp] theorem violation_asyncWith (line : Nat) :
    p.violation? (.asyncWith line) = none ↔ p.kind.canWait = true := by
  simp [Place.violation?]

@[simp] theorem violation_yield (line : Nat) :
    p.violation? (.yield line) = none ↔ p.kind.isFunction = true := by
  simp [Place.violation?]

@[simp] theorem violation_yieldFrom (line : Nat) : p.violation? (.yieldFrom line) = none ↔
    ¬(p.kind.isFunction = false ∨ p.kind = .function true) := by
  unfold Place.violation?
  cases p.kind with
  | function isAsync => cases isAsync <;> simp [Kind.isFunction]
  | _ => simp [Kind.isFunction]

@[simp] theorem violation_await (line : Nat) :
    p.violation? (.await line) = none ↔ p.kind.canWait = true := by
  unfold Place.violation?
  cases p.kind with
  | function isAsync => cases isAsync <;> simp [Kind.isFunction, Kind.canWait]
  | _ => simp [Kind.isFunction, Kind.canWait]

@[simp] theorem violation_blocks (line count : Nat) :
    p.violation? (.blocks line count) = none ↔ p.blocks + count ≤ maxBlocks := by
  simp [Place.violation?]

@[simp] theorem allows_starFaults (line : Nat) (items : List Expr) :
    Allows p (starFaults line items) ↔ (starFault? items).isSome = false := by
  unfold starFaults
  cases starFault? items <;> simp

@[simp] theorem allows_waiting (line : Nat) (kind : CompKind) (inside : List Event) :
    Allows p (waiting line kind inside) ↔
      ¬(kind ≠ .generator ∧ waits 0 inside = true ∧ p.kind.canWait = false) := by
  unfold waiting
  split <;> simp_all

@[simp] theorem allows_paramFaults (line : Nat) (ps : Params) :
    Allows p (paramFaults line ps) ↔ bindDebug ps = false := by
  unfold paramFaults
  split <;> simp_all

/-- The faults of keywords. -/
@[simp] theorem allows_keywordFaults (ks : List Keyword) :
    Allows p (keywordFaults ks) ↔ keywordFaults ks = [] := by
  have hfault {c : Prop} [Decidable c] (line : Nat) (what : Fault) :
      ∀ e ∈ (if c then [Event.fault line what] else []), ∃ line what, e = .fault line what := by
    split
    · exact List.forall_mem_singleton.mpr ⟨_, _, rfl⟩
    · exact List.forall_mem_nil _
  have hrepetitions (name : String) (ks : List Keyword) :
      ∀ e ∈ repetitions name ks, ∃ line what, e = .fault line what := by
    induction ks with
    | nil => exact List.forall_mem_nil _
    | cons k rest ih =>
      cases k
      exact List.forall_mem_append.mpr ⟨hfault _ _, ih⟩
  refine allows_faults p ?_
  induction ks with
  | nil => exact List.forall_mem_nil _
  | cons k rest ih =>
    obtain ⟨line, _ | name, value⟩ := k
    · exact ih
    · exact List.forall_mem_append.mpr
        ⟨List.forall_mem_append.mpr ⟨hfault _ _, hrepetitions name rest⟩, ih⟩

/-- The fault of a handler. -/
@[simp] theorem allows_catchAllFault (line : Nat) (type : Option Expr) (rest : List Handler) :
    Allows p (catchAllFault line type rest) ↔ (type.isNone && !rest.isEmpty) = false := by
  unfold catchAllFault
  split <;> simp_all

/-- The fault of a pattern. -/
@[simp] theorem allows_patternFaults (isLast : Bool) (form : Pattern) :
    Allows p (patternFaults isLast form) ↔ (patternFault? isLast form).isSome = false := by
  unfold patternFaults
  cases patternFault? isLast form <;> simp

end Marks

section Items

/-- A name that may be bound. -/
@[simp] theorem allObey_allows_nameItems (line : Nat) (name : Option String) :
    AllObey (Allows p) (nameItems line name) ↔ name ≠ some debugName := by
  cases name <;> simp [nameItems]

/-- Handlers. -/
@[simp] theorem allObey_allows_handlerItems (hs : List Handler) : AllObey (Allows p) (handlerItems hs) ↔
    ¬(catchesAllEarly hs = true ∨ handlersBindDebug hs = true ∨ hs ≠ [] ∧ maxBlocks < p.blocks) := by
  induction hs with
  | nil => simp [handlerItems, catchesAllEarly, handlersBindDebug]
  | cons k rest ih =>
    obtain ⟨line, type, name, body⟩ := k
    simp only [handlersBindDebug] at ih
    simp [handlerItems, catchesAllEarly, handlersBindDebug, ih]
    grind

/-- The items of a with statement. -/
@[simp] theorem allObey_allows_withItems (line opened : Nat) (is : List WithItem) :
    AllObey (Allows p) (withItems line opened is) ↔
      (is ≠ [] → p.blocks + opened + is.length ≤ maxBlocks) := by
  induction is generalizing opened with
  | nil => simp [withItems]
  | cons i rest ih =>
    obtain ⟨context, target⟩ := i
    have hrest : (rest ≠ [] → p.blocks + (opened + 1) + rest.length ≤ maxBlocks) ∧
        p.blocks + (opened + 1) ≤ maxBlocks ↔ p.blocks + opened + (rest.length + 1) ≤ maxBlocks := by
      cases rest <;> simp <;> omega
    cases target <;> simp [withItems, ih] <;> grind

/-- Cases. -/
@[simp] theorem allObey_allows_caseItems (cs : List MatchCase) :
    AllObey (Allows p) (caseItems cs) ↔ hasFaultyPattern cs = false := by
  induction cs with
  | nil => simp [caseItems, hasFaultyPattern]
  | cons c rest ih =>
    cases c
    simp [caseItems, hasFaultyPattern, ih]

/-- An annotated target. -/
@[simp] theorem allObey_allows_annotatedItems (target : Expr) (simple hasValue : Bool) :
    AllObey (Allows p) (annotatedItems target simple hasValue) ↔
      ¬(hasValue = true ∧ isDebugName target = true) := by
  cases target <;> simp [annotatedItems, isDebugName]

/-- What stands inside of a comprehension is allowed there, as far as there is room for its blocks. -/
theorem allObey_allows_clauseItems (hkind : p.kind.canWait = true) (line opened : Nat) (isFirst : Bool)
    (cs : List Clause) (hopened : p.blocks + opened ≤ maxBlocks) :
    AllObey (Allows p) (clauseItems line opened isFirst cs) ↔
      p.blocks + opened + blocksOf cs ≤ maxBlocks := by
  induction cs generalizing opened isFirst with
  | nil => simpa [clauseItems, blocksOf] using hopened
  | cons c rest ih =>
    obtain ⟨isAsync, target, iter, conditions⟩ := c
    cases isAsync with
    | false =>
      have hrest := ih opened false hopened
      simp [blocksOf] at hrest ⊢
      cases isFirst <;> simp [clauseItems, hrest]
    | true =>
      have hrest := ih (opened + 1) false
      simp [blocksOf] at hrest ⊢
      cases isFirst <;> simp [clauseItems, Allows, hkind] <;> grind

/-- At the place where a comprehension begins no blocks are open. -/
@[simp] theorem allObey_allows_insideItems (comp : CompKind) (isIdle : Bool) (inside : List Event)
    (line : Nat) (cs : List Clause) :
    AllObey (Allows (placeOf (.comprehension comp) isIdle inside)) (clauseItems line 0 true cs) ↔
      blocksOf cs ≤ maxBlocks := by
  have hclauses := allObey_allows_clauseItems (placeOf (.comprehension comp) isIdle inside) rfl line 0
    true cs (Nat.zero_le _)
  simpa [placeOf, Place.blocks] using hclauses

/-- The first source of a comprehension. -/
@[simp] theorem allObey_allows_sourceItems (cs : List Clause) : AllObey (Allows p) (sourceItems cs) :=
  allObey_sourceItems (fun role => by simp) cs

end Items

section Kept

/-- Whether all own events of a plan are allowed at their places. -/
def AllAllowed (p : Place) (steps : List Step) : Prop := ∀ s ∈ steps, AllObey (Allows (s.place p)) s.items

@[simp] theorem allAllowed_nil : AllAllowed p [] := List.forall_mem_nil _

@[simp] theorem allAllowed_cons (s : Step) (rest : List Step) :
    AllAllowed p (s :: rest) ↔ AllObey (Allows (s.place p)) s.items ∧ AllAllowed p rest :=
  List.forall_mem_cons

@[simp] theorem allAllowed_append (a b : List Step) :
    AllAllowed p (a ++ b) ↔ AllAllowed p a ∧ AllAllowed p b := List.forall_mem_append

@[simp] theorem allAllowed_flat (items : List Item) :
    AllAllowed p (flat items) ↔ AllObey (Allows p) items := by
  induction items with
  | nil => simp [flat]
  | cons i rest ih =>
    rw [allObey_cons, ← ih]
    refine (allAllowed_cons p _ _).trans (and_congr_left fun _ => ?_)
    exact List.forall_mem_singleton

/-- The blocks of a region are open beside those around it. -/
@[simp] theorem blocks_opened (r : Region) : (p.opened r).blocks = r.blocks + p.blocks := rfl

/-- There is room for a try statement if there is for its body and for its handlers. -/
theorem room_iff (outer final : Nat) (hs : List Handler) :
    outer + (final + blocksFor hs) ≤ maxBlocks ∧ (hs ≠ [] → final + 2 + outer ≤ maxBlocks) ↔
      outer + final + 2 * blocksFor hs ≤ maxBlocks := by
  unfold maxBlocks
  cases hs with
  | nil => simp [blocksFor]
  | cons h hs =>
    have hone : blocksFor (h :: hs) = 1 := rfl
    rw [hone]
    simp only [ne_eq, reduceCtorEq, not_false_eq_true, forall_const]
    omega

/-- The own events of a piece are allowed exactly where it means something. -/
theorem allAllowed_plan_iff (n : Piece) : AllAllowed p n.plan ↔ ¬n.MeansNothing p := by
  cases n with
  | value e =>
    cases e <;> simp [Piece.plan, valuePlan, comprehensionPlan, Piece.MeansNothing, Step.place, Step.items]
  | target e => cases e <;> simp [Piece.plan, targetPlan, Piece.MeansNothing]
  | pattern q => cases q <;> simp [Piece.plan, patternPlan, Piece.MeansNothing]
  | stmt s =>
    cases s <;> simp [Piece.plan, stmtPlan, Piece.MeansNothing, Step.place, Step.items, Region.blocks]
    -- a try statement is left, which opens blocks around its body and around its handlers
    rw [← room_iff]
    grind

/-- Whether all steps of a plan break no rule by themselves. -/
def AllKept (p : Place) (steps : List Step) : Prop := ∀ s ∈ steps, s.Kept p

/-- No code is made of a new scope exactly if none is made of the place where it begins. -/
theorem isSkipped_placeOf (kind : Kind) (isIdle : Bool) (events : List Event) :
    (placeOf kind isIdle events).isSkipped = isIdle := by
  simp [placeOf, Place.isSkipped]

/-- Where no code is made of a piece none is made of what stands in it. -/
theorem isSkipped_place (h : p.isSkipped = true) (s : Step) : (s.place p).isSkipped = true := by
  cases s with
  | item i => exact h
  | scope line kind inside => exact (isSkipped_placeOf kind _ _).trans h
  | region r inside =>
    unfold Place.isSkipped at h
    unfold Step.place Place.opened Place.isSkipped
    simp at h ⊢
    grind

/-- Only the annotation of a target is skipped where code is made of the piece. -/
theorem isSkipped_place_of_ne_hint (h : p.isSkipped = false) {s : Step}
    (hs : ∀ inside, s ≠ .region .hint inside) : (s.place p).isSkipped = false := by
  cases s with
  | item i => exact h
  | scope line kind inside => exact (isSkipped_placeOf kind _ _).trans h
  | region r inside =>
    have hr : r ≠ .hint := fun he => hs inside (he ▸ rfl)
    unfold Place.isSkipped at h
    unfold Step.place Place.opened Place.isSkipped
    simp [hr.symm] at h ⊢
    exact h

/-- The annotation of a target has no events of its own. -/
theorem allObey_hint {n : Piece} {inside : List Item} (h : .region .hint inside ∈ n.plan)
    (rule : List Event → Prop) : AllObey rule inside := by
  have hflat (items : List Item) : .region .hint inside ∉ flat items := by
    intro hmem
    obtain ⟨i, -, hi⟩ := List.mem_map.mp hmem
    cases hi
  cases n with
  | value e => cases e <;> simp [Piece.plan, valuePlan, comprehensionPlan, hflat] at h
  | target e => cases e <;> simp [Piece.plan, targetPlan, hflat] at h
  | pattern q => cases q <;> simp [Piece.plan, patternPlan, hflat] at h
  | stmt s =>
    cases s with
    | annotate line target hint value simple =>
      obtain rfl : inside = [valueItem hint] := by simpa [Piece.plan, stmtPlan, hflat] using h
      simp
    | _ => simp [Piece.plan, stmtPlan, hflat] at h

/-- A piece is misplaced exactly if a step of its plan breaks a rule by itself. -/
theorem allKept_plan_iff (n : Piece) : AllKept p n.plan ↔ ¬n.Misplaced p := by
  have hmarks {s : Step} (hs : s ∈ n.plan) : AllObey AllMarks s.items := fun i hi =>
    allMarks_items n i (List.mem_flatMap.mpr ⟨s, hs, hi⟩)
  have hobeys {s : Step} (hs : s ∈ n.plan) (q : Place) : AllObey (Passes q) s.items ↔
      q.isSkipped = true ∨ AllObey (Allows q) s.items := by
    have hitem (i : Item) (hi : i ∈ s.items) :
        i.Obeys (Passes q) ↔ q.isSkipped = true ∨ i.Obeys (Allows q) := by
      cases i with
      | marks es => exact passes_iff (hmarks hs _ hi) q
      | part m => simp
    unfold AllObey
    rw [forall₂_congr hitem]
    grind
  unfold Piece.Misplaced
  cases hp : p.isSkipped with
  | true =>
    refine iff_of_true (fun s hs => (hobeys hs _).mpr (.inl (isSkipped_place p hp s))) ?_
    exact fun h => Bool.false_ne_true h.1.symm
  | false =>
    rw [and_iff_right rfl, ← allAllowed_plan_iff]
    refine forall₂_congr fun s hs => (hobeys hs _).trans ?_
    by_cases hhint : ∃ inside, s = .region .hint inside
    · obtain ⟨inside, rfl⟩ := hhint
      exact iff_of_true (.inr (allObey_hint hs _)) (allObey_hint hs _)
    · rw [isSkipped_place_of_ne_hint p hp fun inside he => hhint ⟨inside, he⟩]
      simp

end Kept

/-- A step passes exactly if it breaks no rule by itself and its parts pass at their place. -/
theorem passes_step_iff {s : Step} (h : ∀ i ∈ s.items, Balanced i.events) :
    Passes p s.events ↔ s.Kept p ∧ ∀ m, .part m ∈ s.items → Passes (s.place p) m.events := by
  unfold Step.Kept Passes
  rw [checkPlaces_step h, List.findSome?_eq_none_iff]
  constructor
  · refine fun hitems => ⟨fun i hi => ?_, fun m hm => hitems _ hm⟩
    cases i with
    | marks es => exact hitems _ hi
    | part m => trivial
  · rintro ⟨hmarks, hparts⟩ i hi
    cases i with
    | marks es => exact hmarks _ hi
    | part m => exact hparts m hi

/-- A piece passes at a place exactly if it is not misplaced there and its parts pass at theirs. -/
theorem passes_events_iff (n : Piece) :
    Passes p n.events ↔ ¬n.Misplaced p ∧
      ∀ s ∈ n.plan, ∀ m, .part m ∈ s.items → Passes (s.place p) m.events := by
  have hbalanced : ∀ s ∈ n.plan, Balanced s.events := fun s hs =>
    balanced_step (balanced_plan n s hs)
  have hsteps : Passes p n.events ↔ ∀ s ∈ n.plan, Passes p s.events := by
    unfold Passes
    rw [events_eq_codeOf, codeOf, checkPlaces_flatMap hbalanced, List.findSome?_eq_none_iff]
  rw [hsteps, ← allKept_plan_iff]
  constructor
  · intro h
    exact ⟨fun s hs => ((passes_step_iff p (balanced_plan n s hs)).mp (h s hs)).1,
      fun s hs => ((passes_step_iff p (balanced_plan n s hs)).mp (h s hs)).2⟩
  · rintro ⟨hkept, hparts⟩ s hs
    exact (passes_step_iff p (balanced_plan n s hs)).mpr ⟨hkept s hs, hparts s hs⟩

variable {script : List Stmt}

/-- A script passes statement by statement. -/
theorem passes_ofBlock_iff_forall :
    Passes p (ofBlock script) ↔ ∀ s ∈ script, Passes p (Piece.stmt s).events := by
  unfold Passes
  rw [ofBlock_eq_flatMap, checkPlaces_flatMap fun s _ => balanced_events (.stmt s),
    List.findSome?_eq_none_iff]

/-- Nothing that stands in a script whose code passes is misplaced. -/
theorem StandsIn.passes {n : Piece} (h : StandsIn script p n)
    (hscript : Passes topPlace (ofBlock script)) : Passes p n.events := by
  induction h with
  | top hs => exact (passes_ofBlock_iff_forall _).mp hscript _ hs
  | part h hs hm ih => exact ((passes_events_iff _ _).mp ih).2 _ hs _ hm

end Pieces

end ChartScript.Script.Scope
