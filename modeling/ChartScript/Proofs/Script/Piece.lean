import ChartScript.Proofs.Script.Node
import ChartScript.Script.Scope.Check
/-!
# How a script is turned into code

The pieces of a script that are turned into code by themselves: values, targets, patterns and
statements. Each has a plan, the order in which its own events and those of its parts come, and
which of them stand in a scope or in a region that it opens. What its code is follows from
the plan, so whatever goes over events is understood once for a plan and not for every construct.
-/

namespace ChartScript.Script.Scope

/-- A piece of a script that is turned into code by itself. -/
inductive Piece where
  /-- An expression whose value is needed. -/
  | value (e : Expr)
  /-- A target. -/
  | target (e : Expr)
  /-- A pattern. -/
  | pattern (p : Pattern)
  /-- A statement. -/
  | stmt (s : Stmt)

/-- The events of a piece. -/
def Piece.events : Piece → List Event
  | value e => ofExpr e
  | target e => ofTarget e
  | pattern p => ofPattern p
  | stmt s => ofStmt s

/-- What stands in a plan. -/
inductive Item where
  /-- Events of the piece itself. -/
  | marks (es : List Event)
  /-- A part. -/
  | part (m : Piece)

/-- The events of an item. -/
def Item.events : Item → List Event
  | marks es => es
  | part m => m.events

/-- The events of several items. -/
def eventsOf (items : List Item) : List Event := items.flatMap Item.events

/-- A step of a plan. -/
inductive Step where
  /-- Something at the place of the piece itself. -/
  | item (i : Item)
  /-- A scope with what stands in it. -/
  | scope (line : Nat) (kind : Kind) (inside : List Item)
  /-- A region with what stands in it. -/
  | region (region : Region) (inside : List Item)

/-- The events of a step. -/
def Step.events : Step → List Event
  | item i => i.events
  | scope line kind inside => .enter line kind :: eventsOf inside ++ [.leave]
  | region r inside => within r (eventsOf inside)

/-- The events of several steps. -/
def codeOf (steps : List Step) : List Event := steps.flatMap Step.events

section Items

/-- What follows the star of an expression that has one. -/
def unstarred : Expr → Expr
  | .starred _ value => value
  | e => e

/-- A value. -/
def valueItem (e : Expr) : Item := .part (.value e)

/-- Values of which some may be starred. -/
def valueItems (es : List Expr) : List Item := es.map fun e => valueItem (unstarred e)

/-- A value that may be missing. -/
def optionItems (e : Option Expr) : List Item := e.toList.map valueItem

/-- Targets of which some may be starred. -/
def targetItems (es : List Expr) : List Item := es.map fun e => .part (.target (unstarred e))

/-- The values of an entry of a dictionary display. -/
def entryItems : DictEntry → List Item
  | .pair key value => [valueItem key, valueItem value]
  | .unpack value => [valueItem value]

/-- The value of a keyword. -/
def keywordItem : Keyword → Item
  | .mk _ _ value => valueItem value

/-- The default and the annotation of a parameter. -/
def paramItems : Param → List Item
  | .mk _ _ hint fallback => optionItems fallback ++ optionItems hint

/-- The annotation of a parameter that takes the rest. -/
def restItems : Option Param → List Item
  | none => []
  | some (.mk _ _ hint _) => optionItems hint

/-- Defaults and annotations, which stand outside of the function. -/
def defaultItems : Params → List Item
  | .mk positional plain rest named others =>
    positional.flatMap paramItems ++ plain.flatMap paramItems ++ restItems rest ++
      named.flatMap paramItems ++ restItems others

/-- A part of a comprehension. -/
def roleItems (role : Role) (i : Item) : List Item := [.marks [.begin role], i, .marks [.finish role]]

/-- The first source of a comprehension, which stands outside of it. -/
def sourceItems : List Clause → List Item
  | .mk _ _ iter _ :: _ => roleItems .source (valueItem iter)
  | [] => []

/-- The clauses of a comprehension. -/
def clauseItems (line opened : Nat) (isFirst : Bool) : List Clause → List Item
  | [] => []
  | .mk isAsync target iter conditions :: rest =>
    (if isFirst then [] else roleItems .source (valueItem iter)) ++
      (if isAsync then [.marks [.await target.line, .blocks line (opened + 1)]] else []) ++
        roleItems .target (.part (.target target)) ++ valueItems conditions ++
          clauseItems line (if isAsync then opened + 1 else opened) false rest

/-- What stands inside of a comprehension. -/
def insideItems (line : Nat) (clauses : List Clause) (elements : List Expr) : List Item :=
  clauseItems line 0 true clauses ++ elements.map valueItem

/-- Patterns. -/
def patternItems (ps : List Pattern) : List Item := ps.map fun p => .part (.pattern p)

/-- The binding of a name that may be missing. -/
def nameItems (line : Nat) (name : Option String) : List Item :=
  name.toList.map fun id => .marks [.bind line id]

/-- Statements. -/
def blockItems (ss : List Stmt) : List Item := ss.map fun s => .part (.stmt s)

/-- An annotated target: only a bare name is declared by it. -/
def annotatedItems (target : Expr) (simple hasValue : Bool) : List Item :=
  match target with
  | .name _ _ => [.marks (ofAnnotated target simple hasValue)]
  | e => [.part (.target e)]

/-- What a loop needs before it goes over a source. -/
def startItems (line : Nat) (isAsync : Bool) (source : Expr) : List Item :=
  if isAsync then [.marks [.asyncFor line], valueItem source, .marks [.blocks line 1]]
  else [.marks [.blocks line 1], valueItem source]

/-- The items of a with statement. -/
def withItems (line opened : Nat) : List WithItem → List Item
  | [] => []
  | ⟨context, target⟩ :: rest =>
    valueItem context :: .marks [.blocks line (opened + 1)] ::
      (target.toList.map fun e => .part (.target e)) ++ withItems line (opened + 1) rest

/-- Handlers. -/
def handlerItems : List Handler → List Item
  | [] => []
  | .mk line type name body :: rest =>
    .marks (catchAllFault line type rest) :: optionItems type ++ nameItems line name ++
      .marks [.blocks line 0] :: blockItems body ++ handlerItems rest

/-- The cases of a match statement. -/
def caseItems : List MatchCase → List Item
  | [] => []
  | .mk _ form guard body :: rest =>
    .marks (patternFaults (guard.isSome || rest.isEmpty) form) :: .part (.pattern form) ::
      optionItems guard ++ blockItems body ++ caseItems rest

/-- The word `async` before a statement. -/
def asyncItems (isAsync : Bool) (e : Event) : List Item := if isAsync then [.marks [e]] else []

end Items

section Plans

/-- A plan that opens nothing. -/
def flat (items : List Item) : List Step := items.map .item

/-- The plan of a comprehension. -/
def comprehensionPlan (line : Nat) (kind : CompKind) (clauses : List Clause)
    (elements : List Expr) : List Step :=
  flat (.marks (waiting line kind (eventsOf (insideItems line clauses elements))) ::
      sourceItems clauses) ++
    [.scope line (.comprehension kind) (insideItems line clauses elements)]

/-- The plan of a value. -/
def valuePlan : Expr → List Step
  | .constant _ _ => []
  | .name line id => flat [.marks [.use line id]]
  | .attribute _ value _ => flat [valueItem value]
  | .subscript _ value index => flat [valueItem value, valueItem index]
  | .slice _ lower upper step => flat (optionItems lower ++ optionItems upper ++ optionItems step)
  | .starred line value => flat [.marks [.fault line .strayStar], valueItem value]
  | .list _ items => flat (valueItems items)
  | .tuple _ items => flat (valueItems items)
  | .set _ items => flat (valueItems items)
  | .dict _ entries => flat (entries.flatMap entryItems)
  | .unary _ _ operand => flat [valueItem operand]
  | .binary _ left _ right => flat [valueItem left, valueItem right]
  | .boolean _ _ operands => flat (valueItems operands)
  | .compare _ left _ rights => flat (valueItem left :: valueItems rights)
  | .conditional _ test body orelse => flat [valueItem test, valueItem body, valueItem orelse]
  | .call _ func args keywords =>
    flat (.marks (keywordFaults keywords) :: valueItem func :: valueItems args ++
      keywords.map keywordItem)
  | .lambda line params body =>
    flat (.marks (paramFaults line params) :: defaultItems params) ++
      [.scope line (.function false) [.marks (ofParams params), valueItem body]]
  | .listComp line element clauses => comprehensionPlan line .list clauses [element]
  | .setComp line element clauses => comprehensionPlan line .set clauses [element]
  | .dictComp line key value clauses => comprehensionPlan line .dict clauses [key, value]
  | .generator line element clauses => comprehensionPlan line .generator clauses [element]
  | .await line value => flat [.marks [.await line], valueItem value]
  | .yield line value => flat (.marks [.yield line] :: optionItems value)
  | .yieldFrom line value => flat [.marks [.yieldFrom line], valueItem value]
  | .named _ target value => flat [.marks (ofNamed target), valueItem value]
  | .formatted _ parts => flat (valueItems parts)
  | .replacement _ value _ spec => flat (valueItem value :: optionItems spec)

/-- The plan of a target. -/
def targetPlan : Expr → List Step
  | .name line id => flat [.marks [.bind line id]]
  | .attribute _ value _ => flat [valueItem value]
  | .subscript _ value index => flat [valueItem value, valueItem index]
  | .starred line value => flat [.marks [.fault line .loneStarTarget], .part (.target value)]
  | .list line items => flat (.marks (starFaults line items) :: targetItems items)
  | .tuple line items => flat (.marks (starFaults line items) :: targetItems items)
  | _ => []

/-- The plan of a pattern. -/
def patternPlan : Pattern → List Step
  | .value e => flat [valueItem e]
  | .constant _ _ => []
  | .capture line name => flat (nameItems line name)
  | .sequence _ items => flat (patternItems items)
  | .star line name => flat (nameItems line name)
  | .mapping line keys items rest =>
    flat (valueItems keys ++ patternItems items ++ nameItems line rest)
  | .instance cls items _ named => flat (valueItem cls :: patternItems items ++ patternItems named)
  | .as line pattern id => flat [.part (.pattern pattern), .marks [.bind line id]]
  | .or _ options => flat (patternItems options)

/-- The plan of a statement. -/
def stmtPlan : Stmt → List Step
  | .expr _ value => flat [valueItem value]
  | .assign _ targets value => flat (valueItem value :: targets.map fun e => .part (.target e))
  | .update _ target _ value => flat [.part (.target target), valueItem value]
  | .annotate _ target hint value simple =>
    flat (optionItems value ++ annotatedItems target simple value.isSome) ++
      [.region .hint [valueItem hint]]
  | .delete _ targets => flat (targetItems targets)
  | .pass _ => []
  | .break line => flat [.marks [.break line]]
  | .continue line => flat [.marks [.continue line]]
  | .return line value => flat (.marks [.return line value.isSome] :: optionItems value)
  | .raise _ exception cause => flat (optionItems exception ++ optionItems cause)
  | .global line names => flat [.marks (names.map (Event.declareGlobal line))]
  | .nonlocal line names => flat [.marks (names.map (Event.declareNonlocal line))]
  | .imports _ => []
  | .assert _ test message => flat (valueItem test :: optionItems message)
  | .if _ test body orelse => flat (valueItem test :: blockItems body ++ blockItems orelse)
  | .while line test body orelse =>
    flat [.marks [.blocks line 1], valueItem test] ++
      .region .loop (blockItems body) :: flat (blockItems orelse)
  | .for line isAsync target iter body orelse =>
    flat (startItems line isAsync iter ++ [.part (.target target)]) ++
      .region .loop (blockItems body) :: flat (blockItems orelse)
  | .with line isAsync items body =>
    flat (asyncItems isAsync (.asyncWith line) ++ withItems line 0 items) ++
      [.region (.nested items.length) (blockItems body)]
  | .try line grouped body handlers orelse final =>
    flat [.marks [.blocks line (blocksFor final + blocksFor handlers)]] ++
      [.region (.nested (blocksFor final + blocksFor handlers)) (blockItems body),
        .region (.nested (blocksFor final)) (blockItems orelse),
        .region (.handlers grouped (blocksFor final + 2)) (handlerItems handlers),
        .region (.nested 1) (blockItems final)]
  | .match _ subject cases => flat (valueItem subject :: caseItems cases)
  | .function line isAsync name params body decorators returns =>
    flat (.marks (paramFaults line params) :: valueItems decorators ++ defaultItems params ++
      optionItems returns ++ [.marks [.bind line name]]) ++
        [.scope line (.function isAsync) (.marks (ofParams params) :: blockItems body)]
  | .classDef line name bases keywords body decorators =>
    flat (valueItems decorators) ++ .scope line .classBody (blockItems body) ::
      flat (.marks (keywordFaults keywords) :: valueItems bases ++ keywords.map keywordItem ++
        [.marks [.bind line name]])

/-- The plan of a piece. -/
def Piece.plan : Piece → List Step
  | value e => valuePlan e
  | target e => targetPlan e
  | pattern p => patternPlan p
  | stmt s => stmtPlan s

end Plans

section Events

/-- No items have no events. -/
@[simp] theorem eventsOf_nil : eventsOf [] = [] := rfl

/-- The events of the first of several items come first. -/
@[simp] theorem eventsOf_cons (i : Item) (rest : List Item) :
    eventsOf (i :: rest) = i.events ++ eventsOf rest := List.flatMap_cons

/-- The events of items in two parts. -/
@[simp] theorem eventsOf_append (a b : List Item) : eventsOf (a ++ b) = eventsOf a ++ eventsOf b :=
  List.flatMap_append

/-- No steps have no events. -/
@[simp] theorem codeOf_nil : codeOf [] = [] := rfl

/-- The events of the first of several steps come first. -/
@[simp] theorem codeOf_cons (s : Step) (rest : List Step) :
    codeOf (s :: rest) = s.events ++ codeOf rest := List.flatMap_cons

/-- The events of steps in two parts. -/
@[simp] theorem codeOf_append (a b : List Step) : codeOf (a ++ b) = codeOf a ++ codeOf b :=
  List.flatMap_append

/-- The events of a plan that opens nothing. -/
@[simp] theorem codeOf_flat (items : List Item) : codeOf (flat items) = eventsOf items := by
  induction items with
  | nil => rfl
  | cons i rest ih => exact congrArg (i.events ++ ·) ih

@[simp] theorem events_marks (es : List Event) : (Item.marks es).events = es := rfl

@[simp] theorem events_part (m : Piece) : (Item.part m).events = m.events := rfl

@[simp] theorem events_valueItem (e : Expr) : (valueItem e).events = ofExpr e := rfl

@[simp] theorem eventsOf_valueItems (es : List Expr) : eventsOf (valueItems es) = ofItems es := by
  induction es with
  | nil => rfl
  | cons e rest ih =>
    unfold valueItems at ih ⊢
    rw [List.map_cons, eventsOf_cons, ih]
    cases e <;> rfl

@[simp] theorem eventsOf_optionItems (e : Option Expr) : eventsOf (optionItems e) = ofOption e := by
  cases e with
  | none => rfl
  | some e => exact List.append_nil _

@[simp] theorem eventsOf_targetItems (es : List Expr) : eventsOf (targetItems es) = ofTargets es := by
  induction es with
  | nil => rfl
  | cons e rest ih =>
    unfold targetItems at ih ⊢
    rw [List.map_cons, eventsOf_cons, ih]
    cases e <;> rfl

@[simp] theorem eventsOf_entryItems (es : List DictEntry) :
    eventsOf (es.flatMap entryItems) = ofEntries es := by
  induction es with
  | nil => rfl
  | cons e rest ih =>
    rw [List.flatMap_cons, eventsOf_append, ih]
    cases e <;> simp [entryItems, ofEntries]

@[simp] theorem eventsOf_keywordItem (ks : List Keyword) :
    eventsOf (ks.map keywordItem) = ofKeywords ks := by
  induction ks with
  | nil => rfl
  | cons k rest ih =>
    rw [List.map_cons, eventsOf_cons, ih]
    cases k
    rfl

@[simp] theorem eventsOf_paramItems (ps : List Param) :
    eventsOf (ps.flatMap paramItems) = ofParamParts ps := by
  induction ps with
  | nil => rfl
  | cons p rest ih =>
    rw [List.flatMap_cons, eventsOf_append, ih]
    cases p
    simp [paramItems, ofParamParts]

@[simp] theorem eventsOf_restItems (p : Option Param) : eventsOf (restItems p) = ofRestParts p := by
  cases p with
  | none => rfl
  | some p =>
    cases p
    exact eventsOf_optionItems _

@[simp] theorem eventsOf_defaultItems (ps : Params) : eventsOf (defaultItems ps) = ofDefaults ps := by
  cases ps
  simp [defaultItems, ofDefaults]

@[simp] theorem eventsOf_roleItems (role : Role) (i : Item) :
    eventsOf (roleItems role i) = inRole role i.events := rfl

@[simp] theorem eventsOf_sourceItems (cs : List Clause) : eventsOf (sourceItems cs) = ofSource cs := by
  cases cs with
  | nil => rfl
  | cons c rest =>
    cases c
    rfl

@[simp] theorem eventsOf_clauseItems (line opened : Nat) (isFirst : Bool) (cs : List Clause) :
    eventsOf (clauseItems line opened isFirst cs) = ofClauses line opened isFirst cs := by
  induction cs generalizing opened isFirst with
  | nil => rfl
  | cons c rest ih =>
    obtain ⟨isAsync, target, iter, conditions⟩ := c
    cases isFirst <;> cases isAsync <;> simp [clauseItems, ofClauses, ih, Piece.events]

@[simp] theorem eventsOf_patternItems (ps : List Pattern) :
    eventsOf (patternItems ps) = ofPatterns ps := by
  induction ps with
  | nil => rfl
  | cons p rest ih => exact congrArg (ofPattern p ++ ·) ih

@[simp] theorem eventsOf_blockItems (ss : List Stmt) : eventsOf (blockItems ss) = ofBlock ss := by
  induction ss with
  | nil => rfl
  | cons s rest ih => exact congrArg (ofStmt s ++ ·) ih

@[simp] theorem eventsOf_startItems (line : Nat) (isAsync : Bool) (source : Expr) :
    eventsOf (startItems line isAsync source) = loopStart line isAsync (ofExpr source) := by
  cases isAsync <;> simp [startItems, loopStart]

@[simp] theorem eventsOf_withItems (line opened : Nat) (is : List WithItem) :
    eventsOf (withItems line opened is) = ofWith line opened is := by
  induction is generalizing opened with
  | nil => rfl
  | cons i rest ih =>
    obtain ⟨context, target⟩ := i
    cases target <;> simp [withItems, ofWith, Piece.events, ih]

@[simp] theorem eventsOf_handlerItems (hs : List Handler) :
    eventsOf (handlerItems hs) = ofHandlers hs := by
  induction hs with
  | nil => rfl
  | cons h rest ih =>
    obtain ⟨line, type, name, body⟩ := h
    cases name <;> simp [handlerItems, nameItems, ofHandlers, ih]

@[simp] theorem eventsOf_caseItems (cs : List MatchCase) : eventsOf (caseItems cs) = ofCases cs := by
  induction cs with
  | nil => rfl
  | cons c rest ih =>
    obtain ⟨line, form, guard, body⟩ := c
    simp [caseItems, ofCases, Piece.events, ih]

@[simp] theorem eventsOf_annotatedItems (target : Expr) (simple hasValue : Bool) :
    eventsOf (annotatedItems target simple hasValue) = ofAnnotated target simple hasValue := by
  cases target <;> exact List.append_nil _

@[simp] theorem eventsOf_asyncItems (isAsync : Bool) (e : Event) :
    eventsOf (asyncItems isAsync e) = if isAsync then [e] else [] := by
  cases isAsync <;> rfl

@[simp] theorem eventsOf_targets (es : List Expr) :
    eventsOf (es.map fun e => .part (.target e)) = ofEach es := by
  induction es with
  | nil => rfl
  | cons e rest ih => exact congrArg (ofTarget e ++ ·) ih

/-- The code of a piece is that of its plan. -/
theorem events_eq_codeOf (n : Piece) : n.events = codeOf n.plan := by
  cases n with
  | value e =>
    cases e <;> simp [Piece.events, Piece.plan, valuePlan, ofExpr, comprehensionPlan, comprehension,
      insideItems, Step.events]
  | target e => cases e <;> simp [Piece.events, Piece.plan, targetPlan, ofTarget]
  | pattern p =>
    cases p with
    | capture line name => cases name <;> rfl
    | star line name => cases name <;> rfl
    | mapping line keys items rest =>
      cases rest <;> simp [Piece.events, Piece.plan, patternPlan, nameItems, ofPattern]
    | _ => simp [Piece.events, Piece.plan, patternPlan, ofPattern]
  | stmt s => cases s <;> simp [Piece.events, Piece.plan, stmtPlan, ofStmt, Step.events]

end Events

section Parts

/-- The items of a step, wherever they stand. -/
def Step.items : Step → List Item
  | item i => [i]
  | scope _ _ inside => inside
  | region _ inside => inside

/-- The items of a piece, wherever they stand. -/
def Piece.items (n : Piece) : List Item := n.plan.flatMap Step.items

/-- The items of a plan that opens nothing. -/
@[simp] theorem items_flat (items : List Item) : (flat items).flatMap Step.items = items := by
  induction items with
  | nil => rfl
  | cons i rest ih => exact congrArg (i :: ·) ih

/-- A part among several items of a kind is at most as big as all that they are made of. -/
theorem sizeOf_le_of_part_mem_flatMap {α : Type} [SizeOf α] {f : α → List Item} {xs : List α} {m : Piece}
    (hf : ∀ x, .part m ∈ f x → sizeOf m ≤ sizeOf x) (h : .part m ∈ xs.flatMap f) :
    sizeOf m ≤ sizeOf xs := by
  obtain ⟨x, hx, hm⟩ := List.mem_flatMap.mp h
  have hlt := List.sizeOf_lt_of_mem hx
  have hle := hf x hm
  omega

/-- A part among several items of a kind is at most as big as all that they are made of. -/
theorem sizeOf_le_of_part_mem_map {α : Type} [SizeOf α] {f : α → Piece} {xs : List α} {m : Piece}
    (hf : ∀ x, sizeOf (f x) ≤ 1 + sizeOf x) (h : .part m ∈ xs.map fun x => Item.part (f x)) :
    sizeOf m ≤ sizeOf xs := by
  obtain ⟨x, hx, hm⟩ := List.mem_map.mp h
  have hlt := List.sizeOf_lt_of_mem hx
  obtain rfl : f x = m := Item.part.inj hm
  have hle := hf x
  omega

/-- What follows the star is not bigger than all of it. -/
theorem sizeOf_unstarred_le (e : Expr) : sizeOf (unstarred e) ≤ sizeOf e := by
  cases e <;> simp [unstarred]

variable {m : Piece}

@[grind →] theorem sizeOf_of_part_eq_valueItem {e : Expr} (h : .part m = valueItem e) :
    sizeOf m = 1 + sizeOf e := by
  rw [Item.part.inj h]
  rfl

@[grind →] theorem sizeOf_le_of_mem_valueItems {es : List Expr} (h : .part m ∈ valueItems es) :
    sizeOf m ≤ sizeOf es :=
  sizeOf_le_of_part_mem_map (fun e => Nat.add_le_add_left (sizeOf_unstarred_le e) 1) h

@[grind →] theorem sizeOf_le_of_mem_targetItems {es : List Expr} (h : .part m ∈ targetItems es) :
    sizeOf m ≤ sizeOf es :=
  sizeOf_le_of_part_mem_map (fun e => Nat.add_le_add_left (sizeOf_unstarred_le e) 1) h

@[grind →] theorem sizeOf_le_of_mem_targets {es : List Expr}
    (h : .part m ∈ es.map fun e => Item.part (.target e)) : sizeOf m ≤ sizeOf es :=
  sizeOf_le_of_part_mem_map (fun _ => Nat.le_refl _) h

@[grind →] theorem sizeOf_le_of_mem_patternItems {ps : List Pattern} (h : .part m ∈ patternItems ps) :
    sizeOf m ≤ sizeOf ps := sizeOf_le_of_part_mem_map (fun _ => Nat.le_refl _) h

@[grind →] theorem sizeOf_le_of_mem_blockItems {ss : List Stmt} (h : .part m ∈ blockItems ss) :
    sizeOf m ≤ sizeOf ss := sizeOf_le_of_part_mem_map (fun _ => Nat.le_refl _) h

@[grind →] theorem sizeOf_le_of_mem_optionItems {e : Option Expr} (h : .part m ∈ optionItems e) :
    sizeOf m ≤ sizeOf e := by
  cases e with
  | none => cases h
  | some e =>
    have hsize := sizeOf_of_part_eq_valueItem (List.mem_singleton.mp h)
    simp
    omega

@[grind →] theorem sizeOf_le_of_mem_entryItems {es : List DictEntry}
    (h : .part m ∈ es.flatMap entryItems) : sizeOf m ≤ sizeOf es := by
  refine sizeOf_le_of_part_mem_flatMap (fun e he => ?_) h
  cases e <;> simp [entryItems] at he ⊢ <;> grind

@[grind →] theorem sizeOf_le_of_mem_keywordItem {ks : List Keyword} (h : .part m ∈ ks.map keywordItem) :
    sizeOf m ≤ sizeOf ks := by
  obtain ⟨⟨line, name, value⟩, hk, hm⟩ := List.mem_map.mp h
  have hlt := List.sizeOf_lt_of_mem hk
  have hsize : sizeOf m = 1 + sizeOf value := sizeOf_of_part_eq_valueItem hm.symm
  simp at hlt
  omega

@[grind →] theorem sizeOf_le_of_mem_paramItems {ps : List Param} (h : .part m ∈ ps.flatMap paramItems) :
    sizeOf m ≤ sizeOf ps := by
  refine sizeOf_le_of_part_mem_flatMap (fun p hp => ?_) h
  cases p
  simp [paramItems] at hp ⊢
  grind

@[grind →] theorem sizeOf_le_of_mem_restItems {p : Option Param} (h : .part m ∈ restItems p) :
    sizeOf m ≤ sizeOf p := by
  cases p with
  | none => cases h
  | some p =>
    obtain ⟨line, name, hint, fallback⟩ := p
    have hsize : sizeOf m ≤ sizeOf hint := sizeOf_le_of_mem_optionItems h
    simp
    omega

@[grind →] theorem sizeOf_le_of_mem_defaultItems {ps : Params} (h : .part m ∈ defaultItems ps) :
    sizeOf m ≤ sizeOf ps := by
  cases ps
  simp [defaultItems, -List.mem_flatMap] at h ⊢
  grind

/-- A part in a role is the part itself. -/
@[simp] theorem part_mem_roleItems {role : Role} {i : Item} : .part m ∈ roleItems role i ↔ .part m = i := by
  simp [roleItems]

@[grind →] theorem sizeOf_le_of_mem_sourceItems {cs : List Clause} (h : .part m ∈ sourceItems cs) :
    sizeOf m ≤ sizeOf cs := by
  cases cs with
  | nil => cases h
  | cons c rest =>
    obtain ⟨isAsync, target, iter, conditions⟩ := c
    have hsize : sizeOf m = 1 + sizeOf iter := sizeOf_of_part_eq_valueItem (part_mem_roleItems.mp h)
    simp
    omega

@[grind →] theorem sizeOf_le_of_mem_clauseItems {line opened : Nat} {isFirst : Bool} {cs : List Clause}
    (h : .part m ∈ clauseItems line opened isFirst cs) : sizeOf m ≤ sizeOf cs := by
  induction cs generalizing opened isFirst with
  | nil => cases h
  | cons c rest ih =>
    obtain ⟨isAsync, target, iter, conditions⟩ := c
    cases isFirst <;> cases isAsync <;> simp [clauseItems] at h ⊢ <;> grind

@[grind →] theorem sizeOf_of_mem_startItems {line : Nat} {isAsync : Bool} {source : Expr}
    (h : .part m ∈ startItems line isAsync source) : sizeOf m = 1 + sizeOf source := by
  cases isAsync <;> simp [startItems] at h <;> exact sizeOf_of_part_eq_valueItem h

@[grind →] theorem sizeOf_le_of_mem_withItems {line opened : Nat} {is : List WithItem}
    (h : .part m ∈ withItems line opened is) : sizeOf m ≤ sizeOf is := by
  induction is generalizing opened with
  | nil => cases h
  | cons i rest ih =>
    obtain ⟨context, target⟩ := i
    cases target <;> simp [withItems] at h ⊢ <;> grind

@[grind .] theorem part_notMem_nameItems {line : Nat} {name : Option String} :
    .part m ∉ nameItems line name := by
  cases name <;> simp [nameItems]

@[grind .] theorem part_notMem_asyncItems {isAsync : Bool} {e : Event} :
    .part m ∉ asyncItems isAsync e := by
  cases isAsync <;> simp [asyncItems]

@[grind →] theorem sizeOf_le_of_mem_handlerItems {hs : List Handler} (h : .part m ∈ handlerItems hs) :
    sizeOf m ≤ sizeOf hs := by
  induction hs with
  | nil => cases h
  | cons k rest ih =>
    cases k
    simp [handlerItems] at h ⊢
    grind

@[grind →] theorem sizeOf_le_of_mem_caseItems {cs : List MatchCase} (h : .part m ∈ caseItems cs) :
    sizeOf m ≤ sizeOf cs := by
  induction cs with
  | nil => cases h
  | cons c rest ih =>
    cases c
    simp [caseItems] at h ⊢
    grind

@[grind →] theorem sizeOf_of_mem_annotatedItems {e : Expr} {simple hasValue : Bool}
    (h : .part m ∈ annotatedItems e simple hasValue) : sizeOf m = 1 + sizeOf e := by
  cases e with
  | name line id => cases List.mem_singleton.mp h
  | _ =>
    rw [Item.part.inj (List.mem_singleton.mp h)]
    rfl

/-- A part of a piece is smaller than the piece. -/
theorem sizeOf_lt_of_part_mem {n : Piece} (h : .part m ∈ n.items) : sizeOf m < sizeOf n := by
  unfold Piece.items at h
  cases n with
  | value e =>
    cases e <;> simp [Piece.plan, valuePlan, comprehensionPlan, insideItems, Step.items, -List.mem_map,
      -List.mem_flatMap] at h ⊢ <;> grind
  | target e => cases e <;> simp [Piece.plan, targetPlan, -List.mem_map] at h ⊢ <;> grind
  | pattern p => cases p <;> simp [Piece.plan, patternPlan] at h ⊢ <;> grind
  | stmt s =>
    cases s <;> simp [Piece.plan, stmtPlan, Step.items, -List.mem_map, -List.mem_flatMap] at h ⊢ <;> grind

/-- What holds of a piece whenever it holds of its parts holds of every piece. -/
theorem Piece.induction_parts {P : Piece → Prop} (h : ∀ n, (∀ m, .part m ∈ n.items → P m) → P n)
    (n : Piece) : P n :=
  (measure (sizeOf : Piece → Nat)).wf.induction n fun k ih => h k fun _ hm => ih _ (sizeOf_lt_of_part_mem hm)

end Parts

end ChartScript.Script.Scope
