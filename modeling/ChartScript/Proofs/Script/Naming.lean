import ChartScript.Proofs.Script.Node
import ChartScript.Script.Scope.Event
/-!
# Names that code binds

Whatever code does to a name, the name stands at a node of its tree: it is written as an
expression, or it is that of a definition, a parameter, a handler, a pattern or a declaration.
-/

namespace ChartScript.Script

open Scope (Event)

/-- The name that something happens to. -/
def Scope.Event.id? : Event → Option String
  | .use _ id => some id
  | .bind _ id => some id
  | .bindOuter _ id => some id
  | .annotate _ id => some id
  | .param _ id => some id
  | .declareGlobal _ id => some id
  | .declareNonlocal _ id => some id
  | _ => none

/-- The names that something happens to at events. -/
def idsOf (events : List Event) : List String := events.filterMap Event.id?

namespace Node

/-- The names that a node binds without writing them as expressions. -/
def bindings : Node → List String
  | .param (.mk _ name _ _) => [name]
  | .pattern (.capture _ name) => name.toList
  | .pattern (.star _ name) => name.toList
  | .pattern (.mapping _ _ _ rest) => rest.toList
  | .pattern (.as _ _ name) => [name]
  | .stmt (.global _ names) => names
  | .stmt (.nonlocal _ names) => names
  | .stmt (.function _ _ name _ _ _ _) => [name]
  | .stmt (.classDef _ name _ _ _ _) => [name]
  | .handler (.mk _ _ name _) => name.toList
  | _ => []

/-- The names that stand at a node. -/
def names : Node → List String
  | .expr (.name _ id) => [id]
  | n => n.bindings

/-- Everything that a node can do to names, as a value, as a target or as the name of an
assignment inside an expression. -/
def events : Node → List Event
  | .expr e => Scope.ofExpr e ++ Scope.ofTarget e ++ Scope.ofNamed e
  | .entry e => Scope.ofEntries [e]
  | .keyword k => Scope.ofKeywords [k]
  | .clause c => Scope.ofSource [c] ++ Scope.ofClauses 0 0 false [c]
  | .param p => Scope.ofParamParts [p] ++ Scope.ofParamNames [p]
  | .pattern p => Scope.ofPattern p
  | .item i => Scope.ofWith 0 0 [i]
  | .stmt s => Scope.ofStmt s
  | .handler h => Scope.ofHandlers [h]
  | .case c => Scope.ofCases [c]

/-- The names that several nodes can do something to. -/
def idsAmong (nodes : List Node) : List String := nodes.flatMap fun n => idsOf n.events

section Events

open Scope

variable {id : String}

/-- Nothing happens to a name at no events. -/
@[simp] theorem idsOf_nil : idsOf [] = [] := rfl

/-- The names at events in two parts. -/
@[simp] theorem idsOf_append (a b : List Event) : idsOf (a ++ b) = idsOf a ++ idsOf b :=
  List.filterMap_append

/-- The name at the first of several events. -/
@[simp] theorem idsOf_cons (e : Event) (rest : List Event) :
    idsOf (e :: rest) = e.id?.toList ++ idsOf rest := by
  unfold idsOf
  cases h : e.id? <;> simp [h]

/-- No nodes do anything to names. -/
@[simp] theorem idsAmong_nil : idsAmong [] = [] := rfl

/-- The first of several nodes. -/
@[simp] theorem idsAmong_cons (n : Node) (rest : List Node) :
    idsAmong (n :: rest) = idsOf n.events ++ idsAmong rest := List.flatMap_cons

/-- Nodes in two parts. -/
@[simp] theorem idsAmong_append (xs ys : List Node) :
    idsAmong (xs ++ ys) = idsAmong xs ++ idsAmong ys := List.flatMap_append

/-- The names at events that depend on a condition. -/
@[simp] theorem idsOf_ite (c : Bool) (a b : List Event) :
    idsOf (if c = true then a else b) = if c = true then idsOf a else idsOf b := apply_ite idsOf _ a b

/-- A region does nothing to names but what stands in it. -/
@[simp] theorem idsOf_within (region : Region) (events : List Event) :
    idsOf (within region events) = idsOf events := by
  simp [within, Event.id?]

/-- A part of a comprehension does nothing to names but what stands in it. -/
@[simp] theorem idsOf_inRole (role : Role) (events : List Event) :
    idsOf (inRole role events) = idsOf events := by
  simp [inRole, Event.id?]

/-- A fault of a keyword that came before is none of a name. -/
@[simp] theorem idsOf_repetitions (name : String) (ks : List Keyword) :
    idsOf (repetitions name ks) = [] := by
  induction ks with
  | nil => rfl
  | cons k rest ih =>
    obtain ⟨line, other, value⟩ := k
    rw [repetitions, idsOf_append, ih]
    split <;> rfl

/-- A fault of keywords is none of a name. -/
@[simp] theorem idsOf_keywordFaults (ks : List Keyword) : idsOf (keywordFaults ks) = [] := by
  induction ks with
  | nil => rfl
  | cons k rest ih =>
    obtain ⟨line, _ | name, value⟩ := k
    · exact ih
    · rw [keywordFaults, idsOf_append, idsOf_append, idsOf_repetitions, ih]
      split <;> rfl

/-- A fault of parameters is none of a name. -/
@[simp] theorem idsOf_paramFaults (line : Nat) (ps : Params) : idsOf (paramFaults line ps) = [] := by
  unfold paramFaults
  split <;> rfl

/-- A fault of a display is none of a name. -/
@[simp] theorem idsOf_starFaults (line : Nat) (items : List Expr) :
    idsOf (starFaults line items) = [] := by
  unfold starFaults
  cases starFault? items <;> rfl

/-- A fault of a pattern is none of a name. -/
@[simp] theorem idsOf_patternFaults (isLast : Bool) (p : Pattern) :
    idsOf (patternFaults isLast p) = [] := by
  unfold patternFaults
  cases patternFault? isLast p <;> rfl

/-- A fault of a handler is none of a name. -/
@[simp] theorem idsOf_catchAllFault (line : Nat) (type : Option Expr) (rest : List Handler) :
    idsOf (catchAllFault line type rest) = [] := by
  unfold catchAllFault
  split <;> rfl

/-- That a comprehension has to be waited for does nothing to names. -/
@[simp] theorem idsOf_waiting (line : Nat) (kind : CompKind) (inside : List Event) :
    idsOf (waiting line kind inside) = [] := by
  unfold waiting
  split <;> rfl

/-- Before a loop goes over a source nothing happens to names but what the source does. -/
@[simp] theorem idsOf_loopStart (line : Nat) (isAsync : Bool) (source : List Event) :
    idsOf (loopStart line isAsync source) = idsOf source := by
  unfold loopStart
  cases isAsync <;> simp [Event.id?]

/-- The names of a comprehension are those of its first source and those inside. -/
@[simp] theorem idsOf_comprehension (line : Nat) (kind : CompKind) (source inside : List Event) :
    idsOf (comprehension line kind source inside) = idsOf source ++ idsOf inside := by
  simp [comprehension, Event.id?]

/-- The names of the first of several expressions, whether it is starred or not. -/
theorem idsOf_ofItems_cons (e : Expr) (rest : List Expr) :
    idsOf (ofItems (e :: rest)) = idsOf (ofExpr e) ++ idsOf (ofItems rest) := by
  cases e <;> simp [ofItems, ofExpr, Event.id?]

/-- The names of the first of several targets, whether it is starred or not. -/
theorem idsOf_ofTargets_cons (e : Expr) (rest : List Expr) :
    idsOf (ofTargets (e :: rest)) = idsOf (ofTarget e) ++ idsOf (ofTargets rest) := by
  cases e <;> simp [ofTargets, ofTarget, Event.id?]

/-- The names of an expression as a value. -/
theorem mem_events_of_ofExpr {e : Expr} (h : id ∈ idsOf (ofExpr e)) : id ∈ idsOf (expr e).events := by
  simp [events, h]

/-- The names of an expression as a target. -/
theorem mem_events_of_ofTarget {e : Expr} (h : id ∈ idsOf (ofTarget e)) :
    id ∈ idsOf (expr e).events := by
  simp [events, h]

/-- The names of several expressions. -/
theorem mem_idsAmong_of_ofItems {es : List Expr} (h : id ∈ idsOf (ofItems es)) :
    id ∈ idsAmong (es.map .expr) := by
  induction es with
  | nil => cases h
  | cons e rest ih =>
    rw [idsOf_ofItems_cons, List.mem_append] at h
    rw [List.map_cons, idsAmong_cons, List.mem_append]
    exact h.imp mem_events_of_ofExpr ih

/-- The names of targets of which some may be starred. -/
theorem mem_idsAmong_of_ofTargets {es : List Expr} (h : id ∈ idsOf (ofTargets es)) :
    id ∈ idsAmong (es.map .expr) := by
  induction es with
  | nil => cases h
  | cons e rest ih =>
    rw [idsOf_ofTargets_cons, List.mem_append] at h
    rw [List.map_cons, idsAmong_cons, List.mem_append]
    exact h.imp mem_events_of_ofTarget ih

/-- The names of targets that each stand on their own. -/
theorem mem_idsAmong_of_ofEach {es : List Expr} (h : id ∈ idsOf (ofEach es)) :
    id ∈ idsAmong (es.map .expr) := by
  induction es with
  | nil => cases h
  | cons e rest ih =>
    rw [ofEach, idsOf_append, List.mem_append] at h
    rw [List.map_cons, idsAmong_cons, List.mem_append]
    exact h.imp mem_events_of_ofTarget ih

/-- The name of an annotated target is the one of the target. -/
theorem mem_ofTarget_of_ofAnnotated {e : Expr} {simple hasValue : Bool}
    (h : id ∈ idsOf (ofAnnotated e simple hasValue)) : id ∈ idsOf (ofTarget e) := by
  cases e with
  | name line written =>
    cases simple <;> cases hasValue <;> simp [ofAnnotated, ofTarget, Event.id?] at h ⊢ <;> exact h
  | _ => exact h

/-- The names that are declared to belong to the module. -/
@[simp] theorem idsOf_declareGlobal (line : Nat) (names : List String) :
    idsOf (names.map (Event.declareGlobal line)) = names := by
  induction names with
  | nil => rfl
  | cons name rest ih => simp [Event.id?, ih]

/-- The names that are declared to belong to an outer function. -/
@[simp] theorem idsOf_declareNonlocal (line : Nat) (names : List String) :
    idsOf (names.map (Event.declareNonlocal line)) = names := by
  induction names with
  | nil => rfl
  | cons name rest ih => simp [Event.id?, ih]

/-- The names of an optional expression. -/
theorem mem_idsAmong_of_ofOption {e : Option Expr} (h : id ∈ idsOf (ofOption e)) :
    id ∈ idsAmong (optional e) := by
  cases e with
  | none => cases h
  | some e =>
    change id ∈ idsOf (ofExpr e) at h
    simp [optional, mem_events_of_ofExpr h]

/-- The names of the entries of a dictionary display. -/
theorem idsOf_ofEntries (es : List DictEntry) : idsOf (ofEntries es) = idsAmong (es.map .entry) := by
  induction es with
  | nil => rfl
  | cons e rest ih =>
    rw [List.map_cons, idsAmong_cons, ← ih]
    cases e <;> simp [ofEntries, events]

/-- The names of the values of keywords. -/
theorem idsOf_ofKeywords (ks : List Keyword) : idsOf (ofKeywords ks) = idsAmong (ks.map .keyword) := by
  induction ks with
  | nil => rfl
  | cons k rest ih =>
    obtain ⟨line, name, value⟩ := k
    rw [List.map_cons, idsAmong_cons, ← ih]
    simp [ofKeywords, events]

/-- The names of the clauses of a comprehension: those of the first source, and the others. -/
theorem mem_idsAmong_of_ofClauses {cs : List Clause} {line opened : Nat} {isFirst : Bool}
    (h : id ∈ idsOf (ofSource cs) ∨ id ∈ idsOf (ofClauses line opened isFirst cs)) :
    id ∈ idsAmong (cs.map .clause) := by
  induction cs generalizing opened isFirst with
  | nil => rcases h with h | h <;> cases h
  | cons c rest ih =>
    obtain ⟨isAsync, target, iter, conditions⟩ := c
    have hrest (opened : Nat) := @ih opened false
    rw [List.map_cons, idsAmong_cons]
    cases isFirst <;> cases isAsync <;> simp [ofSource, ofClauses, events, Event.id?] at h ⊢ <;> grind

/-- The names of parameters, with their defaults and annotations. -/
theorem mem_idsAmong_of_ofParamParts {ps : List Param}
    (h : id ∈ idsOf (ofParamParts ps) ∨ id ∈ idsOf (ofParamNames ps)) :
    id ∈ idsAmong (ps.map .param) := by
  induction ps with
  | nil => rcases h with h | h <;> cases h
  | cons p rest ih =>
    obtain ⟨line, name, hint, fallback⟩ := p
    rw [List.map_cons, idsAmong_cons]
    simp [ofParamParts, ofParamNames, events, Event.id?] at h ⊢
    grind

/-- The name of a parameter that takes the rest, with its annotation. -/
theorem mem_idsAmong_of_ofRestParts {p : Option Param}
    (h : id ∈ idsOf (ofRestParts p) ∨ id ∈ idsOf (ofRestName p)) :
    id ∈ idsAmong ((p.map Param.taking).toList.map .param) := by
  cases p with
  | none => rcases h with h | h <;> cases h
  | some p =>
    obtain ⟨line, name, hint, fallback⟩ := p
    simpa [ofRestParts, ofRestName, events, Event.id?, Param.taking, ofParamParts, ofParamNames,
      ofOption] using h

/-- The names of the parameters of a function, with their defaults and annotations. -/
theorem mem_idsAmong_of_ofParams {ps : Params}
    (h : id ∈ idsOf (ofDefaults ps) ∨ id ∈ idsOf (ofParams ps)) :
    id ∈ idsAmong (ps.all.map .param) := by
  obtain ⟨positional, plain, rest, named, others⟩ := ps
  have hlist : ∀ ps : List Param, id ∈ idsOf (ofParamParts ps) ∨ id ∈ idsOf (ofParamNames ps) →
      id ∈ idsAmong (ps.map .param) := fun _ => mem_idsAmong_of_ofParamParts
  have hrest : ∀ p : Option Param, id ∈ idsOf (ofRestParts p) ∨ id ∈ idsOf (ofRestName p) →
      id ∈ idsAmong ((p.map Param.taking).toList.map .param) := fun _ => mem_idsAmong_of_ofRestParts
  simp only [ofDefaults, ofParams, idsOf_append, List.mem_append] at h
  simp only [Params.all, List.map_append, idsAmong_append, List.mem_append]
  grind

/-- The names of several patterns. -/
theorem idsOf_ofPatterns (ps : List Pattern) : idsOf (ofPatterns ps) = idsAmong (ps.map .pattern) := by
  induction ps with
  | nil => rfl
  | cons p rest ih => rw [ofPatterns, idsOf_append, ih]; rfl

/-- The names of the items of a with statement. -/
theorem idsOf_ofWith (line opened : Nat) (is : List WithItem) :
    idsOf (ofWith line opened is) = idsAmong (is.map .item) := by
  induction is generalizing opened with
  | nil => rfl
  | cons i rest ih =>
    obtain ⟨context, target⟩ := i
    rw [List.map_cons, idsAmong_cons, ← ih (opened + 1)]
    simp [ofWith, events, Event.id?]

/-- The names of a block. -/
theorem idsOf_ofBlock (ss : List Stmt) : idsOf (ofBlock ss) = idsAmong (ss.map .stmt) := by
  induction ss with
  | nil => rfl
  | cons s rest ih => rw [ofBlock, idsOf_append, ih]; rfl

/-- The names of handlers. -/
theorem idsOf_ofHandlers (hs : List Handler) : idsOf (ofHandlers hs) = idsAmong (hs.map .handler) := by
  induction hs with
  | nil => rfl
  | cons h rest ih =>
    obtain ⟨line, type, name, body⟩ := h
    rw [List.map_cons, idsAmong_cons, ← ih]
    simp [ofHandlers, events]

/-- The names of the cases of a match statement. -/
theorem idsOf_ofCases (cs : List MatchCase) : idsOf (ofCases cs) = idsAmong (cs.map .case) := by
  induction cs with
  | nil => rfl
  | cons c rest ih =>
    obtain ⟨line, form, guard, body⟩ := c
    rw [List.map_cons, idsAmong_cons, ← ih]
    simp [ofCases, events]

/-- A name that a node does something to stands at the node, or one of its parts does. -/
theorem mem_names_or_idsAmong {n : Node} {id : String} (h : id ∈ idsOf n.events) :
    id ∈ n.names ∨ id ∈ idsAmong n.parts := by
  have hitems : ∀ es : List Expr, id ∈ idsOf (ofItems es) → id ∈ idsAmong (es.map .expr) :=
    fun _ => mem_idsAmong_of_ofItems
  have htargets : ∀ es : List Expr, id ∈ idsOf (ofTargets es) → id ∈ idsAmong (es.map .expr) :=
    fun _ => mem_idsAmong_of_ofTargets
  have heach : ∀ es : List Expr, id ∈ idsOf (ofEach es) → id ∈ idsAmong (es.map .expr) :=
    fun _ => mem_idsAmong_of_ofEach
  have hoption : ∀ e : Option Expr, id ∈ idsOf (ofOption e) → id ∈ idsAmong (optional e) :=
    fun _ => mem_idsAmong_of_ofOption
  have hclauses : ∀ (cs : List Clause) (line : Nat), id ∈ idsOf (ofSource cs) ∨
      id ∈ idsOf (ofClauses line 0 true cs) → id ∈ idsAmong (cs.map .clause) :=
    fun _ _ => mem_idsAmong_of_ofClauses
  have hparams : ∀ ps : Params, id ∈ idsOf (ofDefaults ps) ∨ id ∈ idsOf (ofParams ps) →
      id ∈ idsAmong (ps.all.map .param) := fun _ => mem_idsAmong_of_ofParams
  have hexpr : ∀ e : Expr, id ∈ idsOf (ofExpr e) → id ∈ idsOf (expr e).events :=
    fun _ => mem_events_of_ofExpr
  have htarget : ∀ e : Expr, id ∈ idsOf (ofTarget e) → id ∈ idsOf (expr e).events :=
    fun _ => mem_events_of_ofTarget
  have hannotated : ∀ (e : Expr) (simple hasValue : Bool),
      id ∈ idsOf (ofAnnotated e simple hasValue) → id ∈ idsOf (ofTarget e) :=
    fun _ _ _ => mem_ofTarget_of_ofAnnotated
  cases n with
  | expr e =>
    cases e <;> simp [events, ofExpr, ofTarget, ofNamed, names, bindings, parts, Expr.parts, Event.id?,
      idsOf_ofEntries, idsOf_ofKeywords] at h ⊢ <;> grind
  | pattern p =>
    cases p with
    | capture line name =>
      cases name with
      | none => cases h
      | some written => exact .inl h
    | star line name =>
      cases name with
      | none => cases h
      | some written => exact .inl h
    | mapping line keys items rest =>
      cases rest <;> simp [events, ofPattern, names, bindings, parts, Pattern.parts, Event.id?,
        idsOf_ofPatterns] at h ⊢ <;> grind
    | _ =>
      simp [events, ofPattern, names, bindings, parts, Pattern.parts, Event.id?,
        idsOf_ofPatterns] at h ⊢ <;> grind
  | stmt s =>
    cases s <;> simp [events, ofStmt, names, bindings, parts, Stmt.parts, Event.id?, idsOf_ofKeywords,
      idsOf_ofWith, idsOf_ofBlock, idsOf_ofHandlers, idsOf_ofCases] at h ⊢ <;> grind
  | entry e => cases e <;> simp [events, parts, ofEntries] at h ⊢ <;> grind
  | keyword k =>
    obtain ⟨line, name, value⟩ := k
    simp [events, parts, ofKeywords] at h ⊢
    grind
  | clause k =>
    obtain ⟨isAsync, target, iter, conditions⟩ := k
    cases isAsync <;> simp [events, parts, ofSource, ofClauses, Event.id?] at h ⊢ <;> grind
  | param p =>
    obtain ⟨line, name, hint, fallback⟩ := p
    simp [events, names, bindings, parts, ofParamParts, ofParamNames, Event.id?] at h ⊢
    grind
  | item i =>
    obtain ⟨context, target⟩ := i
    cases target <;> simp [events, parts, ofWith, optional, Event.id?] at h ⊢ <;> grind
  | handler k =>
    obtain ⟨line, type, name, body⟩ := k
    cases name <;> simp [events, names, bindings, parts, ofHandlers, Event.id?, idsOf_ofBlock] at h ⊢ <;> grind
  | case k =>
    obtain ⟨line, form, guard, body⟩ := k
    simp [events, parts, ofCases, idsOf_ofBlock] at h ⊢
    grind

end Events

/-- A name that a node does something to stands at a node within it. -/
theorem exists_within_of_mem_events {n : Node} {id : String} (h : id ∈ idsOf n.events) :
    ∃ k : Node, k.Within n ∧ id ∈ k.names := by
  induction n using induction_parts with
  | h n ih =>
    rcases mem_names_or_idsAmong h with hown | hparts
    · exact ⟨n, .self, hown⟩
    · obtain ⟨c, hc, hid⟩ := List.mem_flatMap.mp hparts
      obtain ⟨k, hk, hown⟩ := ih c hc hid
      exact ⟨k, .part hc hk, hown⟩

end Node

/-- A name that the code of a script does something to stands at a node that occurs in it. -/
theorem exists_occursIn_of_event {script : List Stmt} {e : Event} {id : String}
    (he : e ∈ Scope.ofBlock script) (hid : e.id? = some id) :
    ∃ n : Node, n.OccursIn script ∧ id ∈ n.names := by
  have hmem : id ∈ idsOf (Scope.ofBlock script) := List.mem_filterMap.mpr ⟨e, he, hid⟩
  rw [Node.idsOf_ofBlock] at hmem
  obtain ⟨c, hc, hevents⟩ := List.mem_flatMap.mp hmem
  obtain ⟨s, hs, rfl⟩ := List.mem_map.mp hc
  obtain ⟨n, hn, hnames⟩ := Node.exists_within_of_mem_events hevents
  exact ⟨n, ⟨s, hs, hn⟩, hnames⟩

end ChartScript.Script
