import ChartScript.Script.Scope.Event
/-!
# Rules on names and places

The rules that a script can break although its text is well formed: names declared twice
or too late, and statements at places where they mean nothing. The rules on names are
checked for the whole script before the rules on places.
-/

namespace ChartScript.Script.Scope

/-- A broken rule. -/
inductive Violation where
  /-- A parameter twice in one function. -/
  | duplicateParam (id : String)
  /-- A parameter that is declared to belong elsewhere. -/
  | paramDeclared (id place : String)
  /-- A name that is read before its declaration. -/
  | usedBefore (id place : String)
  /-- A name that is annotated and declared to belong elsewhere. -/
  | annotatedDeclared (id place : String)
  /-- A name that is bound before its declaration. -/
  | boundBefore (id place : String)
  /-- A name that is declared to belong to the module and to an outer function. -/
  | bothDeclared (id : String)
  /-- An outer function's name that is declared at the top. -/
  | nonlocalAtTop
  /-- An outer function's name that no outer function binds. -/
  | unboundNonlocal (id : String)
  /-- A value handed out from a comprehension. -/
  | yieldInside (kind : CompKind)
  /-- A name bound in a comprehension that is one of its targets. -/
  | rebindsTarget (id : String)
  /-- A name in a target of a comprehension that an expression inside it binds outside of it. -/
  | targetRebinds (id : String)
  /-- A name that is bound inside an expression that is a source of a comprehension. -/
  | bindsInSource
  /-- A name that is bound inside a comprehension of a class. -/
  | bindsInClass
  /-- A return statement outside of functions. -/
  | returnOutside
  /-- A value returned from a generator that has to be waited for. -/
  | returnInGenerator
  /-- A break statement outside of loops. -/
  | breakOutside
  /-- A continue statement outside of loops. -/
  | continueOutside
  /-- A value handed out outside of functions. -/
  | yieldOutside
  /-- Elements handed out in a function that waits. -/
  | yieldFromInAsync
  /-- Waiting outside of functions. -/
  | awaitOutside
  /-- Something that waits, by its words, outside of functions that can wait. -/
  | asyncOutside (what : String)
  /-- A comprehension that waits outside of functions that can wait. -/
  | asyncComprehension
  /-- A statement that leaves a handler of a group of exceptions. -/
  | leavesGroupHandler
  /-- More blocks within each other than fit in a scope. -/
  | nestedTooDeep
  /-- A fault of a node. -/
  | fault (what : Fault)
  deriving Repr, DecidableEq

/-- The wording of a broken rule. -/
def Violation.wording : Violation → String
  | duplicateParam id => "duplicate argument '" ++ id ++ "' in function definition"
  | paramDeclared id place => "name '" ++ id ++ "' is parameter and " ++ place
  | usedBefore id place => "name '" ++ id ++ "' is used prior to " ++ place ++ " declaration"
  | annotatedDeclared id place => "annotated name '" ++ id ++ "' can't be " ++ place
  | boundBefore id place => "name '" ++ id ++ "' is assigned to before " ++ place ++ " declaration"
  | bothDeclared id => "name '" ++ id ++ "' is nonlocal and global"
  | nonlocalAtTop => "nonlocal declaration not allowed at module level"
  | unboundNonlocal id => "no binding for nonlocal '" ++ id ++ "' found"
  | yieldInside kind => "'yield' inside " ++ kind.description
  | rebindsTarget id =>
    "assignment expression cannot rebind comprehension iteration variable '" ++ id ++ "'"
  | targetRebinds id =>
    "comprehension inner loop cannot rebind assignment expression target '" ++ id ++ "'"
  | bindsInSource =>
    "assignment expression cannot be used in a comprehension iterable expression"
  | bindsInClass => "assignment expression within a comprehension cannot be used in a class body"
  | returnOutside => "'return' outside function"
  | returnInGenerator => "'return' with value in async generator"
  | breakOutside => "'break' outside loop"
  | continueOutside => "'continue' not properly in loop"
  | yieldOutside => "'yield' outside function"
  | yieldFromInAsync => "'yield from' inside async function"
  | awaitOutside => "'await' outside function"
  | asyncOutside what => "'" ++ what ++ "' outside async function"
  | leavesGroupHandler => "'break', 'continue' and 'return' cannot appear in an except* block"
  | asyncComprehension => "asynchronous comprehension outside of an asynchronous function"
  | nestedTooDeep => "too many statically nested blocks"
  | fault what => what.wording

/-- A broken rule and its line. -/
structure Report where
  /-- The line. -/
  line : Nat
  /-- The rule. -/
  violation : Violation
  deriving Repr, DecidableEq

/-- The names of a scope. -/
structure Names where
  /-- The kind of the scope. -/
  kind : Kind
  /-- Parameters. -/
  params : List String := []
  /-- Names that are read. -/
  used : List String := []
  /-- Names that are bound. -/
  bound : List String := []
  /-- Names that are annotated. -/
  annotated : List String := []
  /-- Names of the module. -/
  globals : List String := []
  /-- Names of outer functions. -/
  nonlocals : List String := []
  /-- Names that are declared to belong elsewhere, with the lines of their declarations. -/
  declared : List (String × Nat) := []
  /-- Names that expressions inside a comprehension bind outside of it. -/
  outward : List String := []
  /-- How many sources of comprehensions are open, those around the scope included. -/
  sources : Nat := 0
  /-- Whether a target of a comprehension is open. -/
  inTarget : Bool := false
  /-- Names that are read in targets of a comprehension. -/
  targeted : List String := []

/-- Names that a scope has as its own. -/
def Names.own (n : Names) : List String :=
  (n.params ++ n.bound ++ n.annotated).filter fun id =>
    !n.globals.contains id && !n.nonlocals.contains id

/-- The rule that a declaration breaks which comes after other mentions of the name. -/
def Names.declared? (n : Names) (id place : String) : Option Violation :=
  if n.params.contains id then some (.paramDeclared id place)
  else if n.used.contains id then some (.usedBefore id place)
  else if n.annotated.contains id then some (.annotatedDeclared id place)
  else if n.bound.contains id then some (.boundBefore id place)
  else none

/-- The names with one that is declared to belong to the module. -/
def Names.declareGlobal (n : Names) (line : Nat) (id : String) : Names :=
  { n with globals := id :: n.globals, declared := (id, line) :: n.declared }

/-- The names with one that is declared to belong to an outer function. -/
def Names.declareNonlocal (n : Names) (line : Nat) (id : String) : Names :=
  { n with nonlocals := id :: n.nonlocals, declared := (id, line) :: n.declared }

/-- The names with one that is bound by a comprehension inside: for a module it is declared. -/
def Names.bindFromInside (n : Names) (id : String) : Names :=
  if n.kind = .module then { n with globals := id :: n.globals } else { n with bound := id :: n.bound }

/-- Changes the innermost scope that is no comprehension. -/
def bindOutside (id : String) : List Names → List Names
  | [] => []
  | n :: rest =>
    match n.kind with
    | .comprehension _ => n :: bindOutside id rest
    | _ => n.bindFromInside id :: rest

/-- Binds a name inside an expression: in the innermost scope that is no comprehension. A
comprehension remembers it. -/
def bindInside (id : String) : List Names → List Names
  | [] => []
  | n :: rest =>
    match n.kind with
    | .comprehension _ => { n with outward := id :: n.outward } :: bindOutside id rest
    | _ => { n with bound := id :: n.bound } :: rest

/-- Whether a name is a target of one of the innermost comprehensions, or read in one. -/
def isCompTarget (id : String) : List Names → Bool
  | [] => false
  | n :: rest =>
    match n.kind with
    | .comprehension _ => n.bound.contains id || n.targeted.contains id || isCompTarget id rest
    | _ => false

/-- Whether the innermost scope that is no comprehension is a class, and there are comprehensions in
it. -/
def isInClass : List Names → Bool
  | n :: outer :: rest =>
    match n.kind with
    | .comprehension _ => outer.kind = .classBody || isInClass (outer :: rest)
    | _ => false
  | _ => false

/-- Goes over events with the open scopes, innermost first, and stops at the first broken
rule on names that shows before the end. -/
def checkNames : List Names → List Event → Option Report
  | _, [] => none
  | [], _ :: _ => none
  | top :: outer, event :: rest =>
    let go (top : Names) : Option Report := checkNames (top :: outer) rest
    match event with
    | .enter _ kind => checkNames ({ kind, sources := top.sources } :: top :: outer) rest
    | .leave => checkNames outer rest
    | .begin .source => go { top with sources := top.sources + 1 }
    | .finish .source => go { top with sources := top.sources - 1 }
    | .begin .target => go { top with inTarget := true }
    | .finish .target => go { top with inTarget := false }
    | .use line id =>
      if top.inTarget && top.outward.contains id then some ⟨line, .targetRebinds id⟩
      else go { top with
        used := id :: top.used
        targeted := if top.inTarget then id :: top.targeted else top.targeted }
    | .bind line id =>
      if top.outward.contains id then some ⟨line, .targetRebinds id⟩
      else go { top with bound := id :: top.bound }
    | .bindOuter line id =>
      if top.sources != 0 then some ⟨line, .bindsInSource⟩
      else if isCompTarget id (top :: outer) then some ⟨line, .rebindsTarget id⟩
      else if isInClass (top :: outer) then some ⟨line, .bindsInClass⟩
      else if top.inTarget then some ⟨line, .targetRebinds id⟩
      else checkNames (bindInside id (top :: outer)) rest
    | .annotate line id =>
      if top.kind != .module && top.globals.contains id then
        some ⟨line, .annotatedDeclared id "global"⟩
      else if top.kind != .module && top.nonlocals.contains id then
        some ⟨line, .annotatedDeclared id "nonlocal"⟩
      else go { top with annotated := id :: top.annotated }
    | .param line id =>
      if top.params.contains id then some ⟨line, .duplicateParam id⟩
      else go { top with params := id :: top.params }
    | .declareGlobal line id =>
      match top.declared? id "global" with
      | some v => some ⟨line, v⟩
      | none => go (top.declareGlobal line id)
    | .declareNonlocal line id =>
      match top.declared? id "nonlocal" with
      | some v => some ⟨line, v⟩
      | none => go (top.declareNonlocal line id)
    | .yield line =>
      match top.kind with
      | .comprehension kind => some ⟨line, .yieldInside kind⟩
      | _ => go top
    | .yieldFrom line =>
      match top.kind with
      | .comprehension kind => some ⟨line, .yieldInside kind⟩
      | _ => go top
    | _ => go top

/-- Whether a scope is a comprehension's. -/
def Kind.isComprehension : Kind → Bool
  | .comprehension _ => true
  | _ => false

/-- The names of the scope whose events these are, up to its end. `inside` holds the kinds of
the scopes that are open within it: a name that an expression binds inside comprehensions
belongs to the scope around them. -/
def namesOf : List Kind → Names → List Event → Names
  | _, n, [] => n
  | inside, n, .enter _ kind :: rest => namesOf (kind :: inside) n rest
  | [], n, .leave :: _ => n
  | _ :: inside, n, .leave :: rest => namesOf inside n rest
  | [], n, .bindOuter _ id :: rest => namesOf [] { n with bound := id :: n.bound } rest
  | inside, n, .bindOuter _ id :: rest =>
    if inside.all Kind.isComprehension then namesOf inside (n.bindFromInside id) rest
    else namesOf inside n rest
  | [], n, event :: rest =>
    match event with
    | .use _ id => namesOf [] { n with used := id :: n.used } rest
    | .bind _ id => namesOf [] { n with bound := id :: n.bound } rest
    | .annotate _ id => namesOf [] { n with annotated := id :: n.annotated } rest
    | .param _ id => namesOf [] { n with params := id :: n.params } rest
    | .declareGlobal line id => namesOf [] (n.declareGlobal line id) rest
    | .declareNonlocal line id => namesOf [] (n.declareNonlocal line id) rest
    | _ => namesOf [] n rest
  | inside, n, _ :: rest => namesOf inside n rest

/-- Whether a scope is a function's. -/
def Kind.isFunction : Kind → Bool
  | .function _ => true
  | .comprehension _ => true
  | _ => false

/-- The first declaration of a scope for an outer function's name that cannot be one. -/
def Names.misfit? (n : Names) (isVisible : String → Bool) : Option Report :=
  n.declared.reverse.findSome? fun (id, line) =>
    if !n.nonlocals.contains id then none
    else if n.globals.contains id then some ⟨line, .bothDeclared id⟩
    else if n.kind = .module then some ⟨line, .nonlocalAtTop⟩
    else if isVisible id then none
    else some ⟨line, .unboundNonlocal id⟩

/-- The first declaration of an outer function's name that cannot be one, in the scopes inside.
`scopes` holds the names of the scopes that are open, innermost first. -/
def checkNonlocals : List (Kind × List String) → List Event → Option Report
  | _, [] => none
  | scopes, .enter _ kind :: rest =>
    let names := namesOf [] { kind } rest
    let visible := scopes.filter fun s => s.1.isFunction
    match names.misfit? fun id => visible.any fun s => s.2.contains id with
    | some r => some r
    | none => checkNonlocals ((kind, names.own) :: scopes) rest
  | scopes, .leave :: rest => checkNonlocals (scopes.drop 1) rest
  | scopes, _ :: rest => checkNonlocals scopes rest

/-- The names that any scope declares to belong to the module. -/
def globalsIn (events : List Event) : List String :=
  events.filterMap fun | .declareGlobal _ id => some id | _ => none

/-- The first declaration of an outer function's name at the top. -/
def checkTop (events : List Event) : Option Report :=
  let names := namesOf [] { kind := .module } events
  { names with globals := globalsIn events ++ names.globals }.misfit? fun _ => false

/-- Whether the scope whose events these are hands out values. -/
def handsOut : Nat → List Event → Bool
  | _, [] => false
  | depth, .enter _ _ :: rest => handsOut (depth + 1) rest
  | depth, .leave :: rest => depth != 0 && handsOut (depth - 1) rest
  | depth, .yield _ :: rest => depth = 0 || handsOut depth rest
  | depth, .yieldFrom _ :: rest => depth = 0 || handsOut depth rest
  | depth, _ :: rest => handsOut depth rest

/-- A scope as the rules on places see it. -/
structure Place where
  /-- The kind of the scope. -/
  kind : Kind
  /-- Whether it hands out values. -/
  handsOut : Bool
  /-- Whether it waits for something or may do so. -/
  waits : Bool
  /-- The regions that are open in it, innermost first. -/
  regions : List Region
  /-- Whether no code is made of the scope. -/
  isIdle : Bool
  deriving DecidableEq

/-- Whether a scope can wait: a function that waits, or a comprehension. -/
def Kind.canWait : Kind → Bool
  | .function isAsync => isAsync
  | .comprehension _ => true
  | _ => false

/-- The place where a scope begins whose events these are. -/
def placeOf (kind : Kind) (isIdle : Bool) (events : List Event) : Place :=
  ⟨kind, handsOut 0 events, kind = .function true || waits 0 events, [], isIdle⟩

/-- Whether no code is made of a place: the annotations of targets in a function are passed over. -/
def Place.isSkipped (p : Place) : Bool :=
  p.isIdle || (p.regions.contains .hint && match p.kind with | .function _ => true | _ => false)

/-- The region that the end of a loop or of a round leaves. -/
def Place.around? (p : Place) : Option Region := p.regions.find? fun r => r = .loop || r.isGroup

/-- How many blocks are open at a place. -/
def Place.blocks (p : Place) : Nat := p.regions.foldr (fun r n => r.blocks + n) 0

/-- How many blocks a scope can hold within each other. -/
def maxBlocks : Nat := 20

/-- The rule that leaving a loop breaks, which outside of loops is another one. -/
def Place.leaving? (p : Place) (outside : Violation) : Option Violation :=
  match p.around? with
  | some .loop => none
  | some _ => some .leavesGroupHandler
  | none => some outside

/-- The rule on places that an event breaks. -/
def Place.violation? (p : Place) : Event → Option Report
  | .asyncComprehension line => if p.kind.canWait then none else some ⟨line, .asyncComprehension⟩
  | .bind line id => if id = debugName then some ⟨line, .fault .bindsDebug⟩ else none
  | .return line hasValue =>
    match p.kind with
    | .function _ =>
      if p.waits && p.handsOut && hasValue then some ⟨line, .returnInGenerator⟩
      else if p.regions.any Region.isGroup then some ⟨line, .leavesGroupHandler⟩
      else none
    | _ => some ⟨line, .returnOutside⟩
  | .break line => (p.leaving? .breakOutside).map fun v => ⟨line, v⟩
  | .continue line => (p.leaving? .continueOutside).map fun v => ⟨line, v⟩
  | .yield line => if p.kind.isFunction then none else some ⟨line, .yieldOutside⟩
  | .yieldFrom line =>
    if !p.kind.isFunction then some ⟨line, .yieldOutside⟩
    else if p.kind = .function true then some ⟨line, .yieldFromInAsync⟩
    else none
  | .await line =>
    if !p.kind.isFunction then some ⟨line, .awaitOutside⟩
    else if !p.kind.canWait then some ⟨line, .asyncOutside "await"⟩
    else none
  | .asyncFor line => if p.kind.canWait then none else some ⟨line, .asyncOutside "async for"⟩
  | .asyncWith line => if p.kind.canWait then none else some ⟨line, .asyncOutside "async with"⟩
  | .blocks line count => if maxBlocks < p.blocks + count then some ⟨line, .nestedTooDeep⟩ else none
  | .fault line what => some ⟨line, .fault what⟩
  | _ => none

/-- The rule on places that an event breaks where code is made of it. -/
def Place.refusal? (p : Place) (e : Event) : Option Report :=
  if p.isSkipped then none else p.violation? e

/-- Goes over events with the open scopes, innermost first, and stops at the first broken
rule on places. -/
def checkPlaces : List Place → List Event → Option Report
  | _, [] => none
  | [], _ :: _ => none
  | top :: outer, event :: rest =>
    match top.refusal? event with
    | some r => some r
    | none =>
      match event with
      | .enter _ kind => checkPlaces (placeOf kind top.isSkipped rest :: top :: outer) rest
      | .leave => checkPlaces outer rest
      | .opening region => checkPlaces ({ top with regions := region :: top.regions } :: outer) rest
      | .closing _ => checkPlaces ({ top with regions := top.regions.tail } :: outer) rest
      | _ => checkPlaces (top :: outer) rest

/-- The place at the top of a script. -/
def topPlace : Place := ⟨.module, false, false, [], false⟩

/-- The first broken rule of a script. -/
def check (script : List Stmt) : Option Report :=
  let events := ofBlock script
  let names := checkNames [{ kind := .module }] events
  let nonlocals := (checkTop events).or (checkNonlocals [] events)
  names.or (nonlocals.or (checkPlaces [topPlace] events))

end ChartScript.Script.Scope
