import ChartScript.Script.Scope.Capture
/-!
# What happens to names

A script as the sequence of what its nodes do to names, scopes and the flow of control,
in the order in which they are turned into code. All rules on names and on the places
where a statement may stand are stated on this sequence.
-/

namespace ChartScript.Script.Scope

/-- The kinds of comprehensions. -/
inductive CompKind where
  /-- A list comprehension. -/
  | list
  /-- A set comprehension. -/
  | set
  /-- A dictionary comprehension. -/
  | dict
  /-- A generator expression. -/
  | generator
  deriving Repr, DecidableEq

/-- What a report calls a comprehension. -/
def CompKind.description : CompKind → String
  | list => "list comprehension"
  | set => "set comprehension"
  | dict => "dict comprehension"
  | generator => "generator expression"

/-- The kinds of scopes. -/
inductive Kind where
  /-- The script as a whole. -/
  | module
  /-- A function. -/
  | function (isAsync : Bool)
  /-- A class. -/
  | classBody
  /-- A comprehension. -/
  | comprehension (kind : CompKind)
  deriving Repr, DecidableEq

/-- Regions of code that begin and end within a scope. -/
inductive Region where
  /-- The body of a loop. -/
  | loop
  /-- The handlers of a statement that opens so many blocks around each of them: of a group of
  exceptions or not. -/
  | handlers (grouped : Bool) (blocks : Nat)
  /-- Another part of a statement that opens so many blocks around it. -/
  | nested (blocks : Nat)
  /-- The annotation of a target. -/
  | hint
  deriving Repr, DecidableEq

/-- How many blocks are open in a region that are not open around it. -/
def Region.blocks : Region → Nat
  | loop => 1
  | handlers _ blocks => blocks
  | nested blocks => blocks
  | hint => 0

/-- Whether a region is that of the handlers of a group of exceptions. -/
def Region.isGroup : Region → Bool
  | handlers grouped _ => grouped
  | _ => false

/-- Roles that a part of a comprehension has for the names in it. -/
inductive Role where
  /-- A source. -/
  | source
  /-- A target. -/
  | target
  deriving Repr, DecidableEq

/-- Something that happens to names, scopes or the flow of control. -/
inductive Event where
  /-- A scope begins. -/
  | enter (line : Nat) (kind : Kind)
  /-- The innermost scope ends. -/
  | leave
  /-- A name is read. -/
  | use (line : Nat) (id : String)
  /-- A name is bound or removed. -/
  | bind (line : Nat) (id : String)
  /-- A name is bound inside an expression: in the innermost scope that is no comprehension. -/
  | bindOuter (line : Nat) (id : String)
  /-- A name is annotated. -/
  | annotate (line : Nat) (id : String)
  /-- A name is a parameter. -/
  | param (line : Nat) (id : String)
  /-- A name is declared to belong to the module. -/
  | declareGlobal (line : Nat) (id : String)
  /-- A name is declared to belong to an outer function. -/
  | declareNonlocal (line : Nat) (id : String)
  /-- A region begins. -/
  | opening (region : Region)
  /-- The innermost region ends, which is of this kind. -/
  | closing (region : Region)
  /-- A part of a comprehension in a role begins. -/
  | begin (role : Role)
  /-- A part of a comprehension in a role ends. -/
  | finish (role : Role)
  /-- A return statement, perhaps with a value. -/
  | return (line : Nat) (hasValue : Bool)
  /-- A break statement. -/
  | break (line : Nat)
  /-- A continue statement. -/
  | continue (line : Nat)
  /-- A value is handed out. -/
  | yield (line : Nat)
  /-- The elements of a value are handed out. -/
  | yieldFrom (line : Nat)
  /-- A value is waited for. -/
  | await (line : Nat)
  /-- A comprehension that has to be waited for. -/
  | asyncComprehension (line : Nat)
  /-- A loop over a source that has to be waited for. -/
  | asyncFor (line : Nat)
  /-- A context that has to be waited for. -/
  | asyncWith (line : Nat)
  /-- A statement or a comprehension opens its blocks up to this one. -/
  | blocks (line count : Nat)
  /-- A fault of a node. -/
  | fault (line : Nat) (what : Fault)
  deriving Repr, DecidableEq

/-- Whether the scope whose events these are waits for something. -/
def waits : Nat → List Event → Bool
  | _, [] => false
  | depth, .enter _ _ :: rest => waits (depth + 1) rest
  | depth, .leave :: rest => depth != 0 && waits (depth - 1) rest
  | depth, .await _ :: rest => depth = 0 || waits depth rest
  | depth, .asyncComprehension _ :: rest => depth = 0 || waits depth rest
  | depth, _ :: rest => waits depth rest

/-- Events inside of a region. -/
def within (region : Region) (events : List Event) : List Event :=
  .opening region :: events ++ [.closing region]

/-- Events of a part of a comprehension. -/
def inRole (role : Role) (events : List Event) : List Event :=
  .begin role :: events ++ [.finish role]

/-- The event of a comprehension that has to be waited for: one that waits somewhere, unless its
elements are only made when they are asked for. -/
def waiting (line : Nat) (kind : CompKind) (inside : List Event) : List Event :=
  if kind != .generator && waits 0 inside then [.asyncComprehension line] else []

/-- The events of a comprehension: those of its first source stand before its scope. -/
def comprehension (line : Nat) (kind : CompKind) (source inside : List Event) : List Event :=
  waiting line kind inside ++ source ++ .enter line (.comprehension kind) :: inside ++ [.leave]

/-- The faults of keywords that have a name which came before. -/
def repetitions (name : String) : List Keyword → List Event
  | [] => []
  | .mk line other _ :: rest =>
    (if other = some name then [.fault line (.repeatedKeyword name)] else []) ++ repetitions name rest

/-- The faults of keywords. -/
def keywordFaults : List Keyword → List Event
  | [] => []
  | .mk line (some name) _ :: rest =>
    (if name = debugName then [.fault line .bindsDebug] else []) ++ repetitions name rest ++
      keywordFaults rest
  | .mk _ none _ :: rest => keywordFaults rest

/-- The events of the names of parameters. -/
def ofParamNames : List Param → List Event
  | [] => []
  | .mk line name _ _ :: rest => .param line name :: ofParamNames rest

/-- The events of the name of a parameter that takes the rest. -/
def ofRestName : Option Param → List Event
  | none => []
  | some (.mk line name _ _) => [.param line name]

/-- The events of parameters inside the function's scope. -/
def ofParams : Params → List Event
  | .mk positional plain rest named others =>
    ofParamNames positional ++ ofParamNames plain ++ ofParamNames named ++ ofRestName rest ++
      ofRestName others

/-- Whether a parameter has the name that no script can bind. -/
def bindDebug (params : Params) : Bool :=
  (ofParams params).any fun | .param _ id => id = debugName | _ => false

/-- The fault of parameters. -/
def paramFaults (line : Nat) (params : Params) : List Event :=
  if bindDebug params then [.fault line .bindsDebug] else []

/-- Whether an expression is starred. -/
def isStarred : Expr → Bool
  | .starred _ _ => true
  | _ => false

/-- The fault of a display that is a target: one of its items may be starred, with not too many around
it. -/
def starFault? (items : List Expr) : Option Fault :=
  if isCrowded isStarred items then some .crowdedStarTarget
  else if 1 < (items.filter isStarred).length then some .manyStarTargets
  else none

/-- The fault of a display that is a target. -/
def starFaults (line : Nat) (items : List Expr) : List Event :=
  (starFault? items).toList.map (Event.fault line)

mutual

/-- The events of an expression whose value is needed. -/
def ofExpr : Expr → List Event
  | .constant _ _ => []
  | .name line id => [.use line id]
  | .attribute _ value _ => ofExpr value
  | .subscript _ value index => ofExpr value ++ ofExpr index
  | .slice _ lower upper step => ofOption lower ++ ofOption upper ++ ofOption step
  | .starred line value => .fault line .strayStar :: ofExpr value
  | .list _ items => ofItems items
  | .tuple _ items => ofItems items
  | .set _ items => ofItems items
  | .dict _ entries => ofEntries entries
  | .unary _ _ operand => ofExpr operand
  | .binary _ left _ right => ofExpr left ++ ofExpr right
  | .boolean _ _ operands => ofItems operands
  | .compare _ left _ rights => ofExpr left ++ ofItems rights
  | .conditional _ test body orelse => ofExpr test ++ ofExpr body ++ ofExpr orelse
  | .call _ func args keywords =>
    keywordFaults keywords ++ ofExpr func ++ ofItems args ++ ofKeywords keywords
  | .lambda line params body =>
    paramFaults line params ++ ofDefaults params ++ .enter line (.function false) ::
      ofParams params ++ ofExpr body ++ [.leave]
  | .listComp line element clauses =>
    comprehension line .list (ofSource clauses) (ofClauses line 0 true clauses ++ ofExpr element)
  | .setComp line element clauses =>
    comprehension line .set (ofSource clauses) (ofClauses line 0 true clauses ++ ofExpr element)
  | .dictComp line key value clauses =>
    comprehension line .dict (ofSource clauses)
      (ofClauses line 0 true clauses ++ ofExpr key ++ ofExpr value)
  | .generator line element clauses =>
    comprehension line .generator (ofSource clauses) (ofClauses line 0 true clauses ++ ofExpr element)
  | .await line value => .await line :: ofExpr value
  | .yield line value => .yield line :: ofOption value
  | .yieldFrom line value => .yieldFrom line :: ofExpr value
  | .named _ target value => ofNamed target ++ ofExpr value
  | .formatted _ parts => ofItems parts
  | .replacement _ value _ spec => ofExpr value ++ ofOption spec

/-- The events of expressions of which some may be starred. -/
def ofItems : List Expr → List Event
  | [] => []
  | .starred _ value :: rest => ofExpr value ++ ofItems rest
  | e :: rest => ofExpr e ++ ofItems rest

/-- The events of an optional expression. -/
def ofOption : Option Expr → List Event
  | none => []
  | some e => ofExpr e

/-- The events of the entries of a dictionary display. -/
def ofEntries : List DictEntry → List Event
  | [] => []
  | .pair key value :: rest => ofExpr key ++ ofExpr value ++ ofEntries rest
  | .unpack value :: rest => ofExpr value ++ ofEntries rest

/-- The events of the values of keywords. -/
def ofKeywords : List Keyword → List Event
  | [] => []
  | .mk _ _ value :: rest => ofExpr value ++ ofKeywords rest

/-- The events of the name that an expression binds. -/
def ofNamed : Expr → List Event
  | .name line id => [.bindOuter line id]
  | _ => []

/-- The events of a target. -/
def ofTarget : Expr → List Event
  | .name line id => [.bind line id]
  | .attribute _ value _ => ofExpr value
  | .subscript _ value index => ofExpr value ++ ofExpr index
  | .starred line value => .fault line .loneStarTarget :: ofTarget value
  | .list line items => starFaults line items ++ ofTargets items
  | .tuple line items => starFaults line items ++ ofTargets items
  | _ => []

/-- The events of targets of which some may be starred. -/
def ofTargets : List Expr → List Event
  | [] => []
  | .starred _ value :: rest => ofTarget value ++ ofTargets rest
  | e :: rest => ofTarget e ++ ofTargets rest

/-- The events of the first source of a comprehension. -/
def ofSource : List Clause → List Event
  | .mk _ _ iter _ :: _ => inRole .source (ofExpr iter)
  | [] => []

/-- The events of clauses inside the scope of their comprehension: one that waits opens a block. -/
def ofClauses (line opened : Nat) (isFirst : Bool) : List Clause → List Event
  | [] => []
  | .mk isAsync target iter conditions :: rest =>
    (if isFirst then [] else inRole .source (ofExpr iter)) ++
      (if isAsync then [.await target.line, .blocks line (opened + 1)] else []) ++
        inRole .target (ofTarget target) ++ ofItems conditions ++
          ofClauses line (if isAsync then opened + 1 else opened) false rest

/-- The events of the defaults and annotations of parameters. -/
def ofParamParts : List Param → List Event
  | [] => []
  | .mk _ _ hint fallback :: rest => ofOption fallback ++ ofOption hint ++ ofParamParts rest

/-- The events of the annotation of a parameter that takes the rest. -/
def ofRestParts : Option Param → List Event
  | none => []
  | some (.mk _ _ hint _) => ofOption hint

/-- The events of defaults and annotations, outside of the function's scope. -/
def ofDefaults : Params → List Event
  | .mk positional plain rest named others =>
    ofParamParts positional ++ ofParamParts plain ++ ofRestParts rest ++ ofParamParts named ++
      ofRestParts others

end

mutual

/-- The events of a pattern. -/
def ofPattern : Pattern → List Event
  | .value e => ofExpr e
  | .constant _ _ => []
  | .capture line (some id) => [.bind line id]
  | .capture _ none => []
  | .sequence _ items => ofPatterns items
  | .star line (some id) => [.bind line id]
  | .star _ none => []
  | .mapping line keys items rest =>
    ofItems keys ++ ofPatterns items ++ (match rest with | some id => [.bind line id] | none => [])
  | .instance cls items _ named => ofExpr cls ++ ofPatterns items ++ ofPatterns named
  | .as line pattern id => ofPattern pattern ++ [.bind line id]
  | .or _ options => ofPatterns options

/-- The events of several patterns. -/
def ofPatterns : List Pattern → List Event
  | [] => []
  | p :: rest => ofPattern p ++ ofPatterns rest

end

/-- The events of an annotated target: only a bare name is declared by it. -/
def ofAnnotated (target : Expr) (simple hasValue : Bool) : List Event :=
  match target with
  | .name line id =>
    (if simple then [.annotate line id] else []) ++ (if hasValue then [.bind line id] else [])
  | e => ofTarget e

/-- The fault of a handler that handles everything: it has to be the last one. -/
def catchAllFault (line : Nat) (type : Option Expr) (rest : List Handler) : List Event :=
  if type.isNone && !rest.isEmpty then [.fault line .earlyCatchAll] else []

/-- The fault of a pattern. -/
def patternFaults (isLast : Bool) (p : Pattern) : List Event :=
  (patternFault? isLast p).toList.map fun found => .fault found.1 found.2

/-- The events before a loop goes over a source. -/
def loopStart (line : Nat) (isAsync : Bool) (source : List Event) : List Event :=
  if isAsync then .asyncFor line :: source ++ [.blocks line 1] else .blocks line 1 :: source

/-- How many blocks are opened for handlers, or for what is done in the end, if there are any. -/
def blocksFor {α : Type} (parts : List α) : Nat := if parts.isEmpty then 0 else 1

mutual

/-- The events of a statement. -/
def ofStmt : Stmt → List Event
  | .expr _ value => ofExpr value
  | .assign _ targets value => ofExpr value ++ ofEach targets
  | .update _ target _ value => ofTarget target ++ ofExpr value
  | .annotate _ target hint value simple =>
    ofOption value ++ ofAnnotated target simple value.isSome ++ within .hint (ofExpr hint)
  | .delete _ targets => ofTargets targets
  | .pass _ => []
  | .break line => [.break line]
  | .continue line => [.continue line]
  | .return line value => .return line value.isSome :: ofOption value
  | .raise _ exception cause => ofOption exception ++ ofOption cause
  | .global line names => names.map (Event.declareGlobal line)
  | .nonlocal line names => names.map (Event.declareNonlocal line)
  | .imports _ => []
  | .assert _ test message => ofExpr test ++ ofOption message
  | .if _ test body orelse => ofExpr test ++ ofBlock body ++ ofBlock orelse
  | .while line test body orelse =>
    .blocks line 1 :: ofExpr test ++ within .loop (ofBlock body) ++ ofBlock orelse
  | .for line isAsync target iter body orelse =>
    loopStart line isAsync (ofExpr iter) ++ ofTarget target ++ within .loop (ofBlock body) ++
      ofBlock orelse
  | .with line isAsync items body =>
    (if isAsync then [.asyncWith line] else []) ++ ofWith line 0 items ++
      within (.nested items.length) (ofBlock body)
  | .try line grouped body handlers orelse final =>
    .blocks line (blocksFor final + blocksFor handlers) ::
      within (.nested (blocksFor final + blocksFor handlers)) (ofBlock body) ++
        within (.nested (blocksFor final)) (ofBlock orelse) ++
          within (.handlers grouped (blocksFor final + 2)) (ofHandlers handlers) ++
            within (.nested 1) (ofBlock final)
  | .match _ subject cases => ofExpr subject ++ ofCases cases
  | .function line isAsync name params body decorators returns =>
    paramFaults line params ++ ofItems decorators ++ ofDefaults params ++ ofOption returns ++
      .bind line name :: .enter line (.function isAsync) :: ofParams params ++ ofBlock body ++ [.leave]
  | .classDef line name bases keywords body decorators =>
    ofItems decorators ++ .enter line .classBody :: ofBlock body ++
      .leave :: keywordFaults keywords ++ ofItems bases ++ ofKeywords keywords ++ [.bind line name]

/-- The events of targets that each stand on their own. -/
def ofEach : List Expr → List Event
  | [] => []
  | e :: rest => ofTarget e ++ ofEach rest

/-- The events of the items of a with statement, each of which opens a block. -/
def ofWith (line opened : Nat) : List WithItem → List Event
  | [] => []
  | ⟨context, target⟩ :: rest =>
    ofExpr context ++ .blocks line (opened + 1) ::
      (match target with | some e => ofTarget e | none => []) ++ ofWith line (opened + 1) rest

/-- The events of a block. -/
def ofBlock : List Stmt → List Event
  | [] => []
  | s :: rest => ofStmt s ++ ofBlock rest

/-- The events of handlers. -/
def ofHandlers : List Handler → List Event
  | [] => []
  | .mk line type name body :: rest =>
    catchAllFault line type rest ++ ofOption type ++
      (match name with | some id => [.bind line id] | none => []) ++ .blocks line 0 :: ofBlock body ++
        ofHandlers rest

/-- The events of the cases of a match statement. -/
def ofCases : List MatchCase → List Event
  | [] => []
  | .mk _ pattern guard body :: rest =>
    patternFaults (guard.isSome || rest.isEmpty) pattern ++ ofPattern pattern ++ ofOption guard ++
      ofBlock body ++ ofCases rest

end

end ChartScript.Script.Scope
