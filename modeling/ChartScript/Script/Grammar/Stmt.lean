import ChartScript.Script.Grammar.Pattern
/-!
# The grammar of statements

Simple statements end with their line; compound statements hold blocks, which `inner`
reads for texts of smaller depth.
-/

namespace ChartScript.Script.Grammar

/-- The grammars that statements are made of. -/
structure Parts where
  /-- Expressions. -/
  exprs : Inner
  /-- How deep patterns can be. -/
  depth : Nat
  /-- A compound or simple statement inside a block; a line can hold several. -/
  statement : Reader (List Stmt)

/-- Operators that assign in place. -/
def updates : List (String × BinaryOp) :=
  [("+=", .add), ("-=", .sub), ("*=", .mul), ("@=", .matMul), ("/=", .div), ("%=", .mod),
    ("&=", .bitAnd), ("|=", .bitOr), ("^=", .bitXor), ("<<=", .shiftLeft), (">>=", .shiftRight),
    ("**=", .pow), ("//=", .floorDiv)]

/-- The value on the right of an assignment. -/
def assigned (g : Inner) : Reader Expr := do
  let line ← lineHere
  if ← acceptWord "yield" then yieldRest g line else starExpressions g

/-- Whether an expression hands out values. -/
def isYield : Expr → Bool
  | .yield _ _ | .yieldFrom _ _ => true
  | _ => false

/-- Explains an equals sign after targets that began at a position. -/
def explainTargets (g : Inner) (start : Nat) : Reader Unit := do
  let now ← get
  set { now with position := start }
  let _ ← attempt (commaSeparated (starNamed g) atItem)
  modify fun c => { c with position := now.position, reached := now.reached }

/-- The values of a chain of assignments after its first target, the last one being what
is assigned. -/
def assignmentChain (g : Inner) (start : Nat) : Nat → Expr → Bool → Reader (List Expr)
  | 0, _, _ => failInvalid
  | fuel + 1, left, isFirst => do
    if ← atSymbol "=" then
      if isYield left then failAt left.line .assignmentToYield
      match left.badTarget? with
      | some bad =>
        if isFirst then explainTargets g start
        failAt bad.line (.badTarget bad.description false)
      | none =>
        advance
        let value ← assigned g
        return left :: (← assignmentChain g start fuel value false)
    else return [left]

/-- Explains a colon after an expression that cannot be annotated. -/
def refuseHint (g : Inner) (target : Expr) : Reader Stmt := do
  advance
  unless ← wouldRead g.expression do failInvalid
  match target with
  | .list line _ => failAt line (.badHint "list")
  | .tuple line _ => failAt line (.badHint "tuple")
  | e => failAt e.line .illegalHint

/-- An assignment, an annotation or an expression on its own. -/
def expressionStatement (g : Inner) : Reader Stmt := do
  let t ← peek
  let start := (← get).position
  let first ← assigned g
  let next ← peek
  if isSymbol next ":" && !isYield first then
    if first.isSingleTarget then
      advance
      let hint ← g.expression
      let value ← if ← acceptSymbol "=" then pure (some (← assigned g)) else pure none
      let simple : Bool := match first with | .name _ _ => !isSymbol t "(" | _ => false
      return .annotate t.line first hint value simple
    else refuseHint g first
  else if isSymbol next ":=" && !(match first with | .name _ _ => true | _ => false) then
    advance
    if ← wouldRead g.expression then failAt first.line (.badNaming first.description)
    else failInvalid
  else
    match (if next.kind = .symbol then updates.lookup next.text else none) with
    | some op =>
      advance
      let value ← assigned g
      if first.isSingleTarget then return .update t.line first op value
      else failAt first.line (.badUpdate first.description)
    | none =>
      match ← assignmentChain g start (← bound) first true with
      | [only] => return .expr t.line only
      | chain => return .assign t.line chain.dropLast (chain.getLast?.getD first)

/-- A name with points in it. -/
def dottedName : Reader Unit := do
  let _ ← needName
  let _ ← many do
    if ← acceptSymbol "." then return some (← needName) else return none

/-- An optional other name for what is imported. -/
def importAlias : Reader Unit := do
  if ← acceptWord "as" then
    let _ ← needName

/-- The rest of an import of modules. -/
def importRest : Reader Unit := do
  let one : Reader Unit := do
    dottedName
    importAlias
  one
  let _ ← many do
    if ← acceptSymbol "," then return some (← one) else return none

/-- The rest of an import from a module. -/
def importFromRest : Reader Unit := do
  let points ← many do
    if ← acceptSymbol "." then return some ()
    else if ← acceptSymbol "..." then return some ()
    else return none
  unless !points.isEmpty && (← atWord "import") do dottedName
  needWord "import"
  if ← acceptSymbol "*" then return
  let enclosed ← acceptSymbol "("
  let one : Reader Unit := do
    let _ ← needName
    importAlias
  let (_, trailing) ← commaSeparated one (return isIdentifier (← peek))
  if enclosed then needSymbol ")"
  else if trailing then
    if ← atKind .newline then failHere .trailingImportComma else failInvalid

/-- Names with commas between them. -/
def nameList : Reader (List String) := do
  let first ← needName
  let rest ← many do
    if ← acceptSymbol "," then return some (← needName) else return none
  return first :: rest

/-- The targets of a removal. -/
def deletion (g : Inner) (line : Nat) : Reader Stmt := do
  let start ← lineHere
  let (items, trailing) ← commaSeparated (starExpression g) atItem
  let whole : Expr :=
    match items, trailing with
    | [one], false => one
    | _, _ => .tuple start items
  match whole.badDeletion? with
  | some bad => failAt bad.line (.badDelete bad.description)
  | none => return .delete line items

/-- A statement that ends on its line. -/
def simpleStatement (g : Inner) : Reader Stmt := do
  let t ← peek
  if t.kind = .name then
    match t.text with
    | "pass" =>
      advance
      return .pass t.line
    | "break" =>
      advance
      return .break t.line
    | "continue" =>
      advance
      return .continue t.line
    | "return" =>
      advance
      return .return t.line (← if ← atItem then pure (some (← starExpressions g)) else pure none)
    | "raise" =>
      advance
      if beginsExpression (← peek) then
        let e ← g.expression
        let cause ← if ← acceptWord "from" then pure (some (← g.expression)) else pure none
        return .raise t.line (some e) cause
      else return .raise t.line none none
    | "global" =>
      advance
      return .global t.line (← nameList)
    | "nonlocal" =>
      advance
      return .nonlocal t.line (← nameList)
    | "del" =>
      advance
      deletion g t.line
    | "assert" =>
      advance
      let test ← g.expression
      let message ← if ← acceptSymbol "," then pure (some (← g.expression)) else pure none
      return .assert t.line test message
    | "import" =>
      advance
      importRest
      return .imports t.line
    | "from" =>
      advance
      importFromRest
      return .imports t.line
    | _ => expressionStatement g
  else expressionStatement g

/-- The simple statements of a line. -/
def simpleStatements (g : Inner) : Reader (List Stmt) := do
  let first ← simpleStatement g
  let rest ← many do
    if ← acceptSymbol ";" then
      if ← atKind .newline then return none else return some (← simpleStatement g)
    else return none
  if ← atKind .newline then
    advance
    return first :: rest
  else failInvalid

/-- Statements until a token of a kind, which is passed. -/
def statementsUntil (p : Parts) (closing : TokenKind) : Reader (List Stmt) := do
  let found ← many do
    if ← atKind closing then return none else return some (← p.statement)
  if ← atKind closing then
    advance
    return found.flatten
  else failInvalid

/-- The block after a colon; `after` and `line` tell what it belongs to. -/
def block (p : Parts) (after : String) (line : Nat) : Reader (List Stmt) := do
  if ← atKind .newline then
    advance
    if ← atKind .indent then
      advance
      statementsUntil p .dedent
    else
      let _ ← peek
      failHere (.missingBlock after line)
  else simpleStatements p.exprs

/-- The colon before a block; its absence at the end of a line has a report of its own. -/
def colon : Reader Unit := do
  if ← acceptSymbol ":" then return
  else if ← atKind .newline then failHere (.expected "':'")
  else failInvalid

/-- The block of a statement that is named in reports by its word. -/
def wordBlock (p : Parts) (word : String) (line : Nat) : Reader (List Stmt) :=
  block p ("'" ++ word ++ "' statement") line

/-- The block after `else`, if there is one. -/
def elseBlock (p : Parts) : Reader (List Stmt) := do
  let line ← lineHere
  if ← acceptWord "else" then
    expectSymbol ":"
    wordBlock p "else" line
  else return []

/-- The rest of a choice after its word. -/
def ifRest (p : Parts) : Nat → String → Nat → Reader Stmt
  | 0, _, _ => failInvalid
  | fuel + 1, word, line => do
    let test ← namedExpression p.exprs
    colon
    let body ← wordBlock p word line
    let next ← lineHere
    if ← acceptWord "elif" then
      return .if line test body [← ifRest p fuel "elif" next]
    else return .if line test body (← elseBlock p)

/-- A loop over elements, after its word. -/
def forRest (p : Parts) (isAsync : Bool) (start line : Nat) : Reader Stmt := do
  let target ← loopTargets p.exprs
  let iter ← starExpressions p.exprs
  colon
  let body ← wordBlock p "for" line
  return .for start isAsync target iter body (← elseBlock p)

/-- An item of a with statement. -/
def withItem (g : Inner) : Reader WithItem := do
  let context ← g.expression
  if ← acceptWord "as" then
    let line ← lineHere
    let target ← if ← acceptSymbol "*" then pure (.starred line (← bitwise g)) else bitwise g
    match target.badTarget? with
    | some bad => failAt bad.line (.badTarget bad.description false)
    | none => return ⟨context, some target⟩
  else return ⟨context, none⟩

/-- A block inside contexts, after its word. -/
def withRest (p : Parts) (isAsync : Bool) (start line : Nat) : Reader Stmt := do
  let more : Reader Bool := return beginsExpression (← peek)
  let enclosed : Reader (List WithItem) := do
    needSymbol "("
    let (items, _) ← commaSeparated (withItem p.exprs) more
    needSymbol ")"
    if ← atSymbol ":" then return items else failInvalid
  let items ←
    match ← (if ← atSymbol "(" then attemptAny enclosed else pure none) with
    | some items => pure items
    | none =>
      let (items, trailing) ← commaSeparated (withItem p.exprs) more
      if trailing then failInvalid
      pure items
  colon
  return .with start isAsync items (← wordBlock p "with" line)

/-- A handler of a guarded block, if one begins here; `grouped` tells whether it handles
groups. -/
def handler? (p : Parts) : Reader (Option (Bool × Handler)) := do
  let line ← lineHere
  if ← acceptWord "except" then
    let grouped ← acceptSymbol "*"
    let word := if grouped then "except*" else "except"
    if beginsExpression (← peek) then
      let type ← p.exprs.expression
      let name ← if ← acceptWord "as" then pure (some (← needName)) else pure none
      if name.isNone && (← atSymbol ",") then
        advance
        if ← wouldRead (starExpressions p.exprs) then failAt type.line .bareExceptionTypes
        else failInvalid
      colon
      return some (grouped, .mk line (some type) name (← wordBlock p word line))
    else if grouped then
      if (← atSymbol ":") || (← atKind .newline) then
        failHere (.expected "one or more exception types")
      else failInvalid
    else
      colon
      return some (false, .mk line none none (← wordBlock p word line))
  else return none

/-- A guarded block, after its word. -/
def tryRest (p : Parts) (line : Nat) : Reader Stmt := do
  expectSymbol ":"
  let body ← wordBlock p "try" line
  let handlers ← many (handler? p)
  let orelse ← if handlers.isEmpty then pure [] else elseBlock p
  let finalLine ← lineHere
  let hasFinal ← acceptWord "finally"
  let final ←
    if hasFinal then
      expectSymbol ":"
      wordBlock p "finally" finalLine
    else pure []
  if handlers.isEmpty && !hasFinal then failHere .missingHandler
  let grouped := handlers.any Prod.fst
  if grouped && handlers.any fun h => !h.1 then failInvalid
  return .try line grouped body (handlers.map Prod.snd) orelse final

/-- A function, after its word, which stands on a line. -/
def functionRest (p : Parts) (isAsync : Bool) (start line : Nat) (decorators : List Expr) :
    Reader Stmt := do
  let name ← needName
  expectSymbol "("
  let params ← parameters p.exprs true ")"
  needSymbol ")"
  let returns ← attempt do
    needSymbol "->"
    p.exprs.expression
  expectSymbol ":"
  let body ← block p "function definition" line
  return .function start isAsync name params body decorators returns

/-- A class, after its word, which stands on a line. -/
def classRest (p : Parts) (line : Nat) (decorators : List Expr) : Reader Stmt := do
  let name ← needName
  let a ← if ← atSymbol "(" then callArguments p.exprs else pure ⟨[], []⟩
  colon
  let body ← block p "class definition" line
  return .classDef line name a.args a.keywords body decorators

/-- A function or class with decorators. -/
def decorated (p : Parts) : Reader Stmt := do
  let decorators ← many do
    if ← acceptSymbol "@" then
      let e ← namedExpression p.exprs
      if ← atKind .newline then
        advance
        return some e
      else failInvalid
    else return none
  let line ← lineHere
  if ← acceptWord "def" then functionRest p false line line decorators
  else if ← acceptWord "class" then classRest p line decorators
  else if ← acceptWord "async" then
    let defLine ← lineHere
    needWord "def"
    functionRest p true line defLine decorators
  else failInvalid

/-- A case of a choice by patterns, if one begins here. -/
def case? (p : Parts) : Reader (Option MatchCase) := do
  let line ← lineHere
  if ← atKind .dedent then return none
  else
    needWord "case"
    let patternLine ← lineHere
    let pattern ← casePattern p.exprs p.depth
    let guard ← if ← acceptWord "if" then pure (some (← namedExpression p.exprs)) else pure none
    colon
    return some (.mk patternLine pattern guard (← wordBlock p "case" line))

/-- The value that a choice by patterns is about, up to the end of its line. -/
def matchSubject (g : Inner) : Reader Expr := do
  needWord "match"
  let line ← lineHere
  let (items, trailing) ← commaSeparated (starNamed g) atItem
  needSymbol ":"
  unless ← atKind .newline do failInvalid
  advance
  match items with
  | [.starred _ _] => if trailing then return .tuple line items else failInvalid
  | [one] => return if trailing then .tuple line items else one
  | _ => return .tuple line items

/-- A choice by patterns, if one begins here. -/
def match? (p : Parts) : Reader (Option Stmt) := do
  let line ← lineHere
  match ← attemptAny (matchSubject p.exprs) with
  | none => return none
  | some subject =>
    unless ← atKind .indent do failHere (.missingBlock "'match' statement" line)
    advance
    let cases ← many (case? p)
    if cases.isEmpty then failInvalid
    advance
    return some (.match line subject cases)

/-- A statement, or all the simple statements of a line. -/
def statement (p : Parts) : Reader (List Stmt) := do
  let t ← peek
  if t.kind = .name then
    match t.text with
    | "if" =>
      advance
      return [← ifRest p (← bound) "if" t.line]
    | "while" =>
      advance
      let test ← namedExpression p.exprs
      colon
      let body ← wordBlock p "while" t.line
      return [.while t.line test body (← elseBlock p)]
    | "for" =>
      advance
      return [← forRest p false t.line t.line]
    | "with" =>
      advance
      return [← withRest p false t.line t.line]
    | "try" =>
      advance
      return [← tryRest p t.line]
    | "def" =>
      advance
      return [← functionRest p false t.line t.line []]
    | "class" =>
      advance
      return [← classRest p t.line []]
    | "async" =>
      advance
      let line ← lineHere
      if ← acceptWord "def" then return [← functionRest p true t.line line []]
      else if ← acceptWord "for" then return [← forRest p true t.line line]
      else if ← acceptWord "with" then return [← withRest p true t.line line]
      else failInvalid
    | "match" =>
      match ← match? p with
      | some s => return [s]
      | none => simpleStatements p.exprs
    | _ => simpleStatements p.exprs
  else if isSymbol t "@" then return [← decorated p]
  else simpleStatements p.exprs

/-- The grammar with one more level of blocks. -/
def deepenBlocks (p : Parts) : Parts := { p with statement := statement p }

/-- The statement grammar of texts up to a depth. -/
def Parts.ofDepth (exprs : Inner) (depth : Nat) : Parts :=
  Nat.repeat deepenBlocks depth ⟨exprs, depth, failInvalid⟩

/-- The statements of a whole script. -/
def script (depth : Nat) : Reader (List Stmt) :=
  statementsUntil (Parts.ofDepth (Inner.ofDepth depth) depth) .finish

end ChartScript.Script.Grammar
