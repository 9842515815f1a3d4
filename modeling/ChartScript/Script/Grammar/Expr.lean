import ChartScript.Script.Grammar.Cursor
import ChartScript.Script.Literal
/-!
# The grammar of expressions

Each function reads one form of expression. Forms that contain expressions of every form
take them from `Inner`, which is the same grammar for texts of smaller depth.
-/

namespace ChartScript.Script.Grammar

/-- The forms that occur again inside smaller parts of an expression. -/
structure Inner where
  /-- Any expression. -/
  expression : Reader Expr
  /-- An expression that begins with a negation or binds tighter. -/
  inversion : Reader Expr
  /-- An expression that begins with a sign or binds tighter. -/
  factor : Reader Expr

/-- Words that begin an expression. -/
def openingWords : List String := ["None", "True", "False", "lambda", "not", "await"]

/-- Symbols that begin an expression. -/
def openingSymbols : List String := ["(", "[", "\x7b", "-", "+", "~", "..."]

/-- Whether an expression can begin with a token. -/
def beginsExpression (t : Token) : Bool :=
  match t.kind with
  | .name => isIdentifier t || openingWords.contains t.text
  | .number | .text => true
  | .symbol => openingSymbols.contains t.text
  | _ => false

/-- Whether an expression, perhaps after a star, begins here. -/
def atItem : Reader Bool := do
  let t ← peek
  return beginsExpression t || isSymbol t "*"

/-- Whether a loop clause of a comprehension begins here. -/
def atClause : Reader Bool := do
  let t ← peek
  if isWord t "for" then return true
  else if isWord t "async" then return isWord (← peekAhead 1) "for"
  else return false

/-- An operator with its operand; without an operand the cursor goes back to a position. -/
def orBack {α : Type} (start : Nat) (op : α) (operand : Option Expr) : Reader (Option (α × Expr)) := do
  match operand with
  | some e => return some (op, e)
  | none =>
    modify fun c => { c with position := start }
    return none

/-- Operands with operators of one rank between them, grouped from the left. -/
def leftGrouped (ops : List (String × BinaryOp)) (operand : Reader Expr) : Reader Expr := do
  let line ← lineHere
  let first ← operand
  let rest ← many do
    let start := (← get).position
    let t ← peek
    match (if t.kind = .symbol then ops.lookup t.text else none) with
    | some op =>
      advance
      orBack start op (← attempt operand)
    | none => return none
  return rest.foldl (fun left (op, right) => .binary line left op right) first

/-- The ranks of operators, tightest first. -/
def ranks : List (List (String × BinaryOp)) :=
  [[("*", .mul), ("/", .div), ("//", .floorDiv), ("%", .mod), ("@", .matMul)],
    [("+", .add), ("-", .sub)],
    [("<<", .shiftLeft), (">>", .shiftRight)],
    [("&", .bitAnd)], [("^", .bitXor)], [("|", .bitOr)]]

/-- An expression whose outermost operator, if any, is arithmetic or bitwise. -/
def bitwise (g : Inner) : Reader Expr :=
  ranks.foldl (fun operand ops => leftGrouped ops operand) g.factor

/-- The comparison that begins here, if one does. -/
def comparisonOp? : Reader (Option CompareOp) := do
  let t ← peek
  match t.kind with
  | .symbol =>
    let ops : List (String × CompareOp) :=
      [("==", .equal), ("!=", .notEqual), ("<=", .atMost), ("<", .less), (">=", .atLeast),
        (">", .greater)]
    match ops.lookup t.text with
    | some op =>
      advance
      return some op
    | none => return none
  | .name =>
    if t.text = "in" then
      advance
      return some .member
    else if t.text = "is" then
      advance
      if ← acceptWord "not" then return some .isNot else return some .is
    else if t.text = "not" then
      if isWord (← peekAhead 1) "in" then
        advance
        advance
        return some .notMember
      else return none
    else return none
  | _ => return none

/-- A chain of comparisons. -/
def comparison (g : Inner) : Reader Expr := do
  let line ← lineHere
  let first ← bitwise g
  let rest ← many do
    let start := (← get).position
    match ← comparisonOp? with
    | some op => orBack start op (← attempt (bitwise g))
    | none => return none
  if rest.isEmpty then return first
  else return .compare line first (rest.map Prod.fst) (rest.map Prod.snd)

/-- A negation or a comparison. -/
def inversion (g : Inner) : Reader Expr := do
  let line ← lineHere
  if ← acceptWord "not" then return .unary line .not (← g.inversion)
  else comparison g

/-- Operands with a word between them. -/
def joinedBy (word : String) (conjunction : Bool) (operand : Reader Expr) : Reader Expr := do
  let line ← lineHere
  let first ← operand
  let rest ← many do
    let start := (← get).position
    if ← acceptWord word then orBack start () (← attempt operand) else return none
  if rest.isEmpty then return first
  else return .boolean line conjunction (first :: rest.map Prod.snd)

/-- A disjunction of conjunctions. -/
def disjunction (g : Inner) : Reader Expr :=
  joinedBy "or" false (joinedBy "and" true (inversion g))

/-- Names that were statements once. -/
def oldStatements : List String := ["print", "exec"]

/-- An expression or, after a star, the elements of one. -/
def starExpression (g : Inner) : Reader Expr := do
  let line ← lineHere
  if ← acceptSymbol "*" then return .starred line (← bitwise g)
  else g.expression

/-- Expressions with commas between them; more than one, or a comma at the end, make a
tuple. -/
def starExpressions (g : Inner) : Reader Expr := do
  let line ← lineHere
  let (items, trailing) ← commaSeparated (starExpression g) atItem
  match items with
  | [one] => return if trailing then .tuple line [one] else one
  | _ => return .tuple line items

/-- Explains two expressions without an operator between them, of which the first one began
at a position. -/
def explainAdjacent (g : Inner) (start : Nat) (left : Expr) : Reader Unit := do
  let now ← get
  let first := now.stream.tokens.getD start default
  let second := now.stream.tokens.getD (start + 1) default
  let old : Bool := match left with | .name _ id => oldStatements.contains id | _ => false
  let skipped : Bool :=
    (isIdentifier first && second.kind = .text) ||
      ["_", "match", "case"].any fun w => isWord first w
  unless now.unexplained.contains now.position do
    if !old && !skipped then
      if (← attemptWithin (disjunction g)).isSome then
        let after ← get
        if 0 < (after.stream.tokens.getD (after.position - 1) default).depth then
          failAt first.line .perhapsComma
    if isIdentifier first && !isSymbol second "(" then
      modify fun c => { c with position := start + 1 }
      if (← attempt (starExpressions g)).isSome && old then
        failAt first.line (.oldStatement (nameOf first))
    modify fun c =>
      { c with
        position := now.position
        reached := now.reached
        unexplained := now.position :: c.unexplained }

/-- An expression that is no function: a disjunction or a choice. -/
def conditional (g : Inner) : Reader Expr := do
  let line ← lineHere
  let start := (← get).position
  let body ← disjunction g
  let t ← peek
  if isWord t "if" then
    advance
    let test ← disjunction g
    if ← acceptWord "else" then return .conditional line test body (← g.expression)
    else if ← atSymbol ":" then failInvalid
    else failAt line .missingElse
  else
    if beginsExpression t then explainAdjacent g start body
    return body

/-- Explains an equals sign after an expression that began at a position. -/
def explainEquals (g : Inner) (start : Nat) : Reader Unit := do
  let now ← get
  set { now with position := start }
  let first ← peek
  let skippedWord : Bool := ["True", "False", "None"].any fun w => isWord first w
  match ← attempt (bitwise g) with
  | some left =>
    let skipped : Bool :=
      skippedWord ||
        match left with
        | .list _ _ | .tuple _ _ | .generator _ _ _ => true
        | _ => false
    let after ← get
    let single : Bool := match left with | .name _ _ => after.position = start + 1 | _ => false
    if ← acceptSymbol "=" then
      if (← attempt (bitwise g)).isSome then
        unless (← atSymbol "=") || (← atSymbol ":=") do
          if single then failAt left.line .perhapsEqual
          else if !skipped then failAt left.line (.badTarget left.description true)
  | none => pure ()
  modify fun c => { c with position := now.position, reached := now.reached }

/-- An expression that may bind a name. -/
def namedExpression (g : Inner) : Reader Expr := do
  let t ← peek
  let start := (← get).position
  if ← atNameBefore ":=" then
    advance
    advance
    return .named t.line (.name t.line (nameOf t)) (← g.expression)
  else
    let e ← g.expression
    if ← atSymbol ":=" then
      advance
      if ← wouldRead g.expression then failAt e.line (.badNaming e.description) else failInvalid
    else if ← atSymbol "=" then
      explainEquals g start
      return e
    else return e

/-- An element of a display. -/
def starNamed (g : Inner) : Reader Expr := do
  let line ← lineHere
  if ← acceptSymbol "*" then return .starred line (← bitwise g)
  else namedExpression g

/-- Targets with commas between them. -/
def targets (g : Inner) : Reader Expr := do
  let line ← lineHere
  let item : Reader Expr := do
    let line ← lineHere
    if ← acceptSymbol "*" then return .starred line (← bitwise g) else bitwise g
  let (items, trailing) ← commaSeparated item atItem
  match items with
  | [one] => return if trailing then .tuple line [one] else one
  | _ => return .tuple line items

/-- The first part of an expression that cannot be a target of a loop; of a membership test
only the left side counts. -/
def badLoopTarget? : Expr → Option Expr
  | .compare _ left (.member :: _) _ => left.badTarget?
  | .compare _ _ _ _ => none
  | e => e.badTarget?

/-- The targets of a loop and the word that follows them. -/
def loopTargets (g : Inner) : Reader Expr := do
  let start ← get
  let refuse : Reader Unit := do
    modify fun c => { c with position := start.position }
    match ← attempt (starExpressions g) with
    | some e =>
      match badLoopTarget? e with
      | some bad => failAt bad.line (.badTarget bad.description false)
      | none => failInvalid
    | none => failInvalid
  match ← attempt (targets g) with
  | some target =>
    if target.badTarget?.isSome || !(← atWord "in") then refuse
    advance
    return target
  | none =>
    refuse
    failInvalid

/-- The clauses of a comprehension. -/
def clauses (g : Inner) : Reader (List Clause) := do
  many do
    if ← atClause then
      let isAsync ← acceptWord "async"
      needWord "for"
      let target ← loopTargets g
      let iter ← disjunction g
      let conditions ← many do
        if ← acceptWord "if" then return some (← disjunction g) else return none
      return some (.mk isAsync target iter conditions)
    else return none

/-- The handing out of a value, after its word. -/
def yieldRest (g : Inner) (line : Nat) : Reader Expr := do
  if ← acceptWord "from" then return .yieldFrom line (← g.expression)
  else if ← atItem then return .yield line (some (← starExpressions g))
  else return .yield line none

/-- A comprehension's element must not be a group of elements. -/
def refuseStarred (e : Expr) : Reader Unit :=
  match e with
  | .starred line _ => failAt line .unpackingInComprehension
  | _ => pure ()

/-- What stands between parentheses. -/
def parenthesized (g : Inner) (line : Nat) : Reader Expr := do
  advance
  if ← acceptSymbol ")" then return .tuple line []
  let inner ← lineHere
  if ← acceptWord "yield" then
    let e ← yieldRest g inner
    needSymbol ")"
    return e
  let first ← starNamed g
  if ← atClause then
    refuseStarred first
    let found ← clauses g
    needSymbol ")"
    return .generator line first found
  if ← acceptSymbol "," then
    if ← acceptSymbol ")" then return .tuple line [first]
    let (rest, _) ← commaSeparated (starNamed g) atItem
    needSymbol ")"
    return .tuple line (first :: rest)
  if ← atSymbol ")" then
    match first with
    | .starred at_ _ => failAt at_ .starredHere
    | e =>
      advance
      return e
  failInvalid

/-- What stands between square brackets of a display. -/
def bracketed (g : Inner) (line : Nat) : Reader Expr := do
  advance
  if ← acceptSymbol "]" then return .list line []
  let first ← starNamed g
  if ← atClause then
    refuseStarred first
    let found ← clauses g
    needSymbol "]"
    return .listComp line first found
  let rest ←
    if ← acceptSymbol "," then
      if ← atItem then pure (← commaSeparated (starNamed g) atItem).1 else pure []
    else pure []
  needSymbol "]"
  return .list line (first :: rest)

/-- The value after the colon of a dictionary entry. -/
def entryValue (g : Inner) : Reader Expr := do
  let colon ← lineHere
  needSymbol ":"
  if (← atSymbol "\x7d") || (← atSymbol ",") then failAt colon .missingValueAfterKey
  else g.expression

/-- An entry of a dictionary display. -/
def dictEntry (g : Inner) : Reader DictEntry := do
  if ← acceptSymbol "**" then return .unpack (← bitwise g)
  let key ← g.expression
  if ← atSymbol ":" then return .pair key (← entryValue g)
  else failAt key.line .missingColonAfterKey

/-- The entries of a dictionary display after the first one. -/
def dictRest (g : Inner) : Reader (List DictEntry) := do
  if ← acceptSymbol "," then
    let more : Reader Bool := do
      let t ← peek
      return beginsExpression t || isSymbol t "**"
    if ← more then return (← commaSeparated (dictEntry g) more).1 else return []
  else return []

/-- What stands between braces. -/
def braced (g : Inner) (line : Nat) : Reader Expr := do
  advance
  if ← acceptSymbol "\x7d" then return .dict line []
  if ← acceptSymbol "**" then
    let first ← bitwise g
    let rest ← dictRest g
    needSymbol "\x7d"
    return .dict line (.unpack first :: rest)
  let first ← starNamed g
  if ← atSymbol ":" then
    let value ← entryValue g
    if ← atClause then
      let found ← clauses g
      needSymbol "\x7d"
      return .dictComp line first value found
    let rest ← dictRest g
    needSymbol "\x7d"
    return .dict line (.pair first value :: rest)
  if ← atClause then
    refuseStarred first
    let found ← clauses g
    needSymbol "\x7d"
    return .setComp line first found
  let rest ←
    if ← acceptSymbol "," then
      if ← atItem then pure (← commaSeparated (starNamed g) atItem).1 else pure []
    else pure []
  needSymbol "\x7d"
  return .set line (first :: rest)

/-- The expression of a replacement field, whose text begins on a line. -/
def fieldExpression (g : Inner) (source : List Char) (line : Nat) : Reader Expr := do
  let stream := tokensFrom line ('(' :: source ++ [')'])
  match stream.ending with
  | .flawed e => throw e
  | _ =>
    match (starExpressions g).run { stream, position := 0, reached := 0 } with
    | .ok e _ => return e
    | .error e _ => throw { e with flaw := .formatted e.flaw.message }

/-- The parts of a formatted text, for pieces of at most a depth. -/
def formattedParts (g : Inner) (line : Nat) : Nat → List Literal.Piece → Reader (List Expr)
  | 0, _ => return []
  | depth + 1, pieces => pieces.mapM fun piece =>
    match piece with
    | .text chars => return .constant line (.text (String.ofList chars))
    | .field source at_ conversion spec => do
      let value ← fieldExpression g source at_
      let format ←
        match spec with
        | some inner => pure (some (.formatted line (← formattedParts g line depth inner)))
        | none => pure none
      return .replacement line value conversion format

/-- Neighbouring literal parts joined. -/
def joinLiterals : List Expr → List Expr
  | .constant line (.text a) :: rest =>
    match joinLiterals rest with
    | .constant _ (.text b) :: more => .constant line (.text (a ++ b)) :: more
    | more => .constant line (.text a) :: more
  | e :: rest => e :: joinLiterals rest
  | [] => []

/-- Raises the flaw of a literal on the line of the last token that was looked at. -/
def liftLiteral {α : Type} (r : Except Flaw α) : Reader α :=
  match r with
  | .ok a => return a
  | .error flaw => failHere flaw

/-- Literals of texts or bytes side by side. -/
def textLiterals (g : Inner) (line : Nat) : Reader Expr := do
  let tokens ← many do
    if ← atKind .text then return some (← take) else return none
  let all := tokens.map fun t => (t, Literal.parts t.text)
  if all.any fun (_, p) => p.bytes then
    if all.all fun (_, p) => p.bytes then
      let bytes ← all.mapM fun (t, p) =>
        match Literal.bytes p.raw p.body with
        | .ok bs => pure bs
        | .error .wideBytes => failAt t.line .wideBytes
        | .error flaw => failHere flaw
      return .constant line (.bytes bytes.flatten)
    else failHere .mixedLiterals
  else if all.any fun (_, p) => p.formatted then
    let parts ← all.mapM fun (t, p) => do
      if p.formatted then
        let pieces ← liftLiteral (Literal.formattedPieces p.raw p.body t.line)
        formattedParts g line 4 pieces
      else
        let chars ← liftLiteral (Literal.text p.raw p.body)
        return if chars.isEmpty then [] else [.constant line (.text (String.ofList chars))]
    return .formatted line (joinLiterals parts.flatten)
  else
    let texts ← all.mapM fun (_, p) => liftLiteral (Literal.text p.raw p.body)
    return .constant line (.text (String.ofList texts.flatten))

/-- The smallest expressions. -/
def atom (g : Inner) : Reader Expr := do
  let t ← peek
  match t.kind with
  | .name =>
    if isIdentifier t then
      advance
      return .name t.line (nameOf t)
    else if t.text = "None" then
      advance
      return .constant t.line .none
    else if t.text = "True" then
      advance
      return .constant t.line (.bool true)
    else if t.text = "False" then
      advance
      return .constant t.line (.bool false)
    else failInvalid
  | .number =>
    advance
    match Literal.number t.text with
    | .ok value => return .constant t.line value
    | .error flaw => failAt t.line flaw
  | .text => textLiterals g t.line
  | .symbol =>
    if t.text = "(" then parenthesized g t.line
    else if t.text = "[" then bracketed g t.line
    else if t.text = "\x7b" then braced g t.line
    else if t.text = "..." then
      advance
      return .constant t.line .ellipsis
    else failInvalid
  | _ => failInvalid

/-- A part of a subscript: a slice or an expression. -/
def sliceItem (g : Inner) : Reader Expr := do
  let line ← lineHere
  let stop : Reader Bool := do
    let t ← peek
    return !beginsExpression t
  let rest (lower : Option Expr) : Reader Expr := do
    needSymbol ":"
    let upper ← if ← stop then pure none else pure (some (← g.expression))
    let step ←
      if ← acceptSymbol ":" then
        if ← stop then pure none else pure (some (← g.expression))
      else pure none
    return .slice line lower upper step
  if ← atSymbol ":" then rest none
  else
    let e ← starNamed g
    if ← atSymbol ":" then rest (some e) else return e

/-- What stands between the brackets of a subscript. -/
def subscript (g : Inner) : Reader Expr := do
  let line ← lineHere
  let more : Reader Bool := return (← atItem) || (← atSymbol ":")
  let (items, trailing) ← commaSeparated (sliceItem g) more
  needSymbol "]"
  match items with
  | [one] =>
    match one with
    | .starred _ _ => return .tuple line [one]
    | e => return if trailing then .tuple line [e] else e
  | _ => return .tuple line items

/-- The arguments of a call as far as they have been read. -/
structure Arguments where
  /-- The arguments by position. -/
  args : List Expr
  /-- The arguments by keyword. -/
  keywords : List Keyword

/-- Whether a mapping of keywords has been given. -/
def Arguments.hasMapping (a : Arguments) : Bool :=
  a.keywords.any fun | .mk _ name _ => name.isNone

/-- Whether an argument comes too late, with the flaw of it. -/
def Arguments.lateness? (a : Arguments) : Option Flaw :=
  if a.keywords.isEmpty then none
  else some (if a.hasMapping then .positionalAfterMapping else .positionalAfterKeyword)

/-- One argument of a call that began on a line, added to those before. The answer tells
also whether the argument comes too late. -/
def argument (g : Inner) (line : Nat) (before : Arguments) : Reader (Arguments × Option Flaw) := do
  let t ← peek
  if isSymbol t "*" then
    advance
    if before.hasMapping then failAt line .unpackingAfterMapping
    unless beginsExpression (← peek) do failHere (.badParameter "Invalid star expression")
    return ({ before with args := before.args ++ [.starred t.line (← g.expression)] }, none)
  if isSymbol t "**" then
    advance
    return ({ before with keywords := before.keywords ++ [.mk t.line none (← g.expression)] }, none)
  if ← atNameBefore "=" then
    advance
    advance
    let value ← g.expression
    if ← atClause then failAt t.line .perhapsEqual
    return ({ before with keywords := before.keywords ++ [.mk t.line (some (nameOf t)) value] }, none)
  let value ←
    if ← atNameBefore ":=" then
      advance
      advance
      pure (.named t.line (.name t.line (nameOf t)) (← g.expression))
    else g.expression
  if ← atSymbol "=" then
    match value with
    | .constant _ .none | .constant _ (.bool _) => failAt t.line (.badTarget value.description false)
    | _ => failAt value.line .assignmentInArgument
  if ← atClause then
    let found ← clauses g
    let alone : Bool := before.args.isEmpty && before.keywords.isEmpty
    if alone && (← atSymbol ")") then
      return ({ before with args := [.generator line value found] }, none)
    else failAt value.line .bareGenerator
  return ({ before with args := before.args ++ [value] }, before.lateness?)

/-- The arguments of a call after its opening parenthesis, which stands on a line. -/
def argumentsFrom (g : Inner) (line : Nat) : Nat → Arguments → Reader Arguments
  | 0, _ => failInvalid
  | fuel + 1, before => do
    if ← acceptSymbol ")" then return before
    let (next, late) ← argument g line before
    match late with
    | some flaw =>
      if ← acceptSymbol "," then
        let _ ← attempt (argumentsFrom g line fuel ⟨[], []⟩)
      failHere flaw
    | none =>
      if ← acceptSymbol "," then argumentsFrom g line fuel next
      else
        needSymbol ")"
        return next

/-- The arguments of a call, from its opening parenthesis on. -/
def callArguments (g : Inner) : Reader Arguments := do
  let line ← lineHere
  needSymbol "("
  argumentsFrom g line (← bound) ⟨[], []⟩

/-- What can follow a value. -/
inductive Trailer where
  /-- An attribute. -/
  | attribute (name : String)
  /-- An element. -/
  | subscript (index : Expr)
  /-- A call. -/
  | call (arguments : Arguments)

/-- The value with a trailer. -/
def Trailer.attach (line : Nat) (value : Expr) : Trailer → Expr
  | .attribute name => .attribute line value name
  | .subscript index => .subscript line value index
  | .call a => .call line value a.args a.keywords

/-- A value with attributes, elements and calls after it. -/
def primary (g : Inner) : Reader Expr := do
  let line ← lineHere
  let first ← atom g
  let trailers ← many do
    let t ← peek
    if isSymbol t "." then
      attempt do
        advance
        return .attribute (← needName)
    else if isSymbol t "[" then
      attempt do
        advance
        return .subscript (← subscript g)
    else if isSymbol t "(" then attempt do return .call (← callArguments g)
    else return none
  return trailers.foldl (Trailer.attach line) first

/-- A value that may be waited for. -/
def awaited (g : Inner) : Reader Expr := do
  let line ← lineHere
  if ← acceptWord "await" then return .await line (← primary g) else primary g

/-- A signed value or a power. -/
def factor (g : Inner) : Reader Expr := do
  let t ← peek
  let signs : List (String × UnaryOp) := [("+", .plus), ("-", .minus), ("~", .invert)]
  match (if t.kind = .symbol then signs.lookup t.text else none) with
  | some op =>
    advance
    return .unary t.line op (← g.factor)
  | none =>
    let base ← awaited g
    let start := (← get).position
    if ← acceptSymbol "**" then
      match ← orBack start () (← attempt g.factor) with
      | some (_, exponent) => return .binary t.line base .pow exponent
      | none => return base
    else return base

/-- The parameters of a function as far as they have been read. -/
structure ParamsSoFar where
  /-- By position only. -/
  positional : List Param := []
  /-- By position or name. -/
  plain : List Param := []
  /-- The rest by position. -/
  rest : Option Param := none
  /-- A star has been read. -/
  starred : Bool := false
  /-- By name only. -/
  named : List Param := []
  /-- The rest by name. -/
  others : Option Param := none

/-- Whether only parameters without defaults have been read. -/
def ParamsSoFar.canBegin (p : ParamsSoFar) : Bool :=
  p.positional.isEmpty && !p.starred && p.plain.all fun q => q.fallback.isNone

/-- Explains parameters in parentheses. -/
def refuseGroup (annotated : Bool) : Reader Unit := do
  let line ← lineHere
  let group : Reader Unit := do
    advance
    let _ ← commaSeparated needName (return isIdentifier (← peek))
    needSymbol ")"
  if ← wouldRead group then
    let what := if annotated then "Function" else "Lambda expression"
    failAt line (.badParameter (what ++ " parameters cannot be parenthesized"))

/-- One parameter; an annotation is read if `annotated` allows it. -/
def parameter (g : Inner) (annotated : Bool) : Reader Param := do
  let line ← lineHere
  let name ← needName
  let hint ←
    if annotated then
      if ← acceptSymbol ":" then pure (some (← starExpression g)) else pure none
    else pure none
  let fallback ←
    if ← acceptSymbol "=" then
      if (← atSymbol ")") || (← atSymbol ",") then failHere (.expected "default value expression")
      else pure (some (← g.expression))
    else pure none
  return .mk line name hint fallback

/-- The parameters of a function up to a closing symbol, which is left. -/
def parametersFrom (g : Inner) (annotated : Bool) (closing : String) :
    Nat → ParamsSoFar → Reader ParamsSoFar
  | 0, _ => failInvalid
  | fuel + 1, p => do
    if ← atSymbol closing then return p
    let t ← peek
    if isSymbol t "(" && p.canBegin then refuseGroup annotated
    let next ←
      if isSymbol t "/" then
        advance
        if p.starred then failAt t.line (.badParameter "/ must be ahead of *")
        if !p.positional.isEmpty then failAt t.line (.badParameter "/ may appear only once")
        if p.plain.isEmpty then
          if ← atSymbol "," then failAt t.line (.badParameter "at least one argument must precede /")
          else failInvalid
        if ← atSymbol "*" then failAt t.line (.badParameter "expected comma between / and *")
        pure { p with positional := p.plain, plain := [] }
      else if isSymbol t "**" then
        advance
        let one ← parameter g annotated
        if one.fallback.isSome then failAt t.line (.badParameter "var-keyword argument cannot have default value")
        pure { p with others := some one }
      else if isSymbol t "*" then
        advance
        if p.starred then
          let after ← peekAhead 1
          let named := isIdentifier (← peek) && [",", ":", closing].any (isSymbol after)
          if named || (← atSymbol ",") then
            failAt t.line (.badParameter "* argument may appear only once")
          else failInvalid
        if ← atSymbol "," then
          let after ← peekAhead 1
          if isSymbol after closing || isSymbol after "**" then failAt t.line .bareStar
          pure { p with starred := true }
        else if ← atSymbol closing then failAt t.line .bareStar
        else
          let one ← parameter g annotated
          if one.fallback.isSome then
            failAt t.line (.badParameter "var-positional argument cannot have default value")
          pure { p with starred := true, rest := some one }
      else
        let one ← parameter g annotated
        if p.starred then pure { p with named := p.named ++ [one] }
        else
          let before := (p.positional ++ p.plain).getLast?
          if one.fallback.isNone && (before.bind Param.fallback).isSome then
            failAt t.line .defaultOrder
          pure { p with plain := p.plain ++ [one] }
    if ← acceptSymbol "," then
      if next.others.isSome && !(← atSymbol closing) then
        let after ← peek
        if isIdentifier after || ["*", "**", "/"].any (isSymbol after) then
          failAt after.line (.badParameter "arguments cannot follow var-keyword argument")
        else failInvalid
      parametersFrom g annotated closing fuel next
    else if ← atSymbol closing then return next
    else failInvalid

/-- The parameters of a function up to a closing symbol, which is left. -/
def parameters (g : Inner) (annotated : Bool) (closing : String) : Reader Params := do
  let p ← parametersFrom g annotated closing (← bound) {}
  return .mk p.positional p.plain p.rest p.named p.others

/-- A function without name, after its word. -/
def lambdaRest (g : Inner) (line : Nat) : Reader Expr := do
  let params ← parameters g false ":"
  expectSymbol ":"
  return .lambda line params (← g.expression)

/-- Any expression. -/
def expression (g : Inner) : Reader Expr := do
  let line ← lineHere
  if ← acceptWord "lambda" then lambdaRest g line else conditional g

/-- The grammar with one more level of depth. -/
def deepen (g : Inner) : Inner := ⟨expression g, inversion g, factor g⟩

/-- The grammar of texts up to a depth. -/
def Inner.ofDepth (depth : Nat) : Inner :=
  Nat.repeat deepen depth ⟨failInvalid, failInvalid, failInvalid⟩

end ChartScript.Script.Grammar
