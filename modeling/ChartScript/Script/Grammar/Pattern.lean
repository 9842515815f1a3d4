import ChartScript.Script.Grammar.Expr
/-!
# The grammar of patterns

The patterns of a match statement. `inner` reads the patterns inside a pattern.
-/

namespace ChartScript.Script.Grammar

/-- Whether a pattern can begin with a token. -/
def beginsPattern (t : Token) : Bool :=
  match t.kind with
  | .name => isIdentifier t || ["None", "True", "False"].contains t.text
  | .number | .text => true
  | .symbol => ["(", "[", "\x7b", "-", "*"].contains t.text
  | _ => false

/-- Whether a pattern begins here. -/
def atPattern : Reader Bool := return beginsPattern (← peek)

/-- Whether a number literal is imaginary. -/
def isImaginary (t : Token) : Bool := t.text.endsWith "j" || t.text.endsWith "J"

/-- A number with an optional sign, perhaps with an imaginary part. -/
def numberLiteral (g : Inner) : Reader Expr := do
  let line ← lineHere
  let negative ← acceptSymbol "-"
  let t ← peek
  unless t.kind = .number do failInvalid
  let magnitude ← atom g
  let real := if negative then .unary line .minus magnitude else magnitude
  let sign ← peek
  if isSymbol sign "+" || isSymbol sign "-" then
    if isImaginary t then failAt t.line (.badPattern "real number required in complex literal")
    advance
    let imaginary ← peek
    unless imaginary.kind = .number do failInvalid
    unless isImaginary imaginary do
      failAt imaginary.line (.badPattern "imaginary number required in complex literal")
    return .binary line real (if sign.text = "+" then .add else .sub) (← atom g)
  else return real

/-- A name with attributes. -/
def dottedPattern (line : Nat) (first : String) : Reader Expr := do
  let attrs ← many do
    if ← acceptSymbol "." then return some (← needName) else return none
  return attrs.foldl (fun e attr => .attribute line e attr) (.name line first)

/-- An item of a sequence pattern. -/
def sequenceItem (inner : Reader Pattern) : Reader Pattern := do
  let line ← lineHere
  if ← acceptSymbol "*" then
    let t ← peek
    let name ← needName
    return .star line (if isWord t "_" then none else some name)
  else inner

/-- A constant that is a word. -/
def wordConstant? (word : String) : Option Constant :=
  [("None", .none), ("True", .bool true), ("False", .bool false)].lookup word

/-- An entry of a mapping pattern: a key with its pattern, or the name for the rest. -/
inductive MappingEntry where
  /-- A key with the pattern of its value. -/
  | pair (key : Expr) (pattern : Pattern)
  /-- The name for the rest. -/
  | rest (name : String)

/-- A key of a mapping pattern. -/
def mappingKey (g : Inner) : Reader Expr := do
  let t ← peek
  match t.kind with
  | .number => numberLiteral g
  | .text => textLiterals g t.line
  | .name =>
    match wordConstant? t.text with
    | some c =>
      advance
      return .constant t.line c
    | none =>
      let name ← needName
      unless ← atSymbol "." do failInvalid
      dottedPattern t.line name
  | .symbol => if t.text = "-" then numberLiteral g else failInvalid
  | _ => failInvalid

/-- The entries of a mapping pattern after its opening brace; the rest comes last. -/
def mappingEntries (g : Inner) (inner : Reader Pattern) : Reader (List MappingEntry) := do
  let more : Reader Bool := return (← atPattern) || (← atSymbol "**")
  let entry : Reader MappingEntry := do
    if ← acceptSymbol "**" then
      if ← atWord "_" then failInvalid
      return .rest (← needName)
    else
      let key ← mappingKey g
      needSymbol ":"
      return .pair key (← inner)
  let entries ← if ← more then pure (← commaSeparated entry more).1 else pure []
  if entries.dropLast.any fun | .rest _ => true | .pair _ _ => false then failInvalid
  return entries

/-- An argument of a class pattern. -/
inductive ClassArgument where
  /-- By position. -/
  | plain (line : Nat) (pattern : Pattern)
  /-- By the name of an attribute, which is that of a wildcard or not. -/
  | named (isWildcard : Bool) (name : String) (pattern : Pattern)

/-- The line of the first argument by position that comes after one by name. -/
def latePositional? : List ClassArgument → Option Nat
  | .named _ _ _ :: rest => rest.findSome? fun | .plain line _ => some line | .named _ _ _ => none
  | .plain _ _ :: rest => latePositional? rest
  | [] => none

/-- Whether the name of the first argument by name is read as one more pattern by position. -/
def namesWildcard : List ClassArgument → Bool
  | .plain _ _ :: .named isWildcard _ _ :: _ => isWildcard
  | .plain _ _ :: rest => namesWildcard rest
  | _ => false

/-- The arguments of a class pattern. -/
def classArguments (inner : Reader Pattern) : Reader (List ClassArgument) := do
  let one : Reader ClassArgument := do
    if ← atNameBefore "=" then
      let isWildcard ← atWord "_"
      let name ← needName
      advance
      return .named isWildcard name (← inner)
    else return .plain (← lineHere) (← inner)
  let found ← if ← atPattern then pure (← commaSeparated one atPattern).1 else pure []
  if namesWildcard found then failInvalid
  match latePositional? found with
  | some line => failAt line (.badPattern "positional patterns follow keyword patterns")
  | none => return found

/-- What patterns with commas between them are: a starred one needs a comma to be a sequence. -/
def sequenceOf (line : Nat) (items : List Pattern) (trailing : Bool) : Reader Pattern :=
  match items with
  | [.star _ _] => if trailing then return .sequence line items else failInvalid
  | [one] => return if trailing then .sequence line items else one
  | _ => return .sequence line items

/-- A pattern without alternatives. -/
def closedPattern (g : Inner) (inner : Reader Pattern) : Reader Pattern := do
  let t ← peek
  match t.kind with
  | .number => return .value (← numberLiteral g)
  | .text => return .value (← textLiterals g t.line)
  | .name =>
    match wordConstant? t.text with
    | some c =>
      advance
      return .constant t.line c
    | none =>
      let name ← needName
      if isWord t "_" then return .capture t.line none
      let target ← dottedPattern t.line name
      if ← acceptSymbol "(" then
        let found ← classArguments inner
        needSymbol ")"
        let plain := found.filterMap fun | .plain _ p => some p | .named _ _ _ => none
        let named := found.filterMap fun | .named _ n p => some (n, p) | .plain _ _ => none
        return .instance target plain (named.map Prod.fst) (named.map Prod.snd)
      else
        match target with
        | .name line id => return .capture line (some id)
        | e => return .value e
  | .symbol =>
    if t.text = "-" then return .value (← numberLiteral g)
    else if t.text = "(" then
      advance
      if ← acceptSymbol ")" then return .sequence t.line []
      let (items, trailing) ← commaSeparated (sequenceItem inner) atPattern
      needSymbol ")"
      sequenceOf t.line items trailing
    else if t.text = "[" then
      advance
      if ← acceptSymbol "]" then return .sequence t.line []
      let (items, _) ← commaSeparated (sequenceItem inner) atPattern
      needSymbol "]"
      return .sequence t.line items
    else if t.text = "\x7b" then
      advance
      let entries ← mappingEntries g inner
      needSymbol "\x7d"
      let pairs := entries.filterMap fun | .pair k p => some (k, p) | .rest _ => none
      let rest := entries.findSome? fun | .rest n => some n | .pair _ _ => none
      return .mapping t.line (pairs.map Prod.fst) (pairs.map Prod.snd) rest
    else failInvalid
  | _ => failInvalid

/-- The name that a pattern is bound to. -/
def captureTarget (g : Inner) : Reader String := do
  let t ← peek
  if isWord t "_" then failAt t.line (.badPattern "cannot use '_' as a target")
  else if isIdentifier t then
    let name ← needName
    let after ← peek
    if [".", "(", "="].any (isSymbol after) then failInvalid
    return name
  else if ← wouldRead g.expression then failAt t.line (.badPattern "invalid pattern target")
  else failInvalid

/-- A pattern: alternatives, perhaps bound to a name. -/
def patternWith (g : Inner) (inner : Reader Pattern) : Reader Pattern := do
  let line ← lineHere
  let first ← closedPattern g inner
  let rest ← many do
    if ← acceptSymbol "|" then return some (← closedPattern g inner) else return none
  let whole := if rest.isEmpty then first else .or line (first :: rest)
  if ← acceptWord "as" then return .as line whole (← captureTarget g) else return whole

/-- The pattern of a case: one pattern, or several as a sequence. -/
def casePattern (g : Inner) (depth : Nat) : Reader Pattern := do
  let one := Nat.repeat (patternWith g) depth failInvalid
  let line ← lineHere
  let (items, trailing) ← commaSeparated (sequenceItem one) atPattern
  sequenceOf line items trailing

end ChartScript.Script.Grammar
