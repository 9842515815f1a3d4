import ChartScript.Script.Token
import ChartScript.Text.NormalForm
/-!
# Reading tokens in order

A cursor over the tokens of a script, and the steps from which the grammar is built. The
cursor remembers how far it has looked: where nothing better is known, the report of a
flaw is for the line of the furthest token.
-/

namespace ChartScript.Script.Grammar

/-- A place in a stream of tokens. -/
structure Cursor where
  /-- The stream. -/
  stream : TokenStream
  /-- The index of the next token. -/
  position : Nat
  /-- The largest index of a token that was looked at. -/
  reached : Nat
  /-- The largest index of a token that was looked at, also in search of an explanation. -/
  explored : Nat := 0
  /-- Positions after which an explanation of a flaw has been sought in vain. -/
  unexplained : List Nat := []

/-- A step that reads tokens; on an error the cursor stays where the error was found. -/
abbrev Reader := EStateM SourceError Cursor

/-- The words that cannot be names. -/
def keywords : List String :=
  ["False", "None", "True", "and", "as", "assert", "async", "await", "break", "class", "continue",
    "def", "del", "elif", "else", "except", "finally", "for", "from", "global", "if", "import", "in",
    "is", "lambda", "nonlocal", "not", "or", "pass", "raise", "return", "try", "while", "with",
    "yield"]

/-- The last token that was looked at. -/
def lastToken : Reader Token := do
  let c ← get
  return c.stream.tokens.getD (min c.reached (c.stream.tokens.size - 1)) default

/-- Fails with a flaw on a line. -/
def failAt {α : Type} (line : Nat) (flaw : Flaw) : Reader α := throw ⟨some line, flaw⟩

/-- Fails with a flaw on the line of the last token that was looked at. -/
def failHere {α : Type} (flaw : Flaw) : Reader α := do failAt (← lastToken).line flaw

/-- Fails for want of a better explanation. -/
def failInvalid {α : Type} : Reader α := do
  let t ← lastToken
  match t.kind with
  | .indent => failAt t.line .unexpectedIndent
  | .dedent => failAt t.line .unexpectedDedent
  | _ => failAt t.line .invalid

/-- Whether a flaw has no better explanation yet, so that another reading may be tried. -/
def isGeneric (e : SourceError) : Bool :=
  e.flaw = .invalid || e.flaw = .unexpectedIndent || e.flaw = .unexpectedDedent

/-- The token some places ahead. Beyond the tokens lies the flaw at which they end. -/
def peekAhead (offset : Nat) : Reader Token := do
  let c ← get
  let index := c.position + offset
  match c.stream.tokens[index]? with
  | some t =>
    set { c with reached := max c.reached index, explored := max c.explored index }
    return t
  | none =>
    match c.stream.ending with
    | .flawed e | .misplaced e | .cutOff e => throw e
    | .complete => return ⟨.finish, "", c.stream.lastLine, c.stream.lastLine, 0⟩

/-- The next token. -/
def peek : Reader Token := peekAhead 0

/-- Goes past the next token. -/
def advance : Reader Unit := modify fun c => { c with position := c.position + 1 }

/-- The next token, which is passed. -/
def take : Reader Token := do
  let t ← peek
  advance
  return t

/-- Whether a token is this operator or bracket. -/
def isSymbol (t : Token) (s : String) : Bool := t.kind = .symbol && t.text = s

/-- Whether a token is this word. -/
def isWord (t : Token) (s : String) : Bool := t.kind = .name && t.text = s

/-- Whether a token can be a name. -/
def isIdentifier (t : Token) : Bool := t.kind = .name && !keywords.contains t.text

/-- The name that a token is. Words are told apart by their spelling, names by their normal form. -/
def nameOf (t : Token) : String := Text.NormalForm.ofName t.text

/-- Whether the next token is this operator or bracket. -/
def atSymbol (s : String) : Reader Bool := return isSymbol (← peek) s

/-- Whether the next token is this word. -/
def atWord (s : String) : Reader Bool := return isWord (← peek) s

/-- Whether the next token is of a kind. -/
def atKind (k : TokenKind) : Reader Bool := return (← peek).kind = k

/-- Goes past the next token if it is this operator or bracket; tells whether it was. -/
def acceptSymbol (s : String) : Reader Bool := do
  if ← atSymbol s then
    advance
    return true
  else return false

/-- Goes past the next token if it is this word; tells whether it was. -/
def acceptWord (s : String) : Reader Bool := do
  if ← atWord s then
    advance
    return true
  else return false

/-- Goes past an operator or bracket that has to come. -/
def needSymbol (s : String) : Reader Unit := do
  unless ← acceptSymbol s do failInvalid

/-- Goes past a word that has to come. -/
def needWord (s : String) : Reader Unit := do
  unless ← acceptWord s do failInvalid

/-- Goes past an operator or bracket whose absence is reported at the next token. -/
def expectSymbol (s : String) : Reader Unit := do
  let t ← peek
  if isSymbol t s then advance else failAt t.line (.expected ("'" ++ s ++ "'"))

/-- A name that has to come. -/
def needName : Reader String := do
  let t ← peek
  if isIdentifier t then
    advance
    return nameOf t
  else failInvalid

/-- The line of the next token. -/
def lineHere : Reader Nat := return (← peek).line

/-- Whether the next token is a name and the one after it this symbol. -/
def atNameBefore (s : String) : Reader Bool := do
  if isIdentifier (← peek) then return isSymbol (← peekAhead 1) s else return false

/-- The outcome of a step if it succeeds. Otherwise the cursor goes back, except when the
failure satisfies `final`: such a failure stands. -/
def attemptUnless {α : Type} (final : SourceError → Bool) (p : Reader α) : Reader (Option α) := do
  let start ← get
  try
    let a ← p
    return some a
  catch e =>
    if final e then throw e
    modify fun c => { c with position := start.position }
    return none

/-- The outcome of a step if it succeeds; only a failure without explanation lets the cursor
go back. -/
def attempt {α : Type} (p : Reader α) : Reader (Option α) :=
  attemptUnless (fun e => !isGeneric e) p

/-- The outcome of a step if it succeeds; only the end of the tokens is a failure that lets
the cursor not go back. -/
def attemptWithin {α : Type} (p : Reader α) : Reader (Option α) := do
  match (← get).stream.ending with
  | .flawed f | .misplaced f | .cutOff f => attemptUnless (fun e => e = f) p
  | .complete => attemptUnless (fun _ => false) p

/-- The outcome of a step if it succeeds; every failure lets the cursor go back. -/
def attemptAny {α : Type} (p : Reader α) : Reader (Option α) := attemptUnless (fun _ => false) p

/-- Whether a step would succeed; the cursor stays where it is. -/
def wouldRead {α : Type} (p : Reader α) : Reader Bool := do
  let start ← get
  let found ← attempt p
  modify fun c => { c with position := start.position, reached := start.reached }
  return found.isSome

/-- Repeats a step until it has nothing, at most `fuel` times. -/
def repeatedly {α : Type} (p : Reader (Option α)) : Nat → Reader (List α)
  | 0 => return []
  | fuel + 1 => do
    match ← p with
    | some a => return a :: (← repeatedly p fuel)
    | none => return []

/-- The number of tokens, which bounds every repetition. -/
def bound : Reader Nat := return (← get).stream.tokens.size + 1

/-- Repeats a step until it has nothing. -/
def many {α : Type} (p : Reader (Option α)) : Reader (List α) := do repeatedly p (← bound)

/-- Items with commas between them, a comma after the last one allowed, as long as
`more` finds that another item begins. The answer tells whether a comma came last. -/
def commaSeparated {α : Type} (item : Reader α) (more : Reader Bool) : Reader (List α × Bool) := do
  let first ← item
  let rest ← many do
    if ← atSymbol "," then
      let start ← get
      advance
      if ← more then return some (← item)
      else
        modify fun c => { c with position := start.position }
        return none
    else return none
  let last ← acceptSymbol ","
  return (first :: rest, last)

end ChartScript.Script.Grammar
