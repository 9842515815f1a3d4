import ChartScript.Script.Refusal
import ChartScript.Text.CharClass
/-!
# Tokens

Splitting the text of a script into tokens. Line ends separate statements outside of
brackets, and the blanks at the start of a line open and close blocks. The reader stops
at the first flaw, which is kept beside the tokens before it.
-/

namespace ChartScript.Script

open ChartScript.Text

/-- The kinds of tokens. -/
inductive TokenKind where
  /-- A name or keyword. -/
  | name
  /-- A number literal. -/
  | number
  /-- A text or byte literal with its prefix and quotes. -/
  | text
  /-- An operator, bracket or separator. -/
  | symbol
  /-- The end of a statement's line. -/
  | newline
  /-- The start of a block. -/
  | indent
  /-- The end of a block. -/
  | dedent
  /-- The end of the text. -/
  | finish
  deriving Repr, DecidableEq, Inhabited

/-- A token. -/
structure Token where
  /-- Its kind. -/
  kind : TokenKind
  /-- Its characters. -/
  text : String
  /-- The line it begins on. -/
  line : Nat
  /-- The line it ends on. -/
  lastLine : Nat
  /-- How many brackets are open after it. -/
  depth : Nat
  deriving Repr, DecidableEq, Inhabited

/-- How the reading of tokens ended. -/
inductive Ending where
  /-- At the end of the text. -/
  | complete
  /-- At a flaw in a token, which outweighs any flaw in the order of tokens. -/
  | flawed (error : SourceError)
  /-- At a flaw in the layout of lines, which matters only when it is reached. -/
  | misplaced (error : SourceError)
  /-- At the end of the text with open brackets, or after a backslash. -/
  | cutOff (error : SourceError)
  deriving Repr, DecidableEq, Inhabited

/-- The tokens of a text and how their reading ended. -/
structure TokenStream where
  /-- The tokens. -/
  tokens : Array Token
  /-- The ending. -/
  ending : Ending
  /-- The line on which the reading ended. -/
  lastLine : Nat
  deriving Inhabited

/-- The text with every line end written as a line feed. -/
def normalizeLines : List Char → List Char
  | '\r' :: '\n' :: rest => '\n' :: normalizeLines rest
  | '\r' :: rest => '\n' :: normalizeLines rest
  | c :: rest => c :: normalizeLines rest
  | [] => []

/-- The text with a line end after its last line. -/
def closeLastLine (cs : List Char) : List Char :=
  if cs.isEmpty || cs.getLast? = some '\n' then cs else cs ++ ['\n']

namespace Token

/-- Operators of three characters. -/
def threeChars : List String := ["**=", "//=", ">>=", "<<=", "..."]

/-- Operators of two characters. -/
def twoChars : List String :=
  ["==", "!=", "<=", ">=", "<<", ">>", "**", "//", "+=", "-=", "*=", "/=", "%=", "&=", "|=", "^=",
    "@=", "->", ":=", "<>"]

/-- The operator that a text begins with, and the rest. -/
def operator (cs : List Char) : String × List Char :=
  let three := String.ofList (cs.take 3)
  let two := String.ofList (cs.take 2)
  if threeChars.contains three then (three, cs.drop 3)
  else if twoChars.contains two then (two, cs.drop 2)
  else (String.ofList (cs.take 1), cs.drop 1)

/-- Whether a character can be part of a name, before closer inspection. -/
def maybeName (c : Char) : Bool := c.isAlphanum || c = '_' || 128 ≤ c.toNat

/-- Whether a character can begin a name, before closer inspection. -/
def maybeNameStart (c : Char) : Bool := c.isAlpha || c = '_' || 128 ≤ c.toNat

/-- The first character that keeps a text from being a name. -/
def nameFlaw? : List Char → Option Char
  | [] => none
  | c :: rest => if CharClass.isNameStart c then rest.find? fun d => !CharClass.isNameRest d else some c

/-- Words that may follow a number without a blank: the rest of each after its first letter. -/
def followers : List (Char × List Char) :=
  [('a', ['n', 'd']), ('e', ['l', 's', 'e']), ('f', ['o', 'r']), ('o', ['r']), ('n', ['o', 't'])]

/-- Whether a number literal may end before a text. -/
def mayEndBefore (cs : List Char) : Bool :=
  match cs with
  | [] => true
  | c :: rest =>
    if !maybeName c then true
    else if c = 'i' then
      match rest with
      | d :: _ => d = 'f' || d = 'n' || d = 's'
      | [] => false
    else
      match followers.lookup c with
      | some word => word.isPrefixOf rest && !((rest.drop word.length).head?.any maybeName)
      | none => false

/-- The end of a number literal of a kind: nothing that could belong to it may follow. -/
def endNumber (kind : String) (cs : List Char) : Except Flaw (List Char) :=
  if mayEndBefore cs then .ok cs else .error (.badNumber kind)

/-- Digits that satisfy `digit`, single underscores between them; at least one digit is
needed at the start. What follows the digits is left. -/
def digitRun (digit : Char → Bool) (bad : List Char → Flaw) : Nat → List Char → Except Flaw (List Char)
  | 0, cs => .ok cs
  | fuel + 1, cs =>
    match cs with
    | c :: _ =>
      if digit c then
        match cs.dropWhile digit with
        | '_' :: rest => digitRun digit bad fuel rest
        | rest => .ok rest
      else .error (bad cs)
    | [] => .error (bad cs)

/-- Decimal digits. -/
def decimalRun (cs : List Char) : Except Flaw (List Char) :=
  digitRun Char.isDigit (fun _ => .badNumber "decimal") (cs.length + 1) cs

/-- Whether a text begins with a digit. -/
def startsWithDigit : List Char → Bool
  | c :: _ => c.isDigit
  | [] => false

/-- A number in another base, after its two-character mark. -/
def basedNumber (kind : String) (digit : Char → Bool) (cs : List Char) : Except Flaw (List Char) := do
  let bad (rest : List Char) : Flaw :=
    match rest with
    | c :: _ => if c.isDigit && kind != "hexadecimal" then .badDigit c kind else .badNumber kind
    | [] => .badNumber kind
  let start := match cs with | '_' :: rest => rest | _ => cs
  let rest ← digitRun digit bad (cs.length + 1) start
  if startsWithDigit rest then throw (bad rest)
  endNumber kind rest

/-- The rest of a number after its digits and fraction: an exponent and the imaginary mark. -/
def numberTail (cs : List Char) : Except Flaw (List Char) := do
  let finishNumber (rest : List Char) : Except Flaw (List Char) :=
    match rest with
    | c :: more =>
      if c = 'j' || c = 'J' then endNumber "imaginary" more else endNumber "decimal" rest
    | [] => .ok rest
  match cs with
  | c :: rest =>
    if c = 'e' || c = 'E' then
      match rest with
      | sign :: digits =>
        if sign = '+' || sign = '-' then
          if startsWithDigit digits then finishNumber (← decimalRun digits)
          else throw (.badNumber "decimal")
        else if sign.isDigit then finishNumber (← decimalRun rest)
        else
          let _ ← endNumber "decimal" cs
          return cs
      | [] =>
        let _ ← endNumber "decimal" cs
        return cs
    else finishNumber cs
  | [] => return cs

/-- The rest of a number after the point. -/
def fractionTail (cs : List Char) : Except Flaw (List Char) := do
  let rest ← if startsWithDigit cs then decimalRun cs else pure cs
  numberTail rest

/-- Zeros with single underscores between them, at the start of a text. -/
def zeroRun : Nat → List Char → Except Flaw (List Char)
  | 0, cs => .ok cs
  | fuel + 1, cs =>
    match cs with
    | '0' :: rest => zeroRun fuel rest
    | '_' :: rest => if startsWithDigit rest then zeroRun fuel rest else .error (.badNumber "decimal")
    | _ => .ok cs

/-- The text after the number literal at its start. -/
def afterNumber (cs : List Char) : Except Flaw (List Char) := do
  match cs with
  | '.' :: rest => fractionTail rest
  | '0' :: mark :: rest =>
    if mark = 'x' || mark = 'X' then
      basedNumber "hexadecimal" (fun c => c.isDigit || ('a' ≤ c.toLower && c.toLower ≤ 'f')) rest
    else if mark = 'o' || mark = 'O' then
      basedNumber "octal" (fun c => '0' ≤ c && c < '8') rest
    else if mark = 'b' || mark = 'B' then
      basedNumber "binary" (fun c => c = '0' || c = '1') rest
    else
      let zeros ← zeroRun cs.length cs
      let nonzero := startsWithDigit zeros
      let digits ← if nonzero then decimalRun zeros else pure zeros
      match digits with
      | '.' :: fraction => fractionTail fraction
      | c :: _ =>
        if c = 'e' || c = 'E' || c = 'j' || c = 'J' then numberTail digits
        else if nonzero then throw .leadingZeros
        else endNumber "decimal" digits
      | [] => if nonzero then throw .leadingZeros else return digits
  | _ =>
    let digits ← decimalRun cs
    match digits with
    | '.' :: fraction => fractionTail fraction
    | _ => numberTail digits

/-- Whether letters in front of a quote are the prefix of a literal. -/
def isLiteralPrefix (letters : List Char) : Bool :=
  let lower := letters.map Char.toLower
  [[], ['b'], ['u'], ['r'], ['f'], ['b', 'r'], ['r', 'b'], ['f', 'r'], ['r', 'f']].contains lower

/-- The quote of the literal at the start of a text, if there is a literal. -/
def literalQuote? (cs : List Char) : Option (List Char × Char × List Char) :=
  let letters := (cs.takeWhile Char.isAlpha).take 2
  match cs.drop letters.length with
  | q :: rest => if (q = '\'' || q = '"') && isLiteralPrefix letters then some (letters, q, rest) else none
  | [] => none

/-- Reads a literal up to its closing quotes, `size` of them. The answer is the body with its
quotes, the rest and the line reached; nothing when the literal is not closed, with the
line reached. -/
def literalBody (quote : Char) (size : Nat) :
    Nat → List Char → Nat → List Char → Except Nat (List Char × List Char × Nat)
  | _, [], line, _ => .error (line - 1)
  | closing, c :: rest, line, body =>
    if c = '\n' && size = 1 then .error line
    else if c = quote then
      if closing + 1 = size then .ok ((c :: body).reverse, rest, line)
      else literalBody quote size (closing + 1) rest line (c :: body)
    else if c = '\\' then
      match rest with
      | d :: more => literalBody quote size 0 more (if d = '\n' then line + 1 else line) (d :: c :: body)
      | [] => .error (line - 1)
    else literalBody quote size 0 rest (if c = '\n' then line + 1 else line) (c :: body)

/-- A literal after its opening quote: the characters of the literal, the rest and the line
it ends on, or the flaw. -/
def literal (quote : Char) (cs : List Char) (line : Nat) :
    Except Flaw (List Char × List Char × Nat) :=
  let long : Bool := match cs with | a :: b :: _ => a = quote && b = quote | _ => false
  let empty : Bool := match cs with | a :: _ => a = quote | [] => false
  if long then
    match literalBody quote 3 0 (cs.drop 2) line [] with
    | .ok (body, rest, last) => .ok (quote :: quote :: quote :: body, rest, last)
    | .error last => .error (.openLongText last)
  else if empty then .ok ([quote, quote], cs.drop 1, line)
  else
    match literalBody quote 1 0 cs line [] with
    | .ok (body, rest, last) => .ok (quote :: body, rest, last)
    | .error last => .error (.openText last)

end Token

/-- The bracket that closes another one. -/
def closingOf? : Char → Option Char
  | '(' => some ')'
  | '[' => some ']'
  | '{' => some '}'
  | _ => none

/-- Most brackets inside each other. -/
def maxBrackets : Nat := 200

/-- Most levels of indentation. -/
def maxIndents : Nat := 100

/-- The reader of tokens between two tokens. -/
structure TokenReader where
  /-- The text that is left. -/
  rest : List Char
  /-- The line it is on. -/
  line : Nat
  /-- The open brackets with their lines, innermost first. -/
  brackets : List (Char × Nat)
  /-- The open indentations, innermost first: columns with tabs to multiples of eight and
  with tabs as single columns. -/
  indents : List (Nat × Nat)
  /-- The tokens so far. -/
  tokens : Array Token

namespace TokenReader

/-- What a step of the reader leads to. -/
inductive Next where
  /-- It goes on in the middle of a line. -/
  | onLine (reader : TokenReader)
  /-- It goes on at the start of a line. -/
  | atStart (reader : TokenReader)
  /-- It stops. -/
  | stop (reader : TokenReader) (ending : Ending)

/-- Adds a token. -/
def push (r : TokenReader) (kind : TokenKind) (text : String) (lastLine : Nat) (rest : List Char) :
    TokenReader :=
  { r with
    rest, line := lastLine
    tokens := r.tokens.push ⟨kind, text, r.line, lastLine, r.brackets.length⟩ }

/-- Stops at a flaw in a token. -/
def flawed (r : TokenReader) (flaw : Flaw) : Next := .stop r (.flawed ⟨some r.line, flaw⟩)

/-- Stops at a flaw in the layout. -/
def misplaced (r : TokenReader) (flaw : Flaw) : Next := .stop r (.misplaced ⟨some r.line, flaw⟩)

/-- The line of the last character of the text. -/
def endLine (r : TokenReader) : Nat := r.line - 1

/-- Stops at the end of the text: all blocks are closed, unless a bracket is open. -/
def finish (r : TokenReader) : Next :=
  match r.brackets with
  | (opening, line) :: _ => .stop r (.cutOff ⟨some line, .neverClosed opening⟩)
  | [] =>
    let last := r.endLine
    let close (ts : Array Token) (kind : TokenKind) : Array Token := ts.push ⟨kind, "", last, last, 0⟩
    let dedents := (r.indents.dropLast).foldl (fun ts _ => close ts .dedent) r.tokens
    .stop { r with tokens := close dedents .finish } .complete

/-- Goes over a line end that is escaped by a backslash. -/
def continueLine (r : TokenReader) (after : List Char) : Except Next TokenReader :=
  match after with
  | '\n' :: [] =>
    match r.brackets with
    | (opening, line) :: _ => .error (.stop r (.cutOff ⟨some line, .neverClosed opening⟩))
    | [] => .error (.stop r (.cutOff ⟨some r.line, .unexpectedEnd⟩))
  | '\n' :: rest => .ok { r with rest, line := r.line + 1 }
  | _ => .error (r.misplaced .afterBackslash)

/-- The columns of the blanks at the start of a line, and the reader after them. A line end
that is escaped there continues the line, whose column is that of the first part. -/
def measure : Nat → TokenReader → Nat → Nat → Nat → Except Next (TokenReader × Nat × Nat)
  | 0, r, column, plain, _ => .ok (r, column, plain)
  | fuel + 1, r, column, plain, first =>
    match r.rest with
    | ' ' :: rest => measure fuel { r with rest } (column + 1) (plain + 1) first
    | '\t' :: rest => measure fuel { r with rest } ((column / 8 + 1) * 8) (plain + 1) first
    | '\x0c' :: rest => measure fuel { r with rest } 0 0 first
    | '\\' :: rest =>
      let first := if first = 0 then column else first
      match r.continueLine rest with
      | .ok next => measure fuel next column plain first
      | .error stopped => .error stopped
    | _ => if first = 0 then .ok (r, column, plain) else .ok (r, first, first)

/-- Closes indentations deeper than a column. -/
def dedentTo (column : Nat) : List (Nat × Nat) → TokenReader → TokenReader
  | (c, p) :: rest, r =>
    if column < c then
      dedentTo column rest { r with
        indents := rest
        tokens := r.tokens.push ⟨.dedent, "", r.line, r.line, 0⟩ }
    else { r with indents := (c, p) :: rest }
  | [], r => { r with indents := [] }

/-- The start of a line: its indentation opens or closes blocks, unless the line has no
content or a bracket is open. -/
def lineStart (r : TokenReader) : Next :=
  match measure (r.rest.length + 1) r 0 0 0 with
  | .error next => next
  | .ok (r, column, plain) =>
    match r.rest with
    | [] => if r.brackets.isEmpty then r.finish else .onLine r
    | c :: _ =>
      if c = '#' || c = '\n' then
        match (r.rest.dropWhile (· != '\n')) with
        | _ :: rest => .atStart { r with rest, line := r.line + 1 }
        | [] => .onLine { r with rest := [] }
      else if !r.brackets.isEmpty then .onLine r
      else
        let (current, currentPlain) := r.indents.headD (0, 0)
        if column = current then
          if plain = currentPlain then .onLine r else r.misplaced .mixedTabs
        else if current < column then
          if maxIndents ≤ r.indents.length then r.misplaced .tooDeep
          else if plain ≤ currentPlain then r.misplaced .mixedTabs
          else
            .onLine { r with
              indents := (column, plain) :: r.indents
              tokens := r.tokens.push ⟨.indent, "", r.line, r.line, 0⟩ }
        else
          let closed := dedentTo column r.indents r
          let (reached, reachedPlain) := closed.indents.headD (0, 0)
          if column != reached then r.misplaced .badDedent
          else if plain != reachedPlain then r.misplaced .mixedTabs
          else .onLine closed

/-- A bracket, operator or separator. -/
def symbol (r : TokenReader) (c : Char) (after : List Char) : Next :=
  if c = '(' || c = '[' || c = '{' then
    if maxBrackets ≤ r.brackets.length then r.flawed .tooManyBrackets
    else
      .onLine (({ r with brackets := (c, r.line) :: r.brackets }).push .symbol (charText c) r.line after)
  else if c = ')' || c = ']' || c = '}' then
    match r.brackets with
    | [] => r.flawed (.unmatched c)
    | (opening, line) :: outer =>
      if closingOf? opening = some c then
        .onLine (({ r with brackets := outer }).push .symbol (charText c) r.line after)
      else r.flawed (.mismatched c opening (if line = r.line then none else some line))
  else
    let (op, rest) := Token.operator (c :: after)
    if op.length = 1 && !CharClass.isPrintable c then r.flawed (.hiddenCharacter c)
    else .onLine (r.push .symbol op r.line rest)

/-- A name that begins here. -/
def nameToken (r : TokenReader) : Next :=
  let word := r.rest.takeWhile Token.maybeName
  match Token.nameFlaw? word with
  | some c =>
    r.flawed (if CharClass.isPrintable c then .badCharacter c else .hiddenCharacter c)
  | none => .onLine (r.push .name (String.ofList word) r.line (r.rest.drop word.length))

/-- The next token inside a line. -/
def onLine (r : TokenReader) : Next :=
  match r.rest with
  | [] => r.finish
  | c :: after =>
    if c = ' ' || c = '\t' || c = '\x0c' then
      .onLine { r with rest := r.rest.dropWhile fun d => d = ' ' || d = '\t' || d = '\x0c' }
    else if c = '#' then .onLine { r with rest := r.rest.dropWhile (· != '\n') }
    else if c = '\n' then
      if r.brackets.isEmpty then
        let next := r.push .newline "" r.line after
        .atStart { next with line := r.line + 1 }
      else .atStart { r with rest := after, line := r.line + 1 }
    else if c = '\\' then
      match r.continueLine after with
      | .ok next => .onLine next
      | .error next => next
    else
      match Token.literalQuote? r.rest with
      | some (letters, quote, body) =>
        match Token.literal quote body r.line with
        | .ok (chars, rest, last) =>
          .onLine (r.push .text (String.ofList (letters ++ chars)) last rest)
        | .error flaw => r.flawed flaw
      | none =>
        if Token.maybeNameStart c then r.nameToken
        else if c.isDigit || (c = '.' && Token.startsWithDigit after) then
          match Token.afterNumber r.rest with
          | .ok rest =>
            let length := r.rest.length - rest.length
            .onLine (r.push .number (String.ofList (r.rest.take length)) r.line rest)
          | .error flaw => r.flawed flaw
        else r.symbol c after

/-- Reads tokens until the reader stops, with as many steps as `fuel` allows. -/
def run : Nat → Next → TokenStream
  | _, .stop r ending => ⟨r.tokens, ending, r.line⟩
  | 0, .onLine r => ⟨r.tokens, .complete, r.line⟩
  | 0, .atStart r => ⟨r.tokens, .complete, r.line⟩
  | fuel + 1, .onLine r => run fuel r.onLine
  | fuel + 1, .atStart r => run fuel r.lineStart

end TokenReader

/-- The tokens of a text that begins on a line. -/
def tokensFrom (line : Nat) (text : List Char) : TokenStream :=
  TokenReader.run (3 * text.length + 3) (.atStart ⟨text, line, [], [(0, 0)], #[]⟩)

/-- The tokens of a script. -/
def tokensOf (source : String) : TokenStream :=
  tokensFrom 1 (closeLastLine (normalizeLines source.toList))

end ChartScript.Script
