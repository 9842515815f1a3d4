import ChartScript.Number.Reading
import ChartScript.Script.Refusal
import ChartScript.Script.Syntax
/-!
# Literals

The values of number, text and byte literals, and the pieces of formatted texts. A
formatted text is cut into literal pieces and replacement fields; the text of a field's
expression is left to the grammar.
-/

namespace ChartScript.Script.Literal

open ChartScript.Number (decimalParts?)

/-- The value of a digit in a base up to sixteen. -/
def digitValue? (base : Nat) (c : Char) : Option Nat :=
  let value : Option Nat :=
    if c.isDigit then some (c.toNat - 48)
    else
      let lower := c.toLower
      if 'a' ≤ lower && lower ≤ 'f' then some (lower.toNat - 87) else none
  value.filter (· < base)

/-- The number that digits of a base denote; other characters are passed over. -/
def natOfDigits (base : Nat) (cs : List Char) : Nat :=
  cs.foldl (fun n c => match digitValue? base c with | some d => n * base + d | none => n) 0

/-- The floating point number of a decimal literal. -/
def floatOfDecimal (cs : List Char) : Float :=
  match decimalParts? cs with
  | some parts => parts.toFloat false
  | none => 0

/-- The value of an integer literal in base ten; many zeros are not too many digits. -/
def decimalInt (cs : List Char) : Except Flaw Constant :=
  if maxDigits < cs.length && cs.any (· != '0') then .error (.tooManyDigits cs.length)
  else .ok (.int (natOfDigits 10 cs))

/-- The value of a number literal. -/
def number (text : String) : Except Flaw Constant :=
  let cs := text.toList.filter (· != '_')
  match cs with
  | '0' :: mark :: digits =>
    if mark = 'x' || mark = 'X' then .ok (.int (natOfDigits 16 digits))
    else if mark = 'o' || mark = 'O' then .ok (.int (natOfDigits 8 digits))
    else if mark = 'b' || mark = 'B' then .ok (.int (natOfDigits 2 digits))
    else decimal cs
  | _ => decimal cs
where
  /-- The value of a literal in base ten. -/
  decimal (cs : List Char) : Except Flaw Constant :=
    let last := cs.getLast?
    if last = some 'j' || last = some 'J' then .ok (.imaginary (floatOfDecimal cs.dropLast))
    else if cs.any fun c => c = '.' || c = 'e' || c = 'E' then .ok (.float (floatOfDecimal cs))
    else decimalInt cs

/-- A text or byte literal cut into its marks and its body. -/
structure Parts where
  /-- Escapes stand for themselves. -/
  raw : Bool
  /-- The literal denotes bytes. -/
  bytes : Bool
  /-- The literal has replacement fields. -/
  formatted : Bool
  /-- What stands between the quotes. -/
  body : List Char
  /-- How many characters stand before the body. -/
  skipped : Nat

/-- Cuts a literal into its parts. -/
def parts (text : String) : Parts :=
  let cs := text.toList
  let letters := (cs.takeWhile Char.isAlpha).map Char.toLower
  let quoted := cs.drop letters.length
  let long : Bool :=
    match quoted with
    | a :: b :: c :: _ => 6 ≤ quoted.length && a = b && b = c
    | _ => false
  let size := if long then 3 else 1
  { raw := letters.contains 'r'
    bytes := letters.contains 'b'
    formatted := letters.contains 'f'
    body := (quoted.drop size).take (quoted.length - 2 * size)
    skipped := letters.length + size }

/-- The character of a simple escape. -/
def simpleEscape? : Char → Option Char
  | '\\' => some '\\'
  | '\'' => some '\''
  | '"' => some '"'
  | 'a' => some '\x07'
  | 'b' => some '\x08'
  | 'f' => some '\x0c'
  | 'n' => some '\n'
  | 'r' => some '\r'
  | 't' => some '\t'
  | 'v' => some '\x0b'
  | _ => none

/-- Whether a character is an octal digit. -/
def isOctal (c : Char) : Bool := '0' ≤ c && c ≤ '7'

/-- Whether a character is a hexadecimal digit. -/
def isHex (c : Char) : Bool := (digitValue? 16 c).isSome

/-- The place that a character takes in the escaped form of a literal. -/
def width (c : Char) : Nat := if c.toNat < 128 then 1 else 10

/-- An escape by a fixed number of hexadecimal digits, at a position. -/
def codeEscape (digits : Nat) (what : String) (cs : List Char) (position : Nat) :
    Except Flaw Nat :=
  let found := (cs.take digits).takeWhile isHex
  if found.length = digits then
    let n := natOfDigits 16 found
    if n ≤ 0x10ffff then .ok n
    else .error (.badEscape position (position + 1 + digits) "illegal Unicode character")
  else .error (.badEscape position (position + 1 + found.length) what)

/-- The text of a literal's body; `position` counts the characters before. -/
def decodeText : Nat → List Char → Nat → Except Flaw (List Char)
  | 0, _, _ => .ok []
  | _, [], _ => .ok []
  | fuel + 1, '\\' :: c :: rest, position => do
    let next (chars used : List Char) : Except Flaw (List Char) := do
      let more ← decodeText fuel (rest.drop used.length) (position + 2 + used.length)
      return chars ++ more
    if c = '\n' then next [] []
    else if isOctal c then
      let more := (rest.take 2).takeWhile isOctal
      next [Char.ofNat (natOfDigits 8 (c :: more))] more
    else if c = 'x' then
      let n ← codeEscape 2 "truncated \\xXX escape" rest position
      next [Char.ofNat n] (rest.take 2)
    else if c = 'u' then
      let n ← codeEscape 4 "truncated \\uXXXX escape" rest position
      next [Char.ofNat n] (rest.take 4)
    else if c = 'U' then
      let n ← codeEscape 8 "truncated \\UXXXXXXXX escape" rest position
      next [Char.ofNat n] (rest.take 8)
    else if c = 'N' then
      match rest with
      | '{' :: name =>
        let inside := name.takeWhile (· != '}')
        if inside.length < name.length && !inside.isEmpty then
          throw (.badEscape position (position + 3 + inside.length) "unknown Unicode character name")
        else throw (.badEscape position (position + 2 + inside.length) "malformed \\N character escape")
      | _ => throw (.badEscape position (position + 1) "malformed \\N character escape")
    else
      match simpleEscape? c with
      | some d => next [d] []
      | none => next ['\\', c] []
  | fuel + 1, c :: rest, position => do
    let more ← decodeText fuel rest (position + width c)
    return c :: more

/-- The bytes of a literal's body. -/
def decodeBytes : Nat → List Char → Nat → Except Flaw (List Nat)
  | 0, _, _ => .ok []
  | _, [], _ => .ok []
  | fuel + 1, '\\' :: c :: rest, position => do
    let next (bytes : List Nat) (used : List Char) : Except Flaw (List Nat) := do
      let more ← decodeBytes fuel (rest.drop used.length) (position + 2 + used.length)
      return bytes ++ more
    if c = '\n' then next [] []
    else if isOctal c then
      let more := (rest.take 2).takeWhile isOctal
      next [natOfDigits 8 (c :: more) % 256] more
    else if c = 'x' then
      let found := (rest.take 2).takeWhile isHex
      if found.length = 2 then next [natOfDigits 16 found] found
      else throw (.badByteEscape position)
    else
      match simpleEscape? c with
      | some d => next [d.toNat] []
      | none => next [92, c.toNat] []
  | fuel + 1, c :: rest, position => do
    let more ← decodeBytes fuel rest (position + 1)
    return c.toNat :: more

/-- The text of a body that is raw or has escapes. -/
def text (raw : Bool) (body : List Char) : Except Flaw (List Char) :=
  if raw then .ok body else decodeText (body.length + 1) body 0

/-- The bytes of a body that is raw or has escapes. -/
def bytes (raw : Bool) (body : List Char) : Except Flaw (List Nat) :=
  if body.any fun c => 128 ≤ c.toNat then .error .wideBytes
  else if raw then .ok (body.map Char.toNat)
  else decodeBytes (body.length + 1) body 0

/-- A piece of a formatted text. -/
inductive Piece where
  /-- Literal text. -/
  | text (chars : List Char)
  /-- A replacement field: the text of its expression, the line it begins on, the
  conversion and the pieces of the format. -/
  | field (source : List Char) (line : Nat) (conversion : Option Char) (spec : Option (List Piece))

/-- How many line ends a text has. -/
def lineEnds (cs : List Char) : Nat := cs.count '\n'

/-- The literal text at the start of a body. The answer is the text, the rest and
whether a literal continues after a doubled brace. -/
def literalRun (raw nested : Bool) : Nat → List Char → List Char →
    Except Flaw (List Char × List Char × Bool)
  | 0, cs, done => .ok (done.reverse, cs, false)
  | _, [], done => .ok (done.reverse, [], false)
  | fuel + 1, c :: rest, done =>
    let brace (b : Char) (after : List Char) (before : List Char) :
        Except Flaw (List Char × List Char × Bool) :=
      if nested then .ok (before.reverse, b :: after, false)
      else if after.head? = some b then .ok ((b :: before).reverse, after.drop 1, true)
      else if b = '}' then .error (.formatted "single '\x7d' is not allowed")
      else .ok (before.reverse, b :: after, false)
    if c = '\\' && !raw then
      match rest with
      | 'N' :: '{' :: name =>
        let inside := name.takeWhile (· != '}')
        let after := name.drop (inside.length + 1)
        literalRun raw nested fuel after
          ((if inside.length < name.length then ['}'] else []) ++ inside.reverse ++ ['{', 'N', '\\'] ++ done)
      | d :: more =>
        if d = '{' || d = '}' then brace d more ('\\' :: done)
        else literalRun raw nested fuel more (d :: '\\' :: done)
      | [] => .ok (('\\' :: done).reverse, [], false)
    else if c = '{' || c = '}' then brace c rest done
    else literalRun raw nested fuel rest (c :: done)

/-- The quote that an expression is inside of, and whether it is a long one. -/
abbrev OpenQuote := Option (Char × Bool)

/-- The text of a field's expression at the start of a body, and the rest, which begins
with the character that ends the expression. -/
def fieldSource : Nat → OpenQuote → List Char → List Char → List Char →
    Except Flaw (List Char × List Char)
  | 0, _, _, cs, done => .ok (done.reverse, cs)
  | fuel + 1, quote, brackets, cs, done =>
    match cs with
    | [] =>
      match quote, brackets with
      | some _, _ => .error (.formatted "unterminated string")
      | none, b :: _ => .error (.formatted ("unmatched '" ++ charText b ++ "'"))
      | none, [] => .error (.formatted "expecting '\x7d'")
    | c :: rest =>
      let tripled : Bool := match rest with | a :: b :: _ => a = c && b = c | _ => false
      if c = '\\' then .error (.fieldCharacter "a backslash")
      else
        match quote with
        | some (q, long) =>
          if c = q then
            if long then
              if tripled then fieldSource fuel none brackets (rest.drop 2) (c :: c :: c :: done)
              else fieldSource fuel quote brackets rest (c :: done)
            else fieldSource fuel none brackets rest (c :: done)
          else fieldSource fuel quote brackets rest (c :: done)
        | none =>
          if c = '\'' || c = '"' then
            if tripled then
              fieldSource fuel (some (c, true)) brackets (rest.drop 2) (c :: c :: c :: done)
            else fieldSource fuel (some (c, false)) brackets rest (c :: done)
          else if c = '(' || c = '[' || c = '{' then fieldSource fuel none (c :: brackets) rest (c :: done)
          else if c = '#' then .error (.fieldCharacter "'#'")
          else if brackets.isEmpty && (c = '!' || c = ':' || c = '}' || c = '=' || c = '<' || c = '>') then
            if c != ':' && c != '}' && rest.head? = some '=' then
              fieldSource fuel none brackets (rest.drop 1) ('=' :: c :: done)
            else if c = '<' || c = '>' then fieldSource fuel none brackets rest (c :: done)
            else .ok (done.reverse, cs)
          else if c = ')' || c = ']' || c = '}' then
            match brackets with
            | [] => .error (.formatted ("unmatched '" ++ charText c ++ "'"))
            | b :: outer =>
              let fits : Bool := (b = '(' && c = ')') || (b = '[' && c = ']') || (b = '{' && c = '}')
              if fits then fieldSource fuel none outer rest (c :: done)
              else
                .error (.formatted ("closing parenthesis '" ++ charText c ++
                  "' does not match opening parenthesis '" ++ charText b ++ "'"))
          else fieldSource fuel none brackets rest (c :: done)

/-- The conversion of a field, after its exclamation mark. -/
def conversion (cs : List Char) : Except Flaw (Char × List Char) :=
  match cs with
  | [] => .error (.formatted "expecting '\x7d'")
  | c :: rest =>
    if c = 's' || c = 'r' || c = 'a' then .ok (c, rest)
    else .error (.formatted "invalid conversion character: expected 's', 'r', or 'a'")

/-- The pieces of a formatted text at a depth of nesting, up to its end or, in a format,
to the brace that ends the field. `line` is the line that the text has reached. -/
def pieces (raw : Bool) : Nat → Nat → List Char → Nat → Except Flaw (List Piece × List Char)
  | 0, _, cs, _ => .ok ([], cs)
  | fuel + 1, depth, cs, line => do
    let (chars, rest, continues) ← literalRun raw (0 < depth) (cs.length + 1) cs []
    let decoded ← text raw chars
    let literal : List Piece := if decoded.isEmpty then [] else [.text decoded]
    let line := line + lineEnds (cs.take (cs.length - rest.length))
    if continues then
      let (more, rest) ← pieces raw fuel depth rest line
      return (literal ++ more, rest)
    else
      match rest with
      | '{' :: inside =>
        if 2 ≤ depth then throw (.formatted "expressions nested too deeply")
        let (source, after) ← fieldSource (inside.length + 1) none [] inside []
        if source.all fun c => c = ' ' || c = '\t' || c = '\n' || c = '\x0c' || c = '\r' then
          match after with
          | c :: _ =>
            if c = '!' || c = ':' || c = '=' then
              throw (.formatted ("expression required before '" ++ charText c ++ "'"))
            else throw (.formatted "empty expression not allowed")
          | [] => throw (.formatted "empty expression not allowed")
        let (shown, after) : Option (List Char) × List Char :=
          match after with
          | '=' :: more =>
            let blanks := more.takeWhile fun c => c = ' ' || c = '\t' || c = '\n' || c = '\x0c'
            (some (source ++ '=' :: blanks), more.drop blanks.length)
          | _ => (none, after)
        let (mark, after) ←
          match after with
          | '!' :: more =>
            let (c, after) ← conversion more
            pure (some c, after)
          | _ => pure (none, after)
        let (spec, after) ←
          match after with
          | ':' :: more =>
            let (inner, after) ← pieces raw fuel (depth + 1) more line
            pure (some inner, after)
          | _ => pure (none, after)
        match after with
        | '}' :: after =>
          let mark := if shown.isSome && spec.isNone && mark.isNone then some 'r' else mark
          let line' := line + lineEnds (rest.take (rest.length - after.length))
          let (more, rest) ← pieces raw fuel depth after line'
          let lead : List Piece := match shown with | some chars => [.text chars] | none => []
          return (literal ++ lead ++ .field source line mark spec :: more, rest)
        | _ => throw (.formatted "expecting '\x7d'")
      | _ => return (literal, rest)

/-- The pieces of the body of a formatted text that begins on a line. -/
def formattedPieces (raw : Bool) (body : List Char) (line : Nat) : Except Flaw (List Piece) := do
  let (found, _) ← pieces raw (body.length + 2) 0 body line
  return found

end ChartScript.Script.Literal
