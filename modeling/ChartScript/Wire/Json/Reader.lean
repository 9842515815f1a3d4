import ChartScript.Wire.Value
import ChartScript.Number.Reading
/-!
# Reading JSON

A reader of JSON texts that keeps the order of fields, tells integers from floating
point numbers and reports the first fault with its position. Beyond the standard it
admits the words for NaN and the infinities. Of repeated field names the last value
counts, at the place of the first.
-/

namespace ChartScript.Wire.Json

/-- What is wrong with a text. -/
inductive Fault where
  /-- No value starts here. -/
  | expectingValue
  /-- An object needs a quoted name here. -/
  | expectingName
  /-- A colon is missing. -/
  | expectingColon
  /-- A comma is missing. -/
  | expectingComma
  /-- The text goes on after its value. -/
  | extraData
  /-- A string that starts here has no end. -/
  | unterminated
  /-- A control character stands inside a string. -/
  | controlCharacter
  /-- An unknown escape. -/
  | badEscape
  /-- An escape by code point without four hexadecimal digits. -/
  | badUnicodeEscape
  /-- The text starts with a byte order mark. -/
  | byteOrderMark
  deriving Repr, DecidableEq

/-- The wording of a fault. -/
def Fault.message : Fault → String
  | .expectingValue => "Expecting value"
  | .expectingName => "Expecting property name enclosed in double quotes"
  | .expectingColon => "Expecting ':' delimiter"
  | .expectingComma => "Expecting ',' delimiter"
  | .extraData => "Extra data"
  | .unterminated => "Unterminated string starting at"
  | .controlCharacter => "Invalid control character at"
  | .badEscape => "Invalid \\escape"
  | .badUnicodeEscape => "Invalid \\uXXXX escape"
  | .byteOrderMark => "Unexpected UTF-8 BOM (decode using utf-8-sig)"

/-- A fault and the number of characters before it. -/
structure Failure where
  /-- What is wrong. -/
  fault : Fault
  /-- Where it is wrong. -/
  position : Nat
  deriving Repr, DecidableEq

/-- The unread rest of a text and the number of characters read. -/
structure Cursor where
  /-- The unread characters. -/
  rest : List Char
  /-- The number of characters read. -/
  position : Nat

/-- The cursor after `n` more characters. -/
def Cursor.skip (c : Cursor) (n : Nat) : Cursor := ⟨c.rest.drop n, c.position + n⟩

/-- The blanks of JSON. -/
def isBlank (c : Char) : Bool := c = ' ' || c = '\t' || c = '\n' || c = '\r'

/-- The cursor at the next character that is not blank. -/
def Cursor.skipBlanks (c : Cursor) : Cursor := c.skip (c.rest.takeWhile isBlank).length

/-- A failure at a cursor. -/
def Cursor.fail {α : Type} (c : Cursor) (fault : Fault) : Except Failure α :=
  .error ⟨fault, c.position⟩

/-- The value of a hexadecimal digit. -/
def hexValue? (c : Char) : Option Nat :=
  if c.isDigit then some (c.toNat - 48)
  else if 'a' ≤ c && c ≤ 'f' then some (c.toNat - 87)
  else if 'A' ≤ c && c ≤ 'F' then some (c.toNat - 55)
  else none

/-- The value of four hexadecimal digits. -/
def hexFour? (cs : List Char) : Option Nat :=
  if cs.length = 4 then
    cs.foldl (fun acc c => acc.bind fun n => (hexValue? c).map (16 * n + ·)) (some 0)
  else none

/-- The character behind a one-letter escape. -/
def simpleEscape? : Char → Option Char
  | '"' => some '"'
  | '\\' => some '\\'
  | '/' => some '/'
  | 'b' => some '\x08'
  | 'f' => some '\x0c'
  | 'n' => some '\n'
  | 'r' => some '\r'
  | 't' => some '\t'
  | _ => none

/-- Characters for a list of UTF-16 units: pairs are joined, lone halves become the
replacement character. -/
def joinUnits : List Nat → List Char
  | [] => []
  | u :: v :: rest =>
    if 0xD800 ≤ u && u < 0xDC00 && 0xDC00 ≤ v && v < 0xE000 then
      Char.ofNat (0x10000 + (u - 0xD800) * 0x400 + (v - 0xDC00)) :: joinUnits rest
    else
      (if 0xD800 ≤ u && u < 0xE000 then Char.ofNat 0xFFFD else Char.ofNat u) :: joinUnits (v :: rest)
  | [u] => [if 0xD800 ≤ u && u < 0xE000 then Char.ofNat 0xFFFD else Char.ofNat u]

/-- Reads a string after its opening quote at `start`. The result is collected in
reverse; `units` holds the escapes by code point that directly precede. -/
def readString (start : Nat) :
    List Char → Nat → List Nat → List Char → Except Failure (String × Cursor)
  | [], _, _, _ => .error ⟨.unterminated, start⟩
  | '"' :: rest, at_, units, done =>
    .ok (String.ofList ((joinUnits units.reverse).reverse ++ done).reverse, ⟨rest, at_ + 1⟩)
  | '\\' :: rest, at_, units, done =>
    match rest with
    | [] => .error ⟨.unterminated, start⟩
    | 'u' :: a :: b :: c :: d :: more =>
      if more.isEmpty then .error ⟨.badUnicodeEscape, at_ + 1⟩
      else
        match hexFour? [a, b, c, d] with
        | some u => readString start more (at_ + 6) (u :: units) done
        | none => .error ⟨.badUnicodeEscape, at_ + 1⟩
    | 'u' :: _ => .error ⟨.badUnicodeEscape, at_ + 1⟩
    | e :: more =>
      match simpleEscape? e with
      | some c => readString start more (at_ + 2) [] (c :: (joinUnits units.reverse).reverse ++ done)
      | none => .error ⟨.badEscape, at_⟩
  | c :: rest, at_, units, done =>
    if c.toNat < 32 then .error ⟨.controlCharacter, at_⟩
    else readString start rest (at_ + 1) [] (c :: (joinUnits units.reverse).reverse ++ done)

/-- Splits off the digits at the front. -/
def spanDigits (cs : List Char) : List Char × List Char :=
  (cs.takeWhile Char.isDigit, cs.dropWhile Char.isDigit)

/-- The fraction of a number with its point, if the point has a digit after it. -/
def fractionOf (cs : List Char) : List Char :=
  match cs with
  | '.' :: more => let (ds, _) := spanDigits more; if ds.isEmpty then [] else '.' :: ds
  | _ => []

/-- The exponent of a number with its mark, if it has a digit. -/
def exponentOf (cs : List Char) : List Char :=
  match cs with
  | e :: more =>
    if e = 'e' || e = 'E' then
      let (sign, rest) :=
        match more with
        | '-' :: r => (['-'], r)
        | '+' :: r => (['+'], r)
        | _ => ([], more)
      let (ds, _) := spanDigits rest
      if ds.isEmpty then [] else e :: sign ++ ds
    else []
  | [] => []

/-- Reads a number at a cursor. -/
def readNumber (c : Cursor) : Except Failure (Wire × Cursor) :=
  let negative := c.rest.head? = some '-'
  let body := if negative then c.rest.drop 1 else c.rest
  let (ds, _) := spanDigits body
  let whole := if ds.head? = some '0' then ['0'] else ds
  if whole.isEmpty then c.fail .expectingValue
  else
    let after := body.drop whole.length
    let fraction := fractionOf after
    let exponent := exponentOf (after.drop fraction.length)
    let used := (if negative then 1 else 0) + whole.length + fraction.length + exponent.length
    let next := c.skip used
    if fraction.isEmpty && exponent.isEmpty then
      let n := (Number.asciiNat? whole).getD 0
      .ok (.int (if negative then -(n : Int) else n), next)
    else
      match Number.decimalParts? (whole ++ fraction ++ exponent) with
      | some p => .ok (.float (p.toFloat negative), next)
      | none => c.fail .expectingValue

/-- The words that stand for a value. -/
def words : List (List Char × Wire) := [
  ("null".toList, .null), ("true".toList, .bool true), ("false".toList, .bool false),
  ("NaN".toList, .float Number.nan), ("Infinity".toList, .float Number.infinity),
  ("-Infinity".toList, .float Number.negInfinity)]

/-- Reads a value that is no string, list or object. -/
def readScalar (c : Cursor) : Except Failure (Wire × Cursor) :=
  match words.find? fun w => w.1.isPrefixOf c.rest with
  | some (word, w) => .ok (w, c.skip word.length)
  | none => readNumber c

mutual

/-- Reads the value at a cursor; `fuel` bounds nesting and length. -/
def readValue : Nat → Cursor → Except Failure (Wire × Cursor)
  | 0, c => c.fail .expectingValue
  | fuel + 1, c =>
    match c.rest with
    | '"' :: rest =>
      (readString c.position rest (c.position + 1) [] []).map fun r => (Wire.text r.1, r.2)
    | '{' :: _ =>
      let next := (c.skip 1).skipBlanks
      match next.rest with
      | '}' :: _ => .ok (.object [], next.skip 1)
      | _ => readMembers fuel next []
    | '[' :: _ =>
      let next := (c.skip 1).skipBlanks
      match next.rest with
      | ']' :: _ => .ok (.list [], next.skip 1)
      | _ => readItems fuel next []
    | _ => readScalar c

/-- Reads the items of a list up to its closing bracket. -/
def readItems : Nat → Cursor → List Wire → Except Failure (Wire × Cursor)
  | 0, c, _ => c.fail .expectingValue
  | fuel + 1, c, done =>
    match readValue fuel c with
    | .error e => .error e
    | .ok (w, next) =>
      let next := next.skipBlanks
      match next.rest with
      | ']' :: _ => .ok (.list (w :: done).reverse, next.skip 1)
      | ',' :: _ => readItems fuel (next.skip 1).skipBlanks (w :: done)
      | _ => next.fail .expectingComma

/-- Reads the fields of an object up to its closing brace. -/
def readMembers : Nat → Cursor → List (String × Wire) → Except Failure (Wire × Cursor)
  | 0, c, _ => c.fail .expectingName
  | fuel + 1, c, done =>
    match c.rest with
    | '"' :: rest =>
      match readString c.position rest (c.position + 1) [] [] with
      | .error e => .error e
      | .ok (name, next) =>
        let next := next.skipBlanks
        match next.rest with
        | ':' :: _ =>
          match readValue fuel (next.skip 1).skipBlanks with
          | .error e => .error e
          | .ok (w, next) =>
            let next := next.skipBlanks
            let done := Assoc.put done name w
            match next.rest with
            | '}' :: _ => .ok (.object done, next.skip 1)
            | ',' :: _ => readMembers fuel (next.skip 1).skipBlanks done
            | _ => next.fail .expectingComma
        | _ => next.fail .expectingColon
    | _ => c.fail .expectingName

end

/-- The value that a whole text denotes. -/
def parse (s : String) : Except Failure Wire :=
  let cs := s.toList
  if cs.head? = some (Char.ofNat 0xFEFF) then .error ⟨.byteOrderMark, 0⟩
  else
    match readValue (2 * cs.length + 4) (Cursor.skipBlanks ⟨cs, 0⟩) with
    | .error e => .error e
    | .ok (w, next) =>
      let next := next.skipBlanks
      if next.rest.isEmpty then .ok w else next.fail .extraData

end ChartScript.Wire.Json
