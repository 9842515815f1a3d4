import ChartScript.Number.Binary64
import ChartScript.Text.CharClass
/-!
# Reading numbers

Two dialects of number texts. The *script* dialect admits blanks of every kind around
the number, decimal digits of every script and single underscores between digits. The
*field* dialect of checked records is narrower in its digits and wider in its
underscores, and lets an integer carry a fraction of zeros.
-/

namespace ChartScript.Number

open ChartScript.Text

/-- A list without its blank ends, where `blank` tells what is blank. -/
def trimBy (blank : Char → Bool) (cs : List Char) : List Char :=
  ((cs.dropWhile blank).reverse.dropWhile blank).reverse

/-- An optional sign and the rest. -/
def splitSign : List Char → Bool × List Char
  | '-' :: rest => (true, rest)
  | '+' :: rest => (false, rest)
  | cs => (false, cs)

/-- The value of a nonempty run of ASCII digits. -/
def asciiNat? (cs : List Char) : Option Nat :=
  if cs.isEmpty then none
  else cs.foldl (fun acc c => acc.bind fun n =>
    if c.isDigit then some (10 * n + (c.toNat - 48)) else none) (some 0)

/-- Decimal digits of any script as ASCII digits; other characters stay. -/
def toAsciiDigit (c : Char) : Char :=
  match CharClass.decimalValue? c with
  | some v => Char.ofNat (48 + v)
  | none => c

/-- The text without underscores, provided each stands between two characters that
satisfy `between`. -/
def dropUnderscores (between : Char → Bool) : Option Char → List Char → Option (List Char)
  | _, [] => some []
  | before, '_' :: c :: rest =>
    match before with
    | some b => if between b && between c then (dropUnderscores between (some c) rest).map (c :: ·)
                else none
    | none => none
  | _, c :: rest => if c = '_' then none else (dropUnderscores between (some c) rest).map (c :: ·)

/-- An integer with an optional sign, in ASCII digits. -/
def signedInt? (cs : List Char) : Option Int :=
  let (negative, digits) := splitSign cs
  (asciiNat? digits).map fun n => if negative then -(n : Int) else n

/-- An integer text in the script dialect. -/
def scriptInt? (s : String) : Option Int :=
  let cs := (trimBy CharClass.isBlank s.toList).map toAsciiDigit
  (dropUnderscores Char.isDigit none cs).bind signedInt?

/-- Parts of an unsigned decimal: digits before and after the point and the exponent. -/
structure DecimalParts where
  /-- Digits before the point. -/
  whole : List Char
  /-- Digits after the point. -/
  fraction : List Char
  /-- The exponent of ten. -/
  exponent : Int

/-- Reads digits, an optional point with more digits, and an optional exponent; at least
one digit is needed, and nothing may follow. -/
def decimalParts? (cs : List Char) : Option DecimalParts :=
  let whole := cs.takeWhile Char.isDigit
  let rest := cs.dropWhile Char.isDigit
  let (fraction, rest) :=
    match rest with
    | '.' :: more => (more.takeWhile Char.isDigit, more.dropWhile Char.isDigit)
    | _ => ([], rest)
  if whole.isEmpty && fraction.isEmpty then none
  else
    match rest with
    | [] => some ⟨whole, fraction, 0⟩
    | e :: more =>
      if e = 'e' || e = 'E' then (signedInt? more).map fun k => ⟨whole, fraction, k⟩ else none

/-- The number nearest to the decimal. -/
def DecimalParts.toFloat (negative : Bool) (p : DecimalParts) : Float :=
  let digits := (asciiNat? (p.whole ++ p.fraction)).getD 0
  ofDecimal negative digits (p.exponent - p.fraction.length)

/-- A floating point text of ASCII characters: a decimal, or one of the words for
infinity and NaN in any letter case, after an optional sign. -/
def asciiFloat? (cs : List Char) : Option Float :=
  let (negative, body) := splitSign cs
  let word := body.map Char.toLower
  if word = ['i', 'n', 'f'] || word = ['i', 'n', 'f', 'i', 'n', 'i', 't', 'y'] then
    some (if negative then negInfinity else infinity)
  else if word = ['n', 'a', 'n'] then some nan
  else (decimalParts? body).map fun p => p.toFloat negative

/-- A floating point text in the script dialect. -/
def scriptFloat? (s : String) : Option Float :=
  let cs := (trimBy CharClass.isBlank s.toList).map toAsciiDigit
  (dropUnderscores Char.isDigit none cs).bind asciiFloat?

/-- Blanks that a field text may have around it: the script's without the four
information separators. -/
def isFieldBlank (c : Char) : Bool :=
  CharClass.isBlank c && !(28 ≤ c.toNat && c.toNat ≤ 31)

/-- Whether two underscores stand next to each other. -/
def hasDoubleUnderscore : List Char → Bool
  | '_' :: '_' :: _ => true
  | _ :: rest => hasDoubleUnderscore rest
  | [] => false

/-- The text without underscores, if it has some, none at its ends and no two together. -/
def joinUnderscores? (cs : List Char) : Option (List Char) :=
  if !cs.contains '_' || cs.head? = some '_' || cs.getLast? = some '_' || hasDoubleUnderscore cs then
    none
  else some (cs.filter (· != '_'))

/-- Longest integer text that a field accepts. -/
def maxIntegerDigits : Nat := 4300

/-- The outcome of reading an integer field text. -/
inductive FieldInt where
  /-- The text denotes this integer. -/
  | value (n : Int)
  /-- The text has too many digits. -/
  | tooLong
  /-- The text is no integer. -/
  | malformed

/-- An integer without a fraction of zeros. -/
def dropZeroFraction (cs : List Char) : List Char :=
  let whole := cs.takeWhile (· != '.')
  match cs.dropWhile (· != '.') with
  | '.' :: zeros => if !zeros.isEmpty && zeros.all (· = '0') then whole else cs
  | _ => cs

/-- An integer text in the field dialect. -/
def fieldInt (s : String) : FieldInt :=
  if maxIntegerDigits < s.length then .tooLong
  else
    let (negative, body) := splitSign (trimBy isFieldBlank s.toList)
    let plain := dropZeroFraction body
    match (dropUnderscores Char.isDigit none plain).bind asciiNat? with
    | some n => .value (if negative then -(n : Int) else n)
    | none => .malformed

/-- A floating point text in the field dialect. -/
def fieldFloat? (s : String) : Option Float :=
  let cs := s.toList
  match asciiFloat? (trimBy isFieldBlank cs) with
  | some x => some x
  | none => (joinUnderscores? cs).bind fun joined => asciiFloat? (trimBy isFieldBlank joined)

end ChartScript.Number
