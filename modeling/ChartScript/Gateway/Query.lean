import ChartScript.Data.Assoc
import ChartScript.Text.Utf8
import ChartScript.Wire.Json.Reader
/-!
# Query strings

The part of an address after the question mark: pairs of a name and a value, separated by
ampersands. A plus sign is a blank, and a percent sign with two hexadecimal digits is a
byte of a text in UTF-8. Of several values for a name the last one counts.
-/

namespace ChartScript.Gateway.Query

/-- The bytes of a text in which some characters are escaped by a percent sign. -/
def unescapedBytes : List Char → List Nat
  | '%' :: a :: b :: rest =>
    match Wire.Json.hexValue? a, Wire.Json.hexValue? b with
    | some m, some n => (16 * m + n) :: unescapedBytes rest
    | _, _ => 37 :: unescapedBytes (a :: b :: rest)
  | c :: rest => (String.singleton c).toUTF8.toList.map UInt8.toNat ++ unescapedBytes rest
  | [] => []

/-- A text without escapes. -/
def unescape (s : String) : String :=
  let blanks := s.toList.map fun c => if c = '+' then ' ' else c
  Text.Utf8.decodeLenient (unescapedBytes blanks)

/-- A pair. Without an equals sign the value is empty. -/
def pairOf (s : String) : String × String :=
  let cs := s.toList
  let name := cs.takeWhile (· ≠ '=')
  (unescape (String.ofList name), unescape (String.ofList (cs.drop (name.length + 1))))

/-- The pairs of a query in order. -/
def parse (query : String) : List (String × String) :=
  ((query.splitOn "&").filter fun s => !s.isEmpty).map pairOf

/-- The value of a name. -/
def last? (pairs : List (String × String)) (name : String) : Option String :=
  Assoc.get? pairs.reverse name

end ChartScript.Gateway.Query
