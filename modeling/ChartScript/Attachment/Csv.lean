import ChartScript.Attachment.Table
import ChartScript.Failure
/-!
# Comma-separated texts

Splitting a text into records and records into a table. Fields are separated by commas
and may be enclosed in double quotes, inside of which a quote is written twice; records
end at any of the three line ends. Lines without content are skipped, short records are
filled with empty fields, and from the third record on a record may not be longer than
the one before it. A field is kept up to its first null character.
-/

namespace ChartScript.Attachment.Csv

/-- Why a text has no table. -/
inductive Fault where
  /-- A record with too many fields. -/
  | tooManyFields (expected line found : Nat)
  /-- A quote that is never closed. -/
  | openQuote (row : Nat)
  /-- No record at all. -/
  | noColumns
  deriving Repr, DecidableEq

/-- The failure of a fault. -/
def Fault.failure : Fault → Failure
  | tooManyFields expected line found =>
    ⟨.parser, "Error tokenizing data. C error: Expected " ++ toString expected ++
      " fields in line " ++ toString line ++ ", saw " ++ toString found ++ "\n"⟩
  | openQuote row =>
    ⟨.parser, "Error tokenizing data. C error: EOF inside string starting at row " ++ toString row⟩
  | noColumns => ⟨.emptyData, "No columns to parse from file"⟩

/-- Where in a record the splitter is. -/
inductive Mode where
  /-- Before a record. -/
  | startRecord
  /-- Before a field. -/
  | startField
  /-- In a field without quotes. -/
  | inField
  /-- Between quotes. -/
  | quoted
  /-- After a quote that may close the quoted part. -/
  | afterQuote
  /-- After a carriage return that ends a record. -/
  | afterReturn
  /-- After a carriage return that ends a line without content. -/
  | afterBlankReturn
  /-- In a line that has only blanks so far. -/
  | blankLine
  deriving Repr, DecidableEq

/-- The splitter between two characters. -/
structure Splitter where
  /-- Where it is. -/
  mode : Mode
  /-- The characters of the open field, last one first. -/
  field : List Char
  /-- The fields of the open record, last one first. -/
  fields : List String
  /-- The records, last one first. -/
  records : List (List String)
  /-- The number of lines that ended. -/
  lines : Nat
  /-- The text from where a line of blanks is read again once it turns out to have content. -/
  lineStart : List Char

/-- What is kept of a field. The words of a record are handed on as texts that end at their first
null character. -/
def stored (field : String) : String := String.ofList (field.toList.takeWhile (· != '\x00'))

namespace Splitter

/-- The splitter before a text. -/
def start (text : List Char) : Splitter := ⟨.startRecord, [], [], [], 0, text⟩

/-- Adds a character to the open field. -/
def push (s : Splitter) (c : Char) (mode : Mode) : Splitter :=
  { s with field := c :: s.field, mode }

/-- Ends the open field. -/
def endField (s : Splitter) (mode : Mode) : Splitter :=
  { s with field := [], fields := stored (String.ofList s.field.reverse) :: s.fields, mode }

/-- Counts a line without content. -/
def skipLine (s : Splitter) (mode : Mode) : Splitter := { s with lines := s.lines + 1, mode }

/-- Ends the open record. The first two records set the number of fields; a later record
may not have more than the one before it, and any but the first is filled up to it. -/
def endRecord (s : Splitter) : Except Fault Splitter :=
  let fields := s.fields.reverse
  let expected := (s.records.head?.map List.length).getD 0
  if 2 ≤ s.records.length ∧ expected < fields.length then
    .error (.tooManyFields expected (s.lines + 1) fields.length)
  else
    let filled := fields ++ List.replicate (expected - fields.length) ""
    .ok { s with fields := [], records := filled :: s.records, lines := s.lines + 1,
                 mode := .startRecord }

/-- The splitter after a character, where `rest` is the text from the character on. The
second part is the text to go on with. -/
def step (s : Splitter) (c : Char) (rest after : List Char) : Except Fault (Splitter × List Char) :=
  let onward (t : Splitter) : Except Fault (Splitter × List Char) :=
    .ok (if c = '\n' then { t with lineStart := after } else t, after)
  let finishField : Except Fault (Splitter × List Char) := do
    if c = '\n' then onward (← (s.endField .startRecord).endRecord)
    else if c = '\r' then onward (s.endField .afterReturn)
    else onward (s.endField .startField)
  let isEnd := c = '\n' || c = '\r' || c = ','
  match s.mode with
  | .startRecord =>
    if c = '\n' then onward (s.skipLine .startRecord)
    else if c = '\r' then onward (s.skipLine .afterBlankReturn)
    else if c = ' ' || c = '\t' then onward { s with mode := .blankLine }
    else if c = '"' then onward { s with mode := .quoted }
    else if c = ',' then onward (s.endField .startField)
    else onward (s.push c .inField)
  | .startField =>
    if isEnd then finishField
    else if c = '"' then onward { s with mode := .quoted }
    else onward (s.push c .inField)
  | .inField => if isEnd then finishField else onward (s.push c .inField)
  | .quoted =>
    if c = '"' then onward { s with mode := .afterQuote } else onward (s.push c .quoted)
  | .afterQuote =>
    if isEnd then finishField
    else if c = '"' then onward (s.push c .quoted)
    else onward (s.push c .inField)
  | .afterReturn => do
    let ended ← s.endRecord
    if c = '\n' then onward ended
    else if c = ',' then onward (ended.endField .startField)
    else return ({ ended with lineStart := rest }, rest)
  | .afterBlankReturn =>
    let next := { s with mode := .startRecord }
    if c = '\n' then onward next else .ok (next, rest)
  | .blankLine =>
    if c = '\n' then onward (s.skipLine .startRecord)
    else if c = '\r' then onward (s.skipLine .afterBlankReturn)
    else if c = ' ' || c = '\t' then onward s
    else .ok ({ s with mode := .startField }, s.lineStart)

/-- The records of a text that ends here. -/
def finish (s : Splitter) : Except Fault (List (List String)) :=
  match s.mode with
  | .startRecord => .ok s.records.reverse
  | .afterBlankReturn => .ok s.records.reverse
  | .blankLine => .ok s.records.reverse
  | .quoted => .error (.openQuote s.lines)
  | .afterReturn => s.endRecord.map fun t => t.records.reverse
  | _ => (s.endField .startRecord).endRecord.map fun t => t.records.reverse

/-- Reads a text to its end, with as many steps as `fuel` allows. -/
def run : Nat → Splitter → List Char → Except Fault (List (List String))
  | 0, s, _ => s.finish
  | _, s, [] => s.finish
  | fuel + 1, s, c :: after =>
    match s.step c (c :: after) after with
    | .error e => .error e
    | .ok (next, rest) => run fuel next rest

end Splitter

/-- The text without a mark of byte order at its start. -/
def dropMark : List Char → List Char
  | [] => []
  | c :: rest => if c.toNat = 0xFEFF then rest else c :: rest

/-- The records of a text. A line can be read again only from a later start each time,
so the number of steps is bounded by the square of the length. -/
def records (text : String) : Except Fault (List (List String)) :=
  let cs := dropMark text.toList
  Splitter.run (2 * (cs.length + 2) * (cs.length + 2)) (.start cs) cs

/-- The name of a column that the header leaves empty. -/
def placeholder (index : Nat) : String := "Unnamed: " ++ toString index

/-- The first of the names `name.count`, `name.(count+1)`, … that the header does not have,
with its number. -/
def freshName (header : List String) (name : String) : Nat → Nat → String × Nat
  | 0, count => (name ++ "." ++ toString count, count)
  | fuel + 1, count =>
    let candidate := name ++ "." ++ toString count
    if header.contains candidate then freshName header name fuel (count + 1)
    else (candidate, count)

/-- Makes the name at an index distinct from those treated before it. The second part
says under which number the next repetition of a name is tried. -/
def renameAt (state : List String × List (String × Nat)) (index : Nat) :
    List String × List (String × Nat) :=
  let (header, counts) := state
  let name := header.getD index ""
  match Assoc.get? counts name with
  | none => (header, Assoc.put counts name 1)
  | some count =>
    let (fresh, used) := freshName header name header.length count
    (header.set index fresh, Assoc.put (Assoc.put counts name (used + 1)) fresh 1)

/-- The names of the columns: empty names are replaced by placeholders, and repeated names
get a number. Given names come before placeholders. -/
def columnNames (header : List String) : List String :=
  let indices := List.range header.length
  let isEmptyAt (i : Nat) : Bool := (header.getD i "").isEmpty
  let named := header.mapIdx fun i name => if name.isEmpty then placeholder i else name
  let order := indices.filter (fun i => !isEmptyAt i) ++ indices.filter isEmptyAt
  (order.foldl renameAt (named, [])).1

/-- The table of a list of records. When the first record after the header is longer than
the header, its surplus fields are row labels in front, and every row drops as many. -/
def tableOf : List (List String) → Except Fault Table
  | [] => .error .noColumns
  | header :: rows =>
    let columns := columnNames header
    let labels := (rows.head?.map List.length).getD 0 - header.length
    .ok ⟨columns, rows.map fun row => columns.zip (row.drop labels)⟩

/-- Whether a text has no content at all. -/
def isEmptyText (text : String) : Bool := text.toList.all Text.CharClass.isBlank

/-- The table of a text; a text of blanks is a table without columns. -/
def parse (text : String) : Except Fault Table :=
  if isEmptyText text then .ok ⟨[], []⟩ else do tableOf (← records text)

end ChartScript.Attachment.Csv
