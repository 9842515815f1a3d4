import ChartScript.Text.Quoted
/-!
# Why a script is refused

Everything that can be wrong with the text of a script before it runs, with its wording.
-/

namespace ChartScript.Script

/-- A fault in the text of a script. -/
inductive Flaw where
  /-- The text holds a null character. -/
  | nullCharacter
  /-- A text literal on one line that is not closed. -/
  | openText (detected : Nat)
  /-- A text literal over several lines that is not closed. -/
  | openLongText (detected : Nat)
  /-- A malformed number literal of a kind. -/
  | badNumber (kind : String)
  /-- A digit that a number literal of a kind cannot have. -/
  | badDigit (digit : Char) (kind : String)
  /-- A decimal literal that begins with zeros. -/
  | leadingZeros
  /-- A decimal literal with too many digits. -/
  | tooManyDigits (count : Nat)
  /-- A character that no token begins with. -/
  | badCharacter (c : Char)
  /-- An invisible character. -/
  | hiddenCharacter (c : Char)
  /-- A closing bracket without an opening one. -/
  | unmatched (closing : Char)
  /-- A closing bracket for another opening one; the line of that one if it differs. -/
  | mismatched (closing opening : Char) (line : Option Nat)
  /-- An opening bracket that is never closed. -/
  | neverClosed (opening : Char)
  /-- Too many brackets inside each other. -/
  | tooManyBrackets
  /-- A line that returns to no earlier indentation. -/
  | badDedent
  /-- Tabs and blanks mixed so that the indentation is unclear. -/
  | mixedTabs
  /-- Too many levels of indentation. -/
  | tooDeep
  /-- Something after a backslash at the end of a line. -/
  | afterBackslash
  /-- The text ends where more is needed. -/
  | unexpectedEnd
  /-- An indentation without need. -/
  | unexpectedIndent
  /-- A dedentation without need. -/
  | unexpectedDedent
  /-- Anything that has no better explanation. -/
  | invalid
  /-- A token is missing. -/
  | expected (what : String)
  /-- A compound statement has no block. -/
  | missingBlock (after : String) (line : Nat)
  /-- A guarded block has no handler. -/
  | missingHandler
  /-- An equals sign where a comparison is due. -/
  | perhapsEqual
  /-- Two expressions next to each other inside brackets. -/
  | perhapsComma
  /-- A conditional expression without alternative. -/
  | missingElse
  /-- Something that cannot be assigned to. -/
  | badTarget (what : String) (suggest : Bool)
  /-- Something that cannot be deleted. -/
  | badDelete (what : String)
  /-- Something that cannot be assigned to in place. -/
  | badUpdate (what : String)
  /-- Something that cannot be named inside an expression. -/
  | badNaming (what : String)
  /-- Something that cannot be annotated. -/
  | badHint (what : String)
  /-- A target of an annotation that is no single target. -/
  | illegalHint
  /-- A malformed pattern. -/
  | badPattern (what : String)
  /-- A positional argument after one by keyword. -/
  | positionalAfterKeyword
  /-- A positional argument after a mapping. -/
  | positionalAfterMapping
  /-- A sequence of arguments after a mapping. -/
  | unpackingAfterMapping
  /-- An assignment inside an argument. -/
  | assignmentInArgument
  /-- A generator without parentheses beside other arguments. -/
  | bareGenerator
  /-- A parameter without default after one with a default. -/
  | defaultOrder
  /-- A parameter that cannot be as it is. -/
  | badParameter (what : String)
  /-- A star that no parameter follows. -/
  | bareStar
  /-- A name that was a statement once. -/
  | oldStatement (name : String)
  /-- A dictionary key without colon. -/
  | missingColonAfterKey
  /-- A dictionary key without value. -/
  | missingValueAfterKey
  /-- Several exception types without parentheses. -/
  | bareExceptionTypes
  /-- A comma at the end of an import. -/
  | trailingImportComma
  /-- An assignment to a generator's result. -/
  | assignmentToYield
  /-- Unpacking as the element of a comprehension. -/
  | unpackingInComprehension
  /-- A starred expression in parentheses. -/
  | starredHere
  /-- Bytes and texts side by side. -/
  | mixedLiterals
  /-- A byte literal with other than ASCII characters. -/
  | wideBytes
  /-- A malformed escape in a text literal, with the characters it spans. -/
  | badEscape (start stop : Nat) (what : String)
  /-- A malformed escape in a byte literal. -/
  | badByteEscape (start : Nat)
  /-- A character that the expression in a formatted text cannot hold. -/
  | fieldCharacter (what : String)
  /-- A fault inside a formatted text. -/
  | formatted (what : String)
  deriving Repr, DecidableEq

/-- A code point in at least four upper-case hexadecimal digits. -/
def codePoint (c : Char) : String :=
  let digits := (Nat.toDigits 16 c.toNat).map Char.toUpper
  String.ofList (List.replicate (4 - digits.length) '0' ++ digits)

/-- A character as a text. -/
def charText (c : Char) : String := String.singleton c

/-- The wording of a flaw. -/
def Flaw.message : Flaw → String
  | nullCharacter => "source code string cannot contain null bytes"
  | openText n => "unterminated string literal (detected at line " ++ toString n ++ ")"
  | openLongText n =>
    "unterminated triple-quoted string literal (detected at line " ++ toString n ++ ")"
  | badNumber kind => "invalid " ++ kind ++ " literal"
  | badDigit d kind => "invalid digit '" ++ charText d ++ "' in " ++ kind ++ " literal"
  | leadingZeros =>
    "leading zeros in decimal integer literals are not permitted; " ++
      "use an 0o prefix for octal integers"
  | tooManyDigits n =>
    "Exceeds the limit (4300 digits) for integer string conversion: value has " ++ toString n ++
      " digits; use sys.set_int_max_str_digits() to increase the limit - Consider hexadecimal " ++
      "for huge integer literals to avoid decimal conversion limits."
  | badCharacter c => "invalid character '" ++ charText c ++ "' (U+" ++ codePoint c ++ ")"
  | hiddenCharacter c => "invalid non-printable character U+" ++ codePoint c
  | unmatched c => "unmatched '" ++ charText c ++ "'"
  | mismatched c o line =>
    "closing parenthesis '" ++ charText c ++ "' does not match opening parenthesis '" ++
      charText o ++ "'" ++ (match line with | some n => " on line " ++ toString n | none => "")
  | neverClosed o => "'" ++ charText o ++ "' was never closed"
  | tooManyBrackets => "too many nested parentheses"
  | badDedent => "unindent does not match any outer indentation level"
  | mixedTabs => "inconsistent use of tabs and spaces in indentation"
  | tooDeep => "too many levels of indentation"
  | afterBackslash => "unexpected character after line continuation character"
  | unexpectedEnd => "unexpected EOF while parsing"
  | unexpectedIndent => "unexpected indent"
  | unexpectedDedent => "unexpected unindent"
  | invalid => "invalid syntax"
  | expected what => "expected " ++ what
  | missingBlock after line =>
    "expected an indented block after " ++ after ++ " on line " ++ toString line
  | missingHandler => "expected 'except' or 'finally' block"
  | perhapsEqual => "invalid syntax. Maybe you meant '==' or ':=' instead of '='?"
  | perhapsComma => "invalid syntax. Perhaps you forgot a comma?"
  | missingElse => "expected 'else' after 'if' expression"
  | badTarget what suggest =>
    "cannot assign to " ++ what ++
      (if suggest then " here. Maybe you meant '==' instead of '='?" else "")
  | badDelete what => "cannot delete " ++ what
  | badUpdate what => "'" ++ what ++ "' is an illegal expression for augmented assignment"
  | badNaming what => "cannot use assignment expressions with " ++ what
  | badHint what => "only single target (not " ++ what ++ ") can be annotated"
  | illegalHint => "illegal target for annotation"
  | positionalAfterKeyword => "positional argument follows keyword argument"
  | positionalAfterMapping => "positional argument follows keyword argument unpacking"
  | unpackingAfterMapping => "iterable argument unpacking follows keyword argument unpacking"
  | assignmentInArgument =>
    "expression cannot contain assignment, perhaps you meant \"==\"?"
  | bareGenerator => "Generator expression must be parenthesized"
  | defaultOrder => "non-default argument follows default argument"
  | badParameter what => what
  | badPattern what => what
  | bareStar => "named arguments must follow bare *"
  | oldStatement name =>
    "Missing parentheses in call to '" ++ name ++ "'. Did you mean " ++ name ++ "(...)?"
  | missingColonAfterKey => "':' expected after dictionary key"
  | missingValueAfterKey => "expression expected after dictionary key and ':'"
  | bareExceptionTypes => "multiple exception types must be parenthesized"
  | trailingImportComma => "trailing comma not allowed without surrounding parentheses"
  | assignmentToYield => "assignment to yield expression not possible"
  | unpackingInComprehension => "iterable unpacking cannot be used in comprehension"
  | starredHere => "cannot use starred expression here"
  | mixedLiterals => "cannot mix bytes and nonbytes literals"
  | wideBytes => "bytes can only contain ASCII literal characters"
  | badEscape start stop what =>
    "(unicode error) 'unicodeescape' codec can't decode bytes in position " ++ toString start ++
      "-" ++ toString stop ++ ": " ++ what
  | badByteEscape start => "(value error) invalid \\x escape at position " ++ toString start
  | fieldCharacter what => "f-string expression part cannot include " ++ what
  | formatted what => "f-string: " ++ what

/-- A flaw with the line it is reported for; the null character has none. -/
structure SourceError where
  /-- The line, from one. -/
  line : Option Nat
  /-- The flaw. -/
  flaw : Flaw
  deriving Repr, DecidableEq

/-- The text of an error in a source. -/
def SourceError.text (e : SourceError) : String :=
  "line " ++ (match e.line with | some n => toString n | none => "None") ++ ": " ++ e.flaw.message

end ChartScript.Script
