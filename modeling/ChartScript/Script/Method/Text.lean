import ChartScript.Script.Method.Arity
import ChartScript.Text.LetterCase
/-!
# Methods of texts

Searching, splitting, trimming, letter case and classes of characters.
-/

namespace ChartScript.Script.TextMethod

open ChartScript.Text

/-- Where a text begins to occur in another one, from a position on. -/
def findFrom (needle : List Char) : Nat → List Char → Option Nat
  | i, [] => if needle.isEmpty then some i else none
  | i, c :: rest => if needle.isPrefixOf (c :: rest) then some i else findFrom needle (i + 1) rest

/-- Where a text occurs for the last time in another one. -/
def findLast (needle : List Char) : Nat → List Char → Option Nat
  | i, [] => if needle.isEmpty then some i else none
  | i, c :: rest =>
    (findLast needle (i + 1) rest).or (if needle.isPrefixOf (c :: rest) then some i else none)

/-- The parts between occurrences of a separator, at most `limit` times. -/
def splitBy (sep : List Char) : Nat → Nat → List Char → List Char → List (List Char)
  | 0, _, part, cs => [part.reverse ++ cs]
  | _, 0, part, cs => [part.reverse ++ cs]
  | _, _, part, [] => [part.reverse]
  | fuel + 1, limit + 1, part, c :: rest =>
    if sep.isPrefixOf (c :: rest) then
      part.reverse :: splitBy sep fuel limit [] ((c :: rest).drop sep.length)
    else splitBy sep fuel (limit + 1) (c :: part) rest

/-- The words between blanks, at most `limit` times; the rest keeps its blanks. -/
def splitWords : Nat → Nat → List Char → List (List Char)
  | 0, _, _ => []
  | fuel + 1, limit, cs =>
    match cs.dropWhile CharClass.isBlank with
    | [] => []
    | start =>
      match limit with
      | 0 => [start]
      | limit + 1 =>
        start.takeWhile (fun c => !CharClass.isBlank c) ::
          splitWords fuel limit (start.dropWhile fun c => !CharClass.isBlank c)

/-- A text with a part replaced everywhere, at most `limit` times. -/
def replaceAll (old new : List Char) (limit : Nat) (cs : List Char) : List Char :=
  if old.isEmpty then
    let rec between : Nat → List Char → List Char
      | 0, rest => rest
      | _ + 1, [] => new
      | k + 1, c :: rest => new ++ c :: between k rest
    between limit cs
  else
    match splitBy old (cs.length + 1) limit [] cs with
    | [] => []
    | first :: rest => first ++ rest.flatMap fun part => new ++ part

/-- How often a text occurs in another one, without overlaps. -/
def occurrences (needle cs : List Char) : Nat :=
  if needle.isEmpty then cs.length + 1
  else (splitBy needle (cs.length + 1) (cs.length + 1) [] cs).length - 1

/-- Whether a character ends a line. -/
def endsLine (c : Char) : Bool :=
  [10, 11, 12, 13, 28, 29, 30, 0x85, 0x2028, 0x2029].contains c.toNat

/-- The lines of a text, with or without their ends. -/
def lines (keep : Bool) : List Char → List Char → List (List Char)
  | part, [] => if part.isEmpty then [] else [part.reverse]
  | part, '\r' :: '\n' :: rest =>
    (if keep then ('\n' :: '\r' :: part).reverse else part.reverse) :: lines keep [] rest
  | part, c :: rest =>
    if endsLine c then (if keep then (c :: part).reverse else part.reverse) :: lines keep [] rest
    else lines keep (c :: part) rest

/-- A text in which each run of letters starts with a capital. -/
def titled : Bool → List Char → List Char
  | _, [] => []
  | inside, c :: rest =>
    let cased : Bool := LetterCase.isUpper c || LetterCase.isLower c || LetterCase.titleChar c != [c]
    (if inside then LetterCase.lowerChar c else LetterCase.titleChar c) ++ titled cased rest

/-- Whether each run of letters starts with a capital and has no other one. -/
def isTitled : Bool → Bool → List Char → Bool
  | _, seen, [] => seen
  | inside, seen, c :: rest =>
    if LetterCase.isUpper c || LetterCase.isTitle c then !inside && isTitled true true rest
    else if LetterCase.isLower c then inside && isTitled true true rest
    else isTitled false seen rest

/-- A text in lower case, with the last form of sigma at the end of words. -/
def lowered : Bool → List Char → List Char
  | _, [] => []
  | inside, c :: rest =>
    let letter (c : Char) : Bool := LetterCase.isUpper c || LetterCase.isLower c
    if c = 'Σ' && inside && !(rest.head?.any letter) then 'ς' :: lowered true rest
    else LetterCase.lowerChar c ++ lowered (letter c) rest

/-- A text for comparisons that ignore letter case. -/
def folded (cs : List Char) : List Char :=
  cs.flatMap fun c =>
    if c = 'ß' || c = 'ẞ' then ['s', 's']
    else if c = 'ς' then ['σ']
    else if c = 'ſ' then ['s']
    else if c = 'µ' then ['μ']
    else LetterCase.lowerChar c

/-- Columns filled up at tabulators. -/
def expanded (size : Nat) : Nat → List Char → List Char
  | _, [] => []
  | column, c :: rest =>
    if c = '\t' then
      let n := if size = 0 then 0 else size - column % size
      List.replicate n ' ' ++ expanded size (column + n) rest
    else if c = '\n' || c = '\r' then c :: expanded size 0 rest
    else c :: expanded size (column + 1) rest

/-- Whether a text is a name. -/
def isName : List Char → Bool
  | [] => false
  | c :: rest => CharClass.isNameStart c && rest.all CharClass.isNameRest

/-- Whether a character is a letter or a number. -/
def isLetterOrNumber (c : Char) : Bool := CharClass.isLetter c || CharClass.isNumeric c

/-- The classes of characters that a text can be asked for. -/
def classOf? (name : String) (cs : List Char) : Option Bool :=
  let all (test : Char → Bool) : Bool := !cs.isEmpty && cs.all test
  match name with
  | "isalpha" => some (all CharClass.isLetter)
  | "isalnum" => some (all isLetterOrNumber)
  | "isdecimal" => some (all CharClass.isDecimal)
  | "isdigit" => some (all CharClass.isDigit)
  | "isnumeric" => some (all CharClass.isNumeric)
  | "isspace" => some (all CharClass.isBlank)
  | "isascii" => some (cs.all fun c => c.toNat < 128)
  | "isprintable" => some (cs.all CharClass.isPrintable)
  | "isidentifier" => some (isName cs)
  | "isupper" => some (cs.any LetterCase.isUpper && !cs.any LetterCase.isLower)
  | "islower" => some (cs.any LetterCase.isLower && !cs.any LetterCase.isUpper)
  | "istitle" => some (isTitled false false cs)
  | _ => none

/-- Changes of letter case. -/
def caseOf? (name : String) (cs : List Char) : Option (List Char) :=
  match name with
  | "upper" => some (cs.flatMap LetterCase.upperChar)
  | "lower" => some (lowered false cs)
  | "casefold" => some (folded cs)
  | "title" => some (titled false cs)
  | "capitalize" =>
    some (match cs with
      | [] => []
      | c :: rest => LetterCase.titleChar c ++ lowered true rest)
  | "swapcase" =>
    some (cs.flatMap fun c =>
      if LetterCase.isUpper c then LetterCase.lowerChar c
      else if LetterCase.isLower c then LetterCase.upperChar c
      else [c])
  | _ => none

/-- A text argument; other types are refused. -/
def textArgument (h : Heap) (message : String → String) : Value → Except Raised (List Char)
  | .text s => .ok s.toList
  | v => .error (.typeError (message (h.typeName v)))

/-- A text from characters. -/
def result (cs : List Char) : Value := .text (String.ofList cs)

/-- The arguments of a search: what is sought, and the part that is searched. -/
def searchArguments (h : Heap) (name : String) (args : List Value) (size : Nat) :
    Except Raised (List Char × Nat × Nat) := do
  Arity.within name 1 3 args
  let needle ← textArgument h (fun t => "must be str, not " ++ t) ((args[0]?).getD .none)
  let (first, last) ← boundsOf size args[1]? args[2]?
  return (needle, first, last)

/-- Whether bounds leave nothing to search because the first one is behind the end. -/
def isBeyond (size : Nat) (lower : Option Value) : Bool :=
  match lower.bind intOf? with
  | some i => (size : Int) < i
  | none => false

/-- A fill character and a width. -/
def fillArguments (h : Heap) (name : String) (args : List Value) : Except Raised (Nat × Char) := do
  Arity.between name 1 2 args
  let width ← asIndex h ((args[0]?).getD .none)
  let filler : Option Value := args[1]?
  match filler with
  | none => return (width.toNat, ' ')
  | some (.text s) =>
    match s.toList with
    | [c] => return (width.toNat, c)
    | _ => throw (.typeError "The fill character must be exactly one character long")
  | some v =>
    throw (.typeError ("The fill character must be a unicode character, not " ++ h.typeName v))

/-- The texts of a tuple or a single one, for tests of the ends of a text. -/
def endTexts (h : Heap) (name : String) (v : Value) : Except Raised (List (List Char)) :=
  match v with
  | .text s => .ok [s.toList]
  | .tuple items =>
    items.mapM fun item =>
      match item with
      | .text s => .ok s.toList
      | w =>
        .error (.typeError ("tuple for " ++ name ++ " must only contain str, not " ++ h.typeName w))
  | w =>
    .error (.typeError (name ++ " first arg must be str or a tuple of str, not " ++ h.typeName w))

/-- The texts of parts as a list. -/
def listOf (parts : List (List Char)) : Op Value := Op.newList (parts.map result)

/-- The limit of a split; negative ones are none. -/
def splitLimit (h : Heap) (size : Nat) : Option Value → Except Raised Nat
  | none => .ok (size + 1)
  | some v => do
    let i ← asIndex h v
    return if i < 0 then size + 1 else i.toNat

/-- The pieces of a text. -/
def split (h : Heap) (cs : List Char) (backward : Bool) (args : List Value) (kws : Keywords) :
    Except Raised (List (List Char)) := do
  let given ← Arity.named (if backward then "rsplit" else "split") ["sep", "maxsplit"] args kws
  let limit ← splitLimit h cs.length (given[1]?).join
  let turn (parts : List (List Char)) : List (List Char) :=
    if backward then (parts.map List.reverse).reverse else parts
  let cs := if backward then cs.reverse else cs
  let separator : Option Value := (given[0]?).join
  match separator with
  | none | some .none => return turn (splitWords (cs.length + 1) limit cs)
  | some (.text s) =>
    if s.isEmpty then throw (.valueError "empty separator")
    let sep := if backward then s.toList.reverse else s.toList
    return turn (splitBy sep (cs.length + 1) limit [] cs)
  | some v => throw (.typeError ("must be str or None, not " ++ h.typeName v))

/-- A text joined around others. -/
def join (h : Heap) (sep : List Char) (items : List Value) : Except Raised (List Char) := do
  let parts ← items.zipIdx.mapM fun e =>
    match e.1 with
    | .text s => .ok s.toList
    | v =>
      .error (Raised.typeError ("sequence item " ++ toString e.2 ++ ": expected str instance, " ++
        h.typeName v ++ " found"))
  return (List.intersperse sep parts).flatten

/-- The encodings by one byte for a character: the names of each, its own name and the number
of its characters. -/
def byteEncodings : List (List String × String × Nat) :=
  [(["ascii", "us-ascii", "646"], "ascii", 128),
    (["latin-1", "latin1", "iso-8859-1", "iso8859-1", "8859", "l1", "latin", "cp819"], "latin-1", 256)]

/-- The names of the encoding UTF-8. -/
def unicodeEncodings : List String := ["utf-8", "utf8", "u8", "utf", "cp65001"]

/-- The bytes of characters that an encoding by bytes does not have. -/
def substitute (errors name : String) (size position : Nat) (run : List Char) :
    Except Raised (List Nat) :=
  let ascii (cs : List Char) : List Nat := cs.map Char.toNat
  match errors with
  | "ignore" => .ok []
  | "replace" => .ok (run.map fun _ => 63)
  | "backslashreplace" => .ok (run.flatMap fun c => ascii (Quoted.codeEscape c))
  | "xmlcharrefreplace" => .ok (run.flatMap fun c => ascii ("&#" ++ toString c.toNat ++ ";").toList)
  | "strict" =>
    let place :=
      match run with
      | [c] => "character '" ++ String.ofList (Quoted.codeEscape c) ++ "' in position " ++ toString position
      | _ => "characters in position " ++ toString position ++ "-" ++ toString (position + run.length - 1)
    .error (.of "UnicodeEncodeError" ("'" ++ name ++ "' codec can't encode " ++ place ++
      ": ordinal not in range(" ++ toString size ++ ")"))
  | _ => .error (.of "LookupError" ("unknown error handler name '" ++ errors ++ "'"))

/-- The bytes of a text in an encoding by bytes. -/
def encodedBytes (errors name : String) (size : Nat) : Nat → Nat → List Char → Except Raised (List Nat)
  | 0, _, _ => .ok []
  | _, _, [] => .ok []
  | fuel + 1, position, c :: rest => do
    if c.toNat < size then
      return c.toNat :: (← encodedBytes errors name size fuel (position + 1) rest)
    else
      let run := (c :: rest).takeWhile fun c => size ≤ c.toNat
      let bytes ← substitute errors name size position run
      return bytes ++ (← encodedBytes errors name size fuel (position + run.length)
        ((c :: rest).drop run.length))

/-- The bytes of a text in an encoding. -/
def encoded (encoding errors : String) (cs : List Char) : Except Raised (List Nat) :=
  let name := (encoding.toLower.replace "_" "-").replace " " "-"
  if unicodeEncodings.contains name then .ok ((String.ofList cs).toUTF8.toList.map UInt8.toNat)
  else
    match byteEncodings.find? fun e => e.1.contains name with
    | some (_, shown, size) => encodedBytes errors shown size (cs.length + 1) 0 cs
    | none => .error (.of "LookupError" ("unknown encoding: " ++ encoding))

/-- A character mapped by a table: an absent one stays. -/
def translated (table : Value) (c : Char) : Op (List Char) := do
  let found : Option Value ←
    try some <$> getItem table (.int c.toNat)
    catch e => if Types.isKindOf e.type "LookupError" then pure none else throw e
  match found with
  | none => return [c]
  | some .none => return []
  | some (.text s) => return s.toList
  | some v =>
    match intOf? v with
    | some i =>
      if 0 ≤ i && i < 0x110000 then return [Char.ofNat i.toNat]
      else throw (.valueError "character mapping must be in range(0x110000)")
    | none => throw (.typeError "character mapping must return integer, None or str")

/-- A table that maps the characters of one text to those of another and removes others. -/
def tableOf (args : List Value) : Op Value := do
  match args with
  | .text from_ :: .text target :: rest =>
    if from_.length != target.length then
      throw (.valueError "the first two maketrans arguments must have equal length")
    let gone :=
      match rest with
      | .text s :: _ => s.toList
      | _ => []
    let pairs := (from_.toList.zip target.toList).map fun e =>
      ((e.1.toNat : Int), Value.int (e.2.toNat : Int))
    let removed := gone.map fun c => ((c.toNat : Int), Value.none)
    Op.alloc (.dict ((pairs ++ removed).foldl (fun acc e =>
      storeEntry acc (.int e.1) (.int e.1) e.2) #[]))
  | [.object a] =>
    match (← get).entries? a with
    | some entries =>
      let renamed ← entries.mapM fun e =>
        match e.2.1 with
        | .text s =>
          match s.toList with
          | [c] => pure (Key.int c.toNat, Value.int c.toNat, e.2.2)
          | _ => throw (.valueError "string keys in translate table must be of length 1")
        | _ => pure e
      Op.alloc (.dict renamed)
    | none => throw (.typeError "if you give only one argument to maketrans it must be a dict")
  | _ => throw (.typeError "if you give only one argument to maketrans it must be a dict")

/-- The names of the methods. -/
def names : List String :=
  ["capitalize", "casefold", "center", "count", "encode", "endswith", "expandtabs", "find", "index",
    "isalnum", "isalpha", "isascii", "isdecimal", "isdigit", "isidentifier", "islower", "isnumeric",
    "isprintable", "isspace", "istitle", "isupper", "join", "ljust", "lower", "lstrip", "maketrans",
    "partition", "removeprefix", "removesuffix", "replace", "rfind", "rindex", "rjust", "rpartition",
    "rsplit", "rstrip", "split", "splitlines", "startswith", "strip", "swapcase", "title",
    "translate", "upper", "zfill"]

/-- A method of a text is called. -/
def call (s : String) (name : String) (args : List Value) (kws : Keywords) : Op Value := do
  let h ← get
  let cs := s.toList
  let full := "str." ++ name
  let given (i : Nat) : Value := (args[i]?).getD .none
  let must (t : String) : String := "must be str, not " ++ t
  match classOf? name cs, caseOf? name cs with
  | some answer, _ =>
    Op.lift (Arity.none full args kws)
    return .bool answer
  | none, some changed =>
    Op.lift (Arity.none full args kws)
    return result changed
  | none, none =>
    match name with
    | "split" => listOf (← Op.lift (split h cs false args kws))
    | "rsplit" => listOf (← Op.lift (split h cs true args kws))
    | "splitlines" =>
      let options ← Op.lift (Arity.named "splitlines" ["keepends"] args kws)
      let keep : Bool := match options with | [some v] => h.truthy v | _ => false
      listOf (lines keep [] cs)
    | "expandtabs" =>
      let options ← Op.lift (Arity.named "expandtabs" ["tabsize"] args kws)
      let size ← Op.lift (match options with | [some v] => asIndex h v | _ => .ok 8)
      return result (expanded size.toNat 0 cs)
    | "encode" =>
      let options ← Op.lift (Arity.named "encode" ["encoding", "errors"] args kws)
      let option (i : Nat) (fallback : String) : Except Raised String :=
        match (options[i]?).join with
        | none => .ok fallback
        | some (.text t) => .ok t
        | some v =>
          .error (.typeError ("encode() argument '" ++ (if i = 0 then "encoding" else "errors") ++
            "' must be str, not " ++ h.typeName v))
      let encoding ← Op.lift (option 0 "utf-8")
      let errors ← Op.lift (option 1 "strict")
      return .bytes (← Op.lift (encoded encoding errors cs))
    | _ =>
      Op.lift (Arity.noKeywords full kws)
      match name with
      | "find" | "index" =>
        let (needle, first, last) ← Op.lift (searchArguments h name args cs.length)
        match findFrom needle first ((cs.take last).drop first) with
        | some i =>
          if isBeyond cs.length args[1]? then return .int (-1) else return .int i
        | none =>
          if name = "find" then return .int (-1) else throw (.valueError "substring not found")
      | "rfind" | "rindex" =>
        let (needle, first, last) ← Op.lift (searchArguments h name args cs.length)
        match findLast needle first ((cs.take last).drop first) with
        | some i => return .int i
        | none =>
          if name = "rfind" then return .int (-1) else throw (.valueError "substring not found")
      | "count" =>
        let (needle, first, last) ← Op.lift (searchArguments h name args cs.length)
        return .int (occurrences needle ((cs.take last).drop first))
      | "startswith" | "endswith" =>
        Op.lift (Arity.within name 1 3 args)
        let ends ← Op.lift (endTexts h name (given 0))
        let (first, last) ← Op.lift (boundsOf cs.length args[1]? args[2]?)
        let part := (cs.take last).drop first
        return .bool (ends.any fun e =>
          if name = "startswith" then e.isPrefixOf part else e.isSuffixOf part)
      | "join" =>
        let v ← Op.lift (Arity.one full args kws)
        match h.elements? v with
        | some items => return result (← Op.lift (join h cs items))
        | none => throw (.typeError "can only join an iterable")
      | "replace" =>
        Op.lift (Arity.between "replace" 2 3 args)
        let wording (k : String) (t : String) : String := "replace() argument " ++ k ++ " must be str, not " ++ t
        let old ← Op.lift (textArgument h (wording "1") (given 0))
        let new ← Op.lift (textArgument h (wording "2") (given 1))
        let limit ← Op.lift (splitLimit h cs.length args[2]?)
        return result (replaceAll old new limit cs)
      | "strip" | "lstrip" | "rstrip" =>
        Op.lift (Arity.between name 0 1 args)
        let blank : Char → Bool ←
          match given 0 with
          | .none => pure CharClass.isBlank
          | .text t => pure fun c => t.toList.contains c
          | _ =>
            throw (.typeError (name ++ " arg must be None or str"))
        let start := if name = "rstrip" then cs else cs.dropWhile blank
        return result (if name = "lstrip" then start else (start.reverse.dropWhile blank).reverse)
      | "center" | "ljust" | "rjust" =>
        let (width, c) ← Op.lift (fillArguments h name args)
        let missing := width - cs.length
        let left :=
          if name = "ljust" then 0
          else if name = "rjust" then missing
          else missing / 2 + (missing % 2) * (width % 2)
        return result (List.replicate left c ++ cs ++ List.replicate (missing - left) c)
      | "zfill" =>
        let width ← Op.lift (asIndex h (← Op.lift (Arity.one full args kws)))
        let zeros := List.replicate (width.toNat - cs.length) '0'
        match cs with
        | c :: rest => return result (if c = '+' || c = '-' then c :: zeros ++ rest else zeros ++ cs)
        | [] => return result zeros
      | "partition" | "rpartition" =>
        let sep ← Op.lift (textArgument h must (← Op.lift (Arity.one full args kws)))
        if sep.isEmpty then throw (.valueError "empty separator")
        let found := if name = "partition" then findFrom sep 0 cs else findLast sep 0 cs
        match found with
        | some i =>
          return .tuple [result (cs.take i), result sep, result (cs.drop (i + sep.length))]
        | none =>
          return .tuple (if name = "partition" then [.text s, .text "", .text ""]
            else [.text "", .text "", .text s])
      | "removeprefix" | "removesuffix" =>
        let part ← Op.lift (textArgument h (fun t => name ++ "() argument must be str, not " ++ t)
          (← Op.lift (Arity.one full args kws)))
        if name = "removeprefix" then
          return result (if part.isPrefixOf cs then cs.drop part.length else cs)
        else return result (if part.isSuffixOf cs then cs.take (cs.length - part.length) else cs)
      | "translate" =>
        let table ← Op.lift (Arity.one full args kws)
        let parts ← cs.mapM (translated table)
        return result parts.flatten
      | _ => tableOf args

end ChartScript.Script.TextMethod
