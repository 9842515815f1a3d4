import ChartScript.Script.Order
/-!
# Formats

Texts of values in a given format: the specifications of replacement fields, and the
templates that are filled by the remainder operator.
-/

namespace ChartScript.Script.Format

open ChartScript.Number (Dyadic)

/-- A format specification. -/
structure Spec where
  /-- The character that fills the width. -/
  fill : Char := ' '
  /-- Where the text stands in the width: `<`, `>`, `^`, or `=` for after the sign. -/
  align : Option Char := none
  /-- The sign of positive numbers: `+`, a blank, or none for `-`, if it is given. -/
  sign : Option Char := none
  /-- Negative zero loses its sign. -/
  noNegativeZero : Bool := false
  /-- The alternate form. -/
  alternate : Bool := false
  /-- The least width. -/
  width : Option Nat := none
  /-- The separator of groups of digits. -/
  grouping : Option Char := none
  /-- The precision. -/
  precision : Option Nat := none
  /-- The presentation. -/
  type : Option Char := none
  deriving Repr, DecidableEq

/-- Whether a character is an alignment. -/
def isAlign (c : Char) : Bool := c = '<' || c = '>' || c = '=' || c = '^'

/-- A number at the start of a text, if there is one, and the rest. -/
def leadingNat (cs : List Char) : Option Nat × List Char :=
  let digits := cs.takeWhile Char.isDigit
  if digits.isEmpty then (none, cs)
  else (some (digits.foldl (fun n c => 10 * n + (c.toNat - 48)) 0), cs.drop digits.length)

/-- Takes a character from the start of a text if it satisfies a test. -/
def takeIf (test : Char → Bool) : List Char → Option Char × List Char
  | c :: rest => if test c then (some c, rest) else (none, c :: rest)
  | [] => (none, [])

/-- The presentation of a type whose specification names none. -/
def presentationOf (typeName : String) : Option Char :=
  if typeName = "str" then some 's'
  else if typeName = "float" then none
  else some 'd'

/-- Whether digits can be in groups in a presentation: with underscores also in the bases
that are powers of two. -/
def canGroup (separator : Char) (type : Option Char) : Bool :=
  match type with
  | none => true
  | some c => "deEfFgG%".toList.contains c || (separator = '_' && "boxX".toList.contains c)

/-- A separator that a presentation does not have. -/
def wrongSeparator (separator : Char) (type : Option Char) : Raised :=
  .valueError ("Cannot specify '" ++ String.singleton separator ++ "' with '" ++
    String.singleton (type.getD 's') ++ "'.")

/-- Reads a format specification for a value of a type. -/
def Spec.read (typeName : String) (cs : List Char) : Except Raised Spec := do
  let wrong : Raised := .valueError ("Invalid format specifier '" ++ String.ofList cs ++
    "' for object of type '" ++ typeName ++ "'")
  let (fill, align, rest) : Option Char × Option Char × List Char :=
    match cs with
    | f :: a :: more =>
      if isAlign a then (some f, some a, more)
      else if isAlign f then (none, some f, a :: more)
      else (none, none, cs)
    | [a] => if isAlign a then (none, some a, []) else (none, none, cs)
    | [] => (none, none, [])
  let (sign, rest) : Option Char × List Char :=
    takeIf (fun c => c = '+' || c = '-' || c = ' ') rest
  let (noNegativeZero, rest) : Option Char × List Char := takeIf (· = 'z') rest
  let (alternate, rest) : Option Char × List Char := takeIf (· = '#') rest
  let (zero, rest) : Option Char × List Char :=
    if fill.isNone then takeIf (· = '0') rest else (none, rest)
  let (width, rest) : Option Nat × List Char := leadingNat rest
  let (grouping, rest) : Option Char × List Char := takeIf (fun c => c = ',' || c = '_') rest
  if let some g := grouping then
    if let some next := rest.head? then
      if next = ',' || next = '_' then
        throw (.valueError (if next = g then "Cannot specify '" ++ String.singleton g ++ "' with '" ++
          String.singleton next ++ "'." else "Cannot specify both ',' and '_'."))
  let (precision, rest) : Option Nat × List Char ←
    match rest with
    | '.' :: more =>
      match leadingNat more with
      | (some p, rest) => pure (some p, rest)
      | (none, _) => throw (.valueError "Format specifier missing precision")
    | _ => pure (none, rest)
  let (type, rest) : Option Char × List Char ←
    match rest with
    | [] => pure (none, [])
    | [c] => pure (some c, [])
    | _ => throw wrong
  if !rest.isEmpty then throw wrong
  if let some g := grouping then
    let shown := type.or (presentationOf typeName)
    if !canGroup g shown then throw (wrongSeparator g shown)
  let zeroFill : Bool := zero.isSome
  return {
    fill := fill.getD (if zeroFill then '0' else ' ')
    align := if align.isNone && zeroFill && typeName ≠ "str" then some '=' else align
    sign
    noNegativeZero := noNegativeZero.isSome
    alternate := alternate.isSome
    width, grouping, precision, type }

/-- A text filled up to a width. -/
def pad (spec : Spec) (fallback : Char) (sign body : List Char) : List Char :=
  let text := sign ++ body
  let missing := spec.width.getD 0 - text.length
  let blanks (n : Nat) : List Char := List.replicate n spec.fill
  match spec.align.getD fallback with
  | '<' => text ++ blanks missing
  | '^' => blanks (missing / 2) ++ text ++ blanks (missing - missing / 2)
  | '=' => sign ++ blanks missing ++ body
  | _ => blanks missing ++ text

/-- Digits in groups with a separator between them, counted from the right. -/
def group (size : Nat) (separator : Char) (digits : List Char) : List Char :=
  let rec go : Nat → List Char → List Char
    | _, [] => []
    | n, c :: rest => if n = size then separator :: c :: go 1 rest else c :: go (n + 1) rest
  (go 0 digits.reverse).reverse

/-- Digits with zeros before them so that they fill a width with their separators. -/
def fillZeros (size : Nat) (separator : Char) (width : Nat) : Nat → List Char → List Char
  | 0, digits => group size separator digits
  | fuel + 1, digits =>
    let text := group size separator digits
    if width ≤ text.length then text
    else if text.length + 1 = width && (group size separator ('0' :: digits)).length > width then
      group size separator ('0' :: digits)
    else fillZeros size separator width fuel ('0' :: digits)

/-- The sign of a number. -/
def signOf (spec : Spec) (negative : Bool) : List Char :=
  if negative then ['-'] else if spec.sign = some '+' then ['+'] else if spec.sign = some ' ' then [' '] else []

/-- A number with its sign, mark, digits before the point and the rest. -/
def number (spec : Spec) (negative : Bool) (mark digits tail : List Char) (size : Nat) : List Char :=
  let sign := signOf spec negative ++ mark
  match spec.grouping, digits with
  | none, _ | _, [] => pad spec '>' sign (digits ++ tail)
  | some g, _ =>
    let body :=
      if spec.fill = '0' && spec.align = some '=' then
        let room := spec.width.getD 0 - sign.length - tail.length
        fillZeros size g room (room + 1) digits
      else group size g digits
    pad spec '>' sign (body ++ tail)

/-- A presentation that a type does not have. -/
def unknownCode (c : Char) (typeName : String) : Raised :=
  .valueError ("Unknown format code '" ++ String.singleton c ++ "' for object of type '" ++ typeName ++ "'")

/-- The digits of a natural number in a base. -/
def digitsIn (base n : Nat) : List Char := Nat.toDigits base n

/-- The magnitude of a floating point number in a presentation. -/
def floatBody (spec : Spec) (type : Option Char) (x : Float) : List Char :=
  match Dyadic.ofFloat? x with
  | none =>
    let word := ChartScript.Number.specialWord x
    match type with
    | some c => if c.isUpper then word.map Char.toUpper else word
    | none => word
  | some d =>
    let upper (cs : List Char) (c : Char) : List Char := if c.isUpper then cs.map Char.toUpper else cs
    match type with
    | some c =>
      let p := spec.precision.getD 6
      if c = 'f' || c = 'F' then d.fixed p spec.alternate
      else if c = 'e' || c = 'E' then upper (d.scientificText p spec.alternate) c
      else if c = '%' then []
      else upper (d.general p (max p 1) spec.alternate false) c
    | none =>
      match spec.precision with
      | some p => d.general p ((max p 1 : Nat) - 1) spec.alternate true
      | none => (ChartScript.Number.display x).toList.dropWhile (· = '-')

/-- A floating point number in a format. -/
def float (spec : Spec) (x : Float) (typeName : String) : Except Raised (List Char) := do
  let type := spec.type
  match type with
  | some c =>
    if !("eEfFgGn%".toList.contains c) then throw (unknownCode c typeName)
  | none => pure ()
  let shown : Option Char := if type = some 'n' then some 'g' else type
  let percent : Bool := shown = some '%'
  let y := if percent then x * 100 else x
  let body := floatBody spec (if percent then some 'f' else shown) y
  let body := if percent then body ++ ['%'] else body
  let digits := body.takeWhile Char.isDigit
  let tail := body.drop digits.length
  let isZero : Bool := body.all fun c => !('1' ≤ c && c ≤ '9')
  let negative : Bool := !x.isNaN && ChartScript.Number.isNegative x
  let negative : Bool := if spec.noNegativeZero && isZero && x.isFinite then false else negative
  return number spec negative [] digits tail 3

/-- The presentations of integers of their own. -/
def integerCodes : List Char := ['b', 'c', 'd', 'n', 'o', 'x', 'X']

/-- An integer in a format. -/
def int (spec : Spec) (i : Int) (typeName : String) : Except Raised (List Char) := do
  let c := spec.type.getD 'd'
  if "eEfFgG%".toList.contains c then
    let x := ChartScript.Number.ofInt i
    if x.isFinite then float spec x typeName
    else throw (.overflow "int too large to convert to float")
  else if !integerCodes.contains c then throw (unknownCode c typeName)
  else
    if spec.precision.isSome then
      throw (.valueError "Precision not allowed in integer format specifier")
    if spec.noNegativeZero then
      throw (.valueError "Negative zero coercion (z) not allowed in integer format specifier")
    if c = 'c' then
      if spec.sign.isSome then
        throw (.valueError "Sign not allowed with integer format specifier 'c'")
      if spec.alternate then
        throw (.valueError "Alternate form (#) not allowed with integer format specifier 'c'")
      if i < -(Int.pow 2 63) || Int.pow 2 63 ≤ i then
        throw (.overflow "Python int too large to convert to C long")
      if i < 0 || 0x10ffff < i then throw (.overflow "%c arg not in range(0x110000)")
      return pad spec '<' [] [Char.ofNat i.toNat]
    let mark (letter : Char) : List Char := if spec.alternate then ['0', letter] else []
    let n := i.natAbs
    let negative : Bool := i < 0
    if c = 'b' then return number spec negative (mark 'b') (digitsIn 2 n) [] 4
    else if c = 'o' then return number spec negative (mark 'o') (digitsIn 8 n) [] 4
    else if c = 'x' then return number spec negative (mark 'x') (digitsIn 16 n) [] 4
    else if c = 'X' then
      return number spec negative (mark 'X') ((digitsIn 16 n).map Char.toUpper) [] 4
    else
      let _ ← intText i
      return number spec negative [] (ChartScript.Number.digitsOf n) [] 3

/-- A text in a format. -/
def text (spec : Spec) (s : List Char) : Except Raised (List Char) := do
  match spec.type with
  | some c => if c != 's' then throw (unknownCode c "str")
  | none => pure ()
  if let some sign := spec.sign then
    throw (.valueError (if sign = ' ' then "Space not allowed in string format specifier"
      else "Sign not allowed in string format specifier"))
  if spec.noNegativeZero then
    throw (.valueError "Negative zero coercion (z) not allowed in string format specifier")
  if spec.alternate then
    throw (.valueError "Alternate form (#) not allowed in string format specifier")
  if spec.align = some '=' then
    throw (.valueError "'=' alignment not allowed in string format specifier")
  let cut := match spec.precision with | some p => s.take p | none => s
  return pad spec '<' [] cut

/-- A value in a format. -/
def value (h : Heap) (v : Value) (format : String) : Except Raised String := do
  if format.isEmpty then h.display v
  else
    let read (name : String) : Except Raised Spec := Spec.read name format.toList
    match v with
    | .text s => return String.ofList (← text (← read "str") s.toList)
    | .bool b =>
      let spec ← read "bool"
      if spec.type.isNone then
        return String.ofList (← int { spec with type := some 'd' } (if b then 1 else 0) "bool")
      else return String.ofList (← int spec (if b then 1 else 0) "bool")
    | .int i => return String.ofList (← int (← read "int") i "int")
    | .float x => return String.ofList (← float (← read "float") x "float")
    | _ =>
      throw (.typeError ("unsupported format string passed to " ++ h.typeName v ++ ".__format__"))

/-- A conversion of a template. -/
structure Conversion where
  /-- The name of the argument. -/
  key : Option String := none
  /-- The flags. -/
  flags : List Char := []
  /-- The width. -/
  width : Option Int := none
  /-- The precision. -/
  precision : Option Int := none
  /-- The presentation. -/
  type : Char

/-- What a template is filled with. -/
structure Filling where
  /-- The arguments in order. -/
  args : List Value
  /-- The arguments are the items of a tuple. -/
  isTuple : Bool
  /-- What is asked for arguments by name, if there is anything. -/
  mapping : Option Value

/-- The next argument and the rest. -/
def Filling.next (f : Filling) : Except Raised (Value × Filling) :=
  match f.args with
  | v :: rest => .ok (v, { f with args := rest })
  | [] => .error (.typeError "not enough arguments for format string")

/-- The specification that flags, width and precision of a conversion amount to. -/
def Conversion.spec (c : Conversion) (numeric : Bool) : Spec :=
  let left : Bool := c.flags.contains '-' || (c.width.any fun w => w < 0)
  let zero : Bool := numeric && c.flags.contains '0' && !left
  { fill := if zero then '0' else ' '
    align := some (if left then '<' else if zero then '=' else '>')
    sign :=
      if c.flags.contains '+' then some '+' else if c.flags.contains ' ' then some ' ' else none
    alternate := c.flags.contains '#'
    width := c.width.map Int.natAbs
    precision := c.precision.map fun p => p.toNat }

/-- The integer that a conversion shows. -/
def integerArgument (h : Heap) (c : Char) (v : Value) : Except Raised Int :=
  match v with
  | .bool b => .ok (if b then 1 else 0)
  | .int i => .ok i
  | .float x =>
    if c = 'd' || c = 'i' || c = 'u' then
      match ChartScript.Number.truncate? x with
      | some i => .ok i
      | none =>
        if x.isNaN then .error (.valueError "cannot convert float NaN to integer")
        else .error (.overflow "cannot convert float infinity to integer")
    else
      .error (.typeError ("%" ++ String.singleton c ++ " format: an integer is required, not float"))
  | _ =>
    .error (.typeError ("%" ++ String.singleton c ++ " format: " ++
      (if c = 'd' || c = 'i' || c = 'u' then "a real number" else "an integer") ++
      " is required, not " ++ h.typeName v))

/-- A value in a conversion. -/
def convert (h : Heap) (c : Conversion) (v : Value) : Except Raised (List Char) := do
  let t := c.type
  if t = 's' || t = 'r' || t = 'a' then
    let s ←
      if t = 's' then h.display v
      else
        let q ← h.quoted v
        if t = 'a' then
          pure (String.ofList (q.toList.flatMap fun c =>
            if c.toNat < 128 then [c] else Text.Quoted.codeEscape c))
        else pure q
    let cs := match c.precision with | some p => s.toList.take p.toNat | none => s.toList
    return pad (c.spec false) '>' [] cs
  else if t = 'd' || t = 'i' || t = 'u' || t = 'x' || t = 'X' || t = 'o' then
    let i ← integerArgument h t v
    let n := i.natAbs
    let digits :=
      if t = 'x' then digitsIn 16 n
      else if t = 'X' then (digitsIn 16 n).map Char.toUpper
      else if t = 'o' then digitsIn 8 n
      else ChartScript.Number.digitsOf n
    let digits := match c.precision with
      | some p => List.replicate (p.toNat - digits.length) '0' ++ digits
      | none => digits
    let spec := c.spec true
    let mark : List Char :=
      if spec.alternate && (t = 'x' || t = 'X' || t = 'o') then ['0', t] else []
    return pad spec '>' (signOf spec (i < 0) ++ mark) digits
  else if "eEfFgG".toList.contains t then
    let x ←
      match v with
      | .float x => pure x
      | _ =>
        match intOf? v with
        | some i =>
          let x := ChartScript.Number.ofInt i
          if x.isFinite then pure x else throw (.overflow "int too large to convert to float")
        | none => throw (.typeError ("must be real number, not " ++ h.typeName v))
    let spec := c.spec true
    let body := floatBody spec (some t) x
    return pad spec '>' (signOf spec (!x.isNaN && ChartScript.Number.isNegative x)) body
  else
    let spec := c.spec false
    match v with
    | .text s =>
      match s.toList with
      | [ch] => return pad spec '>' [] [ch]
      | _ => throw (.typeError "%c requires int or char")
    | _ =>
      match intOf? v with
      | some i =>
        if i < 0 || 0x10ffff < i then throw (.overflow "%c arg not in range(0x110000)")
        return pad spec '>' [] [Char.ofNat i.toNat]
      | none => throw (.typeError "%c requires int or char")

/-- A number or a star in a conversion: the star takes an argument, which must have a size
that counts fit in. -/
def amount (bits : Nat) (kind : String) (cs : List Char) (f : Filling) :
    Except Raised (Option Int × List Char × Filling) := do
  match cs with
  | '*' :: rest =>
    let (v, f) ← f.next
    match intOf? v with
    | some i =>
      if i < -(Int.pow 2 bits) || Int.pow 2 bits ≤ i then
        throw (.overflow ("Python int too large to convert to C " ++ kind))
      return (some i, rest, f)
    | none => throw (.typeError "* wants int")
  | _ =>
    let (n, rest) := leadingNat cs
    return (n.map fun k => (k : Int), rest, f)

/-- The presentations of a template. -/
def templateCodes : List Char := "sradiuxXoeEfFgGc".toList

/-- The argument of a name: an entry of a mapping. Whatever has elements by number only
refuses names. -/
def argumentNamed (h : Heap) (source : Value) (name : String) : Except Raised Value :=
  let mapping := match source with | .object a => h.entries? a | _ => none
  match mapping with
  | some entries =>
    match Heap.find? entries (.text name) with
    | some e => .ok e.2
    | none => .error ⟨"KeyError", [.text name]⟩
  | none =>
    let type := h.typeName source
    .error (.typeError (
      if type = "array.array" then "array indices must be integers"
      else (if type = "bytes" then "byte" else type) ++
        " indices must be integers or slices, not str"))

/-- Fills a template; `index` is the place of the next character. -/
def fill (h : Heap) :
    Nat → List Char → Nat → Filling → Except Raised (List Char × Filling)
  | 0, _, _, f => .ok ([], f)
  | _, [], _, f => .ok ([], f)
  | fuel + 1, '%' :: '%' :: rest, index, f => do
    let (more, f) ← fill h fuel rest (index + 2) f
    return ('%' :: more, f)
  | fuel + 1, '%' :: rest, index, f => do
    let total := rest.length
    let (key, after) ←
      match rest with
      | '(' :: name =>
        if f.mapping.isNone then throw (.typeError "format requires a mapping")
        let inside := name.takeWhile (· != ')')
        if inside.length = name.length then throw (.valueError "incomplete format key")
        pure (some (String.ofList inside), name.drop (inside.length + 1))
      | _ => pure (none, rest)
    let f ←
      match key, f.mapping with
      | some k, some source => do
        let v ← argumentNamed h source k
        pure { f with args := [v] }
      | _, _ => pure f
    let flags := after.takeWhile fun c => "-+ #0".toList.contains c
    let (width, after, f) ← amount 63 "ssize_t" (after.drop flags.length) f
    let (precision, after, f) ←
      match after with
      | '.' :: more =>
        let (p, after, f) ← amount 31 "int" more f
        pure (some (p.getD 0), after, f)
      | _ => pure (none, after, f)
    let after := match after with
      | m :: more => if m = 'h' || m = 'l' || m = 'L' then more else after
      | [] => []
    match after with
    | [] => throw (.valueError "incomplete format")
    | t :: more =>
      let (v, f) ← f.next
      if !templateCodes.contains t then
        let shown := if 31 ≤ t.toNat && t.toNat ≤ 126 then t else '?'
        throw (.valueError ("unsupported format character '" ++ String.singleton shown ++ "' (0x" ++
          String.ofList (Nat.toDigits 16 t.toNat) ++ ") at index " ++
          toString (index + (total - more.length))))
      let shown ← convert h { key, flags, width, precision, type := t } v
      let (tail, f) ← fill h fuel more (index + 1 + (total - more.length)) f
      return (shown ++ tail, f)
  | fuel + 1, c :: rest, index, f => do
    let (more, f) ← fill h fuel rest (index + 1) f
    return (c :: more, f)

/-- Whether a value other than a tuple or a text has elements that can be asked for. -/
def isIndexable (h : Heap) : Value → Bool
  | .object a =>
    match h.get? a with
    | some (.dict _) | some (.list _) | some (.array _ _) => true
    | _ => false
  | .range _ _ _ | .bytes _ => true
  | _ => false

/-- A template filled with a value: the items of a tuple, the elements of what has some, or
the value itself. -/
def template (h : Heap) (s : String) (v : Value) : Except Raised String := do
  let mapping := if isIndexable h v then some v else none
  let isTuple : Bool := match v with | .tuple _ => true | _ => false
  let args := match v with | .tuple items => items | _ => [v]
  let cs := s.toList
  let (shown, rest) ← fill h (cs.length + 1) cs 0 ⟨args, isTuple, mapping⟩
  if !rest.args.isEmpty && mapping.isNone then
    throw (.typeError "not all arguments converted during string formatting")
  return String.ofList shown

end ChartScript.Script.Format
