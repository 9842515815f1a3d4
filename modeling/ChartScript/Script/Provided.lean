import ChartScript.Number.Conversion
import ChartScript.Script.Mathematics
import ChartScript.Script.Method.Number
import ChartScript.Script.Method.Text
import ChartScript.Script.Sorting
/-!
# Provided functions and types

What a script finds by name without defining it. Arguments that are gone through are
given as containers; functions that run others or wait are not called here.
-/

namespace ChartScript.Script

/-- The elements of a value one by one. -/
def iterate (v : Value) : Op Value := do
  let h ← get
  let refuse : Op Value := throw (.typeError ("'" ++ h.typeName v ++ "' object is not iterable"))
  match v with
  | .text s =>
    Op.alloc (.source "str_iterator" (.items (s.toList.map fun c => .text (String.singleton c))))
  | .bytes bs => Op.alloc (.source "bytes_iterator" (.items (bs.map fun (b : Nat) => .int b)))
  | .tuple items => Op.alloc (.source "tuple_iterator" (.items items))
  | .range a b c => Op.alloc (.source "range_iterator" (.counter a c (rangeSize a b c)))
  | .object a =>
    match h.get? a with
    | some (.list _) => Op.alloc (.source "list_iterator" (.list a 0))
    | some (.array _ items) => Op.alloc (.source "arrayiterator" (.items items.toList))
    | some (.dict entries) =>
      Op.alloc (.source "dict_keyiterator"
        (.sized a entries.size (entries.toList.map fun e => e.2.1)))
    | some (.set items) =>
      Op.alloc (.source "set_iterator" (.sized a items.size (setOrder items.toList)))
    | some (.view kind dict) =>
      let items := h.viewItems kind dict
      let name :=
        match kind with
        | .keys => "dict_keyiterator"
        | .values => "dict_valueiterator"
        | .items => "dict_itemiterator"
      Op.alloc (.source name (.sized dict items.length items))
    | some (.source _ _) => return v
    | some (.generator _ false _) => return v
    | _ => refuse
  | _ => refuse

/-- The elements of a value in backward order. -/
def iterateBackward (v : Value) : Op Value := do
  let h ← get
  let refuse : Op Value := throw (.typeError ("'" ++ h.typeName v ++ "' object is not reversible"))
  let items (type : String) (xs : List Value) : Op Value := Op.alloc (.source type (.items xs.reverse))
  match v with
  | .text _ | .bytes _ | .tuple _ => items "reversed" ((h.elements? v).getD [])
  | .range a b c =>
    let n := rangeSize a b c
    Op.alloc (.source "range_iterator" (.counter (a + c * ((n : Int) - 1)) (-c) n))
  | .object a =>
    match h.get? a with
    | some (.list xs) => Op.alloc (.source "list_reverseiterator" (.listBackward a xs.size))
    | some (.array _ xs) => items "reversed" xs.toList
    | some (.dict entries) => items "dict_reversekeyiterator" (entries.toList.map fun e => e.2.1)
    | some (.view kind dict) => items "dict_reversekeyiterator" (h.viewItems kind dict)
    | _ => refuse
  | _ => refuse

namespace Provided

/-- The functions that are provided. -/
def functions : List String :=
  ["abs", "all", "any", "divmod", "isinstance", "len", "max", "min", "pow", "print", "round",
    "sorted", "sum"]

/-- The types that are provided. -/
def types : List String :=
  ["bool", "dict", "enumerate", "filter", "float", "int", "list", "map", "range", "reversed", "set",
    "str", "tuple", "zip"] ++ Types.namedExceptions

/-- What a name stands for that a script does not define: the module of mathematics, the
pause, arrays of numbers, and what is provided. -/
def value? (name : String) : Option Value :=
  if functions.contains name then some (.builtin name)
  else if types.contains name then some (.type name)
  else if name = "math" then some (.module "math")
  else if name = "sleep" then some (.builtin "sleep")
  else if name = "array" then some (.type "array")
  else none

/-- Whether a type is a kind of exception. -/
def isException (type : String) : Bool :=
  type = "BaseException" || (Types.exceptionParents.lookup type).isSome

/-- A refused conversion as an exception. -/
def refused (e : ChartScript.Number.ConversionError) : Raised := .of e.kind.name e.message

/-- The size of a container. -/
def sizeOf (h : Heap) (v : Value) : Except Raised Nat :=
  let refuse : Except Raised Nat :=
    .error (.typeError ("object of type '" ++ h.typeName v ++ "' has no len()"))
  match v with
  | .text s => .ok s.length
  | .bytes bs => .ok bs.length
  | .tuple items => .ok items.length
  | .range a b c => .ok (rangeSize a b c)
  | .object a =>
    match h.get? a with
    | some (.list xs) | some (.array _ xs) => .ok xs.size
    | some (.dict entries) => .ok entries.size
    | some (.set items) => .ok items.size
    | some (.view _ dict) => .ok ((h.entries? dict).getD #[]).size
    | _ => refuse
  | _ => refuse

/-- The magnitude of a number. -/
def magnitude (h : Heap) (v : Value) : Except Raised Value :=
  match v, numberOf? v with
  | .complex re im, _ => .ok (.float (ChartScript.Number.hypotenuse [re, im]))
  | _, some (.int i) => .ok (.int i.natAbs)
  | _, some (.float x) => .ok (.float x.abs)
  | _, none => .error (.typeError ("bad operand type for abs(): '" ++ h.typeName v ++ "'"))

/-- Whether a value is an instance of a type or of one of several. -/
def isInstanceOf (h : Heap) (v : Value) : Nat → Value → Except Raised Bool
  | 0, _ => .ok false
  | fuel + 1, t =>
    match t with
    | .type name => .ok (Types.isInstance h v (if name = "array" then "array.array" else name))
    | .tuple items => items.anyM fun item => isInstanceOf h v fuel item
    | .none => .ok (v matches .none)
    | _ =>
      .error (.typeError "isinstance() arg 2 must be a type, a tuple of types, or a union")

/-- An integer rounded to tens, hundreds and so on, ties to the even one. -/
def roundInt (i places : Int) : Int :=
  if 0 ≤ places then i
  else
    let unit := Nat.pow 10 (-places).toNat
    let n : Int := (ChartScript.Number.roundDiv i.natAbs unit * unit : Nat)
    if i < 0 then -n else n

/-- A number rounded. -/
def round (h : Heap) (v : Value) (places : Value) : Except Raised Value :=
  match v, numberOf? v with
  | _, none =>
    .error (.typeError ("type " ++ h.typeName v ++ " doesn't define __round__ method"))
  | _, some (.int i) =>
    match places with
    | .none => .ok (.int i)
    | p => do return .int (roundInt i (← asIndex h p))
  | _, some (.float x) =>
    match places with
    | .none =>
      match ChartScript.Number.Dyadic.ofFloat? x with
      | some d =>
        let n : Int := d.fixedUnits 0
        .ok (.int (if d.negative then -n else n))
      | none =>
        if x.isNaN then .error (.valueError "cannot convert float NaN to integer")
        else .error (.overflow "cannot convert float infinity to integer")
    | p => do
      let places ← asIndex h p
      if !x.isFinite || 400 < places then return .float x
      if places < -400 then return .float (Arithmetic.withSign 0 x)
      let r := ChartScript.Number.roundTo x places
      if r.isInf then throw (.overflow "rounded value too large to represent")
      return .float r

/-- A power, perhaps modulo a number. -/
def power (base exponent modulus : Value) : Op Value := do
  let h ← get
  match modulus with
  | .none => binary .pow false base exponent
  | m =>
    match intOf? base, intOf? exponent, intOf? m with
    | some a, some b, some c => return .int (← Op.lift (Arithmetic.powerMod a b c))
    | _, _, _ =>
      match numberOf? base, numberOf? exponent, numberOf? m with
      | some _, some _, some _ =>
        throw (.typeError "pow() 3rd argument not allowed unless all arguments are integers")
      | _, _, _ =>
        throw (.typeError ("unsupported operand type(s) for ** or pow(): '" ++ h.typeName base ++
          "', '" ++ h.typeName exponent ++ "', '" ++ h.typeName m ++ "'"))

/-- The sum of values. -/
def sum (items : List Value) (start : Value) : Op Value :=
  match start with
  | .text _ => throw (.typeError "sum() can't sum strings [use ''.join(seq) instead]")
  | .bytes _ => throw (.typeError "sum() can't sum bytes [use b''.join(seq) instead]")
  | _ => items.foldlM (binary .add false) start

/-- The value of a digit in a base up to 36. -/
def digitValue? (c : Char) : Option Nat :=
  if c.isDigit then some (c.toNat - 48)
  else if c.isAlpha then some (c.toLower.toNat - 87)
  else none

/-- An integer text in a base. -/
def intInBase? (s : String) (base : Nat) : Option Int :=
  let cs := (ChartScript.Number.trimBy Text.CharClass.isBlank s.toList).map
    ChartScript.Number.toAsciiDigit
  let (negative, body) := ChartScript.Number.splitSign cs
  let marked (letter : Char) : Option (List Char) :=
    match body with
    | '0' :: m :: rest =>
      if m.toLower = letter then
        some (match rest with | '_' :: more => more | _ => rest)
      else none
    | _ => none
  let (base, digits) : Nat × List Char :=
    let letters : List (Nat × Char) := [(2, 'b'), (8, 'o'), (16, 'x')]
    match letters.findSome? fun e =>
        if base = 0 || base = e.1 then (marked e.2).map fun ds => (e.1, ds) else none with
    | some found => found
    | none => (if base = 0 then 10 else base, body)
  if digits.isEmpty then none
  else
    let plain := ChartScript.Number.dropUnderscores (fun c => (digitValue? c).isSome) none digits
    (plain.bind fun ds => ds.foldl (fun acc c => acc.bind fun n =>
      (digitValue? c).bind fun d => if d < base then some (n * base + d) else none) (some 0)).map
      fun n => if negative then -(n : Int) else n

/-- A value as an integer. -/
def toInt (h : Heap) (v : Value) : Except Raised Value :=
  match v with
  | .text s =>
    match ChartScript.Number.textToInt s with
    | .ok n =>
      let digits := (s.toList.filter Text.CharClass.isDecimal).length
      if maxDigits < digits then
        .error (.valueError ("Exceeds the limit (4300 digits) for integer string conversion: value has " ++
          toString digits ++ " digits; use sys.set_int_max_str_digits() to increase the limit"))
      else .ok (.int n)
    | .error e => .error (refused e)
  | .float x =>
    match ChartScript.Number.floatToInt x with
    | .ok n => .ok (.int n)
    | .error e => .error (refused e)
  | _ =>
    match intOf? v with
    | some i => .ok (.int i)
    | none => .error (refused (.notInteger (h.typeName v)))

/-- A value as a floating point number. -/
def toFloat (h : Heap) (v : Value) : Except Raised Value :=
  match v with
  | .text s =>
    match ChartScript.Number.textToFloat s with
    | .ok x => .ok (.float x)
    | .error e => .error (refused e)
  | _ =>
    match numberOf? v with
    | some (.float x) => .ok (.float x)
    | some (.int i) => do return .float (← Arithmetic.toFloat i)
    | none => .error (refused (.notFloat (h.typeName v)))

/-- The only optional argument of a type. -/
def optional (name : String) (args : List Value) (kws : Keywords) : Except Raised (Option Value) := do
  Arity.noKeywords name kws
  Arity.between name 0 1 args
  return args.head?

/-- The codes of arrays of numbers. -/
def arrayCodes : List Char := ['b', 'B', 'u', 'h', 'H', 'i', 'I', 'l', 'L', 'q', 'Q', 'f', 'd']

/-- A new array of numbers. -/
def newArray (args : List Value) (kws : Keywords) : Op Value := do
  let h ← get
  Op.lift (Arity.noKeywords "array.array" kws)
  if args.isEmpty then throw (.typeError "array() takes at least 1 argument (0 given)")
  if 2 < args.length then
    throw (.typeError ("array() takes at most 2 arguments (" ++ toString args.length ++ " given)"))
  let code ←
    match args.head? with
    | some (.text s) =>
      match s.toList with
      | [c] => pure c
      | _ =>
        throw (.typeError "array() argument 1 must be a unicode character, not str")
    | v =>
      throw (.typeError ("array() argument 1 must be a unicode character, not " ++
        h.typeName (v.getD .none)))
  if !arrayCodes.contains code then
    throw (.valueError "bad typecode (must be b, B, u, h, H, i, I, l, L, q, Q, f or d)")
  match args.tail.head? with
  | none => Op.alloc (.array code #[])
  | some init =>
    match init with
    | .text _ =>
      if code != 'u' then
        throw (.typeError ("cannot use a str to initialize an array with typecode '" ++
          String.singleton code ++ "'"))
    | _ => pure ()
    let items ← Op.lift (elementsOrRefuse h init)
    let items ← Op.lift (items.mapM (arrayItem h code))
    Op.alloc (.array code items.toArray)

/-- A value of a type is made. -/
def construct (type : String) (args : List Value) (kws : Keywords) : Op Value := do
  let h ← get
  let elements (v : Option Value) : Op (List Value) :=
    match v with
    | some v => Op.lift (elementsOrRefuse h v)
    | none => return []
  match type with
  | "bool" =>
    let v ← Op.lift (optional type args kws)
    return .bool ((v.map h.truthy).getD false)
  | "list" => Op.newList (← elements (← Op.lift (optional type args kws)))
  | "tuple" => return .tuple (← elements (← Op.lift (optional type args kws)))
  | "set" => Op.alloc (.set (← elementsOf (← elements (← Op.lift (optional type args kws)))))
  | "dict" =>
    Op.lift (Arity.between "dict" 0 1 args)
    let start ←
      match args with
      | [more] => Op.lift (mergeEntries h #[] more)
      | _ => pure #[]
    Op.alloc (.dict (DictMethod.withKeywords start kws))
  | "float" =>
    match ← Op.lift (optional type args kws) with
    | some v => Op.lift (toFloat h v)
    | none => return .float 0
  | "int" =>
    if 2 < args.length + kws.length then
      throw (.typeError ("int() takes at most 2 arguments (" ++ toString (args.length + kws.length) ++
        " given)"))
    if let some k := kws.find? fun k => k.1 != "base" then
      throw (.typeError ("'" ++ k.1 ++ "' is an invalid keyword argument for int()"))
    let base : Option Value := (args[1]?).or (kws.lookup "base")
    match args.head?, base with
    | none, none => return .int 0
    | none, some _ => throw (.typeError "int() missing string argument")
    | some v, none => Op.lift (toInt h v)
    | some v, some b =>
      let n ← Op.lift (asIndex h b)
      if n != 0 && (n < 2 || 36 < n) then
        throw (.valueError "int() base must be >= 2 and <= 36, or 0")
      match v with
      | .text s =>
        match intInBase? s n.toNat with
        | some i => return .int i
        | none =>
          throw (.valueError ("invalid literal for int() with base " ++ toString n ++ ": " ++
            Text.Quoted.encode s))
      | _ => throw (.typeError "int() can't convert non-string with explicit base")
  | "str" =>
    let given ← Op.lift (Arity.named "str" ["object", "encoding", "errors"] args kws)
    match given with
    | none :: none :: _ => return .text ""
    | [some v] => return .text (← displayOf v)
    | some v :: none :: _ => return .text (← displayOf v)
    | some (.bytes bs) :: some (.text _) :: _ => NumberMethod.callBytes bs "decode" [] []
    | some v :: some (.text _) :: _ =>
      throw (.typeError (if v matches .text _ then "decoding str is not supported"
        else "decoding to str: need a bytes-like object, " ++ h.typeName v ++ " found"))
    | _ :: some e :: _ =>
      throw (.typeError ("str() argument 'encoding' must be str, not " ++ h.typeName e))
    | _ => return .text ""
  | "range" =>
    Op.lift (Arity.noKeywords type kws)
    Op.lift (Arity.between type 1 3 args)
    let bounds ← args.mapM fun v => Op.lift (asIndex h v)
    match bounds with
    | [b] => return .range 0 b 1
    | [a, b] => return .range a b 1
    | a :: b :: c :: _ =>
      if c = 0 then throw (.valueError "range() arg 3 must not be zero")
      return .range a b c
    | [] => return .range 0 0 1
  | "enumerate" =>
    if args.isEmpty && !kws.any fun k => k.1 = "iterable" then
      throw (.typeError "enumerate() missing required argument 'iterable'")
    let given ← Op.lift (Arity.named type ["iterable", "start"] args kws)
    let start ← Op.lift (asIndex h (((given[1]?).join).getD (.int 0)))
    Op.alloc (.source type (.enumerate (← iterate (((given[0]?).join).getD .none)) start))
  | "zip" =>
    if let some k := kws.find? fun k => k.1 != "strict" then
      throw (.typeError ("'" ++ k.1 ++ "' is an invalid keyword argument for zip()"))
    let strict := ((kws.lookup "strict").map h.truthy).getD false
    Op.alloc (.source type (.zip (← args.mapM iterate) strict))
  | "map" =>
    Op.lift (Arity.noKeywords type kws)
    match args with
    | f :: first :: rest => Op.alloc (.source type (.map f (← (first :: rest).mapM iterate)))
    | _ => throw (.typeError "map() must have at least two arguments.")
  | "filter" =>
    Op.lift (Arity.noKeywords type kws)
    Op.lift (Arity.between type 2 2 args)
    Op.alloc (.source type
      (.filter ((args[0]?).getD .none) (← iterate ((args[1]?).getD .none))))
  | "reversed" =>
    Op.lift (Arity.noKeywords type kws)
    Op.lift (Arity.between type 1 1 args)
    iterateBackward ((args[0]?).getD .none)
  | "array" => newArray args kws
  | _ =>
    if isException type then
      Op.lift (Arity.noKeywords type kws)
      Op.alloc (.exception type args)
    else throw (.typeError ("cannot create '" ++ type ++ "' instances"))

/-- The candidates of a least or greatest value and what stands in for it among none. -/
structure Candidates where
  /-- The candidates. -/
  items : List Value
  /-- What stands in. -/
  fallback : Option Value

/-- The candidates of `min` and `max`. -/
def candidates (h : Heap) (name : String) (args : List Value) (kws : Keywords) :
    Except Raised Candidates := do
  if args.isEmpty then
    throw (.typeError (name ++ " expected at least 1 argument, got 0"))
  if let some k := kws.find? fun k => k.1 != "key" && k.1 != "default" then
    throw (.typeError ("'" ++ k.1 ++ "' is an invalid keyword argument for " ++ name ++ "()"))
  let fallback := kws.lookup "default"
  match args with
  | [v] => return ⟨← elementsOrRefuse h v, fallback⟩
  | several =>
    if fallback.isSome then
      throw (.typeError ("Cannot specify a default for " ++ name ++
        "() with multiple positional arguments"))
    return ⟨several, none⟩

/-- The least or greatest candidate by its key. -/
def choose (h : Heap) (name : String) (fallback : Option Value) (keyed : List (Value × Value)) :
    Except Raised Value :=
  match keyed with
  | [] =>
    match fallback with
    | some v => .ok v
    | none => .error (.valueError (name ++ "() arg is an empty sequence"))
  | first :: rest => Sorting.extreme h (if name = "max" then .greater else .less) first rest

/-- The items to sort and whether backward. -/
def sortArguments (h : Heap) (args : List Value) (kws : Keywords) :
    Except Raised (List Value × Bool) := do
  Arity.between "sorted" 1 1 args
  let items ← elementsOrRefuse h ((args[0]?).getD .none)
  return (items, ← backward h kws)
where
  /-- Whether the order is backward. -/
  backward (h : Heap) (kws : Keywords) : Except Raised Bool := do
    if let some k := kws.find? fun k => k.1 != "key" && k.1 != "reverse" then
      throw (.typeError ("'" ++ k.1 ++ "' is an invalid keyword argument for sort()"))
    match kws.lookup "reverse" with
    | some v => return (← asIndex h v) != 0
    | none => return false

/-- A provided function is called. -/
def call (name : String) (args : List Value) (kws : Keywords) : Op Value := do
  let h ← get
  let given (i : Nat) : Value := (args[i]?).getD .none
  match name with
  | "abs" => Op.lift (magnitude h (← Op.lift (Arity.one name args kws)))
  | "len" => return .int (← Op.lift (sizeOf h (← Op.lift (Arity.one name args kws))))
  | "all" =>
    let items ← Op.lift (elementsOrRefuse h (← Op.lift (Arity.one name args kws)))
    return .bool (items.all h.truthy)
  | "any" =>
    let items ← Op.lift (elementsOrRefuse h (← Op.lift (Arity.one name args kws)))
    return .bool (items.any h.truthy)
  | "divmod" =>
    Op.lift (Arity.noKeywords name kws)
    Op.lift (Arity.between name 2 2 args)
    Op.lift (Arithmetic.divmod h (given 0) (given 1))
  | "isinstance" =>
    Op.lift (Arity.noKeywords name kws)
    Op.lift (Arity.between name 2 2 args)
    return .bool (← Op.lift (isInstanceOf h (given 0) 100 (given 1)))
  | "pow" =>
    let parts ← Op.lift (Arity.named name ["base", "exp", "mod"] args kws)
    match parts with
    | [some a, some b, m] => power a b (m.getD .none)
    | none :: _ => throw (.typeError "pow() missing required argument 'base' (pos 1)")
    | _ => throw (.typeError "pow() missing required argument 'exp' (pos 2)")
  | "round" =>
    let parts ← Op.lift (Arity.named name ["number", "ndigits"] args kws)
    match parts with
    | some v :: p :: _ => Op.lift (round h v (p.getD .none))
    | _ => throw (.typeError "round() missing required argument 'number' (pos 1)")
  | "sum" =>
    if args.isEmpty then throw (.typeError "sum() takes at least 1 positional argument (0 given)")
    if 2 < args.length + kws.length then
      throw (.typeError ("sum() takes at most 2 arguments (" ++ toString (args.length + kws.length) ++
        " given)"))
    if let some k := kws.find? fun k => k.1 != "start" then
      throw (.typeError ("'" ++ k.1 ++ "' is an invalid keyword argument for sum()"))
    let items ← Op.lift (elementsOrRefuse h (given 0))
    sum items (((args[1]?).or (kws.lookup "start")).getD (.int 0))
  | "sorted" =>
    let (items, backward) ← Op.lift (sortArguments h args kws)
    Op.newList (← Op.lift (Sorting.byKeys h backward (items.map fun v => (v, v))))
  | _ =>
    let c ← Op.lift (candidates h name args kws)
    Op.lift (choose h name c.fallback (c.items.map fun v => (v, v)))

end Provided

end ChartScript.Script
