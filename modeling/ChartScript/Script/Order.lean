import ChartScript.Script.Display
/-!
# Equality, order and membership

When two values are equal, which of them comes first, and whether a container holds a
value. Numbers of all kinds are compared by their exact values.
-/

namespace ChartScript.Script

/-- A number in one of its forms. -/
inductive Number.Form where
  /-- An integer. -/
  | int (value : Int)
  /-- A floating point number. -/
  | float (value : Float)

/-- The number that a value is; truth values count as integers. -/
def numberOf? : Value → Option Number.Form
  | .bool b => some (.int (if b then 1 else 0))
  | .int i => some (.int i)
  | .float x => some (.float x)
  | _ => none

/-- The integer that a value is; truth values count. -/
def intOf? : Value → Option Int
  | .bool b => some (if b then 1 else 0)
  | .int i => some i
  | _ => none

/-- The order of an integer and a floating point number; NaN has none. -/
def compareIntFloat (i : Int) (x : Float) : Option Ordering :=
  match ChartScript.Number.Dyadic.ofFloat? x with
  | some d =>
    let (num, den) := d.ratio
    let signed : Int := if d.negative then -(num : Int) else num
    some (compare (i * den) signed)
  | none => if x.isNaN then none else some (if x < 0 then .gt else .lt)

/-- The order of two numbers; NaN has none. -/
def compareNumbers : Number.Form → Number.Form → Option Ordering
  | .int a, .int b => some (compare a b)
  | .int a, .float y => compareIntFloat a y
  | .float x, .int b => (compareIntFloat b x).map Ordering.swap
  | .float x, .float y =>
    if x < y then some .lt else if x > y then some .gt else if x == y then some .eq else none

/-- The order of two sequences of characters. -/
def compareChars : List Char → List Char → Ordering
  | [], [] => .eq
  | [], _ :: _ => .lt
  | _ :: _, [] => .gt
  | a :: as, b :: bs => if a = b then compareChars as bs else compare a.toNat b.toNat

/-- The order of two byte strings. -/
def compareBytes : List Nat → List Nat → Ordering
  | [], [] => .eq
  | [], _ :: _ => .lt
  | _ :: _, [] => .gt
  | a :: as, b :: bs => if a = b then compareBytes as bs else compare a b

namespace Heap

mutual

/-- The key that a value is, if it can be one. -/
def key (h : Heap) : Value → Except Raised Key
  | .none => .ok .none
  | .bool b => .ok (.ofBool b)
  | .int i => .ok (.int i)
  | .float x => .ok (.ofFloat x)
  | .complex re im => .ok (.ofComplex re im)
  | .text s => .ok (.text s)
  | .bytes bs => .ok (.bytes bs)
  | .ellipsis => .ok (.named "Ellipsis")
  | .tuple items => tupleKey h items
  | .range a b c => .ok (.range a c (rangeSize a b c))
  | .slice _ _ _ => .error (.typeError "unhashable type: 'slice'")
  | .builtin name => .ok (.named name)
  | .type name => .ok (.named ("type " ++ name))
  | .method owner name => do return .pair (← key h owner) (.named name)
  | .module name => .ok (.named ("module " ++ name))
  | .host part => .ok (.named part.typeName)
  | .future n => .ok (.future n)
  | .object a =>
    match h.get? a with
    | some (.function _) | some (.generator _ _ _) | some (.coroutine _ _) | some (.source _ _)
    | some (.exception _ _) | some (.view .values _) => .ok (.object a)
    | some o => .error (.typeError ("unhashable type: '" ++ o.typeName ++ "'"))
    | none => .ok (.object a)

/-- The key that a tuple is. -/
def tupleKey (h : Heap) : List Value → Except Raised Key
  | [] => .ok .empty
  | v :: rest => do return .pair (← key h v) (← tupleKey h rest)

end

/-- The entries of a dictionary. -/
def entries? (h : Heap) (a : Address) : Option (Array (Key × Value × Value)) :=
  match h.get? a with
  | some (.dict entries) => some entries
  | _ => none

/-- The position of a key among entries. -/
def position? {α : Type} (entries : Array (Key × α)) (key : Key) : Option Nat :=
  entries.findIdx? fun e => e.1 = key

/-- What belongs to a key. -/
def find? {α : Type} (entries : Array (Key × α)) (key : Key) : Option α :=
  (entries.find? fun e => e.1 = key).map Prod.snd

/-- The items of a view. -/
def viewItems (h : Heap) (kind : ViewKind) (dict : Address) : List Value :=
  ((h.entries? dict).getD #[]).toList.map fun e =>
    match kind with
    | .keys => e.2.1
    | .values => e.2.2
    | .items => .tuple [e.2.1, e.2.2]

/-- The elements of a value that can be gone through without running anything. -/
def elements? (h : Heap) : Value → Option (List Value)
  | .text s => some (s.toList.map fun c => .text (String.singleton c))
  | .bytes bs => some (bs.map fun (b : Nat) => .int b)
  | .tuple items => some items
  | .range a b c => some (rangeItems a c (rangeSize a b c))
  | .object a =>
    match h.get? a with
    | some (.list items) => some items.toList
    | some (.dict entries) => some (entries.toList.map fun e => e.2.1)
    | some (.set items) => some (setOrder items.toList)
    | some (.array _ items) => some items.toList
    | some (.view kind dict) => some (h.viewItems kind dict)
    | _ => none
  | _ => none

/-- Whether two values are one and the same. -/
def same : Value → Value → Bool
  | .none, .none => true
  | .bool a, .bool b => a = b
  | .int a, .int b => a = b
  | .float x, .float y => x.toBits = y.toBits
  | .complex a b, .complex c d => a.toBits = c.toBits && b.toBits = d.toBits
  | .text a, .text b => a = b
  | .bytes a, .bytes b => a = b
  | .ellipsis, .ellipsis => true
  | .tuple [], .tuple [] => true
  | .range a b c, .range d e f => a = d && b = e && c = f
  | .builtin a, .builtin b => a = b
  | .type a, .type b => a = b
  | .module a, .module b => a = b
  | .host a, .host b => a = b
  | .future a, .future b => a = b
  | .object a, .object b => a = b
  | _, _ => false

/-- Whether two values are equal, down to a depth. -/
def equal (h : Heap) : Nat → Value → Value → Except Raised Bool
  | 0, _, _ => .error (.of "RecursionError" "maximum recursion depth exceeded in comparison")
  | depth + 1, a, b =>
    let rec each : List Value → List Value → Except Raised Bool
      | [], [] => .ok true
      | x :: xs, y :: ys => do
        if same x y then each xs ys
        else if ← equal h depth x y then each xs ys
        else return false
      | _, _ => .ok false
    match a, b with
    | .text s, .text t => .ok (s = t)
    | .tuple xs, .tuple ys => each xs ys
    | .range p q r, .range s t u =>
      let m := rangeSize p q r
      .ok (m = rangeSize s t u && (m = 0 || (p = s && (m = 1 || r = u))))
    | .slice p q r, .slice s t u => each [p, q, r] [s, t, u]
    | .complex p q, .complex r s => .ok (p == r && q == s)
    | .method p m, .method q n => if m = n then .ok (same p q) else .ok false
    | .object x, .object y =>
      if x = y then .ok true
      else
        match h.get? x, h.get? y with
        | some (.list xs), some (.list ys) => each xs.toList ys.toList
        | some (.array _ xs), some (.array _ ys) => each xs.toList ys.toList
        | some (.set xs), some (.set ys) =>
          .ok (xs.size = ys.size && xs.all fun e => (find? ys e.1).isSome)
        | some (.dict xs), some (.dict ys) =>
          if xs.size != ys.size then .ok false
          else
            xs.toList.foldlM (fun ok e => do
              match find? ys e.1 with
              | some other =>
                if !ok then return false
                else if same e.2.2 other.2 then return true
                else equal h depth e.2.2 other.2
              | none => return false) true
        | some (.view _ _), some (.view _ _) =>
          match h.elements? a, h.elements? b with
          | some xs, some ys => do
            let ks ← xs.mapM h.key
            let ls ← ys.mapM h.key
            return ks.length = ls.length && ks.all ls.contains
          | _, _ => .ok false
        | _, _ => .ok false
    | .complex p q, v | v, .complex p q =>
      match numberOf? v with
      | some n => .ok (q == 0 && compareNumbers (.float p) n = some .eq)
      | none => .ok false
    | _, _ =>
      match numberOf? a, numberOf? b with
      | some m, some n => .ok (compareNumbers m n = some .eq)
      | _, _ => .ok (same a b)

/-- Whether two values are equal. -/
def equals (h : Heap) (a b : Value) : Except Raised Bool := h.equal maxDepth a b

/-- Whether an order satisfies a comparison. -/
def holds (op : CompareOp) (o : Option Ordering) : Bool :=
  match op, o with
  | .less, some .lt => true
  | .atMost, some .lt | .atMost, some .eq => true
  | .greater, some .gt => true
  | .atLeast, some .gt | .atLeast, some .eq => true
  | _, _ => false

/-- The symbol of a comparison. -/
def symbolOf : CompareOp → String
  | .equal => "=="
  | .notEqual => "!="
  | .less => "<"
  | .atMost => "<="
  | .greater => ">"
  | .atLeast => ">="
  | .is => "is"
  | .isNot => "is not"
  | .member => "in"
  | .notMember => "not in"

/-- Compares two values by order, down to a depth. -/
def ordered (h : Heap) (op : CompareOp) : Nat → Value → Value → Except Raised Bool
  | 0, _, _ => .error (.of "RecursionError" "maximum recursion depth exceeded in comparison")
  | depth + 1, a, b =>
    let refuse : Except Raised Bool :=
      .error (.typeError ("'" ++ symbolOf op ++ "' not supported between instances of '" ++
        h.typeName a ++ "' and '" ++ h.typeName b ++ "'"))
    let rec each : List Value → List Value → Except Raised Bool
      | [], [] => .ok (holds op (some .eq))
      | [], _ :: _ => .ok (holds op (some .lt))
      | _ :: _, [] => .ok (holds op (some .gt))
      | x :: xs, y :: ys => do
        if same x y then each xs ys
        else if ← h.equal depth x y then each xs ys
        else ordered h op depth x y
    match a, b with
    | .text s, .text t => .ok (holds op (some (compareChars s.toList t.toList)))
    | .bytes s, .bytes t => .ok (holds op (some (compareBytes s t)))
    | .tuple xs, .tuple ys => each xs ys
    | .object x, .object y =>
      match h.get? x, h.get? y with
      | some (.list xs), some (.list ys) => each xs.toList ys.toList
      | some (.array _ xs), some (.array _ ys) => each xs.toList ys.toList
      | some (.set xs), some (.set ys) =>
        let within := xs.all fun e => (find? ys e.1).isSome
        let around := ys.all fun e => (find? xs e.1).isSome
        .ok (match op with
          | .less => within && !around
          | .atMost => within
          | .greater => around && !within
          | _ => around)
      | _, _ => refuse
    | _, _ =>
      match numberOf? a, numberOf? b with
      | some m, some n => .ok (holds op (compareNumbers m n))
      | _, _ => refuse

/-- Whether a value is among others. -/
def isAmong (h : Heap) (v : Value) (items : List Value) : Except Raised Bool :=
  items.anyM fun item => do
    if same item v then return true else h.equals item v

/-- Whether a text occurs in another one. -/
def occursIn (needle hay : List Char) : Bool :=
  needle.isPrefixOf hay ||
    match hay with
    | [] => false
    | _ :: rest => occursIn needle rest

/-- Whether a container holds a value, for containers that can be looked through without
running anything. -/
def contains (h : Heap) (container v : Value) : Except Raised Bool :=
  match container with
  | .text s =>
    match v with
    | .text t => .ok (occursIn t.toList s.toList)
    | _ =>
      .error (.typeError ("'in <string>' requires string as left operand, not " ++ h.typeName v))
  | .bytes bs =>
    match v with
    | .bytes needle => .ok (occursIn (needle.map Char.ofNat) (bs.map Char.ofNat))
    | _ =>
      match intOf? v with
      | some i => .ok (bs.any fun b => (b : Int) = i)
      | none => .error (.typeError ("a bytes-like object is required, not '" ++ h.typeName v ++ "'"))
  | .range a b c =>
    match intOf? v with
    | some i =>
      let n := rangeSize a b c
      .ok (0 < n && c != 0 && (i - a) % c = 0 && 0 ≤ (i - a) / c && (i - a) / c < n)
    | none => h.isAmong v (rangeItems a c (rangeSize a b c))
  | .tuple items => h.isAmong v items
  | .object address =>
    match h.get? address with
    | some (.dict entries) => do return (find? entries (← h.key v)).isSome
    | some (.set items) => do return (find? items (← h.key v)).isSome
    | _ =>
      match h.elements? container with
      | some items => h.isAmong v items
      | none =>
        .error (.typeError ("argument of type '" ++ h.typeName container ++ "' is not iterable"))
  | _ => .error (.typeError ("argument of type '" ++ h.typeName container ++ "' is not iterable"))

/-- The outcome of a comparison. -/
def compares (h : Heap) (op : CompareOp) (a b : Value) : Except Raised Bool :=
  match op with
  | .equal => h.equals a b
  | .notEqual => do return !(← h.equals a b)
  | .is => .ok (same a b)
  | .isNot => .ok (!same a b)
  | .member => h.contains b a
  | .notMember => do return !(← h.contains b a)
  | _ => h.ordered op maxDepth a b

/-- Whether a value counts as true. -/
def truthy (h : Heap) : Value → Bool
  | .none => false
  | .bool b => b
  | .int i => i != 0
  | .float x => x != 0
  | .complex re im => re != 0 || im != 0
  | .text s => !s.isEmpty
  | .bytes bs => !bs.isEmpty
  | .tuple items => !items.isEmpty
  | .range a b c => rangeSize a b c != 0
  | .object a =>
    match h.get? a with
    | some (.list items) => !items.isEmpty
    | some (.dict entries) => !entries.isEmpty
    | some (.set items) => !items.isEmpty
    | some (.array _ items) => !items.isEmpty
    | some (.view _ dict) => !((h.entries? dict).getD #[]).isEmpty
    | _ => true
  | _ => true

end Heap

end ChartScript.Script
