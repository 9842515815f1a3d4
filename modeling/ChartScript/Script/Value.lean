import ChartScript.Script.Scope.Check
/-!
# Values of a running script

Values, the frames of suspended work, and the objects on the heap. Values that can be
told apart by identity or changed in place live on the heap; all others are immediate.
-/

namespace ChartScript.Script

/-- The parts of the environment that a script is given. -/
inductive HostPart where
  /-- The environment itself. -/
  | environment
  /-- The emitters of plots. -/
  | plot
  /-- The access to attachments. -/
  | attachments
  /-- The indicator functions. -/
  | utils
  deriving Repr, DecidableEq

/-- The name of the type of a part of the environment. -/
def HostPart.typeName : HostPart → String
  | environment => "CapabilityEnvironment"
  | plot => "PlotEmitters"
  | attachments => "AttachmentAccess"
  | utils => "IndicatorUtils"

/-- A value. -/
inductive Value where
  /-- No value. -/
  | none
  /-- A truth value. -/
  | bool (value : Bool)
  /-- An integer. -/
  | int (value : Int)
  /-- A floating point number. -/
  | float (value : Float)
  /-- A complex number. -/
  | complex (real imag : Float)
  /-- A text. -/
  | text (value : String)
  /-- Bytes. -/
  | bytes (value : List Nat)
  /-- Three points. -/
  | ellipsis
  /-- A tuple. -/
  | tuple (items : List Value)
  /-- A range of integers. -/
  | range (start stop step : Int)
  /-- A slice. -/
  | slice (lower upper step : Value)
  /-- A function that is provided. -/
  | builtin (name : String)
  /-- A type. -/
  | type (name : String)
  /-- A method of a value. -/
  | method (owner : Value) (name : String)
  /-- A module. -/
  | module (name : String)
  /-- A part of the environment. -/
  | host (part : HostPart)
  /-- The answer to a capability call, by the number of the call. -/
  | future (call : Nat)
  /-- An object on the heap. -/
  | object (address : Address)
  deriving Inhabited

/-- An exception that is raised: its type and arguments. -/
structure Raised where
  /-- The name of the type. -/
  type : String
  /-- The arguments. -/
  args : List Value
  deriving Inhabited

namespace Raised

/-- An exception with a text. -/
def of (type message : String) : Raised := ⟨type, [.text message]⟩

/-- A value of the wrong type. -/
def typeError (message : String) : Raised := of "TypeError" message

/-- A value that is not acceptable. -/
def valueError (message : String) : Raised := of "ValueError" message

/-- An absent attribute. -/
def attributeError (message : String) : Raised := of "AttributeError" message

/-- A position outside of a sequence. -/
def indexError (message : String) : Raised := of "IndexError" message

/-- A division by zero. -/
def zeroDivision (message : String) : Raised := of "ZeroDivisionError" message

/-- A number out of range. -/
def overflow (message : String) : Raised := of "OverflowError" message

/-- Too deep a nesting. -/
def recursion : Raised := of "RecursionError" "maximum recursion depth exceeded"

end Raised

/-- The body of a function. -/
inductive Body where
  /-- Statements. -/
  | block (statements : List Stmt)
  /-- An expression whose value is returned. -/
  | expr (value : Expr)

/-- What the text of a function says about its calls. -/
structure Code where
  /-- The name. -/
  name : String
  /-- The name with those of the functions around it. -/
  qualname : String
  /-- The parameters. -/
  params : Params
  /-- The body. -/
  body : Body
  /-- Whether a call has to be waited for. -/
  isAsync : Bool
  /-- Whether a call hands out values. -/
  isGenerator : Bool
  /-- The names that belong to a call. -/
  own : List String
  /-- The names that belong to the module. -/
  globals : List String

/-- How the elements of a comprehension are used. -/
inductive Element where
  /-- One expression, collected in a container of a kind. -/
  | one (kind : Scope.CompKind) (value : Expr)
  /-- A key and a value. -/
  | entry (key value : Expr)

/-- What is done with values once all of them are there. -/
inductive Use where
  /-- They become a list. -/
  | list
  /-- They become a tuple. -/
  | tuple
  /-- They become a set. -/
  | set
  /-- They become a dictionary; each entry is a pair or a mapping. -/
  | dict (isPair : List Bool)
  /-- They become a slice; absent ones are left out. -/
  | slice (lower upper step : Bool)
  /-- An operator is applied to the one value. -/
  | unary (op : UnaryOp)
  /-- An operator is applied to the two values. -/
  | binary (op : BinaryOp)
  /-- An operator is applied in place. -/
  | update (op : BinaryOp)
  /-- An attribute is read. -/
  | attribute (name : String)
  /-- An element is read. -/
  | subscript
  /-- The first value is called; the last ones are arguments by keyword. -/
  | call (keywords : List (Option String))
  /-- The values are formatted texts to be joined. -/
  | join
  /-- A replacement field, with or without a format. -/
  | field (conversion : Option Char)
  /-- A function is defined by decorators, defaults and annotations. -/
  | function (code : Code) (decorators : Nat) (defaults : List String)
  /-- A class is defined. -/
  | classOf
  /-- The value is awaited. -/
  | await
  /-- The value is handed out. -/
  | yield
  /-- The elements of the value are handed out. -/
  | yieldFrom
  /-- The value is raised, perhaps with a cause. -/
  | raise
  /-- The value explains a failed check. -/
  | assert
  /-- The value is a context, perhaps one that waits. -/
  | context (isAsync : Bool)
  /-- Nothing: the values are only evaluated. -/
  | ignore

/-- What is done with the elements of a value while they come. -/
inductive Gathering where
  /-- All are collected. -/
  | all
  /-- At most so many are collected. -/
  | upTo (limit : Nat)
  /-- They are tested until one is true. -/
  | anyTrue
  /-- They are tested until one is false. -/
  | allTrue
  /-- They are compared until one is equal. -/
  | contains (value : Value) (negated : Bool)

/-- What is done with values once their keys are known. -/
inductive Ranking where
  /-- They become a sorted list. -/
  | sorted (backward : Bool)
  /-- They replace the items of a list. -/
  | sort (list : Address) (backward : Bool)
  /-- One of them is chosen by a function of a name; another value stands in for none. -/
  | choose (function : String) (fallback : Option Value)

/-- What becomes of the flow of control when a block ends. -/
inductive Completion where
  /-- It goes on. -/
  | normal
  /-- An exception is raised. -/
  | raising (exception : Value)
  /-- A function returns. -/
  | returning (value : Value)
  /-- A loop ends. -/
  | breaking
  /-- A round of a loop ends. -/
  | continuing

/-- Suspended work. -/
inductive Frame where
  /-- More expressions are evaluated before the values are used. -/
  | items (use : Use) (done : List Value) (todo : List Expr)
  /-- The value's elements are among the values. -/
  | star (use : Use) (done : List Value) (todo : List Expr)
  /-- The elements have come; they are among the values. -/
  | spread (use : Use) (done : List Value) (todo : List Expr)
  /-- Operands of which one decides. -/
  | boolean (conjunction : Bool) (rest : List Expr)
  /-- The first operand of a chain of comparisons. -/
  | compareLeft (ops : List CompareOp) (rights : List Expr)
  /-- A later operand of a chain of comparisons. -/
  | compareRight (left : Value) (op : CompareOp) (ops : List CompareOp) (rights : List Expr)
  /-- The outcome of a comparison that has to be true for the chain to go on. -/
  | compareNext (right : Value) (ops : List CompareOp) (rights : List Expr)
  /-- A choice between expressions. -/
  | choose (body orelse : Expr)
  /-- A name is bound to the value, which stays. -/
  | named (target : Expr)
  /-- The rest of a block. -/
  | block (rest : List Stmt)
  /-- The value is dropped. -/
  | drop
  /-- The value is assigned to targets. -/
  | assign (targets : List Expr)
  /-- Targets are assigned one by one. -/
  | assignEach (pairs : List (Expr × Value))
  /-- The elements of the value are assigned to targets. -/
  | unpack (targets : List Expr)
  /-- The value is assigned to an attribute of the value that comes. -/
  | setAttribute (name : String) (value : Value)
  /-- The value is assigned to an element of the value that comes. -/
  | setOwner (index : Expr) (value : Value)
  /-- The value is assigned to the element at the index that comes. -/
  | setIndex (owner value : Value)
  /-- The elements that come replace a slice of a list. -/
  | setSlice (owner index : Value)
  /-- An attribute is assigned in place. -/
  | updateAttribute (name : String) (op : BinaryOp) (value : Expr)
  /-- An element is assigned in place; its index comes first. -/
  | updateOwner (index : Expr) (op : BinaryOp) (value : Expr)
  /-- An element at an index is assigned in place. -/
  | updateIndex (owner : Value) (op : BinaryOp) (value : Expr)
  /-- The new value of an element comes. -/
  | storeIndex (owner index : Value)
  /-- The new value of an attribute comes. -/
  | storeAttribute (owner : Value) (name : String)
  /-- An attribute is deleted. -/
  | deleteAttribute (name : String)
  /-- An element is deleted; its index comes next. -/
  | deleteOwner (index : Expr)
  /-- An element at the index that comes is deleted. -/
  | deleteIndex (owner : Value)
  /-- More targets are deleted. -/
  | deleteRest (targets : List Expr)
  /-- A choice between blocks. -/
  | branch (body orelse : List Stmt)
  /-- A loop with a test: the outcome of the test comes. -/
  | whileTest (test : Expr) (body orelse : List Stmt)
  /-- A loop with a test: its body is running. -/
  | whileBody (test : Expr) (body orelse : List Stmt)
  /-- The value is looped over. -/
  | forStart (isAsync : Bool) (target : Expr) (body orelse : List Stmt)
  /-- A loop over elements: the next one comes. -/
  | forNext (source : Value) (target : Expr) (body orelse : List Stmt)
  /-- A loop over elements: its target is being assigned. -/
  | forBody (body : List Stmt)
  /-- A loop over elements: its body is running. -/
  | forRound (source : Value) (target : Expr) (body orelse : List Stmt)
  /-- A guarded block is running. -/
  | handlers (handlers : List Handler) (orelse : List Stmt)
  /-- The types of a handler come. -/
  | handlerType (exception : Value) (name : Option String) (body : List Stmt)
    (rest : List Handler)
  /-- A handler is running; the exception handled outside and the name to forget. -/
  | handling (outer : Option Value) (name : Option String)
  /-- A block with a final part is running. -/
  | final (block : List Stmt)
  /-- A final part is running. -/
  | finalEnd (completion : Completion) (outer : Option Value)
  /-- The value is returned. -/
  | returns
  /-- The outcome of a check comes. -/
  | assertTest (message : Option Expr)
  /-- The value is matched. -/
  | matchStart (cases : List MatchCase)
  /-- The condition of a case comes. -/
  | matchGuard (subject : Value) (body : List Stmt) (rest : List MatchCase)
  /-- An annotation is evaluated after the assignment. -/
  | hint (value : Expr)
  /-- A value is replaced by another one. -/
  | replaceBy (value : Value)
  /-- Decorators are applied to the value, which is bound to a name. -/
  | decorate (decorators : List Value) (name : String)
  /-- A comprehension whose first source comes. -/
  | compStart (element : Element) (clauses : List Clause)
  /-- A comprehension is running; its container, and the scope around it. -/
  | compEnd (container : Value) (outer : Address)
  /-- A comprehension: the source of a clause comes. -/
  | compSource (element : Element) (clause : Clause) (rest : List Clause) (container : Value)
  /-- A comprehension: the next element of a clause comes. -/
  | compNext (element : Element) (clause : Clause) (rest : List Clause) (container source : Value)
  /-- A comprehension: the targets of a clause have been assigned. -/
  | compTests (element : Element) (conditions : List Expr) (rest : List Clause) (container : Value)
  /-- A comprehension: the outcome of a condition comes. -/
  | compTest (element : Element) (conditions : List Expr) (rest : List Clause) (container : Value)
  /-- A comprehension: an element comes. -/
  | compAdd (container : Value)
  /-- A comprehension: a key comes before its value. -/
  | compKey (value : Expr) (container : Value)
  /-- A comprehension: the value of a key comes. -/
  | compEntry (key container : Value)
  /-- The elements of a source come. -/
  | gather (how : Gathering) (done : List Value) (source : Value)
  /-- The elements of an argument come before a call. -/
  | argument (func : Value) (before after : List Value) (keywords : List (String × Value))
  /-- The key of a value comes; others have theirs or wait. -/
  | ranks (ranking : Ranking) (func : Value) (done : List (Value × Value)) (item : Value)
    (todo : List Value)
  /-- A function call is running. -/
  | activation (scope : Address) (handled : Option Value)
  /-- A generator is running. -/
  | generator (address : Address) (scope : Address) (handled : Option Value)
  /-- A coroutine is running. -/
  | coroutine (address : Address) (scope : Address) (handled : Option Value)
  /-- The elements of another source are handed out. -/
  | delegate (source : Value)
  /-- What a generator hands out is the value; its end is an exception. -/
  | sent
  /-- A generator has to end. -/
  | closing
  /-- The next element is numbered. -/
  | numbered (address : Address)
  /-- Elements of several sources are paired. -/
  | paired (address : Address) (done : List Value) (todo : List Value)
  /-- A source that should have ended with the ones before it is asked once more. -/
  | longer (index : Nat) (todo : List Value)
  /-- Elements of several sources are given to a function. -/
  | mapped (address : Address) (done : List Value) (todo : List Value)
  /-- The outcome of the function is the next element. -/
  | mapResult
  /-- The next element has to pass a test. -/
  | filtered (address : Address)
  /-- The outcome of the test of an element comes. -/
  | filterTest (address : Address) (item : Value)
  /-- The wake-up call of a sleeper comes. -/
  | sleeping (result : Value)
  /-- A call is being settled by the script itself, with a result or an exception. -/
  | settling (call : Nat) (outcome : Except Value Value)
  /-- A call was to be settled with something that it cannot be settled with; whether it is
  settled comes. -/
  | unfit (reason : Raised)

/-- The state of a generator or coroutine. -/
inductive Activity where
  /-- It has not begun. -/
  | fresh (code : Code) (scope : Address)
  /-- It handed out a value: its frames, innermost first, its scope and what it handles. -/
  | suspended (frames : List Frame) (scope : Address) (handled : Option Value)
  /-- A generator expression that has not begun. -/
  | comprehension (element : Element) (clause : Clause) (rest : List Clause) (source : Value)
    (scope : Address)
  /-- A pause. -/
  | sleep (delay result : Value)
  /-- It is running. -/
  | running
  /-- It has ended. -/
  | finished

/-- A source of elements. -/
inductive Source where
  /-- Remaining elements. -/
  | items (rest : List Value)
  /-- The elements of a list from a position on. -/
  | list (address : Address) (position : Nat)
  /-- The elements of a list before a position, backward. -/
  | listBackward (address : Address) (position : Nat)
  /-- Remaining integers. -/
  | counter (next step : Int) (count : Nat)
  /-- Remaining elements of a container that must keep its size. -/
  | sized (address : Address) (size : Nat) (rest : List Value)
  /-- Numbered elements. -/
  | enumerate (source : Value) (next : Int)
  /-- Elements of several sources together; `strict` asks for equal lengths. -/
  | zip (sources : List Value) (strict : Bool)
  /-- Outcomes of a function. -/
  | map (func : Value) (sources : List Value)
  /-- Elements that pass a test. -/
  | filter (func : Value) (source : Value)

/-- The views of a dictionary. -/
inductive ViewKind where
  /-- The keys. -/
  | keys
  /-- The values. -/
  | values
  /-- The entries. -/
  | items
  deriving Repr, DecidableEq

/-- The variables of a call, a comprehension or the module. -/
structure Variables where
  /-- The values of the names that are bound. -/
  vars : List (String × Value) := []
  /-- The names that belong here. -/
  own : List String := []
  /-- The names that belong to the module. -/
  globals : List String := []
  /-- The scopes around this one, innermost first, without the module. -/
  outer : List Address := []
  /-- The name of the function, empty for the module. -/
  qualname : String := ""
  /-- Whether this is the module. -/
  isModule : Bool := false

/-- A function. -/
structure Closure where
  /-- What its text says. -/
  code : Code
  /-- The values of defaults by parameter. -/
  defaults : List (String × Value)
  /-- The scopes around it. -/
  outer : List Address
  /-- Attributes that were given to it. -/
  attributes : List (String × Value) := []

/-- An object on the heap. -/
inductive Object where
  /-- A list. -/
  | list (items : Array Value)
  /-- A dictionary. -/
  | dict (entries : Array (Key × Value × Value))
  /-- A set. -/
  | set (items : Array (Key × Value))
  /-- An array of numbers of one type. -/
  | array (code : Char) (items : Array Value)
  /-- A view of a dictionary. -/
  | view (kind : ViewKind) (dict : Address)
  /-- A function. -/
  | function (closure : Closure)
  /-- A generator. -/
  | generator (name : String) (isAsync : Bool) (activity : Activity)
  /-- A coroutine. -/
  | coroutine (name : String) (activity : Activity)
  /-- A source of elements, with the name of its type. -/
  | source (type : String) (source : Source)
  /-- An exception. -/
  | exception (type : String) (args : List Value)
  /-- Variables. -/
  | variables (scope : Variables)

/-- The heap. -/
structure Heap where
  /-- The objects by address. -/
  objects : Array Object := #[]

/-- Work on the heap that may raise an exception. -/
abbrev Op := EStateM Raised Heap

namespace Heap

/-- The object at an address. -/
def get? (h : Heap) (a : Address) : Option Object := h.objects[a]?

/-- The heap with another object at an address. -/
def put (h : Heap) (a : Address) (o : Object) : Heap := ⟨h.objects.setIfInBounds a o⟩

/-- A new object. -/
def alloc (h : Heap) (o : Object) : Heap × Address := (⟨h.objects.push o⟩, h.objects.size)

end Heap

namespace Op

/-- A new object. -/
def alloc (o : Object) : Op Value := do
  let (h, a) := (← get).alloc o
  set h
  return .object a

/-- Changes the object at an address. -/
def put (a : Address) (o : Object) : Op Unit := modify fun h => h.put a o

/-- A new list. -/
def newList (items : List Value) : Op Value := alloc (.list items.toArray)

end Op

/-- The name of the type of an object. -/
def Object.typeName : Object → String
  | .list _ => "list"
  | .dict _ => "dict"
  | .set _ => "set"
  | .array _ _ => "array.array"
  | .view .keys _ => "dict_keys"
  | .view .values _ => "dict_values"
  | .view .items _ => "dict_items"
  | .function _ => "function"
  | .generator _ isAsync _ => if isAsync then "async_generator" else "generator"
  | .coroutine _ _ => "coroutine"
  | .source type _ => type
  | .exception type _ => type
  | .variables _ => "module"

/-- The name of the type of a value. -/
def Heap.typeName (h : Heap) : Value → String
  | .none => "NoneType"
  | .bool _ => "bool"
  | .int _ => "int"
  | .float _ => "float"
  | .complex _ _ => "complex"
  | .text _ => "str"
  | .bytes _ => "bytes"
  | .ellipsis => "ellipsis"
  | .tuple _ => "tuple"
  | .range _ _ _ => "range"
  | .slice _ _ _ => "slice"
  | .builtin name => if name = "sleep" then "function" else "builtin_function_or_method"
  | .type _ => "type"
  | .method owner _ =>
    match owner with
    | .host .utils => "function"
    | .host _ => "method"
    | _ => "builtin_function_or_method"
  | .module _ => "module"
  | .host part => part.typeName
  | .future _ => "_asyncio.Future"
  | .object a => ((h.get? a).map Object.typeName).getD "object"

/-- How many integers a range has. -/
def rangeSize (start stop step : Int) : Nat :=
  if 0 < step then ((stop - start + step - 1).fdiv step).toNat
  else if step < 0 then ((start - stop - step - 1).fdiv (-step)).toNat
  else 0

/-- The integers of a range. -/
def rangeItems (start step : Int) (count : Nat) : List Value :=
  (List.range count).map fun (i : Nat) => .int (start + i * step)

end ChartScript.Script
