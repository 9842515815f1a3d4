/-!
# The tree of a script

Expressions, statements and their parts. Every node that a report can point at keeps
the line on which its text begins.
-/

namespace ChartScript.Script

/-- Most digits of an integer that is read or written in base ten. -/
def maxDigits : Nat := 4300

/-- A constant that is written in a script. -/
inductive Constant where
  /-- No value. -/
  | none
  /-- A truth value. -/
  | bool (value : Bool)
  /-- An integer. -/
  | int (value : Int)
  /-- A floating point number. -/
  | float (value : Float)
  /-- An imaginary number. -/
  | imaginary (value : Float)
  /-- A text. -/
  | text (value : String)
  /-- Bytes. -/
  | bytes (value : List Nat)
  /-- Three points. -/
  | ellipsis
  deriving Inhabited

/-- Operators between two operands. -/
inductive BinaryOp where
  /-- Sum. -/
  | add
  /-- Difference. -/
  | sub
  /-- Product. -/
  | mul
  /-- Matrix product. -/
  | matMul
  /-- Quotient. -/
  | div
  /-- Quotient rounded down. -/
  | floorDiv
  /-- Remainder. -/
  | mod
  /-- Power. -/
  | pow
  /-- Shift to the left. -/
  | shiftLeft
  /-- Shift to the right. -/
  | shiftRight
  /-- Bitwise or. -/
  | bitOr
  /-- Bitwise exclusive or. -/
  | bitXor
  /-- Bitwise and. -/
  | bitAnd
  deriving Repr, DecidableEq, Inhabited

/-- Operators before one operand. -/
inductive UnaryOp where
  /-- Bitwise complement. -/
  | invert
  /-- Logical negation. -/
  | not
  /-- The number itself. -/
  | plus
  /-- The opposite number. -/
  | minus
  deriving Repr, DecidableEq, Inhabited

/-- Comparisons. -/
inductive CompareOp where
  /-- Equality. -/
  | equal
  /-- Inequality. -/
  | notEqual
  /-- Less. -/
  | less
  /-- At most. -/
  | atMost
  /-- Greater. -/
  | greater
  /-- At least. -/
  | atLeast
  /-- The same object. -/
  | is
  /-- Another object. -/
  | isNot
  /-- Membership. -/
  | member
  /-- Absence. -/
  | notMember
  deriving Repr, DecidableEq, Inhabited

mutual

/-- An expression. -/
inductive Expr where
  /-- A constant. -/
  | constant (line : Nat) (value : Constant)
  /-- A name. -/
  | name (line : Nat) (id : String)
  /-- An attribute of a value. -/
  | attribute (line : Nat) (value : Expr) (attr : String)
  /-- An element of a value. -/
  | subscript (line : Nat) (value index : Expr)
  /-- A slice inside a subscript. -/
  | slice (line : Nat) (lower upper step : Option Expr)
  /-- The elements of a value in place of one element. -/
  | starred (line : Nat) (value : Expr)
  /-- A list display. -/
  | list (line : Nat) (items : List Expr)
  /-- A tuple display. -/
  | tuple (line : Nat) (items : List Expr)
  /-- A set display. -/
  | set (line : Nat) (items : List Expr)
  /-- A dictionary display. -/
  | dict (line : Nat) (entries : List DictEntry)
  /-- An operator before its operand. -/
  | unary (line : Nat) (op : UnaryOp) (operand : Expr)
  /-- An operator between its operands. -/
  | binary (line : Nat) (left : Expr) (op : BinaryOp) (right : Expr)
  /-- Operands of which one decides: all of them for a conjunction, any for a disjunction. -/
  | boolean (line : Nat) (conjunction : Bool) (operands : List Expr)
  /-- A chain of comparisons. -/
  | compare (line : Nat) (left : Expr) (ops : List CompareOp) (rights : List Expr)
  /-- A choice. -/
  | conditional (line : Nat) (test body orelse : Expr)
  /-- A call. -/
  | call (line : Nat) (func : Expr) (args : List Expr) (keywords : List Keyword)
  /-- A function without name. -/
  | lambda (line : Nat) (params : Params) (body : Expr)
  /-- A list comprehension. -/
  | listComp (line : Nat) (element : Expr) (clauses : List Clause)
  /-- A set comprehension. -/
  | setComp (line : Nat) (element : Expr) (clauses : List Clause)
  /-- A dictionary comprehension. -/
  | dictComp (line : Nat) (key value : Expr) (clauses : List Clause)
  /-- A generator expression. -/
  | generator (line : Nat) (element : Expr) (clauses : List Clause)
  /-- Waiting for a value. -/
  | await (line : Nat) (value : Expr)
  /-- Handing out a value. -/
  | yield (line : Nat) (value : Option Expr)
  /-- Handing out the elements of a value. -/
  | yieldFrom (line : Nat) (value : Expr)
  /-- Binding a name inside an expression. -/
  | named (line : Nat) (target : Expr) (value : Expr)
  /-- A formatted text. -/
  | formatted (line : Nat) (parts : List Expr)
  /-- A replacement field of a formatted text. -/
  | replacement (line : Nat) (value : Expr) (conversion : Option Char) (spec : Option Expr)

/-- An entry of a dictionary display. -/
inductive DictEntry where
  /-- A key with its value. -/
  | pair (key value : Expr)
  /-- The entries of a mapping. -/
  | unpack (value : Expr)

/-- An argument by keyword, or a mapping of them if there is no name. -/
inductive Keyword where
  /-- The argument. -/
  | mk (line : Nat) (name : Option String) (value : Expr)

/-- A clause of a comprehension. -/
inductive Clause where
  /-- Target, elements and conditions. -/
  | mk (isAsync : Bool) (target iter : Expr) (conditions : List Expr)

/-- A parameter. -/
inductive Param where
  /-- Name, annotation and default. -/
  | mk (line : Nat) (name : String) (hint fallback : Option Expr)

/-- The parameters of a function. -/
inductive Params where
  /-- By position only, by position or name, the rest by position, by name only, the rest
  by name. -/
  | mk (positional plain : List Param) (rest : Option Param) (named : List Param)
    (others : Option Param)

end

/-- A pattern of a match statement. -/
inductive Pattern where
  /-- A value to compare with. -/
  | value (expr : Expr)
  /-- A constant that is compared by identity. -/
  | constant (line : Nat) (value : Constant)
  /-- A name that is bound, or none. -/
  | capture (line : Nat) (name : Option String)
  /-- A sequence. -/
  | sequence (line : Nat) (items : List Pattern)
  /-- The rest of a sequence. -/
  | star (line : Nat) (name : Option String)
  /-- A mapping with keys and patterns for their values. -/
  | mapping (line : Nat) (keys : List Expr) (items : List Pattern) (rest : Option String)
  /-- An instance of a class. -/
  | instance (cls : Expr) (items : List Pattern) (names : List String) (named : List Pattern)
  /-- A pattern whose match is bound. -/
  | as (line : Nat) (pattern : Pattern) (name : String)
  /-- One of several patterns. -/
  | or (line : Nat) (options : List Pattern)

/-- An item of a with statement. -/
structure WithItem where
  /-- The context manager. -/
  context : Expr
  /-- What its value is bound to. -/
  target : Option Expr

mutual

/-- A statement. -/
inductive Stmt where
  /-- An expression on its own. -/
  | expr (line : Nat) (value : Expr)
  /-- An assignment to one or more targets. -/
  | assign (line : Nat) (targets : List Expr) (value : Expr)
  /-- An assignment in place. -/
  | update (line : Nat) (target : Expr) (op : BinaryOp) (value : Expr)
  /-- An annotation, perhaps with an assignment; `simple` tells a bare name. -/
  | annotate (line : Nat) (target hint : Expr) (value : Option Expr) (simple : Bool)
  /-- The removal of targets. -/
  | delete (line : Nat) (targets : List Expr)
  /-- Nothing. -/
  | pass (line : Nat)
  /-- The end of a loop. -/
  | break (line : Nat)
  /-- The end of a round of a loop. -/
  | continue (line : Nat)
  /-- The end of a function. -/
  | return (line : Nat) (value : Option Expr)
  /-- Raising an exception. -/
  | raise (line : Nat) (exception cause : Option Expr)
  /-- Names that belong to the module. -/
  | global (line : Nat) (names : List String)
  /-- Names that belong to an outer function. -/
  | nonlocal (line : Nat) (names : List String)
  /-- An import of modules or of their contents. -/
  | imports (line : Nat)
  /-- A check. -/
  | assert (line : Nat) (test : Expr) (message : Option Expr)
  /-- A choice. -/
  | if (line : Nat) (test : Expr) (body orelse : List Stmt)
  /-- A loop with a test. -/
  | while (line : Nat) (test : Expr) (body orelse : List Stmt)
  /-- A loop over elements. -/
  | for (line : Nat) (isAsync : Bool) (target iter : Expr) (body orelse : List Stmt)
  /-- A block inside contexts. -/
  | with (line : Nat) (isAsync : Bool) (items : List WithItem) (body : List Stmt)
  /-- A guarded block. -/
  | try (line : Nat) (grouped : Bool) (body : List Stmt) (handlers : List Handler)
    (orelse final : List Stmt)
  /-- A choice by patterns. -/
  | match (line : Nat) (subject : Expr) (cases : List MatchCase)
  /-- A function. -/
  | function (line : Nat) (isAsync : Bool) (name : String) (params : Params) (body : List Stmt)
    (decorators : List Expr) (returns : Option Expr)
  /-- A class. -/
  | classDef (line : Nat) (name : String) (bases : List Expr) (keywords : List Keyword)
    (body : List Stmt) (decorators : List Expr)

/-- A handler of a guarded block. -/
inductive Handler where
  /-- The types it handles, the name of the exception and its block. -/
  | mk (line : Nat) (type : Option Expr) (name : Option String) (body : List Stmt)

/-- A case of a match statement. -/
inductive MatchCase where
  /-- Pattern, condition and block. -/
  | mk (line : Nat) (pattern : Pattern) (guard : Option Expr) (body : List Stmt)

end

instance : Inhabited Expr := ⟨.constant 0 .none⟩
instance : Inhabited Stmt := ⟨.pass 0⟩

namespace Expr

/-- The line on which an expression begins. -/
def line : Expr → Nat
  | .constant l _ | .name l _ | .attribute l _ _ | .subscript l _ _ | .slice l _ _ _
  | .starred l _ | .list l _ | .tuple l _ | .set l _ | .dict l _ | .unary l _ _
  | .binary l _ _ _ | .boolean l _ _ | .compare l _ _ _ | .conditional l _ _ _ | .call l _ _ _
  | .lambda l _ _ | .listComp l _ _ | .setComp l _ _ | .dictComp l _ _ _ | .generator l _ _
  | .await l _ | .yield l _ | .yieldFrom l _ | .named l _ _ | .formatted l _
  | .replacement l _ _ _ => l

/-- What a report calls an expression that cannot be assigned to. -/
def description : Expr → String
  | .constant _ .none => "None"
  | .constant _ (.bool true) => "True"
  | .constant _ (.bool false) => "False"
  | .constant _ .ellipsis => "ellipsis"
  | .constant _ _ => "literal"
  | .name _ _ => "name"
  | .attribute _ _ _ => "attribute"
  | .subscript _ _ _ => "subscript"
  | .slice _ _ _ _ => "slice"
  | .starred _ _ => "starred"
  | .list _ _ => "list"
  | .tuple _ _ => "tuple"
  | .set _ _ => "set display"
  | .dict _ _ => "dict literal"
  | .unary _ _ _ | .binary _ _ _ _ | .boolean _ _ _ => "expression"
  | .compare _ _ _ _ => "comparison"
  | .conditional _ _ _ _ => "conditional expression"
  | .call _ _ _ _ => "function call"
  | .lambda _ _ _ => "lambda"
  | .listComp _ _ _ => "list comprehension"
  | .setComp _ _ _ => "set comprehension"
  | .dictComp _ _ _ _ => "dict comprehension"
  | .generator _ _ _ => "generator expression"
  | .await _ _ => "await expression"
  | .yield _ _ | .yieldFrom _ _ => "yield expression"
  | .named _ _ _ => "named expression"
  | .formatted _ _ | .replacement _ _ _ _ => "f-string expression"

/-- Whether an expression is a target on its own: a name, an attribute or an element. -/
def isSingleTarget : Expr → Bool
  | .name _ _ | .attribute _ _ _ | .subscript _ _ _ => true
  | _ => false

mutual

/-- The first part of an expression that cannot be a target of an assignment. -/
def badTarget? : Expr → Option Expr
  | .name _ _ | .attribute _ _ _ | .subscript _ _ _ => none
  | .starred _ value => badTarget? value
  | .list _ items => badTargets? items
  | .tuple _ items => badTargets? items
  | e => some e

/-- The first part of several expressions that cannot be a target of an assignment. -/
def badTargets? : List Expr → Option Expr
  | [] => none
  | e :: rest => (badTarget? e).or (badTargets? rest)

end

mutual

/-- The first part of an expression that cannot be deleted. -/
def badDeletion? : Expr → Option Expr
  | .name _ _ | .attribute _ _ _ | .subscript _ _ _ => none
  | .list _ items => badDeletions? items
  | .tuple _ items => badDeletions? items
  | e => some e

/-- The first part of several expressions that cannot be deleted. -/
def badDeletions? : List Expr → Option Expr
  | [] => none
  | e :: rest => (badDeletion? e).or (badDeletions? rest)

end

end Expr

/-- The line on which a pattern begins. -/
def Pattern.line : Pattern → Nat
  | value e => e.line
  | constant line _ => line
  | capture line _ => line
  | sequence line _ => line
  | star line _ => line
  | mapping line _ _ _ => line
  | .instance cls _ _ _ => cls.line
  | .as line _ _ => line
  | or line _ => line

/-- The parameters that a call can give by position, without those that take the rest. -/
def Params.byPosition : Params → List Param
  | .mk positional plain _ _ _ => positional ++ plain

/-- No parameters. -/
def Params.none : Params := .mk [] [] Option.none [] Option.none

/-- The name of a parameter. -/
def Param.name : Param → String
  | .mk _ name _ _ => name

/-- The default of a parameter. -/
def Param.fallback : Param → Option Expr
  | .mk _ _ _ fallback => fallback

end ChartScript.Script
