import ChartScript.Script.Value
/-!
# Types of values

Which types there are, which of them are kinds of exceptions, and which values are
instances of a type.
-/

namespace ChartScript.Script.Types

/-- The kinds of exceptions with the kind that each is a special case of. -/
def exceptionParents : List (String × String) :=
  [("Exception", "BaseException"), ("CancelledError", "BaseException"),
    ("GeneratorExit", "BaseException"), ("ArithmeticError", "Exception"),
    ("ZeroDivisionError", "ArithmeticError"), ("OverflowError", "ArithmeticError"),
    ("LookupError", "Exception"), ("KeyError", "LookupError"), ("IndexError", "LookupError"),
    ("ValueError", "Exception"), ("UnicodeEncodeError", "ValueError"),
    ("UnicodeDecodeError", "ValueError"), ("ValidationError", "ValueError"),
    ("PydanticSerializationError", "ValueError"), ("TypeError", "Exception"),
    ("NameError", "Exception"), ("UnboundLocalError", "NameError"), ("RuntimeError", "Exception"),
    ("RecursionError", "RuntimeError"), ("AttributeError", "Exception"),
    ("AssertionError", "Exception"), ("StopIteration", "Exception"),
    ("StopAsyncIteration", "Exception"), ("OSError", "Exception"), ("BrokenPipeError", "OSError")]

/-- The kind that a kind of exception is a special case of; an unknown kind is an ordinary
exception. -/
def exceptionParent (name : String) : Option String :=
  if name = "BaseException" then none
  else some ((exceptionParents.lookup name).getD "Exception")

/-- Whether a kind of exception is a special case of another one. -/
def isException (fuel : Nat) (name ancestor : String) : Bool :=
  match fuel with
  | 0 => false
  | fuel + 1 =>
    name = ancestor ||
      match exceptionParent name with
      | some parent => isException fuel parent ancestor
      | none => false

/-- Whether a kind of exception is another one or a special case of it. -/
def isKindOf (name ancestor : String) : Bool := isException 6 name ancestor

/-- The kinds of exceptions that a script can name. -/
def namedExceptions : List String :=
  ["Exception", "ValueError", "TypeError", "KeyError", "IndexError", "ZeroDivisionError"]

/-- Whether a value is an instance of the type of a name. -/
def isInstance (h : Heap) (v : Value) (type : String) : Bool :=
  match v with
  | .bool _ => type = "bool" || type = "int"
  | .object a =>
    match h.get? a with
    | some (.exception kind _) => isKindOf kind type
    | some o => o.typeName = type
    | none => false
  | v => h.typeName v = type

/-- Whether a value can be called. -/
def isCallable (h : Heap) : Value → Bool
  | .builtin _ => true
  | .type _ => true
  | .method _ _ => true
  | .object a => match h.get? a with | some (.function _) => true | _ => false
  | _ => false

end ChartScript.Script.Types
