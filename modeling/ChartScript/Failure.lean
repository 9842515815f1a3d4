import ChartScript.Schema.Violation
/-!
# Failures

The kinds of failure that cross a boundary of the program, each with its name. Seven of
them belong to the sandbox and travel between host and context by name; a name that the
table does not know is read as a capability failure.
-/

namespace ChartScript

/-- The sandbox's own kinds of failure. -/
inductive SandboxKind where
  /-- A failure without a more precise kind. -/
  | general
  /-- A source that yields no callable entry. -/
  | compile
  /-- A failure while a script or a capability handler ran. -/
  | runtime
  /-- The time budget was used up. -/
  | timeout
  /-- An unknown capability or malformed parameters. -/
  | capability
  /-- An attachment that does not exist; a special capability failure. -/
  | attachmentMissing
  /-- The context was torn down. -/
  | contextTerminated
  deriving Repr, DecidableEq

namespace SandboxKind

/-- The name on the wire. -/
def wireName : SandboxKind → String
  | general => "SandboxError"
  | compile => "CompileError"
  | runtime => "RuntimeError"
  | timeout => "TimeoutError"
  | capability => "CapabilityError"
  | attachmentMissing => "AttachmentMissing"
  | contextTerminated => "ContextTerminated"

/-- The name of the type of failure, which differs from the wire name for two kinds. -/
def typeName : SandboxKind → String
  | runtime => "ScriptRuntimeError"
  | timeout => "SandboxTimeout"
  | k => k.wireName

/-- All kinds. -/
def all : List SandboxKind :=
  [general, compile, runtime, timeout, capability, attachmentMissing, contextTerminated]

/-- The kind behind a wire name; unknown names are capability failures. -/
def ofWireName (name : String) : SandboxKind :=
  (all.find? fun k => k.wireName = name).getD capability

/-- Whether failures of this kind are capability failures. -/
def isCapability : SandboxKind → Bool
  | capability => true
  | attachmentMissing => true
  | _ => false

theorem ofWireName_wireName (k : SandboxKind) : ofWireName k.wireName = k := by
  cases k <;> rfl

end SandboxKind

/-- The kinds of failure that callers can tell apart. -/
inductive FailureKind where
  /-- One of the sandbox's own kinds. -/
  | sandbox (kind : SandboxKind)
  /-- A kind that a collaborator adds to those of the sandbox: its name on the wire and the
  name of its type. -/
  | added (wireName typeName : String)
  /-- A record that breaks its rules. -/
  | validation
  /-- A value of the right type that is not acceptable. -/
  | value
  /-- A value of the wrong type. -/
  | type
  /-- An absent key. -/
  | key
  /-- An absent attribute. -/
  | attribute
  /-- A number out of range. -/
  | overflow
  /-- An absent file. -/
  | fileNotFound
  /-- A broken connection. -/
  | os
  /-- The end of a connection. -/
  | endOfInput
  /-- A connection whose other end is gone. -/
  | brokenPipe
  /-- A table whose text is malformed. -/
  | parser
  /-- A table without columns. -/
  | emptyData
  /-- A source that is refused when it is turned into code. -/
  | syntaxError
  /-- Any other kind, by name. -/
  | other (name : String)
  deriving Repr, DecidableEq

/-- The name of a kind of failure as reports give it. -/
def FailureKind.name : FailureKind → String
  | .sandbox k => k.wireName
  | .added wireName _ => wireName
  | .validation => "ValidationError"
  | .value => "ValueError"
  | .type => "TypeError"
  | .key => "KeyError"
  | .attribute => "AttributeError"
  | .overflow => "OverflowError"
  | .fileNotFound => "FileNotFoundError"
  | .os => "OSError"
  | .endOfInput => "EOFError"
  | .brokenPipe => "BrokenPipeError"
  | .parser => "ParserError"
  | .emptyData => "EmptyDataError"
  | .syntaxError => "SyntaxError"
  | .other name => name

/-- The name on the wire of a kind that belongs to the sandbox. -/
def FailureKind.wireName? : FailureKind → Option String
  | .sandbox k => some k.wireName
  | .added wireName _ => some wireName
  | _ => none

/-- Names of the kinds of system failure that have no constructor of their own. -/
def FailureKind.systemNames : List String :=
  ["BlockingIOError", "ChildProcessError", "ConnectionAbortedError", "ConnectionError",
    "ConnectionRefusedError", "ConnectionResetError", "FileExistsError", "InterruptedError",
    "IsADirectoryError", "NotADirectoryError", "PermissionError", "ProcessLookupError",
    "TimeoutError"]

/-- Whether a failure of this kind is one of the system. -/
def FailureKind.isSystem : FailureKind → Bool
  | .os => true
  | .brokenPipe => true
  | .fileNotFound => true
  | .sandbox .timeout => true
  | .other name => systemNames.contains name
  | _ => false

/-- The kind behind the name of a type of failure. -/
def FailureKind.ofTypeName (name : String) : FailureKind :=
  match SandboxKind.all.find? fun k => k.typeName = name with
  | some k => .sandbox k
  | none =>
    let builtin : List FailureKind := [.validation, .value, .type, .key, .attribute, .overflow,
      .fileNotFound, .os, .endOfInput, .brokenPipe, .parser, .emptyData, .syntaxError]
    (builtin.find? fun k => k.name = name).getD (.other name)

/-- A failure: its kind and its text. -/
structure Failure where
  /-- The kind. -/
  kind : FailureKind
  /-- The text. -/
  text : String
  deriving Repr, DecidableEq

namespace Failure

/-- A failure of one of the sandbox's kinds. -/
def sandbox (kind : SandboxKind) (text : String) : Failure := ⟨.sandbox kind, text⟩

/-- A value that is not acceptable. -/
def value (text : String) : Failure := ⟨.value, text⟩

/-- A value of the wrong type. -/
def type (text : String) : Failure := ⟨.type, text⟩

/-- Sending on a connection whose other end is gone. -/
def brokenPipe : Failure := ⟨.brokenPipe, "[Errno 32] Broken pipe"⟩

/-- The kind of failure of whatever was called off. -/
def cancelledKind : FailureKind := .other "CancelledError"

/-- Whatever was called off. -/
def cancelled : Failure := ⟨cancelledKind, ""⟩

/-- A record that breaks its rules. -/
def ofViolations (vs : List Schema.Violation) : Failure := ⟨.validation, Schema.describe vs⟩

/-- The name of the type of a failure. -/
def typeName (f : Failure) : String :=
  match f.kind with
  | .sandbox k => k.typeName
  | .added _ typeName => typeName
  | k => k.name

/-- What a failure says of itself: its text, or the name of its type if the text is empty. -/
def describe (f : Failure) : String := if f.text.isEmpty then f.typeName else f.text

/-- The text of a failure made from a list of arguments: none, the single argument, or
all of them in parentheses. An absent key is shown quoted, and a numbered system failure
by its number. -/
def textOfArguments (kind : FailureKind) : List Wire → String
  | [] => ""
  | [w] => if kind = .key then w.inner else w.display
  | [a, b] =>
    if kind = .os || kind = .fileNotFound || kind = .brokenPipe then
      "[Errno " ++ a.display ++ "] " ++ b.display
    else "(" ++ a.inner ++ ", " ++ b.inner ++ ")"
  | ws => "(" ++ Wire.joinWith ", " (ws.map Wire.inner) ++ ")"

/-- A failure given by the name of its type and its arguments. -/
def ofArguments (typeName : String) (arguments : List Wire) : Failure :=
  let kind := FailureKind.ofTypeName typeName
  ⟨kind, textOfArguments kind arguments⟩

end Failure

end ChartScript
