import ChartScript.Message.Lifecycle
/-!
# Requests and replies

A capability call travels as a request with a correlation id, and its reply carries the
same id with a result or an error. What a context sends is one of four messages; a
request is told by its mark, the others by their type.
-/

namespace ChartScript.Message

open Schema (FieldView RecordView)

/-- A capability call on its way to the host. -/
structure Request where
  /-- The correlation id. -/
  id : String
  /-- The name of the capability. -/
  method : String
  /-- Its parameters. -/
  params : List (String × Wire)
  deriving Inhabited

/-- The answer to a request. -/
structure Reply where
  /-- The correlation id of the request. -/
  id : String
  /-- The result; null when there is none. -/
  result : Wire
  /-- The text of the error, if the call failed. -/
  error : Option String
  /-- The kind of the error. -/
  errorKind : Option String
  deriving Inhabited

namespace Request

/-- Checks a request. -/
def check : Schema.Check Request :=
  Schema.record "RpcRequest" fun o =>
    (fun _ id method params => Request.mk id method params)
      <$> o.withDefault ["rpc"] () Schema.alwaysTrue
      <*> o.required ["id"] Schema.text
      <*> o.required ["method"] Schema.text
      <*> o.withDefault ["params"] [] Schema.dict

/-- The request as data. -/
def view (r : Request) : RecordView :=
  ⟨"RpcRequest", false, [.plain "rpc" (.bool true), .plain "id" (.text r.id),
    .plain "method" (.text r.method), .plain "params" (.object r.params)]⟩

end Request

namespace Reply

/-- Checks a reply. -/
def check : Schema.Check Reply :=
  Schema.record "RpcReply" fun o =>
    (fun _ id result error errorKind => Reply.mk id result error errorKind)
      <$> o.withDefault ["rpc"] () Schema.alwaysTrue
      <*> o.required ["id"] Schema.text
      <*> o.withDefault ["result"] .null .valid
      <*> o.withDefault ["error"] none (Schema.optional Schema.text)
      <*> o.withDefault ["errorKind", "error_kind"] none (Schema.optional Schema.text)

/-- The reply as data. -/
def view (r : Reply) : RecordView :=
  ⟨"RpcReply", false, [.plain "rpc" (.bool true), .plain "id" (.text r.id),
    .plain "result" r.result, .plain "error" (Wire.ofText? r.error),
    ⟨"error_kind", "errorKind", Wire.ofText? r.errorKind⟩]⟩

/-- The reply that carries a result. -/
def success (id : String) (result : Wire) : Reply := ⟨id, result, none, none⟩

/-- The reply that carries a failure: a sandbox failure keeps its kind and text, any other
one is a failure while the call ran and names its type if it has no text. -/
def failure (id : String) (f : Failure) : Reply :=
  match f.kind.wireName? with
  | some wireName => ⟨id, .null, some f.text, some wireName⟩
  | none => ⟨id, .null, some f.describe, some SandboxKind.runtime.wireName⟩

end Reply

/-- What a context sends. -/
inductive FromContext where
  /-- The script starts. -/
  | started
  /-- A line for the console. -/
  | log (line : LogLine)
  /-- The script ended. -/
  | done (report : Done)
  /-- A capability call. -/
  | request (call : Request)

/-- A message as data. -/
def FromContext.view : FromContext → RecordView
  | .started => startedView
  | .log line => line.view
  | .done report => report.view
  | .request call => call.view

/-- Whether a value is the mark of a request: the truth value true and nothing else. -/
def isMark : Option Wire → Bool
  | some (.bool true) => true
  | _ => false

/-- Reads a message that a context sent; anything unknown or malformed is no message. -/
def FromContext.decode? (raw : Wire) : Option FromContext :=
  match raw with
  | .object fields =>
    if isMark (Assoc.get? fields "rpc") then (Request.check raw).value?.map .request
    else
      match Assoc.get? fields "type" with
      | some (.text "started") => (checkStarted raw).value?.map fun _ => .started
      | some (.text "log") => (LogLine.check raw).value?.map .log
      | some (.text "done") => (Done.check raw).value?.map .done
      | _ => none
  | _ => none

end ChartScript.Message
