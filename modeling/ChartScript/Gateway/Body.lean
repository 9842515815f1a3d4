import ChartScript.Failure
import ChartScript.Gateway.Shapes
import ChartScript.Text.Utf8
import ChartScript.Wire.Json.Reader
/-!
# Bodies of requests

A body is data if it says that it is JSON and bytes otherwise. What is wrong with it is
told in a list of reports, each with the way to the value at fault, the value and the
bounds that it breaks.
-/

namespace ChartScript.Gateway

open Schema (Violation Step)

/-- A request to the gateway. -/
structure Request where
  /-- The method. -/
  method : String
  /-- The path, without escapes. -/
  path : String
  /-- The query as it was sent. -/
  query : String
  /-- What the body says it is. -/
  contentType : Option String
  /-- The bytes of the body. -/
  body : List Nat

/-- The body of an answer. -/
inductive Content where
  /-- Data. -/
  | data (w : Wire)
  /-- Text. -/
  | text (s : String)

/-- An answer of the gateway. -/
structure Answer where
  /-- The status. -/
  status : Nat
  /-- The body. -/
  content : Content

namespace Answer

/-- An answer with data. -/
def ok (w : Wire) : Answer := ⟨200, .data w⟩

/-- An answer that only gives details. -/
def detail (status : Nat) (w : Wire) : Answer := ⟨status, .data (.object [("detail", w)])⟩

/-- A refusal in words. -/
def refusal (status : Nat) (message : String) : Answer := detail status (.text message)

/-- Whether the answer has a number that JSON has no text for. -/
def isUnwritable (a : Answer) : Bool :=
  match a.content with
  | .data w => w.hasNonFinite
  | .text _ => false

end Answer

/-- A step as data. -/
def stepData : Step → Wire
  | .field name => .text name
  | .item index => .int index

/-- The report of a violation that lies in a part of a request. -/
def reportOf (place : Wire) (v : Violation) : Wire :=
  .object ([("type", .text v.cause.tag), ("loc", .list (place :: v.path.map stepData)),
      ("msg", .text v.cause.message), ("input", v.input)] ++
    (if v.cause.context.isEmpty then [] else [("ctx", .object v.cause.context)]))

/-- The refusal of a request for violations in a part of it. -/
def unprocessable (place : String) (vs : List Violation) : Answer :=
  .detail 422 (.list (vs.map (reportOf (.text place))))

/-- Whether the words for a kind of content say that it is JSON. -/
def saysJson (contentType : String) : Bool :=
  let kind := ((contentType.splitOn ";").headD "").trimAscii.toString.toLower
  match kind.splitOn "/" with
  | [main, sub] => main = "application" && (sub = "json" || sub.endsWith "+json")
  | _ => false

/-- What is read from a body. -/
inductive BodyData where
  /-- Data. -/
  | data (w : Wire)
  /-- Bytes that do not say that they are JSON. -/
  | bytes (bs : List Nat)
  /-- A text that is no JSON. -/
  | broken (f : Wire.Json.Failure)
  /-- Bytes that are no text. -/
  | unreadable

/-- Reads a body. A byte order mark at its front is dropped. -/
def readBody (r : Request) : BodyData :=
  if r.body.isEmpty then .data .null
  else if (r.contentType.map saysJson).getD false then
    let bytes := if r.body.take 3 = [0xEF, 0xBB, 0xBF] then r.body.drop 3 else r.body
    match Text.Utf8.decode bytes with
    | .error _ => .unreadable
    | .ok text =>
      match Wire.Json.parse text with
      | .ok w => .data w
      | .error f => .broken f
  else .bytes r.body

/-- The refusal of a text that is no JSON. -/
def brokenJson (f : Wire.Json.Failure) : Answer :=
  unprocessable "body" [⟨[.item f.position], .jsonInvalid f.fault.message, .object []⟩]

/-- The refusal of a body that cannot be read. -/
def unreadableBody : Answer := .refusal 400 "There was an error parsing the body"

/-- A run as the body of a request asks for it, or the refusal. Bytes that are refused have
to be text to be reported. -/
def runRequest (r : Request) : Except Failure (Except Answer RunRequest) :=
  let checked (w : Wire) : Except Answer RunRequest :=
    (RunRequest.checkBody w).toExcept.mapError (unprocessable "body")
  match readBody r with
  | .data .null => .ok (.error (unprocessable "body" [⟨[], .missing, .null⟩]))
  | .data w => .ok (checked w)
  | .broken f => .ok (.error (brokenJson f))
  | .unreadable => .ok (.error unreadableBody)
  | .bytes bs =>
    match Text.Utf8.decode bs with
    | .error f => .error ⟨.other "UnicodeDecodeError", f.message⟩
    | .ok text => .ok (checked (.text text))

end ChartScript.Gateway
