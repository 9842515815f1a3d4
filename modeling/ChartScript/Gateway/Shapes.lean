import ChartScript.Run.Status
/-!
# Bodies of requests and answers

The records that the gateway accepts and returns.
-/

namespace ChartScript.Gateway

open Schema (FieldView RecordView)

/-- The body of a request to run a script. -/
structure RunRequest where
  /-- The text of the script. -/
  source : String
  /-- The symbol, unless the default is meant. -/
  symbol : Option String
  /-- The timeframe, unless the default is meant. -/
  timeframe : Option String
  /-- The time budget in milliseconds. -/
  timeoutMs : Option Int
  /-- Whether the run comes from the editor and gets the short budget. -/
  editor : Bool
  deriving Repr, DecidableEq

/-- The answer to a request to run a script. -/
structure RunResponse where
  /-- How the run settled. -/
  outcome : Run.Outcome
  /-- The completion message. -/
  done : List (String × Wire)
  /-- The console of the instance. -/
  logs : List (List (String × Wire))

/-- The answer to the removal of an instance. -/
structure RemoveResponse where
  /-- The instance. -/
  instanceId : String
  /-- Whether there was something to remove. -/
  removed : Bool

/-- The answer to a question for health. -/
structure HealthResponse where
  /-- The word for the state. -/
  status : String
  /-- The version of the service. -/
  version : String
  /-- Facts about the parts of the service. -/
  services : List (String × Wire)

/-- Version of the service. -/
def serviceVersion : String := "0.1.0"

namespace RunRequest

/-- Largest time budget of a request in milliseconds. -/
def maxTimeoutMs : Int := 60000

/-- Checks a time budget of a request. -/
def checkTimeout : Schema.Check Int :=
  Schema.ensuring
    (Schema.ensuring Schema.integer (fun n => decide (0 < n)) (.greaterThan 0))
    (fun n => decide (n ≤ maxTimeoutMs)) (.lessThanEqual maxTimeoutMs)

/-- Checks the fields of a request. -/
def checkFields (o : Schema.Source) : Schema.Checked RunRequest :=
  RunRequest.mk <$> o.required ["source_code"] Schema.text
    <*> o.withDefault ["symbol"] none (Schema.optional Schema.text)
    <*> o.withDefault ["timeframe"] none (Schema.optional Schema.text)
    <*> o.withDefault ["timeout_ms"] none (Schema.optional checkTimeout)
    <*> o.withDefault ["editor"] false Schema.truth

/-- Checks a request. -/
def check : Schema.Check RunRequest := Schema.record "RunRequest" checkFields

/-- Checks the body of a request. -/
def checkBody : Schema.Check RunRequest := Schema.recordOr .modelAttributes checkFields

/-- The request as data. -/
def view (r : RunRequest) : RecordView :=
  ⟨"RunRequest", false, [.plain "source_code" (.text r.source),
    .plain "symbol" (Wire.ofText? r.symbol), .plain "timeframe" (Wire.ofText? r.timeframe),
    .plain "timeout_ms" ((r.timeoutMs.map Wire.int).getD .null),
    .plain "editor" (.bool r.editor)]⟩

end RunRequest

namespace RunResponse

/-- Checks an answer. -/
def check : Schema.Check RunResponse :=
  Schema.record "RunResponse" fun o =>
    (fun id status error timedOut artifacts duration done logs =>
        RunResponse.mk ⟨id, status, error, timedOut, artifacts, duration⟩ done logs)
      <$> o.required ["instance_id"] Schema.text
      <*> o.required ["status"] Run.Status.check
      <*> o.withDefault ["error"] none (Schema.optional Schema.text)
      <*> o.withDefault ["timed_out"] false Schema.truth
      <*> o.withDefault ["artifacts"] [] (Schema.listOf Schema.text)
      <*> o.withDefault ["duration_ms"] none (Schema.optional Schema.number)
      <*> o.withDefault ["done"] [] Schema.dict
      <*> o.withDefault ["logs"] [] (Schema.listOf Schema.dict)

/-- The answer as data. -/
def view (r : RunResponse) : RecordView :=
  ⟨"RunResponse", false, r.outcome.view.fields ++
    [.plain "done" (.object r.done), .plain "logs" (.list (r.logs.map .object))]⟩

end RunResponse

namespace RemoveResponse

/-- Checks an answer. -/
def check : Schema.Check RemoveResponse :=
  Schema.record "RemoveResponse" fun o =>
    RemoveResponse.mk <$> o.required ["instance_id"] Schema.text
      <*> o.required ["removed"] Schema.truth

/-- The answer as data. -/
def view (r : RemoveResponse) : RecordView :=
  ⟨"RemoveResponse", false, [.plain "instance_id" (.text r.instanceId),
    .plain "removed" (.bool r.removed)]⟩

end RemoveResponse

namespace HealthResponse

/-- Checks an answer. -/
def check : Schema.Check HealthResponse :=
  Schema.record "HealthResponse" fun o =>
    HealthResponse.mk <$> o.withDefault ["status"] "ok" Schema.text
      <*> o.withDefault ["version"] serviceVersion Schema.text
      <*> o.withDefault ["services"] [] Schema.dict

/-- The answer as data. -/
def view (r : HealthResponse) : RecordView :=
  ⟨"HealthResponse", false, [.plain "status" (.text r.status),
    .plain "version" (.text r.version), .plain "services" (.object r.services)]⟩

end HealthResponse

end ChartScript.Gateway
