import ChartScript.Fleet.System
import ChartScript.Gateway.Body
import ChartScript.Gateway.Query
import ChartScript.Gateway.Route
import ChartScript.Indicator.Catalogue
import ChartScript.Session.Interpreter
import ChartScript.Settings
import ChartScript.Text.CharClass
/-!
# The service

The gateway over a system: requests run scripts, ask for artifacts and console lines,
store attachments and compute built-in indicators. What goes wrong in a way that a
client can mend is an answer; any other failure leaves the service.
-/

namespace ChartScript.Gateway

open Artifact (Sink)
open Session (Suspended)

/-- What the service stands on. -/
structure Surroundings where
  /-- The name of the provider of bars. -/
  provider : String
  /-- The bars of a symbol and timeframe. -/
  bars : String → String → Except Failure Wire
  /-- The constants. -/
  settings : Settings

/-- The state of the service. -/
structure Service where
  /-- The contexts with their processes. -/
  system : System Suspended Sink
  /-- The attachments. -/
  attachments : Attachment.Store

/-- Work of the service: an answer, or a failure that leaves it. The state is kept in
either case. -/
abbrev Work := EStateM Failure Service

namespace Service

/-- The world of the scripts. -/
def world (env : Surroundings) (attachments : Attachment.Store) : World Suspended Sink where
  program := Session.interpreter
  ops := Sink.ops
  hasAttachments := true
  fetch
    | .bars symbol timeframe => some (env.bars symbol timeframe)
    | .names => some (.ok (Wire.texts attachments.names))
    | .table name => some ((attachments.table name).map fun t => t.view.dump)

/-- The contexts. -/
def fleet (s : Service) : Fleet Sink := s.system.fleet

/-- The console. -/
def console (s : Service) : Console := s.fleet.console.getD (.empty none)

/-- Changes the contexts. -/
def setFleet (fleet : Fleet Sink) : Work Unit :=
  modify fun s => { s with system := { s.system with fleet } }

/-- Drops the console lines of an instance. -/
def clearConsole (instanceId : String) : Work Unit := do
  let fleet := (← get).fleet
  setFleet { fleet with console := fleet.console.map fun c => c.clear instanceId }

/-- The console lines of an instance as data. -/
def consoleData (s : Service) (instanceId : String) : List (List (String × Wire)) :=
  (s.console.lines instanceId).map fun l => [("level", .text l.level), ("text", .text l.text)]

/-- An outcome, or the failure in place of it. -/
def fromExcept {α : Type} (r : Except Failure α) : Work α :=
  match r with
  | .ok a => return a
  | .error f => throw f

/-- The refusal for an instance that is not registered. -/
def unknownInstance (instanceId : String) : Answer :=
  .refusal 404 ("Unknown indicator instance: " ++ instanceId)

/-- Work for a registered instance. -/
def forInstance (instanceId : String) (work : Work Answer) : Work Answer := do
  if (← get).fleet.registry.has instanceId then work else return unknownInstance instanceId

/-- Runs something for an instance and gives the outcome with the console lines. -/
def perform (env : Surroundings) (instanceId : String) (spec : Run.Spec) : Work Answer := do
  let s ← get
  let (system, outcome) := s.system.perform (world env s.attachments) instanceId spec
  set { s with system }
  match outcome with
  | none => throw (.sandbox .timeout "the run does not settle")
  | some o =>
    let done := match o.doneMessage with | .object fields => fields | _ => []
    let response : RunResponse := ⟨o, done, consoleData (← get) instanceId⟩
    return .ok response.view.dump

/-- A text, unless it is absent or empty. -/
def orDefault (text : Option String) (fallback : String) : String :=
  match text with
  | some s => if s.isEmpty then fallback else s
  | none => fallback

/-- Runs a script for an instance. -/
def runScript (env : Surroundings) (instanceId : String) (r : RunRequest) : Work Answer := do
  if r.source.toList.all Text.CharClass.isBlank then
    return .refusal 422 "source_code cannot be empty"
  let timeout : Wire :=
    match r.timeoutMs with
    | some ms => .int ms
    | none => if r.editor then .int env.settings.editorTimeoutMs else .null
  let spec ← fromExcept ((← get).fleet.specify (.text r.source)
    (.text (orDefault r.symbol env.settings.symbol))
    (.text (orDefault r.timeframe env.settings.timeframe)) timeout)
  clearConsole instanceId
  perform env instanceId spec

/-- Runs the last script of an instance again. -/
def rerunScript (env : Surroundings) (instanceId : String) : Work Answer := do
  perform env instanceId (← fromExcept ((← get).fleet.lastSpec instanceId none))

/-- The artifacts of an instance by kind and id. -/
def artifactsData (s : Service) (instanceId : String) : Wire :=
  .object ((s.fleet.gallery.sink.snapshot (Artifact.ownPrefix instanceId)).map fun (kind, found) =>
    (kind.name, .object (found.map fun (id, c) =>
      (id, .object [("data", .list c.data), ("opts", .object c.options)]))))

/-- Removes an instance with its console lines. -/
def removeInstance (env : Surroundings) (instanceId : String) : Work Answer := do
  let s ← get
  let (fleet, removed) := s.fleet.remove (world env s.attachments).ops s.system.now instanceId
  setFleet fleet
  let removed ← fromExcept removed
  clearConsole instanceId
  return .ok (RemoveResponse.view ⟨instanceId, removed⟩).dump

/-- How the service is. -/
def health (env : Surroundings) (s : Service) : HealthResponse :=
  ⟨"ok", serviceVersion, [("bars", .text env.provider),
    ("instances", .int s.fleet.registry.ids.length),
    ("default_timeout_ms", .int s.fleet.defaultTimeoutMs)]⟩

/-- Stores an attachment. -/
def upload (name : String) (body : List Nat) : Work Answer := do
  match Text.Utf8.decode body with
  | .error _ => return .refusal 422 "attachment must be UTF-8 CSV text"
  | .ok text =>
    let s ← get
    let (attachments, added) := s.attachments.add name text
    set { s with attachments }
    match added with
    | .error failure => return .refusal 422 ("unreadable CSV: " ++ failure.text)
    | .ok manifest => return .ok manifest.view.dump

/-- The parameters of a built-in indicator that a query gives. -/
structure BuiltinQuery where
  /-- The symbol. -/
  symbol : String
  /-- The timeframe. -/
  timeframe : String
  /-- The other parameters by name. -/
  parameters : List (String × Wire)

/-- Checks a query for a built-in indicator. -/
def checkBuiltinQuery (settings : Settings) (query : String) : Schema.Checked BuiltinQuery :=
  let pairs := Query.parse query
  let text (name fallback : String) : String := (Query.last? pairs name).getD fallback
  let parameter {α : Type} (name : String) (check : Schema.Check α) (data : α → Wire) :
      Schema.Checked (String × Wire) :=
    match Query.last? pairs name with
    | none => .valid (name, .null)
    | some s => ((check (.text s)).map fun a => (name, data a)).under (.field name)
  let whole (name : String) := parameter name Schema.integer Wire.int
  (fun period mult fast slow signal =>
      ⟨text "symbol" settings.symbol, text "timeframe" settings.timeframe,
        [period, mult, fast, slow, signal]⟩)
    <$> whole "period" <*> parameter "mult" Schema.number Wire.float
    <*> whole "fast" <*> whole "slow" <*> whole "signal"

/-- The items of what a provider gave as bars. -/
def itemsOfHistory : Wire → Except Failure (List Wire)
  | .list items => .ok items
  | .text s => .ok (s.toList.map fun c => .text (String.singleton c))
  | .object fields => .ok (fields.map fun f => .text f.1)
  | w => .error (.type ("'" ++ w.kindName ++ "' object is not iterable"))

/-- A built-in indicator over the bars of the provider. -/
def builtin (env : Surroundings) (kind query : String) : Work Answer := do
  match checkBuiltinQuery env.settings query with
  | .invalid vs => return unprocessable "query" vs
  | .valid q =>
    match Indicator.Builtin.ofName? kind with
    | none => return .refusal 404 ("Unknown indicator: " ++ kind)
    | some b =>
      let history ← fromExcept (env.bars q.symbol q.timeframe)
      let parameters := q.parameters.filter fun p => b.defaults.any fun d => d.1 = p.1
      let bars ← fromExcept (itemsOfHistory history)
      let result ← fromExcept
        ((Indicator.computeNamed kind bars parameters).mapError Indicator.Refusal.failure)
      return .ok result.data

/-- What is asked for is done. -/
def serve (env : Surroundings) (r : Request) (endpoint : Endpoint) : Work Answer := do
  match endpoint with
  | .health => return .ok (health env (← get)).view.dump
  | .run instanceId =>
    match ← fromExcept (runRequest r) with
    | .error refusal => return refusal
    | .ok request => runScript env instanceId request
  | .rerun instanceId => forInstance instanceId (rerunScript env instanceId)
  | .artifacts instanceId =>
    forInstance instanceId do return .ok (artifactsData (← get) instanceId)
  | .logs instanceId => return .ok (.list ((consoleData (← get) instanceId).map .object))
  | .remove instanceId => forInstance instanceId (removeInstance env instanceId)
  | .attachments => return .ok (Wire.texts (← get).attachments.names)
  | .manifest name =>
    match (← get).attachments.manifest name with
    | .ok manifest => return .ok manifest.view.dump
    | .error f => return .refusal 404 f.text
  | .upload name => upload name r.body
  | .builtin kind => builtin env kind r.query
  | .documentation => return ⟨200, .text ""⟩

/-- The failure to write a number that JSON has no text for. -/
def unwritable : Failure := .value "Out of range float values are not JSON compliant"

/-- A request is answered. -/
def handle (env : Surroundings) (r : Request) : Work Answer := do
  match route r.method r.path with
  | .unknown => return .refusal 404 "Not Found"
  | .otherMethod => return .refusal 405 "Method Not Allowed"
  | .redirected => return ⟨307, .text ""⟩
  | .found endpoint =>
    let answer ← serve env r endpoint
    if answer.isUnwritable then throw unwritable
    return answer

end Service

end ChartScript.Gateway
