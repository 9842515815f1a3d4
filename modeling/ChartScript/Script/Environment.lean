import ChartScript.Indicator.Argument
import ChartScript.Message.Call
import ChartScript.Script.Binding
import ChartScript.Script.Method.Container
import ChartScript.Script.Transfer
/-!
# The environment of a script

The only thing that a script is given: its symbol and timeframe, a log, and the access
to bars, plots, attachments and indicators. What leaves the script is a request for a
capability; indicators are computed at once.
-/

namespace ChartScript.Script

/-- What a call of a part of the environment comes to. -/
inductive Invocation where
  /-- A value at once. -/
  | value (v : Value)
  /-- A request for a capability. -/
  | request (method : String) (params : Keywords)
  /-- A line for the log. -/
  | log (level : Value) (text : String)

namespace Environment

/-- The attributes of a part that are values, in place of functions. -/
def values : HostPart → List String
  | .environment => ["symbol", "timeframe", "plot", "attachments", "utils"]
  | _ => []

/-- The functions of a part. -/
def functions : HostPart → List String
  | .environment => ["get_bars", "log"]
  | .plot => Plot.Kind.all.map Plot.Kind.name
  | .attachments => ["list", "csv"]
  | .utils => Indicator.Kernel.all.map Indicator.Kernel.name

/-- An attribute of a part of the environment. -/
def member (setting : Message.EnvSpec) (part : HostPart) (name : String) :
    Except Raised Value :=
  let absent : Raised :=
    .attributeError ("'" ++ part.typeName ++ "' object has no attribute '" ++ name ++ "'")
  if (functions part).contains name then .ok (.method (.host part) name)
  else
    match part, name with
    | .environment, "symbol" => .ok (.text setting.symbol)
    | .environment, "timeframe" => .ok (.text setting.timeframe)
    | .environment, "plot" => .ok (.host .plot)
    | .environment, "attachments" => .ok (.host .attachments)
    | .environment, "utils" => .ok (.host .utils)
    | _, _ => .error absent

/-- Why an attribute of a part of the environment cannot be assigned: no one can. -/
def unassignable (part : HostPart) (name : String) (deleting : Bool) : Raised :=
  .attributeError (
    if (values part).contains name then
      "property '" ++ name ++ "' of '" ++ part.typeName ++ "' object has no " ++
        (if deleting then "deleter" else "setter")
    else if (functions part).contains name then
      "'" ++ part.typeName ++ "' object attribute '" ++ name ++ "' is read-only"
    else "'" ++ part.typeName ++ "' object has no attribute '" ++ name ++ "'")

/-- The parameters of a function of a part. -/
def signature (part : HostPart) (name : String) : Signature :=
  let function := part.typeName ++ "." ++ name
  match part with
  | .environment =>
    if name = "log" then
      { function, positional := ["self"], rest := some "parts", named := ["level"],
        defaults := [("level", .text "info")] }
    else
      { function, positional := ["self", "symbol", "timeframe"],
        defaults := [("symbol", .none), ("timeframe", .none)] }
  | .plot =>
    let items := Message.itemsKey ((Plot.Kind.ofName? name).getD .line)
    { function, positional := ["self", "id", items, "opts"], defaults := [("opts", .none)] }
  | .attachments =>
    { function, positional := if name = "csv" then ["self", "name"] else ["self"] }
  | .utils =>
    { function, positional := ["values", "period"]
      defaults := if name = "rsi" then [("period", .int Indicator.defaultStrengthPeriod)] else [] }

/-- The items of a value that counts as true; others are none. -/
def itemsOf (v : Value) : Op Value := do
  let h ← get
  if h.truthy v then Op.newList (← Op.lift (elementsOrRefuse h v)) else Op.newList []

/-- The options of a plot: a mapping or pairs, or none. -/
def optionsOf (v : Value) : Op Value := do
  let h ← get
  if h.truthy v then Op.alloc (.dict (← Op.lift (mergeEntries h #[] v)))
  else Op.alloc (.dict #[])

/-- The items of a value that no indicator can work on. -/
def seriesRefusal (h : Heap) (v : Value) : Raised :=
  match h.elements? v with
  | some items =>
    let name := ((items.find? fun item => (h.data? item).isNone).map h.typeName).getD "object"
    .typeError ("float() argument must be a string or a real number, not '" ++ name ++ "'")
  | none => .typeError ("object of type '" ++ h.typeName v ++ "' has no len()")

/-- An indicator over values. -/
def compute (kernel : Indicator.Kernel) (values period : Value) : Op Value := do
  let h ← get
  match h.data? period with
  | none =>
    throw (.typeError ("'<' not supported between instances of '" ++ h.typeName period ++
      "' and 'int'"))
  | some p =>
    match h.data? values with
    | none => throw (seriesRefusal h values)
    | some data =>
      match kernel.call data p with
      | .ok xs => Op.newList (xs.map .float)
      | .error e => throw (.of e.failure.typeName e.failure.text)

/-- A value, or what stands in for one that counts as false. -/
def orElse (h : Heap) (v fallback : Value) : Value := if h.truthy v then v else fallback

/-- A function of a part of the environment is called. -/
def call (setting : Message.EnvSpec) (part : HostPart) (name : String) (args : List Value)
    (kws : Keywords) : Op Invocation := do
  let h ← get
  let s := signature part name
  let args := if part = .utils then args else .host part :: args
  let (bound, _) ← Op.lift (s.bind args kws)
  let given (n : String) : Value := (bound.lookup n).getD .none
  match part with
  | .environment =>
    if name = "log" then
      let parts := match given "parts" with | .tuple items => items | _ => []
      let texts ← parts.mapM displayOf
      return .log (given "level") (joinTexts " " texts)
    else
      return .request "getBars"
        [("symbol", orElse h (given "symbol") (.text setting.symbol)),
          ("timeframe", orElse h (given "timeframe") (.text setting.timeframe))]
  | .plot =>
    let kind := (Plot.Kind.ofName? name).getD .line
    let items ← itemsOf (given (Message.itemsKey kind))
    let options ← optionsOf (given "opts")
    return .request (Message.plotMethod kind) (Message.plotParams kind (given "id") items options)
  | .attachments =>
    if name = "csv" then return .request "attachments:csv" [("name", given "name")]
    else return .request "attachments:list" []
  | .utils =>
    return .value (← compute ((Indicator.Kernel.ofName? name).getD .sma) (given "values") (given "period"))

end Environment

end ChartScript.Script
