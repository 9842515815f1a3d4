import ChartScript.Run.Spec
import ChartScript.Failure
/-!
# Messages about the life of a run

The instruction that a context receives and the messages with which it reports that the
script started, logged a line or ended.
-/

namespace ChartScript.Message

open Schema (FieldView RecordView)

/-- The market data a script is run on. -/
structure EnvSpec where
  /-- The symbol. -/
  symbol : String
  /-- The timeframe. -/
  timeframe : String
  deriving Repr, DecidableEq, Inhabited

/-- What a context is told to run. -/
structure Instruction where
  /-- The text of the script. -/
  source : String
  /-- The market data it is run on. -/
  env : EnvSpec
  /-- Time budget in milliseconds. -/
  timeoutMs : Int
  deriving Repr, DecidableEq, Inhabited

/-- The weight of a log line. -/
inductive LogLevel where
  /-- Ordinary. -/
  | info
  /-- A warning. -/
  | warn
  /-- An error. -/
  | error
  deriving Repr, DecidableEq, Inhabited

/-- The name of a level. -/
def LogLevel.name : LogLevel → String
  | .info => "info"
  | .warn => "warn"
  | .error => "error"

/-- All levels in order. -/
def LogLevel.all : List LogLevel := [.info, .warn, .error]

/-- The level of a name. -/
def LogLevel.ofName? (name : String) : Option LogLevel := LogLevel.all.find? fun l => l.name = name

/-- A check of the name of a level. -/
def LogLevel.check : Schema.Check LogLevel := fun w =>
  let refused : Schema.Checked LogLevel :=
    .refuse (.literal (LogLevel.all.map fun l => Text.Quoted.encode l.name)) w
  match w with
  | .text s =>
    match LogLevel.ofName? s with
    | some l => .valid l
    | none => refused
  | _ => refused

/-- A line of the log. -/
structure LogLine where
  /-- Its weight. -/
  level : LogLevel
  /-- Its text. -/
  text : String
  deriving Repr, DecidableEq, Inhabited

/-- The report that a script ended. -/
structure Done where
  /-- The error it ended with. -/
  error : Option String
  /-- Whether it ended because the budget was used up. -/
  timedOut : Option Bool
  deriving Repr, DecidableEq, Inhabited

/-- A field that names the type of the message and may be left out. -/
def checkTag (o : Schema.Source) (tag : String) : Schema.Checked String :=
  o.withDefault ["type"] tag (Schema.oneOf [tag])

namespace EnvSpec

/-- Checks an environment specification. -/
def check : Schema.Check EnvSpec :=
  Schema.record "EnvSpec" fun o =>
    EnvSpec.mk <$> o.required ["symbol"] Schema.text <*> o.required ["timeframe"] Schema.text

/-- The environment specification as data. -/
def view (e : EnvSpec) : RecordView :=
  ⟨"EnvSpec", false, [.plain "symbol" (.text e.symbol), .plain "timeframe" (.text e.timeframe)]⟩

end EnvSpec

namespace Instruction

/-- Checks an instruction. -/
def check : Schema.Check Instruction :=
  Schema.record "RunInstruction" fun o =>
    (fun _ source env timeout => Instruction.mk source env timeout)
      <$> checkTag o "run"
      <*> o.required ["sourceCode", "source_code"] Schema.text
      <*> o.required ["envSpec", "env_spec"] EnvSpec.check
      <*> o.required ["timeoutMs", "timeout_ms"] Schema.integer

/-- The instruction as data. -/
def view (i : Instruction) : RecordView :=
  ⟨"RunInstruction", false, [.plain "type" (.text "run"),
    ⟨"source_code", "sourceCode", .text i.source⟩, ⟨"env_spec", "envSpec", i.env.view.dump⟩,
    ⟨"timeout_ms", "timeoutMs", .int i.timeoutMs⟩]⟩

/-- The instruction for a specification. -/
def ofSpec (s : Run.Spec) : Instruction := ⟨s.source, ⟨s.symbol, s.timeframe⟩, s.timeoutMs⟩

end Instruction

/-- Checks the report that a script started. -/
def checkStarted : Schema.Check Unit :=
  Schema.record "StartedMessage" fun o => (fun _ => ()) <$> checkTag o "started"

/-- The report that a script started, as data. -/
def startedView : RecordView := ⟨"StartedMessage", false, [.plain "type" (.text "started")]⟩

namespace LogLine

/-- Checks a line of the log. -/
def check : Schema.Check LogLine :=
  Schema.record "LogMessage" fun o =>
    (fun _ level text => LogLine.mk level text)
      <$> checkTag o "log"
      <*> o.withDefault ["level"] .info LogLevel.check
      <*> o.required ["text"] Schema.text

/-- The line as data. -/
def view (l : LogLine) : RecordView :=
  ⟨"LogMessage", false, [.plain "type" (.text "log"), .plain "level" (.text l.level.name),
    .plain "text" (.text l.text)]⟩

end LogLine

namespace Done

/-- Checks the report that a script ended. -/
def check : Schema.Check Done :=
  Schema.record "DoneMessage" fun o =>
    (fun _ error timedOut => Done.mk error timedOut)
      <$> checkTag o "done"
      <*> o.withDefault ["error"] none (Schema.optional Schema.text)
      <*> o.withDefault ["timedOut", "timed_out"] none (Schema.optional Schema.truth)

/-- The report as data. -/
def view (d : Done) : RecordView :=
  ⟨"DoneMessage", false, [.plain "type" (.text "done"), .plain "error" (Wire.ofText? d.error),
    ⟨"timed_out", "timedOut", (d.timedOut.map Wire.bool).getD .null⟩]⟩

end Done

end ChartScript.Message
