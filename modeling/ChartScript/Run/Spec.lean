import ChartScript.Schema.Record
/-!
# Runs: what to run

The input of one run: the script, the market data it is about and its time budget.
-/

namespace ChartScript.Run

open Schema (FieldView RecordView)

/-- The input of one run. -/
structure Spec where
  /-- The symbol the script is run on. -/
  symbol : String
  /-- The timeframe of the bars. -/
  timeframe : String
  /-- The text of the script. -/
  source : String
  /-- Time budget in milliseconds. -/
  timeoutMs : Int
  deriving Repr, DecidableEq, Inhabited

namespace Spec

/-- The rule on the time budget. -/
def IsValid (s : Spec) : Prop := 0 < s.timeoutMs

instance (s : Spec) : Decidable s.IsValid := inferInstanceAs (Decidable (0 < s.timeoutMs))

/-- A time budget in milliseconds, which is positive. -/
def checkTimeout : Schema.Check Int :=
  Schema.ensuring Schema.integer (fun n => decide (0 < n)) (.greaterThan 0)

/-- Budget of a specification that names none. -/
def defaultTimeoutMs : Int := 2000

/-- Checks a specification. -/
def check : Schema.Check Spec :=
  Schema.record "RunSpec" fun o =>
    Spec.mk <$> o.required ["symbol"] Schema.text
      <*> o.required ["timeframe"] Schema.text
      <*> o.required ["source_code"] Schema.text
      <*> o.withDefault ["timeout_ms"] defaultTimeoutMs checkTimeout

/-- The specification as data. -/
def view (s : Spec) : RecordView :=
  ⟨"RunSpec", true, [.plain "symbol" (.text s.symbol), .plain "timeframe" (.text s.timeframe),
    .plain "source_code" (.text s.source), .plain "timeout_ms" (.int s.timeoutMs)]⟩

end Spec

end ChartScript.Run
