import ChartScript.Number.Conversion
/-!
# Settings

The constants of the program and the variables that override them. Variables are read in
a fixed order, and the first one that is no number is reported.
-/

namespace ChartScript

/-- The constants of the program. -/
structure Settings where
  /-- Time budget of a run in milliseconds. -/
  timeoutMs : Int
  /-- Time budget of a run from the editor in milliseconds. -/
  editorTimeoutMs : Int
  /-- Milliseconds that the host waits beyond the budget. -/
  graceMs : Int
  /-- Seconds in which a process must report. -/
  startTimeout : Float
  /-- How processes are started. -/
  startMethod : String
  /-- Largest number of console lines. -/
  consoleLimit : Int
  /-- Symbol of a request that names none. -/
  symbol : String
  /-- Timeframe of a request that names none. -/
  timeframe : String
  /-- Days of market data to ask for. -/
  historyDays : Int
  /-- Level of the operator log. -/
  logLevel : String

namespace Settings

/-- The value of a variable, or a default text. -/
def lookup (overrides : List (String × String)) (name fallback : String) : String :=
  (Assoc.get? overrides name).getD fallback

/-- The settings under some variables. -/
def read (overrides : List (String × String)) : Except Number.ConversionError Settings := do
  let text := lookup overrides
  let timeoutMs ← Number.textToInt (text "SANDBOX_TIMEOUT_MS" "2000")
  let editorTimeoutMs ← Number.textToInt (text "EDITOR_TIMEOUT_MS" "250")
  let graceMs ← Number.textToInt (text "SANDBOX_WATCHDOG_GRACE_MS" "100")
  let startTimeout ← Number.textToFloat (text "SANDBOX_START_TIMEOUT_S" "10")
  let consoleLimit ← Number.textToInt (text "CONSOLE_MAX_LINES" "500")
  let historyDays ← Number.textToInt (text "BAR_HISTORY_DAYS" "60")
  return {
    timeoutMs, editorTimeoutMs, graceMs, startTimeout
    startMethod := text "SANDBOX_START_METHOD" "forkserver"
    consoleLimit
    symbol := text "DEFAULT_SYMBOL" "SPY"
    timeframe := text "DEFAULT_TIMEFRAME" "1d"
    historyDays
    logLevel := text "LOG_LEVEL" "INFO" }

/-- The settings by name. -/
def data (s : Settings) : Wire :=
  .object [("DEFAULT_TIMEOUT_MS", .int s.timeoutMs), ("EDITOR_TIMEOUT_MS", .int s.editorTimeoutMs),
    ("WATCHDOG_GRACE_MS", .int s.graceMs), ("START_TIMEOUT_S", .float s.startTimeout),
    ("START_METHOD", .text s.startMethod), ("CONSOLE_MAX_LINES", .int s.consoleLimit),
    ("DEFAULT_SYMBOL", .text s.symbol), ("DEFAULT_TIMEFRAME", .text s.timeframe),
    ("BAR_HISTORY_DAYS", .int s.historyDays), ("LOG_LEVEL", .text s.logLevel)]

end Settings

end ChartScript
