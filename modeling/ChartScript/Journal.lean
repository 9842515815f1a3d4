import ChartScript.Failure
import ChartScript.Number.Layout
/-!
# The operator log

One handler, a level for everything below the root, and lines of a fixed layout: time,
level, name of the logger and text, separated by bars.
-/

namespace ChartScript.Journal

/-- The named levels; of two names for a number the first is the one that is printed. -/
def levels : List (String × Int) :=
  [("CRITICAL", 50), ("FATAL", 50), ("ERROR", 40), ("WARNING", 30), ("WARN", 30), ("INFO", 20),
    ("DEBUG", 10), ("NOTSET", 0)]

/-- The level of the two noisy libraries. -/
def quietLevel : Int := 30

/-- The number of a level given as a number or name. -/
def levelOf (w : Wire) : Except Failure Int :=
  match w with
  | .int n => .ok n
  | .bool b => .ok (if b then 1 else 0)
  | .text s =>
    match Assoc.get? levels s with
    | some n => .ok n
    | none => .error (.value ("Unknown level: " ++ Text.Quoted.encode s))
  | _ => .error (.type ("Level not an integer or a valid string: " ++ w.inner))

/-- The name of a level; other levels are named by their number. -/
def levelName (level : Int) : String :=
  match levels.find? fun e => e.2 = level with
  | some e => e.1
  | none => "Level " ++ toString level

/-- The root of the log after it was set up. -/
structure Root where
  /-- Number of handlers. -/
  handlers : Nat
  /-- The level. -/
  level : Int
  deriving Repr, DecidableEq

/-- The root before it is set up. -/
def Root.initial : Root := ⟨0, quietLevel⟩

/-- Sets up the root: only the first time adds a handler. -/
def Root.setUp (root : Root) (level : Wire) : Except Failure Root := do
  let n ← levelOf level
  return ⟨max root.handlers 1, n⟩

/-- The name of a logger of the program. -/
def loggerName (name : String) : String := "indicator_sandbox." ++ name

/-- A text filled with blanks up to a width. -/
def padRight (width : Nat) (s : String) : String :=
  s ++ String.ofList (List.replicate (width - s.length) ' ')

/-- A number with at least `width` digits. -/
def twoDigits (n : Nat) : String := String.ofList (Number.padded 2 n)

/-- A day of the calendar. -/
structure Day where
  /-- The year. -/
  year : Int
  /-- The month, from one. -/
  month : Nat
  /-- The day of the month, from one. -/
  day : Nat
  deriving Repr, DecidableEq

/-- Days in a period of four hundred years. -/
def daysPerEra : Int := 146097

/-- Days from the first of March of the year zero to the epoch. -/
def epochShift : Int := 719468

/-- The day of the calendar that lies a number of days after the epoch. Years are counted
from March, so that the leap day comes last, in periods of four hundred years. -/
def Day.ofCount (days : Int) : Day :=
  let shifted := days + epochShift
  let era := shifted.fdiv daysPerEra
  let dayOfEra := (shifted.fmod daysPerEra).toNat
  let yearOfEra :=
    (dayOfEra - dayOfEra / 1460 + dayOfEra / 36524 - dayOfEra / 146096) / 365
  let dayOfYear := dayOfEra - (365 * yearOfEra + yearOfEra / 4 - yearOfEra / 100)
  let monthFromMarch := (5 * dayOfYear + 2) / 153
  let day := dayOfYear - (153 * monthFromMarch + 2) / 5 + 1
  let month := if monthFromMarch < 10 then monthFromMarch + 3 else monthFromMarch - 9
  ⟨yearOfEra + era * 400 + (if month ≤ 2 then 1 else 0), month, day⟩

/-- Seconds in a day. -/
def secondsPerDay : Int := 86400

/-- The text of a time in seconds since the epoch. -/
def timeText (seconds : Int) : String :=
  let day := Day.ofCount (seconds.fdiv secondsPerDay)
  let rest := (seconds.fmod secondsPerDay).toNat
  toString day.year ++ "-" ++ twoDigits day.month ++ "-" ++ twoDigits day.day ++ " " ++
    twoDigits (rest / 3600) ++ ":" ++ twoDigits (rest / 60 % 60) ++ ":" ++ twoDigits (rest % 60)

/-- A line of the log. -/
def line (seconds level : Int) (logger text : String) : String :=
  timeText seconds ++ " | " ++ padRight 8 (levelName level) ++ " | " ++ padRight 30 logger ++
    " | " ++ text

end ChartScript.Journal
