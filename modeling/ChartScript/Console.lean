import ChartScript.Data.Assoc
import ChartScript.Failure
/-!
# The console

The lines that runs leave for the user, kept per instance up to a limit; beyond it the
oldest lines go first.
-/

namespace ChartScript

/-- A line of the console. -/
structure ConsoleLine where
  /-- The level. -/
  level : String
  /-- The text. -/
  text : String
  deriving Repr, DecidableEq, Inhabited

/-- The lines of every instance. -/
structure Console where
  /-- The largest number of lines that an instance keeps; unlimited when absent. -/
  limit : Option Nat
  /-- The lines by instance, oldest first. -/
  feeds : List (String × List ConsoleLine)
  deriving Inhabited

namespace Console

/-- The limit of a console that names none. -/
def defaultLimit : Nat := 500

/-- A console without lines. -/
def empty (limit : Option Nat) : Console := ⟨limit, []⟩

/-- A console whose limit is an integer, which must not be negative. -/
def ofLimit (limit : Option Int) : Except Failure Console :=
  match limit with
  | none => .ok (empty none)
  | some n => if n < 0 then .error (.value "maxlen must be non-negative") else .ok (empty (some n.toNat))

/-- The last lines within the limit. -/
def trim (limit : Option Nat) (lines : List ConsoleLine) : List ConsoleLine :=
  match limit with
  | none => lines
  | some n => lines.drop (lines.length - n)

/-- The lines of an instance. -/
def lines (console : Console) (instanceId : String) : List ConsoleLine :=
  (Assoc.get? console.feeds instanceId).getD []

/-- Adds a line at the end. -/
def append (console : Console) (instanceId : String) (line : ConsoleLine) : Console :=
  { console with
    feeds := Assoc.put console.feeds instanceId
      (trim console.limit (console.lines instanceId ++ [line])) }

/-- Drops all lines of an instance. -/
def clear (console : Console) (instanceId : String) : Console :=
  { console with feeds := Assoc.erase console.feeds instanceId }

end Console

end ChartScript
