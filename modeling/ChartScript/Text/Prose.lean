/-!
# Counts and names in prose

The plural of a noun and a list of quoted names, as reports word them.
-/

namespace ChartScript.Text.Prose

/-- The letter that makes a noun plural, for counts other than one. -/
def pluralLetter (n : Nat) : String := if n = 1 then "" else "s"

/-- Names in prose: `'a'`, `'a' and 'b'`, `'a', 'b', and 'c'`. -/
def namesInProse (names : List String) : String :=
  match names.map fun n => "'" ++ n ++ "'" with
  | [] => ""
  | [a] => a
  | [a, b] => a ++ " and " ++ b
  | quoted => ", ".intercalate quoted.dropLast ++ ", and " ++ quoted.getLastD ""

end ChartScript.Text.Prose
