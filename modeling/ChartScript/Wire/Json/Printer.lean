import ChartScript.Wire.Value
/-!
# Printing JSON

The compact JSON text of a value. Text is written as it is apart from the quote, the
backslash and control characters; an infinity or NaN has no text and becomes null.
-/

namespace ChartScript.Wire.Json

/-- One character inside a JSON string. -/
def escapeChar (c : Char) : List Char :=
  if c = '"' || c = '\\' then ['\\', c]
  else if c = '\n' then ['\\', 'n']
  else if c = '\r' then ['\\', 'r']
  else if c = '\t' then ['\\', 't']
  else if c.toNat < 32 then '\\' :: 'u' :: Text.Quoted.hexDigits 4 c.toNat
  else [c]

/-- A JSON string. -/
def renderText (s : String) : String :=
  String.ofList ('"' :: s.toList.flatMap escapeChar ++ ['"'])

mutual

/-- The JSON text of a value. -/
def render : Wire → String
  | .null => "null"
  | .bool b => if b then "true" else "false"
  | .int n => toString n
  | .float x => if x.isFinite then Number.display x else "null"
  | .text s => renderText s
  | .list items => "[" ++ joinWith "," (renderItems items) ++ "]"
  | .object fields => "\x7b" ++ joinWith "," (renderFields fields) ++ "\x7d"

/-- The JSON texts of items. -/
def renderItems : List Wire → List String
  | [] => []
  | w :: rest => render w :: renderItems rest

/-- The JSON texts of fields. -/
def renderFields : List (String × Wire) → List String
  | [] => []
  | (k, w) :: rest => (renderText k ++ ":" ++ render w) :: renderFields rest

end

end ChartScript.Wire.Json
