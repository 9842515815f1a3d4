import ChartScript.Script.Mention
import ChartScript.Text.Quoted
/-!
# The guard

A script may not import, may not use names or texts that begin with two underscores, and
may not reach for attributes that are private or lead into the machinery behind a value.
The first mention that breaks a rule refuses the script.
-/

namespace ChartScript.Script

/-- Attributes that no script may use. -/
def forbiddenAttributes : List String :=
  ["format", "format_map", "mro", "get_stack", "print_stack", "get_coro", "get_loop"]

/-- Beginnings of attributes that no script may use: private ones and those of frames, code,
tracebacks, generators and coroutines. -/
def forbiddenBeginnings : List String := ["_", "f_", "co_", "tb_", "gi_", "cr_", "ag_"]

/-- Whether a text begins with another one. -/
def beginsWith (start text : String) : Bool := start.toList.isPrefixOf text.toList

/-- Whether a name begins with two underscores. -/
def isReserved (name : String) : Bool := beginsWith "__" name

/-- Whether no script may use an attribute. -/
def isForbiddenAttribute (attr : String) : Bool :=
  forbiddenAttributes.contains attr || forbiddenBeginnings.any fun b => beginsWith b attr

/-- What a script is refused for. -/
inductive Prohibited where
  /-- An import. -/
  | imports
  /-- An attribute. -/
  | attribute (name : String)
  /-- A name. -/
  | name (id : String)
  /-- A text. -/
  | text (value : String)
  deriving Repr, DecidableEq

/-- The wording of what is prohibited. -/
def Prohibited.wording : Prohibited → String
  | .imports => "import"
  | .attribute attr => "attribute '" ++ attr ++ "'"
  | .name id => "name '" ++ id ++ "'"
  | .text value => "string " ++ Text.Quoted.encode value

/-- A prohibited mention and its line. -/
structure Offence where
  /-- The line. -/
  line : Nat
  /-- What is prohibited there. -/
  what : Prohibited
  deriving Repr, DecidableEq

/-- The text of an offence. -/
def Offence.message (o : Offence) : String :=
  "line " ++ toString o.line ++ ": " ++ o.what.wording ++ " is not allowed"

/-- The offence of a mention. -/
def Mention.offence? : Mention → Option Offence
  | .imports line => some ⟨line, .imports⟩
  | .attribute line attr =>
    if isForbiddenAttribute attr then some ⟨line, .attribute attr⟩ else none
  | .name line id => if isReserved id then some ⟨line, .name id⟩ else none
  | .text line value => if isReserved value then some ⟨line, .text value⟩ else none
  | .bound _ => none
  | .member _ => none

/-- The first offence of a script. -/
def offence? (script : List Stmt) : Option Offence :=
  (Mentions.ofBlock script).findSome? Mention.offence?

end ChartScript.Script
