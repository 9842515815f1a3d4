import ChartScript.Script.Constant
/-!
# What patterns capture

The names that a pattern binds, or the fault that keeps it from being turned into code. A
pattern that matches everything must not stand before others, a name is captured once, and
alternatives capture the same names.
-/

namespace ChartScript.Script.Scope

/-- Faults that a node shows by itself. -/
inductive Fault where
  /-- The same keyword twice in a call. -/
  | repeatedKeyword (name : String)
  /-- A starred expression outside of a display or call. -/
  | strayStar
  /-- A starred target on its own. -/
  | loneStarTarget
  /-- Two starred targets in one display. -/
  | manyStarTargets
  /-- A starred target in a display with too many others around it. -/
  | crowdedStarTarget
  /-- A handler of everything before another handler. -/
  | earlyCatchAll
  /-- The constant for debugging is bound. -/
  | bindsDebug
  /-- A pattern that matches everything before others: a name, or none. -/
  | matchesAll (name : Option String)
  /-- A name twice in one pattern. -/
  | repeatedCapture (name : String)
  /-- Alternatives that capture different names. -/
  | differentCaptures
  /-- Two starred patterns in one sequence. -/
  | manyStarPatterns
  /-- A starred pattern that takes the rest of a sequence with too many others around it. -/
  | crowdedStarPattern
  /-- An attribute twice in one pattern. -/
  | repeatedAttribute (name : String)
  /-- A key, as it is shown, twice in one pattern. -/
  | repeatedKey (key : String)
  /-- A key, which has too many digits to be shown, twice in one pattern. -/
  | unwritableKey
  /-- A value to compare with that is neither a literal nor an attribute. -/
  | unfitValue
  /-- A key that is neither a literal nor an attribute. -/
  | unfitKey
  deriving Repr, DecidableEq

/-- The wording of a fault. -/
def Fault.wording : Fault → String
  | repeatedKeyword id => "keyword argument repeated: " ++ id
  | strayStar => "can't use starred expression here"
  | loneStarTarget => "starred assignment target must be in a list or tuple"
  | manyStarTargets => "multiple starred expressions in assignment"
  | crowdedStarTarget => "too many expressions in star-unpacking assignment"
  | earlyCatchAll => "default 'except:' must be last"
  | bindsDebug => "cannot assign to __debug__"
  | matchesAll (some id) => "name capture '" ++ id ++ "' makes remaining patterns unreachable"
  | matchesAll none => "wildcard makes remaining patterns unreachable"
  | repeatedCapture id => "multiple assignments to name '" ++ id ++ "' in pattern"
  | differentCaptures => "alternative patterns bind different names"
  | manyStarPatterns => "multiple starred names in sequence pattern"
  | crowdedStarPattern => "too many expressions in star-unpacking sequence pattern"
  | repeatedAttribute id => "attribute name repeated in class pattern: " ++ id
  | repeatedKey key => "mapping pattern checks duplicate key (" ++ key ++ ")"
  | unwritableKey => unwritableText
  | unfitValue => "patterns may only match literals and attribute lookups"
  | unfitKey => "mapping pattern keys may only match literals and attribute lookups"

/-- The name that no script can bind. -/
def debugName : String := "__debug__"

/-- What has been captured, and where. -/
structure Captured where
  /-- The line of the last pattern that was gone into. -/
  line : Nat
  /-- The names. -/
  names : List String

/-- What patterns capture, or the first fault of one with its line. -/
abbrev Capturing := Except (Nat × Fault) Captured

/-- A name is captured after others. -/
def capture (id : String) (before : Captured) : Capturing :=
  if id = debugName then .error (before.line, .bindsDebug)
  else if before.names.contains id then .error (before.line, .repeatedCapture id)
  else .ok { before with names := before.names ++ [id] }

/-- A name that may be missing is captured after others. -/
def captureOption (name : Option String) (before : Captured) : Capturing :=
  match name with
  | some id => capture id before
  | none => .ok before

/-- The fault of a value that a pattern compares with. -/
def valueFault? : Expr → Option Fault
  | .attribute _ _ _ => none
  | e => if (Literal.meaning? e).isSome then none else some .unfitValue

/-- The fault of keys that come after others. -/
def keyFault? : List Key → List Expr → Option Fault
  | _, [] => none
  | seen, .attribute _ _ _ :: rest => keyFault? seen rest
  | seen, e :: rest =>
    match Literal.meaning? e with
    | some m =>
      if seen.contains m.key then some (m.text?.elim .unwritableKey .repeatedKey)
      else keyFault? (m.key :: seen) rest
    | none => some .unfitKey

/-- The fault of the names of attributes, each with the line of its pattern. -/
def attributeFault? : List (String × Nat) → Option (Nat × Fault)
  | [] => none
  | (name, line) :: rest =>
    if name = debugName then some (line, .bindsDebug)
    else
      match rest.lookup name with
      | some again => some (again, .repeatedAttribute name)
      | none => attributeFault? rest

/-- Whether a pattern is the rest of a sequence. -/
def isStarPattern : Pattern → Bool
  | .star _ _ => true
  | _ => false

/-- Whether a pattern takes the rest of a sequence under a name. -/
def isNamedStarPattern : Pattern → Bool
  | .star _ name => name.isSome
  | _ => false

/-- Whether a pattern matches everything and captures nothing. -/
def isWildcard : Pattern → Bool
  | .capture _ name => name.isNone
  | .star _ name => name.isNone
  | _ => false

/-- Whether the wildcards of a sequence are passed over: if there is nothing else in it, or if its rest is
one of them, so that it is taken apart item by item. -/
def passesOver (items : List Pattern) : Bool :=
  items.all isWildcard || items.any fun p => isStarPattern p && isWildcard p

/-- Whether the first of several items that takes what the others leave has too many of them before it
or after it: they are counted in one byte and in three. -/
def isCrowded {α : Type} (takesRest : α → Bool) (items : List α) : Bool :=
  match items.findIdx? takesRest with
  | some i => 256 ≤ i || 8388607 ≤ items.length - i - 1
  | none => false

mutual

/-- What is captured after a pattern. It may match everything only if there is nothing left to match
after it. -/
def captures (isLast : Bool) (before : Captured) : Pattern → Capturing
  | .value e =>
    match valueFault? e with
    | some fault => .error (e.line, fault)
    | none => .ok { before with line := e.line }
  | .constant line _ => .ok { before with line }
  | .capture line name =>
    if isLast then captureOption name { before with line } else .error (line, .matchesAll name)
  | .sequence line items =>
    if 1 < (items.filter isStarPattern).length then .error (line, .manyStarPatterns)
    else if isCrowded isNamedStarPattern items then .error (line, .crowdedStarPattern)
    else capturesAll (passesOver items) { before with line } items
  | .star line name => captureOption name { before with line }
  | .mapping line keys items rest =>
    match keyFault? [] keys with
    | some fault => .error (line, fault)
    | none => do captureOption rest (← capturesAll false { before with line } items)
  | .instance cls items names named =>
    match attributeFault? (names.zip (named.map Pattern.line)) with
    | some fault => .error fault
    | none => do
      capturesAll true (← capturesAll true { before with line := cls.line } items) named
  | .as line pattern name => do capture name (← captures isLast { before with line } pattern)
  | .or line options => capturesOneOf isLast { before with line } options

/-- What is captured after patterns that all have to match a part. -/
def capturesAll (skips : Bool) (before : Captured) : List Pattern → Capturing
  | [] => .ok before
  | p :: rest =>
    if skips && isWildcard p then capturesAll skips before rest
    else do capturesAll skips (← captures true before p) rest

/-- What is captured after one of several patterns. -/
def capturesOneOf (isLast : Bool) (before : Captured) : List Pattern → Capturing
  | [] => .ok before
  | p :: rest => do
    let first ← captures (isLast && rest.isEmpty) { before with names := [] } p
    let line ← captureSame isLast first rest
    first.names.foldlM (fun known id => capture id known) { before with line }

/-- Whether patterns capture the same names: the line where this is known of the last one. -/
def captureSame (isLast : Bool) (found : Captured) : List Pattern → Except (Nat × Fault) Nat
  | [] => .ok found.line
  | p :: rest => do
    let other ← captures (isLast && rest.isEmpty) { found with names := [] } p
    if found.names.length = other.names.length && found.names.all other.names.contains then
      captureSame isLast { found with line := other.line } rest
    else .error (other.line, .differentCaptures)

end

/-- The fault of a pattern with its line, if it has one. -/
def patternFault? (isLast : Bool) (p : Pattern) : Option (Nat × Fault) :=
  match captures isLast ⟨p.line, []⟩ p with
  | .ok _ => none
  | .error fault => some fault

end ChartScript.Script.Scope
