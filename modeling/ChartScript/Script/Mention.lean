import ChartScript.Script.Syntax
/-!
# What a script mentions

The imports, attributes, names and texts that occur in a tree, in the order in which a
reader meets them: a node before its parts, and the parts in the fixed order of each kind
of node. Names that are bound without being written as expressions, such as those of
functions and parameters, are listed apart.
-/

namespace ChartScript.Script

/-- Something that occurs in a script. -/
inductive Mention where
  /-- An import. -/
  | imports (line : Nat)
  /-- An attribute of a value. -/
  | attribute (line : Nat) (name : String)
  /-- A name that is read, assigned or deleted. -/
  | name (line : Nat) (id : String)
  /-- A text. -/
  | text (line : Nat) (value : String)
  /-- A name that a definition, parameter, handler, pattern or declaration binds. -/
  | bound (id : String)
  /-- An attribute that a pattern compares. -/
  | member (name : String)
  deriving Repr, DecidableEq

namespace Mentions

/-- What a constant mentions. -/
def ofConstant (line : Nat) : Constant → List Mention
  | .text s => [.text line s]
  | _ => []

/-- The name that may be bound. -/
def ofName : Option String → List Mention
  | some id => [.bound id]
  | none => []

mutual

/-- What an expression mentions. -/
def ofExpr : Expr → List Mention
  | .constant line c => ofConstant line c
  | .name line id => [.name line id]
  | .attribute line value attr => .attribute line attr :: ofExpr value
  | .subscript _ value index => ofExpr value ++ ofExpr index
  | .slice _ lower upper step => ofOption lower ++ ofOption upper ++ ofOption step
  | .starred _ value => ofExpr value
  | .list _ items => ofExprs items
  | .tuple _ items => ofExprs items
  | .set _ items => ofExprs items
  | .dict _ entries => ofKeys entries ++ ofValues entries
  | .unary _ _ operand => ofExpr operand
  | .binary _ left _ right => ofExpr left ++ ofExpr right
  | .boolean _ _ operands => ofExprs operands
  | .compare _ left _ rights => ofExpr left ++ ofExprs rights
  | .conditional _ test body orelse => ofExpr test ++ ofExpr body ++ ofExpr orelse
  | .call _ func args keywords => ofExpr func ++ ofExprs args ++ ofKeywords keywords
  | .lambda _ params body => ofParams params ++ ofExpr body
  | .listComp _ element clauses => ofExpr element ++ ofClauses clauses
  | .setComp _ element clauses => ofExpr element ++ ofClauses clauses
  | .dictComp _ key value clauses => ofExpr key ++ ofExpr value ++ ofClauses clauses
  | .generator _ element clauses => ofExpr element ++ ofClauses clauses
  | .await _ value => ofExpr value
  | .yield _ value => ofOption value
  | .yieldFrom _ value => ofExpr value
  | .named _ target value => ofExpr target ++ ofExpr value
  | .formatted _ parts => ofExprs parts
  | .replacement _ value _ spec => ofExpr value ++ ofOption spec

/-- What several expressions mention. -/
def ofExprs : List Expr → List Mention
  | [] => []
  | e :: rest => ofExpr e ++ ofExprs rest

/-- What an optional expression mentions. -/
def ofOption : Option Expr → List Mention
  | none => []
  | some e => ofExpr e

/-- What the keys of a dictionary display mention. -/
def ofKeys : List DictEntry → List Mention
  | [] => []
  | .pair key _ :: rest => ofExpr key ++ ofKeys rest
  | .unpack _ :: rest => ofKeys rest

/-- What the values of a dictionary display mention. -/
def ofValues : List DictEntry → List Mention
  | [] => []
  | .pair _ value :: rest => ofExpr value ++ ofValues rest
  | .unpack value :: rest => ofExpr value ++ ofValues rest

/-- What arguments by keyword mention. -/
def ofKeywords : List Keyword → List Mention
  | [] => []
  | .mk _ _ value :: rest => ofExpr value ++ ofKeywords rest

/-- What the clauses of a comprehension mention. -/
def ofClauses : List Clause → List Mention
  | [] => []
  | .mk _ target iter conditions :: rest =>
    ofExpr target ++ ofExpr iter ++ ofExprs conditions ++ ofClauses rest

/-- The names and annotations of parameters. -/
def ofHints : List Param → List Mention
  | [] => []
  | .mk _ name hint _ :: rest => .bound name :: ofOption hint ++ ofHints rest

/-- The defaults of parameters. -/
def ofDefaults : List Param → List Mention
  | [] => []
  | .mk _ _ _ fallback :: rest => ofOption fallback ++ ofDefaults rest

/-- The name and annotation of an optional parameter. -/
def ofRest : Option Param → List Mention
  | none => []
  | some (.mk _ name hint _) => .bound name :: ofOption hint

/-- What the parameters of a function mention: annotations, with the defaults of named
parameters before the last one, and the other defaults at the end. -/
def ofParams : Params → List Mention
  | .mk positional plain rest named others =>
    ofHints positional ++ ofHints plain ++ ofRest rest ++ ofHints named ++
      ofDefaults named ++ ofRest others ++ ofDefaults positional ++ ofDefaults plain

end

mutual

/-- What a pattern mentions. -/
def ofPattern : Pattern → List Mention
  | .value e => ofExpr e
  | .constant _ _ => []
  | .capture _ name => ofName name
  | .sequence _ items => ofPatterns items
  | .star _ name => ofName name
  | .mapping _ keys items rest => ofExprs keys ++ ofPatterns items ++ ofName rest
  | .instance cls items names named =>
    ofExpr cls ++ ofPatterns items ++ names.map Mention.member ++ ofPatterns named
  | .as _ pattern name => ofPattern pattern ++ [.bound name]
  | .or _ options => ofPatterns options

/-- What several patterns mention. -/
def ofPatterns : List Pattern → List Mention
  | [] => []
  | p :: rest => ofPattern p ++ ofPatterns rest

end

/-- What the items of a with statement mention. -/
def ofItems (items : List WithItem) : List Mention :=
  items.flatMap fun i => ofExpr i.context ++ ofOption i.target

mutual

/-- What a statement mentions. -/
def ofStmt : Stmt → List Mention
  | .expr _ value => ofExpr value
  | .assign _ targets value => ofExprs targets ++ ofExpr value
  | .update _ target _ value => ofExpr target ++ ofExpr value
  | .annotate _ target hint value _ => ofExpr target ++ ofExpr hint ++ ofOption value
  | .delete _ targets => ofExprs targets
  | .pass _ => []
  | .break _ => []
  | .continue _ => []
  | .return _ value => ofOption value
  | .raise _ exception cause => ofOption exception ++ ofOption cause
  | .global _ names => names.map Mention.bound
  | .nonlocal _ names => names.map Mention.bound
  | .imports line => [.imports line]
  | .assert _ test message => ofExpr test ++ ofOption message
  | .if _ test body orelse => ofExpr test ++ ofBlock body ++ ofBlock orelse
  | .while _ test body orelse => ofExpr test ++ ofBlock body ++ ofBlock orelse
  | .for _ _ target iter body orelse =>
    ofExpr target ++ ofExpr iter ++ ofBlock body ++ ofBlock orelse
  | .with _ _ items body => ofItems items ++ ofBlock body
  | .try _ _ body handlers orelse final =>
    ofBlock body ++ ofHandlers handlers ++ ofBlock orelse ++ ofBlock final
  | .match _ subject cases => ofExpr subject ++ ofCases cases
  | .function _ _ name params body decorators returns =>
    .bound name :: ofParams params ++ ofBlock body ++ ofExprs decorators ++ ofOption returns
  | .classDef _ name bases keywords body decorators =>
    .bound name :: ofExprs bases ++ ofKeywords keywords ++ ofBlock body ++ ofExprs decorators

/-- What a block mentions. -/
def ofBlock : List Stmt → List Mention
  | [] => []
  | s :: rest => ofStmt s ++ ofBlock rest

/-- What handlers mention. -/
def ofHandlers : List Handler → List Mention
  | [] => []
  | .mk _ type name body :: rest =>
    ofOption type ++ ofName name ++ ofBlock body ++ ofHandlers rest

/-- What the cases of a match statement mention. -/
def ofCases : List MatchCase → List Mention
  | [] => []
  | .mk _ pattern guard body :: rest =>
    ofPattern pattern ++ ofOption guard ++ ofBlock body ++ ofCases rest

end

end Mentions

end ChartScript.Script
