import ChartScript.Script.Grammar.Stmt
/-!
# Scripts as trees

Reading the text of a script into its tree, or the flaw for which it is refused. Of
several flaws the one to report is chosen here: a flaw in a token outweighs every flaw in
the order of tokens but a needless indentation, wherever it stands, and so does a bracket
that is never closed if the reading of tokens got beyond its line.
-/

namespace ChartScript.Script

/-- How deep the parts of a script can lie inside each other. -/
def depthOf (source : String) : Nat := 2 * source.length + 4

/-- The flaw that outweighs another one because of how the tokens end. -/
def preferEnding (stream : TokenStream) (reachedLine : Nat) (e : SourceError) : SourceError :=
  if e.flaw = .unexpectedIndent || e.flaw = .unexpectedDedent then e
  else
    match stream.ending with
    | .flawed f => f
    | .cutOff f =>
      match f.line with
      | some opened => if opened < reachedLine then f else e
      | none => e
    | _ => e

/-- The statements of a script. -/
def statementsOf (source : String) : Except SourceError (List Stmt) :=
  if source.contains '\x00' then .error ⟨none, .nullCharacter⟩
  else
    let stream := tokensOf source
    match (Grammar.script (depthOf source)).run { stream, position := 0, reached := 0 } with
    | .ok statements _ =>
      match stream.ending with
      | .flawed e => .error e
      | _ => .ok statements
    | .error e c =>
      let reached := (stream.tokens.getD (min c.explored (stream.tokens.size - 1)) default).line
      .error (preferEnding stream reached e)

end ChartScript.Script
