import ChartScript.Proofs.Script.Declaration
import ChartScript.Proofs.Script.Guard
/-!
# Scripts that do not run

A script is refused before anything of it runs for a flaw of its text, for a mention that the guard
forbids, or for a broken rule on names and places. The first two are failures of compilation; the
third one is not, since the rules are only checked when code is made of the tree. A script that is
not refused runs its body, and what can be called under the first of the entry names is its entry.
-/

namespace ChartScript.Script

section Entry

/-- What a body has left under a name, if it can be called. -/
def callable? (s : State) (name : String) : Option Value :=
  match s.heap.get? moduleScope with
  | some (.variables vars) => (vars.vars.lookup name).filter (Types.isCallable s.heap)
  | _ => none

end Entry

section Loading

variable {σ : Type} (world : σ → Effect → σ × Answer) (w : σ) (source : String)
  (printing : Printing) (setting : Message.EnvSpec)

/-- What becomes of a script whose body runs. -/
structure Runs (script : List Stmt) (outcome : σ × Except Failure Loaded) : Prop where
  /-- An exception of the body is the failure, of whatever kind it is. -/
  raised : ∀ w' e s, drive world maxSteps w (start script printing setting) = (w', some (.failed e, s)) →
    outcome = (w', .error (failureOf s e))
  /-- A body that ends leaves an entry under the first of the two names that can be called. -/
  entry : ∀ w' v s, drive world maxSteps w (start script printing setting) = (w', some (.ended v, s)) →
    ∀ f, (callable? s "default").or (callable? s "exports") = some f → outcome = (w', .ok ⟨s, f⟩)
  /-- If neither can be called this is a failure of compilation. -/
  noEntry : ∀ w' v s, drive world maxSteps w (start script printing setting) = (w', some (.ended v, s)) →
    callable? s "default" = none → callable? s "exports" = none →
    outcome = (w', .error (.sandbox .compile "no callable export"))

/-- What becomes of a script. -/
structure Treated (outcome : σ × Except Failure Loaded) : Prop where
  /-- A flaw of the text is a failure of compilation, and nothing is asked of the world. -/
  malformed : ∀ e, statementsOf source = .error e → outcome = (w, .error (.sandbox .compile e.text))
  /-- So is something that the guard forbids, wherever it stands. -/
  prohibited : ∀ script, statementsOf source = .ok script →
    (∃ n : Node, n.OccursIn script ∧ n.Offends) →
      ∃ o, offence? script = some o ∧ outcome = (w, .error (.sandbox .compile o.message))
  /-- Something that breaks a rule at its place, or a broken rule on names, is an error of syntax (of
  value, if a key twice in a pattern is too long to be shown) and no failure of compilation; nothing is
  asked of the world here either. -/
  misplaced : ∀ script, statementsOf source = .ok script →
    (∀ n : Node, n.OccursIn script → ¬n.Offends) →
      (∃ p n, Scope.StandsIn script p n ∧ n.Breaks p) ∨ ¬Scope.NamesFit script →
        ∃ r, Scope.check script = some r ∧ outcome = (w, .error (ruleFailure source r))
  /-- All other scripts run. -/
  runs : ∀ script, statementsOf source = .ok script → (∀ n : Node, n.OccursIn script → ¬n.Offends) →
    Scope.NamesFit script → (∀ p n, Scope.StandsIn script p n → ¬n.Misplaced p) →
      Runs world w printing setting script outcome

end Loading

end ChartScript.Script
