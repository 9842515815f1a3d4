import ChartScript.Script.Machine.Basic
/-!
# Names while a script runs

Reading, binding and forgetting names. A name that a call has as its own is looked for
there only; any other one in the calls around, then in the module, then among what is
provided.
-/

namespace ChartScript.Script.Machine

open Act

/-- Where a name belongs that is not a scope's own: to a call around it, or to the module. -/
def ownerAround (h : Heap) (id : String) : List Address → Option Address
  | [] => none
  | a :: rest =>
    match h.get? a with
    | some (.variables vars) =>
      if vars.own.contains id then some a
      else if vars.globals.contains id then none
      else ownerAround h id rest
    | _ => ownerAround h id rest

/-- A name that is not defined. -/
def undefined (id : String) : Raised := .of "NameError" ("name '" ++ id ++ "' is not defined")

/-- A name of the module or of what is provided. -/
def readGlobal (id : String) : Act Value := do
  let vars ← variablesAt moduleScope
  match (vars.vars.lookup id).or (Provided.value? id) with
  | some v => return v
  | none => throw (undefined id)

/-- A name that a call has but that is not bound. -/
def unboundLocal (id : String) : Raised :=
  .of "UnboundLocalError" ("cannot access local variable '" ++ id ++
    "' where it is not associated with a value")

/-- A name of a call around that is not bound. -/
def unboundFree (id : String) : Raised :=
  .of "NameError" ("cannot access free variable '" ++ id ++
    "' where it is not associated with a value in enclosing scope")

/-- The value of a name. -/
def readName (id : String) : Act Value := do
  let s ← get
  let vars ← variablesAt s.scope
  if vars.isModule || vars.globals.contains id then readGlobal id
  else if vars.own.contains id then
    match vars.vars.lookup id with
    | some v => return v
    | none => throw (unboundLocal id)
  else
    match ownerAround s.heap id vars.outer with
    | some a =>
      match (← variablesAt a).vars.lookup id with
      | some v => return v
      | none => throw (unboundFree id)
    | none => readGlobal id

/-- The scope that a name is bound in. -/
def homeOf (id : String) : Act Address := do
  let s ← get
  let vars ← variablesAt s.scope
  if vars.isModule || vars.globals.contains id then return moduleScope
  else if vars.own.contains id then return s.scope
  else return (ownerAround s.heap id vars.outer).getD moduleScope

/-- Binds a name. -/
def bindName (id : String) (v : Value) : Act Unit := do
  let a ← homeOf id
  let vars ← variablesAt a
  setVariables a { vars with vars := Assoc.put vars.vars id v }

/-- Forgets a name, bound or not. -/
def forgetName (id : String) : Act Unit := do
  let a ← homeOf id
  let vars ← variablesAt a
  setVariables a { vars with vars := Assoc.erase vars.vars id }

/-- Removes a name that has to be bound. -/
def deleteName (id : String) : Act Unit := do
  let s ← get
  let a ← homeOf id
  let vars ← variablesAt a
  if (vars.vars.lookup id).isNone then
    throw (if a = moduleScope then undefined id
      else if a = s.scope then unboundLocal id else unboundFree id)
  setVariables a { vars with vars := Assoc.erase vars.vars id }

/-- The scopes around what is defined in a scope. -/
def scopesAround (scope : Address) (vars : Variables) : List Address :=
  if vars.isModule then [] else scope :: vars.outer

/-- The name of what is defined in a scope, with the names around it. -/
def qualify (vars : Variables) (name : String) : String :=
  if vars.isModule || vars.globals.contains name then name
  else vars.qualname ++ ".<locals>." ++ name

/-- What the text of a function says about its calls. -/
def codeOf (vars : Variables) (isAsync : Bool) (name : String) (params : Params) (body : Body) :
    Code :=
  let events := Scope.ofParams params ++
    match body with
    | .block statements => Scope.ofBlock statements
    | .expr e => Scope.ofExpr e
  let names := Scope.namesOf [] { kind := .function isAsync } events
  { name, qualname := qualify vars name, params, body, isAsync
    isGenerator := Scope.handsOut 0 events, own := names.own, globals := names.globals }

/-- What a comprehension is called. -/
def compName : Element → String
  | .entry _ _ => "<dictcomp>"
  | .one .list _ => "<listcomp>"
  | .one .set _ => "<setcomp>"
  | .one .dict _ => "<dictcomp>"
  | .one .generator _ => "<genexpr>"

/-- The names that the targets of a comprehension bind. -/
def compNames (clauses : List Clause) : List String :=
  (Scope.namesOf [] { kind := .comprehension .list }
    (clauses.flatMap fun
      | .mk _ target _ _ => Scope.ofTarget target)).own

/-- A new scope for a comprehension. -/
def compScope (element : Element) (clauses : List Clause) : Act Address := do
  let s ← get
  let vars ← variablesAt s.scope
  let fresh : Variables :=
    { own := compNames clauses, outer := scopesAround s.scope vars
      qualname := qualify vars (compName element) }
  match ← heap (Op.alloc (.variables fresh)) with
  | .object a => return a
  | _ => return s.scope

/-- The parameters of a function as a call sees them. -/
def signatureOf (c : Closure) : Signature :=
  match c.code.params with
  | .mk positional plain rest named others =>
    { function := c.code.qualname
      positionOnly := positional.length
      positional := (positional ++ plain).map Param.name
      rest := rest.map Param.name
      named := named.map Param.name
      others := others.map Param.name
      defaults := c.defaults }

end ChartScript.Script.Machine
