import ChartScript.Script.Machine.Eval
/-!
# Going on with suspended work

What suspended work does when a value comes, and when a block inside of it ends.
-/

namespace ChartScript.Script.Machine

open Act

/-- The elements of a value are put among the values of a display or call. -/
def spreadValue (u : Use) (done : List Value) (todo : List Expr) (v : Value) : Act Unit := do
  let h ← getHeap
  match h.elements? v with
  | some items => advance u (items.reverse ++ done) todo
  | none =>
    if isLazy h v then
      push (.spread u done todo)
      gather .all v
    else
      throw (.typeError (
        ← match u with
          | .call _ => do
            let name ← lift (calledName h (done.getLastD .none))
            pure (name ++ " argument after * must be an iterable, not " ++ h.typeName v)
          | .set => pure ("'" ++ h.typeName v ++ "' object is not iterable")
          | _ => pure ("Value after * must be an iterable, not " ++ h.typeName v)))

/-- A comparison in a chain has an outcome. -/
def chain (right outcome : Value) (ops : List CompareOp) (rights : List Expr) : Act Unit := do
  match ops with
  | [] => answer outcome
  | op :: more =>
    if (← getHeap).truthy outcome then
      match rights with
      | e :: rest => evalThen e (.compareRight right op more rest)
      | [] => answer outcome
    else answer outcome

/-- Two values are compared; a source is gone through to find a member. -/
def compareValues (left : Value) (op : CompareOp) (right : Value) (ops : List CompareOp)
    (rights : List Expr) : Act Unit := do
  let h ← getHeap
  let isMember : Bool := op = .member || op = .notMember
  if isMember && isLazy h right then
    push (.compareNext right ops rights)
    gather (.contains left (op = .notMember)) right
  else chain right (.bool (← lift (h.compares op left right))) ops rights

/-- The elements that a loop goes through. -/
def sourceOf (isAsync : Bool) (v : Value) : Act Value := do
  if isAsync then
    let h ← getHeap
    match v with
    | .object a =>
      match h.get? a with
      | some (.generator _ true _) => return v
      | _ => pure ()
    | _ => pure ()
    throw (.typeError ("'async for' requires an object with __aiter__ method, got " ++ h.typeName v))
  else heap (iterate v)

/-- The inner part of a comprehension: more clauses, or the element. -/
def compInner (element : Element) (rest : List Clause) (container : Value) : Act Unit :=
  match rest with
  | .mk isAsync target iter conditions :: more =>
    evalThen iter (.compSource element (.mk isAsync target iter conditions) more container)
  | [] =>
    match element with
    | .one _ value => evalThen value (.compAdd container)
    | .entry key value => evalThen key (.compKey value container)

/-- The conditions of a clause are tested in turn. -/
def compConditions (element : Element) (conditions : List Expr) (rest : List Clause)
    (container : Value) : Act Unit :=
  match conditions with
  | test :: more => evalThen test (.compTest element more rest container)
  | [] => compInner element rest container

/-- A comprehension starts with its first source. -/
def startComp (element : Element) (clauses : List Clause) (v : Value) : Act Unit := do
  match clauses with
  | .mk isAsync target iter conditions :: rest =>
    let source ← sourceOf isAsync v
    let clause := Clause.mk isAsync target iter conditions
    let scope ← compScope element clauses
    match element with
    | .one .generator _ =>
      let isAsync : Bool := clauses.any fun | .mk a _ _ _ => a
      answer (← heap (Op.alloc (.generator "<genexpr>" isAsync
        (.comprehension element clause rest source scope))))
    | _ =>
      let container ← heap (Op.alloc (
        match element with
        | .one .set _ => .set #[]
        | .entry _ _ => .dict #[]
        | .one _ _ => .list #[]))
      enter
      push (.compEnd container (← get).scope)
      push (.compNext element clause rest container source)
      modify fun s => { s with scope }
      goto (.next source)
  | [] => answer .none

/-- An element is put into the container of a comprehension, or handed out. -/
def addToComp (container v : Value) : Act Unit := do
  match container with
  | .object a =>
    match (← getHeap).get? a with
    | some (.list items) =>
      heap (Op.put a (.list (items.push v)))
      finish
    | some (.set items) =>
      let k ← lift ((← getHeap).key v)
      heap (Op.put a (.set (addElement items k v)))
      finish
    | _ => finish
  | _ =>
    push .drop
    handOut v

/-- An exception handler, if its types fit; otherwise the next one is tried. -/
def tryHandlers (exception : Value) : List Handler → Act Unit
  | [] => goto (.done (.raising exception))
  | .mk _ type name body :: rest =>
    match type with
    | some e => evalThen e (.handlerType exception name body rest)
    | none => do
      push (.handling (← get).handled name)
      modify fun s => { s with handled := some exception }
      goto (.exec body)

/-- Whether an exception is of one of the types of a handler. -/
def isHandled (h : Heap) (exception : Value) : Nat → Value → Except Raised Bool
  | 0, _ => .ok false
  | fuel + 1, t =>
    let refuse : Except Raised Bool :=
      .error (.typeError "catching classes that do not inherit from BaseException is not allowed")
    match t with
    | .type name =>
      if Provided.isException name then .ok (Types.isInstance h exception name) else refuse
    | .tuple items => do
      let answers ← items.mapM fun item => isHandled h exception fuel item
      return answers.any id
    | _ => refuse

/-- The cases of a match statement are tried in turn. -/
def tryCases (subject : Value) : List MatchCase → Act Unit
  | [] => finish
  | .mk _ pattern guard body :: rest => do
    match ← matchPattern pattern subject with
    | none => tryCases subject rest
    | some bound =>
      for (id, v) in bound do bindName id v
      match guard with
      | some e => evalThen e (.matchGuard subject body rest)
      | none => goto (.exec body)

/-- A value comes to suspended work. -/
def value (f : Frame) (v : Value) : Act Unit := do
  match f with
  | .items u done todo => advance u (v :: done) todo
  | .star u done todo => spreadValue u done todo v
  | .spread u done todo =>
    match v with
    | .tuple items => advance u (items.reverse ++ done) todo
    | _ => advance u done todo
  | .boolean conjunction rest =>
    match rest with
    | [] => answer v
    | e :: more =>
      if (← getHeap).truthy v = conjunction then evalThen e (.boolean conjunction more) else answer v
  | .compareLeft ops rights =>
    match ops, rights with
    | op :: more, e :: rest => evalThen e (.compareRight v op more rest)
    | _, _ => answer v
  | .compareRight left op ops rights => compareValues left op v ops rights
  | .compareNext right ops rights => chain right v ops rights
  | .choose body orelse => goto (.eval (if (← getHeap).truthy v then body else orelse))
  | .named target =>
    match target with
    | .name _ id =>
      bindName id v
      answer v
    | _ => answer v
  | .drop => finish
  | .assign targets => assignEach (targets.map fun t => (t, v))
  | .unpack targets =>
    match v with
    | .tuple items => assignItems targets items
    | _ => finish
  | .setAttribute name w =>
    heap (assignAttribute v name (some w))
    finish
  | .setOwner index w => evalThen index (.setIndex v w)
  | .setIndex owner w => storeItem owner v w
  | .setSlice owner index => storeItem owner index v
  | .updateAttribute name op e =>
    let current ← lift (readAttribute (← get).setting (← getHeap) v name)
    push (.storeAttribute v name)
    evalThen e (.items (.update op) [current] [])
  | .updateOwner index op e => evalThen index (.updateIndex v op e)
  | .updateIndex owner op e =>
    let current ← heap (getItem owner v)
    push (.storeIndex owner v)
    evalThen e (.items (.update op) [current] [])
  | .storeIndex owner index => storeItem owner index v
  | .storeAttribute owner name =>
    heap (assignAttribute owner name (some v))
    finish
  | .deleteAttribute name =>
    heap (assignAttribute v name none)
    finish
  | .deleteOwner index => evalThen index (.deleteIndex v)
  | .deleteIndex owner =>
    heap (deleteItem owner v)
    finish
  | .branch body orelse => goto (.exec (if (← getHeap).truthy v then body else orelse))
  | .whileTest test body orelse =>
    if (← getHeap).truthy v then
      push (.whileBody test body orelse)
      goto (.exec body)
    else goto (.exec orelse)
  | .forStart isAsync target body orelse =>
    let source ← sourceOf isAsync v
    push (.forNext source target body orelse)
    goto (.next source)
  | .handlerType exception name body rest =>
    if ← lift (isHandled (← getHeap) exception 100 v) then
      push (.handling (← get).handled name)
      modify fun s => { s with handled := some exception }
      if let some id := name then bindName id exception
      goto (.exec body)
    else tryHandlers exception rest
  | .returns => goto (.done (.returning v))
  | .assertTest message =>
    if (← getHeap).truthy v then finish
    else
      match message with
      | some e => evalThen e (.items .assert [] [])
      | none => throw ⟨"AssertionError", []⟩
  | .matchStart cases => tryCases v cases
  | .matchGuard subject body rest =>
    if (← getHeap).truthy v then goto (.exec body) else tryCases subject rest
  | .replaceBy w => answer w
  | .decorate decorators name =>
    match decorators with
    | [] => answer v
    | d :: rest =>
      push (.decorate rest name)
      goto (.call d [v] [])
  | .compStart element clauses => startComp element clauses v
  | .compSource element clause rest container =>
    match clause with
    | .mk isAsync _ _ _ =>
      let source ← sourceOf isAsync v
      push (.compNext element clause rest container source)
      goto (.next source)
  | .compTest element conditions rest container =>
    if (← getHeap).truthy v then compConditions element conditions rest container else finish
  | .compAdd container => addToComp container v
  | .compKey e container => evalThen e (.compEntry v container)
  | .compEntry key container =>
    match container with
    | .object _ =>
      heap (setItem container key v)
      finish
    | _ => finish
  | .argument func before after keywords => goto (.call func (before ++ v :: after) keywords)
  | .ranks ranking func done item todo =>
    match todo with
    | [] => rank ranking ((v, item) :: done).reverse
    | following :: rest =>
      push (.ranks ranking func ((v, item) :: done) following rest)
      goto (.call func [following] [])
  | .activation scope handled =>
    leave scope handled
    answer v
  | .coroutine a scope handled =>
    setActivity a .finished
    leave scope handled
    answer v
  | .generator a scope handled =>
    setActivity a .finished
    leave scope handled
    goto (.exhausted v)
  | .delegate source =>
    push (.delegate source)
    match v, source with
    | .none, _ => goto (.next source)
    | _, .object a => resumeGenerator a (.ok v)
    | _, _ => goto (.next source)
  | .mapResult => goto (.item v)
  | .filterTest a item =>
    if (← getHeap).truthy v then goto (.item item) else next (.object a)
  | .sleeping result => answer result
  | .settling call found => do
    modify fun s => { s with settled := (call, found) :: s.settled }
    answer .none
  | .unfit reason =>
    match v with
    | .bool true => throw (.of "InvalidStateError" "invalid state")
    | _ => throw reason
  | _ => answer v

/-- An element comes to suspended work. -/
def item (f : Frame) (v : Value) : Act Unit :=
  match item? f v with
  | some work => work
  | none =>
    match f with
    | .forNext source target body orelse => do
      push (.forRound source target body orelse)
      push (.forBody body)
      assignTo target v
    | .compNext element clause rest container source => do
      push (.compNext element clause rest container source)
      match clause with
      | .mk _ target _ conditions =>
        push (.compTests element conditions rest container)
        assignTo target v
    | _ => answer v

/-- A source has no more elements for suspended work. -/
def exhausted (f : Frame) (result : Value) : Act Unit :=
  match exhausted? f result with
  | some work => work
  | none =>
    match f with
    | .forNext _ _ _ orelse => goto (.exec orelse)
    | .compNext _ _ _ _ _ => finish
    | _ => answer result

/-- A block inside of suspended work has come to its end. -/
def ended (f : Frame) : Act Unit :=
  match f with
  | .block rest => goto (.exec rest)
  | .assignEach pairs =>
    match pairs with
    | [] => finish
    | [(t, v)] => assignTo t v
    | (t, v) :: rest => do
      push (.assignEach rest)
      assignTo t v
  | .deleteRest targets =>
    match targets with
    | [] => finish
    | t :: rest => do
      push (.deleteRest rest)
      deleteTarget t
  | .hint e => evalThen e .drop
  | .whileBody test body orelse => evalThen test (.whileTest test body orelse)
  | .forBody body => goto (.exec body)
  | .forRound source target body orelse => do
    push (.forNext source target body orelse)
    goto (.next source)
  | .handlers _ orelse => goto (.exec orelse)
  | .handling outer name => do
    modify fun s => { s with handled := outer }
    if let some id := name then forgetName id
    finish
  | .final block => do
    push (.finalEnd .normal (← get).handled)
    goto (.exec block)
  | .finalEnd completion outer => do
    modify fun s => { s with handled := outer }
    goto (.done completion)
  | .compNext element clause rest container source => do
    push (.compNext element clause rest container source)
    goto (.next source)
  | .compTests element conditions rest container => compConditions element conditions rest container
  | .compEnd container outer => do
    leave outer (← get).handled
    answer container
  | .activation scope handled => do
    leave scope handled
    answer .none
  | .coroutine a scope handled => do
    setActivity a .finished
    leave scope handled
    answer .none
  | .generator a scope handled => do
    setActivity a .finished
    leave scope handled
    goto (.exhausted .none)
  | _ => finish

/-- What a call returns. -/
def returned : Completion → Value
  | .returning v => v
  | _ => .none

/-- An exception leaves a generator: the exception that would look like its end is replaced. -/
def escaped (e : Value) (isAsync : Bool) : Act Unit := do
  let h ← getHeap
  if Types.isInstance h e "StopIteration" || (isAsync && Types.isInstance h e "StopAsyncIteration") then
    throw (.of "RuntimeError" (if isAsync then "async generator raised StopAsyncIteration"
      else "generator raised StopIteration"))
  goto (.done (.raising e))

/-- An exception passes suspended work. -/
def raised (f : Frame) (e : Value) : Act Unit :=
  match f with
  | .handlers handlers _ => do
    tryHandlers e handlers
  | .delegate source => do
    match source with
    | .object a =>
      match (← getHeap).get? a with
      | some (.generator _ _ (.suspended _ _ _)) =>
        push (.delegate source)
        resumeGenerator a (.error e)
      | _ => goto (.done (.raising e))
    | _ => goto (.done (.raising e))
  | .closing => do
    let h ← getHeap
    if Types.isInstance h e "GeneratorExit" || Types.isInstance h e "StopIteration" then answer .none
    else goto (.done (.raising e))
  | _ => goto (.done (.raising e))

/-- The flow of control leaves suspended work other than by its end. -/
def unwind (f : Frame) (c : Completion) : Act Unit :=
  match f with
  | .final block => do
    let outer := (← get).handled
    push (.finalEnd c outer)
    if let .raising e := c then modify fun s => { s with handled := some e }
    goto (.exec block)
  | .handling outer name => do
    modify fun s => { s with handled := outer }
    if let some id := name then forgetName id
    goto (.done c)
  | .finalEnd _ outer => do
    modify fun s => { s with handled := outer }
    goto (.done c)
  | .compEnd _ outer => do
    leave outer (← get).handled
    goto (.done c)
  | .activation scope handled => do
    leave scope handled
    match c with
    | .raising e => goto (.done (.raising e))
    | _ => answer (returned c)
  | .coroutine a scope handled => do
    setActivity a .finished
    leave scope handled
    match c with
    | .raising e => goto (.done (.raising e))
    | _ => answer (returned c)
  | .generator a scope handled => do
    let isAsync : Bool :=
      match (← getHeap).get? a with
      | some (.generator _ isAsync _) => isAsync
      | _ => false
    setActivity a .finished
    leave scope handled
    match c with
    | .raising e => escaped e isAsync
    | _ => goto (.exhausted (returned c))
  | .whileBody test body orelse =>
    match c with
    | .continuing => evalThen test (.whileTest test body orelse)
    | .breaking => finish
    | _ => goto (.done c)
  | .forRound source target body orelse =>
    match c with
    | .continuing => do
      push (.forNext source target body orelse)
      goto (.next source)
    | .breaking => finish
    | _ => goto (.done c)
  | _ =>
    match c with
    | .raising e => raised f e
    | _ => goto (.done c)

/-- A block has ended. -/
def done (f : Frame) (c : Completion) : Act Unit :=
  match c with
  | .normal => ended f
  | _ => unwind f c

end ChartScript.Script.Machine
