import ChartScript.Script.Machine.Attribute
import ChartScript.Script.Machine.Iterate
/-!
# Calls

What happens when a value is called: functions of the script start to run, provided
functions and methods answer at once or ask the world, and arguments that run when they
are gone through are gathered first.
-/

namespace ChartScript.Script.Machine

open Act

/-- The positions of the arguments that a provided function goes through at once. -/
def gatheredPositions (h : Heap) (func : Value) (count : Nat) : List Nat :=
  match func with
  | .builtin name =>
    if name = "sum" || name = "sorted" || name = "math.fsum" || name = "math.prod" then [0]
    else if name = "math.dist" then [0, 1]
    else if (name = "min" || name = "max") && count = 1 then [0]
    else []
  | .type name =>
    if name = "array" then [1]
    else if ["list", "tuple", "set", "dict"].contains name then [0]
    else []
  | .method (.text _) name => if name = "join" then [0] else []
  | .method (.type _) "fromkeys" => [0]
  | .method (.host .plot) _ => [1, 2]
  | .method (.object a) name =>
    match h.get? a with
    | some (.list _) => if name = "extend" then [0] else []
    | some (.array _ _) => if name = "extend" then [0] else []
    | some (.dict _) => if name = "update" || name = "fromkeys" then [0] else []
    | some (.set _) => List.range count
    | _ => []
  | _ => []

/-- The first argument that has to be gathered before a call. -/
def toGather? (h : Heap) (func : Value) (args : List Value) : Option Nat :=
  (gatheredPositions h func args.length).find? fun i => (args[i]?).any (isLazy h)

/-- A function of the script is called. -/
def callClosure (c : Closure) (args : List Value) (kws : Keywords) : Act Unit := do
  let (bound, aside) ← lift ((signatureOf c).bind args kws)
  let others ←
    match (signatureOf c).others with
    | some n => do
      let d ← heap (Op.alloc (.dict (DictMethod.withKeywords #[] aside)))
      pure [(n, d)]
    | none => pure []
  let fresh : Variables :=
    { vars := bound ++ others, own := c.code.own, globals := c.code.globals, outer := c.outer
      qualname := c.code.qualname }
  match ← heap (Op.alloc (.variables fresh)) with
  | .object scope =>
    if c.code.isGenerator then
      answer (← heap (Op.alloc (.generator c.code.qualname c.code.isAsync (.fresh c.code scope))))
    else if c.code.isAsync then
      answer (← heap (Op.alloc (.coroutine c.code.qualname (.fresh c.code scope))))
    else
      enter
      let s ← get
      push (.activation s.scope s.handled)
      modify fun s => { s with scope }
      runBody c.code.body
  | _ => return ()

/-- A text that parts of printed text are joined by, or that ends it. -/
def printPart (h : Heap) (name : String) (fallback : String) : Option Value → Except Raised String
  | none => .ok fallback
  | some .none => .ok fallback
  | some (.text s) => .ok s
  | some v =>
    .error (.typeError (name ++ " must be None or a string, not " ++ h.typeName v))

/-- Values are printed. -/
def print (args : List Value) (kws : Keywords) : Act Unit := do
  let s ← get
  let texts : Act (List String) := args.mapM fun v => heap (displayOf v)
  match s.printing with
  | .lines => goto (.ask (.print (joinTexts " " (← texts))))
  | .direct =>
    if let some k := kws.find? fun k => !(["sep", "end", "file", "flush"].contains k.1) then
      throw (.typeError ("'" ++ k.1 ++ "' is an invalid keyword argument for print()"))
    let separator ← lift (printPart s.heap "sep" " " (kws.lookup "sep"))
    let ending ← lift (printPart s.heap "end" "\n" (kws.lookup "end"))
    match kws.lookup "file" with
    | none | some .none => pure ()
    | some v =>
      throw (.attributeError ("'" ++ s.heap.typeName v ++ "' object has no attribute 'write'"))
    goto (.ask (.print (joinTexts separator (← texts) ++ ending)))
  | .logged =>
    match (kws.lookup "sep").getD (.text " ") with
    | .text separator => goto (.ask (.log "info" (joinTexts separator (← texts))))
    | v =>
      throw (.attributeError ("'" ++ s.heap.typeName v ++ "' object has no attribute 'join'"))

/-- Values are ranked by their keys. -/
def rank (ranking : Ranking) (keyed : List (Value × Value)) : Act Unit := do
  let h ← getHeap
  match ranking with
  | .sorted backward => answer (← heap (Op.newList (← lift (Sorting.byKeys h backward keyed))))
  | .sort list backward =>
    let items ← lift (Sorting.byKeys h backward keyed)
    heap (Op.put list (.list items.toArray))
    answer .none
  | .choose name fallback => answer (← lift (Provided.choose h name fallback keyed))

/-- Values are ranked by a function of them, or by themselves. -/
def rankBy (ranking : Ranking) (func : Value) (items : List Value) : Act Unit :=
  match func, items with
  | .none, _ => rank ranking (items.map fun v => (v, v))
  | _, [] => rank ranking []
  | _, first :: rest => do
    push (.ranks ranking func [] first rest)
    goto (.call func [first] [])

/-- A value as an exception: an exception itself, or a new one of a type without arguments. -/
def exceptionOf? (v : Value) : Act (Option Value) := do
  let h ← getHeap
  match v with
  | .type name =>
    if Provided.isException name then
      return some (← heap (Op.alloc (.exception name [])))
    else return none
  | .object a =>
    match h.get? a with
    | some (.exception _ _) => return some v
    | _ => return none
  | _ => return none

/-- Something is asked about the answer to a capability call, or put in its place. What the
script has put there itself it gets back as it is. -/
def callFuture (call : Nat) (name : String) (args : List Value) (kws : Keywords) : Act Unit := do
  let ask (what : FutureQuery) : Act Unit := goto (.ask (.query call what))
  let own := (← get).settled.lookup call
  match name with
  | "cancel" =>
    let _ ← lift (Arity.named "cancel" ["msg"] args kws)
    ask .cancel
  | "set_result" =>
    let v ← lift (Arity.one "Future.set_result" args kws)
    push (.settling call (.ok v))
    ask .fulfil
  | "set_exception" =>
    let v ← lift (Arity.one "Future.set_exception" args kws)
    let refuse (reason : String) : Act Unit := do
      push (.unfit (.typeError reason))
      ask .done
    match ← exceptionOf? v with
    | none => refuse "invalid exception object"
    | some e =>
      let h ← getHeap
      if h.typeName e = "StopIteration" then
        refuse "StopIteration interacts badly with generators and cannot be raised into a Future"
      else
        push (.settling call (.error e))
        match h.account e with
        | .ok f => ask (.reject f none)
        | .error obstacle => ask (.reject ⟨.ofTypeName (h.typeName e), ""⟩ (some obstacle))
  | _ =>
    lift (Arity.none ("Future." ++ name) args kws)
    match name, own with
    | "done", _ => ask .done
    | "cancelled", _ => ask .cancelled
    | "result", none => ask .result
    | "result", some found => outcome found
    | _, none => ask .failure
    | _, some (.ok _) => answer .none
    | _, some (.error e) => answer e

/-- A method of a generator is called. -/
def callGenerator (a : Address) (fresh : Bool) (name : String) (args : List Value) (kws : Keywords) :
    Act Unit := do
  let h ← getHeap
  match name with
  | "send" =>
    let v ← lift (Arity.one "generator.send" args kws)
    match v with
    | .none => pure ()
    | _ => if fresh then throw (.typeError "can't send non-None value to a just-started generator")
    push .sent
    resumeGenerator a (.ok v)
  | "throw" =>
    lift (Arity.between "throw" 1 3 args)
    match ← exceptionOf? ((args[0]?).getD .none) with
    | some e =>
      push .sent
      resumeGenerator a (.error e)
    | none =>
      throw (.typeError ("exceptions must be classes or instances deriving from BaseException, not " ++
        h.typeName ((args[0]?).getD .none)))
  | _ =>
    lift (Arity.none "generator.close" args kws)
    if fresh then
      setActivity a .finished
      answer .none
    else
      match h.get? a with
      | some (.generator _ _ (.suspended _ _ _)) =>
        let e ← heap (Op.alloc (.exception "GeneratorExit" []))
        push .closing
        resumeGenerator a (.error e)
      | _ => answer .none

/-- The type of a pause in calls. -/
def sleepSignature : Signature :=
  { function := "sleep", positional := ["delay", "result"], defaults := [("result", .none)] }

/-- A provided function is called. -/
def callProvided (name : String) (args : List Value) (kws : Keywords) : Act Unit := do
  let h ← getHeap
  match name with
  | "print" => print args kws
  | "sleep" =>
    let (bound, _) ← lift (sleepSignature.bind args kws)
    let given (n : String) : Value := (bound.lookup n).getD .none
    answer (← heap (Op.alloc (.coroutine "sleep" (.sleep (given "delay") (given "result")))))
  | "any" | "all" =>
    let v ← lift (Arity.one name args kws)
    if isLazy h v then gather (if name = "any" then .anyTrue else .allTrue) v
    else answer (← heap (Provided.call name args kws))
  | "sorted" =>
    let (items, backward) ← lift (Provided.sortArguments h args kws)
    rankBy (.sorted backward) ((kws.lookup "key").getD .none) items
  | "min" | "max" =>
    let c ← lift (Provided.candidates h name args kws)
    rankBy (.choose name c.fallback) ((kws.lookup "key").getD .none) c.items
  | _ =>
    if name.startsWith "math." then answer (← heap (Mathematics.call (name.drop 5).toString args kws))
    else answer (← heap (Provided.call name args kws))

/-- A call of a part of the environment. -/
def callHost (part : HostPart) (name : String) (args : List Value) (kws : Keywords) : Act Unit := do
  let s ← get
  match ← heap (Environment.call s.setting part name args kws) with
  | .value v => answer v
  | .log level text =>
    let known : String := match level with | .text l => l | _ => ""
    goto (.ask (.log known text))
  | .request method params =>
    goto (.ask (.request method ((← getHeap).transferAll params)))

/-- A method is called. -/
def callOwned (owner : Value) (name : String) (args : List Value) (kws : Keywords) : Act Unit := do
  let h ← getHeap
  match owner with
  | .host part => callHost part name args kws
  | .future call => callFuture call name args kws
  | .type t =>
    if name = "fromkeys" || name = "maketrans" then answer (← heap (callMethod owner name args kws))
    else
      match args with
      | [] => throw (.typeError ("unbound method " ++ t ++ "." ++ name ++ "() needs an argument"))
      | self :: rest =>
        if Types.isInstance h self t then goto (.call (.method self name) rest kws)
        else
          throw (.typeError ("descriptor '" ++ name ++ "' for '" ++ t ++
            "' objects doesn't apply to a '" ++ h.typeName self ++ "' object"))
  | .object a =>
    match h.get? a with
    | some (.generator _ _ activity) =>
      let fresh : Bool :=
        match activity with
        | .fresh _ _ | .comprehension _ _ _ _ _ => true
        | _ => false
      callGenerator a fresh name args kws
    | some (.coroutine _ _) =>
      setActivity a .finished
      answer .none
    | some (.list items) =>
      if name = "sort" then
        if !args.isEmpty then throw (.typeError "sort() takes no positional arguments")
        let backward ← lift (Provided.sortArguments.backward h kws)
        rankBy (.sort a backward) ((kws.lookup "key").getD .none) items.toList
      else answer (← heap (callMethod owner name args kws))
    | _ => answer (← heap (callMethod owner name args kws))
  | _ => answer (← heap (callMethod owner name args kws))

/-- A value is called. -/
def call (func : Value) (args : List Value) (kws : Keywords) : Act Unit := do
  let h ← getHeap
  match toGather? h func args with
  | some i =>
    push (.argument func (args.take i) (args.drop (i + 1)) kws)
    gather .all =<< heap (iterate ((args[i]?).getD .none))
  | none =>
    match func with
    | .builtin name => callProvided name args kws
    | .type name => answer (← heap (Provided.construct name args kws))
    | .method owner name => callOwned owner name args kws
    | .object a =>
      match h.get? a with
      | some (.function c) => callClosure c args kws
      | _ => throw (.typeError ("'" ++ h.typeName func ++ "' object is not callable"))
    | _ => throw (.typeError ("'" ++ h.typeName func ++ "' object is not callable"))

end ChartScript.Script.Machine
