import ChartScript.Script.Machine.Assign
import ChartScript.Script.Machine.Match
/-!
# Expressions and statements

The first step of evaluating an expression and of running a statement: either it is done
at once, or its parts are evaluated first and the rest is suspended.
-/

namespace ChartScript.Script.Machine

open Act

/-- The name of what is called, as reports give it. -/
def calledName (h : Heap) (v : Value) : Except Raised String :=
  match v with
  | .builtin name => .ok (name ++ "()")
  | .type name => .ok (name ++ "()")
  | .method owner name =>
    match owner with
    | .host part => .ok ("sandbox.environment." ++ part.typeName ++ "." ++ name ++ "()")
    | _ => .ok (h.typeName owner ++ "." ++ name ++ "()")
  | .object a =>
    match h.get? a with
    | some (.function c) => .ok (c.code.qualname ++ "()")
    | _ => h.display v
  | _ => h.display v

/-- The arguments by keyword of a call: named ones, and the entries of mappings. -/
def keywordsOf (func : Value) : List (Option String × Value) → Keywords → Act Keywords
  | [], done => return done
  | (some name, v) :: rest, done => do
    if done.any fun k => k.1 = name then
      throw (.typeError ((← lift (calledName (← getHeap) func)) ++
        " got multiple values for keyword argument '" ++ name ++ "'"))
    keywordsOf func rest (done ++ [(name, v)])
  | (none, v) :: rest, done => do
    let h ← getHeap
    let entries? : Option (Array (Key × Value × Value)) :=
      match v with
      | .object a => h.entries? a
      | _ => none
    match entries? with
    | none =>
      throw (.typeError ((← lift (calledName h func)) ++
        " argument after ** must be a mapping, not " ++ h.typeName v))
    | some entries =>
      let named ← entries.toList.mapM fun e =>
        match e.2.1 with
        | .text s => pure (s, e.2.2)
        | _ => throw (.typeError "keywords must be strings")
      match named.find? fun k => done.any fun d => d.1 = k.1 with
      | some k =>
        throw (.typeError ((← lift (calledName h func)) ++
          " got multiple values for keyword argument '" ++ k.1 ++ "'"))
      | none => keywordsOf func rest (done ++ named)

/-- The entries of a dictionary display. -/
def displayEntries : List Bool → List Value → Array (Key × Value × Value) →
    Act (Array (Key × Value × Value))
  | true :: more, k :: v :: rest, acc => do
    let key ← lift ((← getHeap).key k)
    displayEntries more rest (storeEntry acc key k v)
  | false :: more, v :: rest, acc => do
    let h ← getHeap
    let entries? : Option (Array (Key × Value × Value)) :=
      match v with
      | .object a => h.entries? a
      | _ => none
    match entries? with
    | some entries => displayEntries more rest (storeAll acc entries)
    | none => throw (.typeError ("'" ++ h.typeName v ++ "' object is not a mapping"))
  | _, _, acc => return acc

/-- A replacement field: the text of a value in a format. -/
def fieldText (conversion : Option Char) (v : Value) (spec : String) : Act Value := do
  let v ←
    match conversion with
    | some 'r' => pure (.text (← heap (quotedOf v)))
    | some 's' => pure (.text (← heap (displayOf v)))
    | some 'a' => pure (.text (← heap (asciiOf v)))
    | _ => pure v
  return .text (← lift (Format.value (← getHeap) v spec))

/-- A function is made and decorated. -/
def defineFunction (code : Code) (decorators : Nat) (defaults : List String) (values : List Value) :
    Act Unit := do
  let s ← get
  let vars ← variablesAt s.scope
  let given := (values.drop decorators).take defaults.length
  let f ← heap (Op.alloc (.function
    { code, defaults := defaults.zip given, outer := scopesAround s.scope vars }))
  push (.decorate (values.take decorators).reverse code.name)
  answer f

/-- An exception is raised, perhaps with a cause. -/
def raiseValue (v : Value) (cause : Option Value) : Act Unit := do
  match ← exceptionOf? v with
  | none => throw (.typeError "exceptions must derive from BaseException")
  | some e =>
    match cause with
    | none | some .none => goto (.done (.raising e))
    | some c =>
      if (← exceptionOf? c).isNone then
        throw (.typeError "exception causes must derive from BaseException")
      goto (.done (.raising e))

/-- A value is waited for. -/
def await (v : Value) : Act Unit := do
  let h ← getHeap
  let refuse : Act Unit :=
    throw (.typeError ("object " ++ h.typeName v ++ " can't be used in 'await' expression"))
  match v with
  | .future call =>
    match (← get).settled.lookup call with
    | some found => outcome found
    | none => goto (.ask (.wait call))
  | .object a =>
    match h.get? a with
    | some (.coroutine _ _) => startCoroutine a
    | _ => refuse
  | _ => refuse

/-- Values are used once all of them are there. -/
def use (u : Use) (values : List Value) : Act Unit := do
  let h ← getHeap
  let first := values.headD .none
  let second := (values[1]?).getD .none
  match u with
  | .list => answer (← heap (Op.newList values))
  | .tuple => answer (.tuple values)
  | .set => answer (← heap (do Op.alloc (.set (← elementsOf values))))
  | .dict isPair => answer (← heap (Op.alloc (.dict (← displayEntries isPair values #[]))))
  | .slice lower upper step =>
    let at_ (present : Bool) (i : Nat) : Value := if present then (values[i]?).getD .none else .none
    let i := if lower then 1 else 0
    let j := if upper then i + 1 else i
    answer (.slice (at_ lower 0) (at_ upper i) (at_ step j))
  | .unary op => answer (← lift (Arithmetic.unary h op first))
  | .binary op => answer (← heap (binary op false first second))
  | .update op =>
    if isLazy h second then
      push (.items u [first] [])
      gather .all second
    else answer (← heap (update op first second))
  | .attribute name => answer (← lift (readAttribute (← get).setting h first name))
  | .subscript => answer (← heap (getItem first second))
  | .call keywords =>
    let args := values.drop 1
    let count := args.length - keywords.length
    let kws ← keywordsOf first (keywords.zip (args.drop count)) []
    goto (.call first (args.take count) kws)
  | .join =>
    answer (.text (String.join (values.map fun
      | .text s => s
      | _ => "")))
  | .field conversion =>
    answer (← fieldText conversion first (match second with | .text s => s | _ => ""))
  | .function code decorators defaults => defineFunction code decorators defaults values
  | .classOf => throw (.of "NameError" "__build_class__ not found")
  | .await => await first
  | .yield => handOut first
  | .yieldFrom =>
    let source ← heap (iterate first)
    push (.delegate source)
    goto (.next source)
  | .raise => raiseValue first values[1]?
  | .assert => throw ⟨"AssertionError", [first]⟩
  | .context isAsync =>
    throw (.typeError ("'" ++ h.typeName first ++ "' object does not support the " ++
      (if isAsync then "asynchronous " else "") ++ "context manager protocol"))
  | .ignore => answer .none

/-- More expressions are evaluated before the values are used; `done` holds the values so far,
last first. -/
def advance (u : Use) (done : List Value) : List Expr → Act Unit
  | [] => use u done.reverse
  | .starred _ e :: rest => evalThen e (.star u done rest)
  | e :: rest => evalThen e (.items u done rest)

/-- The expressions of a dictionary display in order. -/
def entryExprs : List DictEntry → List Expr
  | [] => []
  | .pair k v :: rest => k :: v :: entryExprs rest
  | .unpack v :: rest => v :: entryExprs rest

/-- Whether an entry is a pair. -/
def isPair : DictEntry → Bool
  | .pair _ _ => true
  | .unpack _ => false

/-- The name of an argument by keyword. -/
def keywordName : Keyword → Option String
  | .mk _ name _ => name

/-- The value of an argument by keyword. -/
def keywordValue : Keyword → Expr
  | .mk _ _ value => value

/-- The annotation of a parameter. -/
def hintOf : Param → Option Expr
  | .mk _ _ hint _ => hint

/-- A function definition: decorators, defaults and annotations come first. -/
def define (isAsync : Bool) (name : String) (params : Params) (body : Body)
    (decorators : List Expr) (returns : Option Expr) : Act Unit := do
  let vars ← variablesAt (← get).scope
  let code := codeOf vars isAsync name params body
  match params with
  | .mk positional plain rest named others =>
    let withDefaults := (positional ++ plain ++ named).filter fun p => p.fallback.isSome
    let annotated := positional ++ plain ++ rest.toList ++ named ++ others.toList
    advance (.function code decorators.length (withDefaults.map Param.name)) []
      (decorators ++ withDefaults.filterMap Param.fallback ++ annotated.filterMap hintOf ++
        returns.toList)

/-- A comprehension: its first source comes first. -/
def comprehend (element : Element) (clauses : List Clause) : Act Unit :=
  match clauses with
  | .mk _ _ iter _ :: _ => evalThen iter (.compStart element clauses)
  | [] => answer .none

/-- The first step of evaluating an expression. -/
def eval (e : Expr) : Act Unit :=
  match e with
  | .constant _ c => answer (constantValue c)
  | .name _ id => do answer (← readName id)
  | .attribute _ owner name => evalThen owner (.items (.attribute name) [] [])
  | .subscript _ owner index => advance .subscript [] [owner, index]
  | .slice _ lower upper step =>
    advance (.slice lower.isSome upper.isSome step.isSome) []
      (lower.toList ++ upper.toList ++ step.toList)
  | .starred _ inner => goto (.eval inner)
  | .list _ items => advance .list [] items
  | .tuple _ items => advance .tuple [] items
  | .set _ items => advance .set [] items
  | .dict _ entries => advance (.dict (entries.map isPair)) [] (entryExprs entries)
  | .unary _ op operand => advance (.unary op) [] [operand]
  | .binary _ left op right => advance (.binary op) [] [left, right]
  | .boolean _ conjunction operands =>
    match operands with
    | first :: rest => evalThen first (.boolean conjunction rest)
    | [] => answer .none
  | .compare _ left ops rights => evalThen left (.compareLeft ops rights)
  | .conditional _ test body orelse => evalThen test (.choose body orelse)
  | .call _ func args keywords =>
    advance (.call (keywords.map keywordName)) [] (func :: args ++ keywords.map keywordValue)
  | .lambda _ params body => define false "<lambda>" params (.expr body) [] none
  | .listComp _ element clauses => comprehend (.one .list element) clauses
  | .setComp _ element clauses => comprehend (.one .set element) clauses
  | .dictComp _ key value clauses => comprehend (.entry key value) clauses
  | .generator _ element clauses => comprehend (.one .generator element) clauses
  | .await _ value => advance .await [] [value]
  | .yield _ value => advance .yield [] [value.getD (.constant 0 .none)]
  | .yieldFrom _ value => advance .yieldFrom [] [value]
  | .named _ target value => evalThen value (.named target)
  | .formatted _ parts => advance .join [] parts
  | .replacement _ value conversion spec => advance (.field conversion) [] (value :: spec.toList)

/-- An annotation that is evaluated: those in functions are not. -/
def annotate (target hint : Expr) (value : Option Expr) : Act Unit := do
  let vars ← variablesAt (← get).scope
  let parts : List Expr :=
    match value, target with
    | none, .attribute _ owner _ => [owner]
    | none, .subscript _ owner index => [owner, index]
    | _, _ => []
  let after := parts ++ (if vars.isModule then [hint] else [])
  push (.hint (.tuple 0 after))
  match value with
  | some e => evalThen e (.assign [target])
  | none => finish

/-- An assignment in place. -/
def updateTarget (target : Expr) (op : BinaryOp) (value : Expr) : Act Unit :=
  match target with
  | .name _ _ => do
    push (.assign [target])
    advance (.update op) [] [target, value]
  | .attribute _ owner name => evalThen owner (.updateAttribute name op value)
  | .subscript _ owner index => evalThen owner (.updateOwner index op value)
  | _ => finish

/-- The exception that is being handled is raised again. -/
def reraise : Act Unit := do
  match (← get).handled with
  | some e => goto (.done (.raising e))
  | none => throw (.of "RuntimeError" "No active exception to reraise")

/-- The first step of running a statement. -/
def runStatement (s : Stmt) : Act Unit :=
  match s with
  | .expr _ value => evalThen value .drop
  | .assign _ targets value => evalThen value (.assign targets)
  | .update _ target op value => updateTarget target op value
  | .annotate _ target hint value _ => annotate target hint value
  | .delete _ targets => do
    push (.deleteRest targets)
    finish
  | .pass _ => finish
  | .break _ => goto (.done .breaking)
  | .continue _ => goto (.done .continuing)
  | .return _ (some value) => evalThen value .returns
  | .return _ none => goto (.done (.returning .none))
  | .raise _ exception cause =>
    match exception with
    | some e => advance .raise [] (e :: cause.toList)
    | none => reraise
  | .global _ _ => finish
  | .nonlocal _ _ => finish
  | .imports _ => throw (.of "ImportError" "__import__ not found")
  | .assert _ test message => evalThen test (.assertTest message)
  | .if _ test body orelse => evalThen test (.branch body orelse)
  | .while _ test body orelse => evalThen test (.whileTest test body orelse)
  | .for _ isAsync target iter body orelse => evalThen iter (.forStart isAsync target body orelse)
  | .with _ isAsync items _ =>
    match items with
    | ⟨context, _⟩ :: _ => advance (.context isAsync) [] [context]
    | [] => finish
  | .try _ _ body handlers orelse final => do
    if !final.isEmpty then push (.final final)
    push (.handlers handlers orelse)
    goto (.exec body)
  | .match _ subject cases => evalThen subject (.matchStart cases)
  | .function _ isAsync name params body decorators returns => do
    push (.assign [.name 0 name])
    define isAsync name params (.block body) decorators returns
  | .classDef _ _ _ _ _ decorators => advance .classOf [] decorators

/-- Statements are run one by one. -/
def exec (block : List Stmt) : Act Unit :=
  match block with
  | [] => finish
  | [s] => runStatement s
  | s :: rest => do
    push (.block rest)
    runStatement s

end ChartScript.Script.Machine
