import ChartScript.Script.Machine.Names
/-!
# Going through elements

How a source comes to its next element, how elements are gathered, and how generators
and coroutines start, hand out values and go on.
-/

namespace ChartScript.Script.Machine

open Act

/-- Whether going through a value runs something. -/
def isLazy (h : Heap) : Value → Bool
  | .object a =>
    match h.get? a with
    | some (.source _ _) => true
    | some (.generator _ false _) => true
    | _ => false
  | _ => false

/-- The elements of a source are gathered. -/
def gather (how : Gathering) (source : Value) : Act Unit := do
  push (.gather how [] source)
  goto (.next source)

/-- The state of a generator or coroutine changes. -/
def setActivity (a : Address) (activity : Activity) : Act Unit := do
  match (← getHeap).get? a with
  | some (.generator name isAsync _) => heap (Op.put a (.generator name isAsync activity))
  | some (.coroutine name _) => heap (Op.put a (.coroutine name activity))
  | _ => return ()

/-- The body of a function is run. -/
def runBody (body : Body) : Act Unit :=
  match body with
  | .block statements => goto (.exec statements)
  | .expr e => goto (.eval e)

/-- A generator goes on with a value that is sent to it or an exception that is raised in it. -/
def resumeGenerator (a : Address) (sent : Except Value Value) : Act Unit := do
  let s ← get
  match s.heap.get? a with
  | some (.generator _ _ activity) =>
    let run (scope : Address) : Act Unit := do
      enter
      setActivity a .running
      push (.generator a s.scope s.handled)
      modify fun s => { s with scope }
    match activity, sent with
    | .running, _ => throw (.valueError "generator already executing")
    | .finished, .ok _ => goto (.exhausted .none)
    | .finished, .error e => goto (.done (.raising e))
    | .suspended frames scope handled, _ =>
      run scope
      modify fun s => { s with frames := frames ++ s.frames, handled := handled.or s.handled }
      goto (match sent with | .ok v => .value v | .error e => .done (.raising e))
    | _, .error e =>
      setActivity a .finished
      goto (.done (.raising e))
    | .fresh code scope, .ok _ =>
      run scope
      runBody code.body
    | .comprehension element clause rest source scope, .ok _ =>
      run scope
      push (.compNext element clause rest .none source)
      goto (.next source)
    | .sleep _ _, _ => goto (.exhausted .none)
  | _ => goto (.exhausted .none)

/-- The suspended work of the innermost generator, and the frame of that generator with what
lies behind it. -/
def splitGenerator : List Frame → List Frame × List Frame
  | [] => ([], [])
  | .generator a scope handled :: rest => ([], .generator a scope handled :: rest)
  | f :: rest => (f :: (splitGenerator rest).1, (splitGenerator rest).2)

/-- A generator hands out a value. -/
def handOut (v : Value) : Act Unit := do
  let s ← get
  match splitGenerator s.frames with
  | (inner, .generator a scope handled :: rest) =>
    setActivity a (.suspended inner s.scope s.handled)
    modify fun s => { s with frames := rest }
    leave scope handled
    goto (.item v)
  | _ => throw (.of "RuntimeError" "'yield' outside function")

/-- A coroutine is waited for. -/
def startCoroutine (a : Address) : Act Unit := do
  let s ← get
  match s.heap.get? a with
  | some (.coroutine _ activity) =>
    match activity with
    | .fresh code scope =>
      enter
      setActivity a .running
      push (.coroutine a s.scope s.handled)
      modify fun s => { s with scope }
      runBody code.body
    | .sleep delay result =>
      let ends ← lift (s.heap.compares .atMost delay (.int 0))
      setActivity a .finished
      let seconds : Float :=
        match numberOf? delay with
        | some (.float x) => x
        | some (.int i) => ChartScript.Number.ofInt i
        | none => 0
      push (.sleeping result)
      goto (.ask (.sleep (if ends then 0 else seconds)))
    | .running => throw (.of "RuntimeError" "coroutine is being awaited already")
    | _ => throw (.of "RuntimeError" "cannot reuse already awaited coroutine")
  | _ => throw (.of "RuntimeError" "cannot reuse already awaited coroutine")

/-- The source at an address changes. -/
def setSource (a : Address) (type : String) (source : Source) : Act Unit :=
  heap (Op.put a (.source type source))

/-- The size of a container that is gone through. -/
def currentSize (h : Heap) (a : Address) : Nat :=
  match h.get? a with
  | some (.dict entries) => entries.size
  | some (.set items) => items.size
  | _ => 0

/-- A source is asked for its next element. -/
def next (source : Value) : Act Unit := do
  let h ← getHeap
  match source with
  | .object a =>
    match h.get? a with
    | some (.generator _ _ _) => resumeGenerator a (.ok .none)
    | some (.source type s) =>
      let ended : Act Unit := do
        setSource a type (.items [])
        goto (.exhausted .none)
      match s with
      | .items [] => goto (.exhausted .none)
      | .items (v :: rest) =>
        setSource a type (.items rest)
        goto (.item v)
      | .list list position =>
        match h.get? list with
        | some (.list items) =>
          match items[position]? with
          | some v =>
            setSource a type (.list list (position + 1))
            goto (.item v)
          | none => ended
        | _ => ended
      | .listBackward _ 0 => ended
      | .listBackward list (position + 1) =>
        match h.get? list with
        | some (.list items) =>
          match items[position]? with
          | some v =>
            setSource a type (.listBackward list position)
            goto (.item v)
          | none => ended
        | _ => ended
      | .counter _ _ 0 => goto (.exhausted .none)
      | .counter i step (count + 1) =>
        setSource a type (.counter (i + step) step count)
        goto (.item (.int i))
      | .sized container size rest =>
        if currentSize h container != size then
          setSource a type (.items [])
          throw (.of "RuntimeError" ((if type = "set_iterator" then "Set" else "dictionary") ++
            " changed size during iteration"))
        match rest with
        | [] => ended
        | v :: rest =>
          setSource a type (.sized container size rest)
          goto (.item v)
      | .enumerate inner _ =>
        push (.numbered a)
        goto (.next inner)
      | .zip [] _ => goto (.exhausted .none)
      | .zip (first :: rest) _ =>
        push (.paired a [] rest)
        goto (.next first)
      | .map _ [] => goto (.exhausted .none)
      | .map _ (first :: rest) =>
        push (.mapped a [] rest)
        goto (.next first)
      | .filter _ inner =>
        push (.filtered a)
        goto (.next inner)
    | _ => goto (.exhausted .none)
  | _ => goto (.exhausted .none)

/-- Arguments of `zip` in prose, from the first one. -/
def firstArguments (count : Nat) : String :=
  if count = 1 then "argument 1" else "arguments 1-" ++ toString count

/-- One element more or less than in another source. -/
def unequal (index : Nat) (word : String) (others : Nat) : Raised :=
  .valueError ("zip() argument " ++ toString index ++ " is " ++ word ++ " than " ++
    firstArguments others)

/-- An element comes to work that waits for one; nothing if the work waits for none. -/
def item? (f : Frame) (v : Value) : Option (Act Unit) :=
  match f with
  | .gather how done source =>
    some do
      let h ← getHeap
      let more : Act Unit := do
        push (.gather how (v :: done) source)
        goto (.next source)
      match how with
      | .all => more
      | .upTo limit =>
        if limit ≤ done.length + 1 then answer (.tuple (v :: done).reverse) else more
      | .anyTrue => if h.truthy v then answer (.bool true) else more
      | .allTrue => if h.truthy v then more else answer (.bool false)
      | .contains x negated =>
        if Heap.same v x then answer (.bool (!negated))
        else if ← lift (h.equals v x) then answer (.bool (!negated))
        else more
  | .numbered a =>
    some do
      match (← getHeap).get? a with
      | some (.source type (.enumerate inner n)) =>
        setSource a type (.enumerate inner (n + 1))
        goto (.item (.tuple [.int n, v]))
      | _ => goto (.exhausted .none)
  | .paired a done todo =>
    some do
      match todo with
      | [] => goto (.item (.tuple (v :: done).reverse))
      | source :: rest =>
        push (.paired a (v :: done) rest)
        goto (.next source)
  | .longer index _ => some (throw (unequal (index + 1) "longer" index))
  | .mapped a done todo =>
    some do
      match todo with
      | [] =>
        match (← getHeap).get? a with
        | some (.source _ (.map func _)) =>
          push .mapResult
          goto (.call func (v :: done).reverse [])
        | _ => goto (.exhausted .none)
      | source :: rest =>
        push (.mapped a (v :: done) rest)
        goto (.next source)
  | .filtered a =>
    some do
      match (← getHeap).get? a with
      | some (.source _ (.filter func inner)) =>
        match func with
        | .none =>
          if (← getHeap).truthy v then goto (.item v)
          else
            push (.filtered a)
            goto (.next inner)
        | _ =>
          push (.filterTest a v)
          goto (.call func [v] [])
      | _ => goto (.exhausted .none)
  | .delegate source =>
    some do
      push (.delegate source)
      handOut v
  | .sent => some (answer v)
  | .closing => some (throw (.of "RuntimeError" "generator ignored GeneratorExit"))
  | _ => none

/-- A source has ended for work that waits for its next element. -/
def exhausted? (f : Frame) (result : Value) : Option (Act Unit) :=
  match f with
  | .gather how done _ =>
    some (answer (
      match how with
      | .all | .upTo _ => .tuple done.reverse
      | .anyTrue => .bool false
      | .allTrue => .bool true
      | .contains _ negated => .bool negated))
  | .numbered _ => some (goto (.exhausted .none))
  | .paired a done todo =>
    some do
      match (← getHeap).get? a with
      | some (.source _ (.zip _ true)) =>
        match done, todo with
        | [], second :: rest =>
          push (.longer 1 rest)
          goto (.next second)
        | [], [] => goto (.exhausted .none)
        | _, _ => throw (unequal (done.length + 1) "shorter" done.length)
      | _ => goto (.exhausted .none)
  | .longer index todo =>
    some do
      match todo with
      | [] => goto (.exhausted .none)
      | source :: rest =>
        push (.longer (index + 1) rest)
        goto (.next source)
  | .mapped _ _ _ => some (goto (.exhausted .none))
  | .filtered _ => some (goto (.exhausted .none))
  | .delegate _ => some (answer result)
  | .sent =>
    some (throw ⟨"StopIteration", match result with | .none => [] | v => [v]⟩)
  | .closing => some (answer .none)
  | _ => none

end ChartScript.Script.Machine
