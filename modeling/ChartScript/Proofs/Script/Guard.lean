import ChartScript.Proofs.Script.Naming
import ChartScript.Script.Program
/-!
# What the guard lets pass

The guard accepts a script exactly when no node that occurs in it, however deep, is an import,
a reserved name or text that is written as an expression, or a forbidden attribute of a value.
It does not look at the names that definitions, parameters, handlers, patterns and
declarations bind, nor at the attributes that a pattern compares. A reserved name that an
accepted script binds is one of those.
-/

namespace ChartScript.Script

open Scope (Event)

namespace Node

/-- Whether the guard refuses a node, whatever its parts are. -/
def Offends : Node → Prop
  | .stmt (.imports _) => True
  | .expr (.constant _ (.text s)) => isReserved s = true
  | .expr (.name _ id) => isReserved id = true
  | .expr (.attribute _ _ attr) => isForbiddenAttribute attr = true
  | _ => False

/-- The attributes that a node compares without writing them as expressions. -/
def members : Node → List String
  | .pattern (.instance _ _ names _) => names
  | _ => []

/-- Whether a node binds a reserved name or compares a forbidden attribute where the guard does
not look. -/
def Evades (n : Node) : Prop :=
  (∃ id ∈ n.bindings, isReserved id = true) ∨ ∃ attr ∈ n.members, isForbiddenAttribute attr = true

/-- What binds a name that may be there is no offence. -/
theorem offence?_of_mem_ofName {name : Option String} {m : Mention} (h : m ∈ Mentions.ofName name) :
    m.offence? = none := by
  cases name with
  | none => cases h
  | some id =>
    rw [List.mem_singleton.mp h]
    rfl

/-- A node offends when something that it writes does. -/
theorem offends_iff (n : Node) : n.Offends ↔ ∃ m ∈ n.own, m.offence? ≠ none := by
  have hname : ∀ name : Option String, ¬∃ m ∈ Mentions.ofName name, m.offence? ≠ none := by
    rintro name ⟨m, hm, ho⟩
    exact ho (offence?_of_mem_ofName hm)
  cases n with
  | expr e =>
    cases e with
    | constant line value => cases value <;> simp [Offends, own, Mentions.ofConstant, Mention.offence?]
    | _ => simp [Offends, own, Mention.offence?]
  | pattern p =>
    cases p with
    | capture line name => simpa [Offends, own] using hname name
    | star line name => simpa [Offends, own] using hname name
    | mapping line keys items rest => simpa [Offends, own] using hname rest
    | _ => simp [Offends, own, Mention.offence?]
  | stmt s => cases s <;> simp [Offends, own, Mention.offence?]
  | param p =>
    obtain ⟨line, name, hint, fallback⟩ := p
    simp [Offends, own, Mention.offence?]
  | handler h =>
    obtain ⟨line, type, name, body⟩ := h
    simpa [Offends, own] using hname name
  | _ => simp [Offends, own]

/-- A node whose names do not offend binds them without writing them as expressions. -/
theorem mem_bindings_of_reserved {n : Node} {id : String} (h : id ∈ n.names)
    (hn : ¬n.Offends) (hid : isReserved id = true) : id ∈ n.bindings := by
  cases n with
  | expr e =>
    cases e with
    | name line written =>
      rw [List.mem_singleton.mp h] at hid
      exact absurd hid hn
    | _ => exact h
  | _ => exact h

end Node

section Guard

variable {script : List Stmt}

/-- The guard accepts a script exactly when no node that occurs in it offends. -/
theorem offence?_eq_none_iff :
    offence? script = none ↔ ∀ n : Node, n.OccursIn script → ¬n.Offends := by
  unfold offence?
  rw [List.findSome?_eq_none_iff]
  constructor
  · intro h n hn ho
    obtain ⟨m, hm, hoffence⟩ := (n.offends_iff).mp ho
    exact hoffence (h m ((mem_ofBlock_iff script m).mpr ⟨n, hn, hm⟩))
  · intro h m hm
    obtain ⟨n, hn, hown⟩ := (mem_ofBlock_iff script m).mp hm
    cases ho : m.offence? with
    | none => rfl
    | some o =>
      have hoffence : m.offence? ≠ none := by
        rw [ho]
        exact Option.some_ne_none o
      exact absurd ((n.offends_iff).mpr ⟨m, hown, hoffence⟩) (h n hn)

/-- A script that is refused is refused for something that a node writes that occurs in it. -/
theorem exists_of_offence? {o : Offence} (h : offence? script = some o) :
    ∃ n : Node, n.OccursIn script ∧ n.Offends ∧ ∃ m ∈ n.own, m.offence? = some o := by
  obtain ⟨m, hm, ho⟩ := List.exists_of_findSome?_eq_some h
  obtain ⟨n, hn, hown⟩ := (mem_ofBlock_iff script m).mp hm
  refine ⟨n, hn, (n.offends_iff).mpr ⟨m, hown, ?_⟩, m, hown, ho⟩
  rw [ho]
  exact Option.some_ne_none o

/-- What the guard guarantees of a script. -/
structure Guarded (script : List Stmt) : Prop where
  /-- It accepts the script exactly when no node is an import, a reserved name or text that is
  written as an expression, or a forbidden attribute of a value. -/
  accepts_iff : offence? script = none ↔ ∀ n : Node, n.OccursIn script → ¬n.Offends
  /-- It refuses a script for something that a node writes that occurs in it. -/
  refuses : ∀ o, offence? script = some o →
    ∃ n : Node, n.OccursIn script ∧ n.Offends ∧ ∃ m ∈ n.own, m.offence? = some o
  /-- Nothing prohibited stands anywhere, in a name that is bound or an attribute that is compared
  either, exactly when it accepts the script and no node evades it. -/
  clean_iff : (∀ n : Node, n.OccursIn script → ¬n.Offends ∧ ¬n.Evades) ↔
    offence? script = none ∧ ∀ n : Node, n.OccursIn script → ¬n.Evades
  /-- A reserved name that the code of an accepted script does something to is bound by a node
  that evades it. -/
  binds : offence? script = none → ∀ e ∈ Scope.ofBlock script, ∀ id, e.id? = some id →
    isReserved id = true → ∃ n : Node, n.OccursIn script ∧ id ∈ n.bindings ∧ n.Evades
  /-- The code of a script that it accepts and no node of which evades it does nothing to a reserved
  name. -/
  spares : offence? script = none → (∀ n : Node, n.OccursIn script → ¬n.Evades) →
    ∀ e ∈ Scope.ofBlock script, ∀ id, e.id? = some id → isReserved id = false

/-- A reserved name that the code of an accepted script does something to is bound by a node. -/
theorem exists_bindings_of_event (h : offence? script = none) {e : Event} {id : String}
    (he : e ∈ Scope.ofBlock script) (hid : e.id? = some id) (hreserved : isReserved id = true) :
    ∃ n : Node, n.OccursIn script ∧ id ∈ n.bindings ∧ n.Evades := by
  obtain ⟨n, hn, hnames⟩ := exists_occursIn_of_event he hid
  have hbound := Node.mem_bindings_of_reserved hnames (offence?_eq_none_iff.mp h n hn) hreserved
  exact ⟨n, hn, hbound, .inl ⟨id, hbound, hreserved⟩⟩

/-- The guard guarantees this of every script. -/
theorem guarded (script : List Stmt) : Guarded script where
  accepts_iff := offence?_eq_none_iff
  refuses _ h := exists_of_offence? h
  clean_iff := by
    rw [offence?_eq_none_iff]
    exact ⟨fun h => ⟨fun n hn => (h n hn).1, fun n hn => (h n hn).2⟩,
      fun h n hn => ⟨h.1 n hn, h.2 n hn⟩⟩
  binds h _ he _ hid hreserved := exists_bindings_of_event h he hid hreserved
  spares h hclean e he id hid := by
    refine Bool.eq_false_iff.mpr fun hreserved => ?_
    obtain ⟨n, hn, -, hevades⟩ := exists_bindings_of_event h he hid hreserved
    exact hclean n hn hevades

end Guard

/-- The definition of a function under the name of what is provided to every script. -/
def shadowing : List Stmt := [.function 1 false "__builtins__" .none [.pass 2] [] none]

/-- The names that a module has at a state. -/
def moduleNames (s : State) : List String :=
  match s.heap.get? moduleScope with
  | some (.variables vars) => vars.vars.map Prod.fst
  | _ => []

/-- The definition is accepted, and its module has the reserved name when its body has run. -/
theorem guarded_shadowing :
    Guarded shadowing ∧ offence? shadowing = none ∧ Scope.check shadowing = none ∧
      (run 50 (start shadowing .direct ⟨"S", "1d"⟩)).map (fun r => moduleNames r.2) =
        some ["math", "sleep", "array", "__builtins__"] :=
  ⟨guarded shadowing, by decide, by decide, by rfl⟩

end ChartScript.Script
