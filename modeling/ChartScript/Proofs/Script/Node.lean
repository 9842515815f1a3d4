import ChartScript.Script.Guard
/-!
# The nodes of a script

Every part of a tree as a node of one kind: expressions, statements and the parts of them that
stand on their own. A node has parts, which are smaller, so that what holds of a node whenever
it holds of its parts holds of every node. A node lies within another one when it is reached
from it over parts. What a node mentions is what the nodes within it write themselves.
-/

namespace ChartScript.Script

/-- A part of a tree. -/
inductive Node where
  /-- An expression. -/
  | expr (e : Expr)
  /-- An entry of a dictionary display. -/
  | entry (e : DictEntry)
  /-- An argument by keyword. -/
  | keyword (k : Keyword)
  /-- A clause of a comprehension. -/
  | clause (c : Clause)
  /-- A parameter. -/
  | param (p : Param)
  /-- A pattern. -/
  | pattern (p : Pattern)
  /-- An item of a with statement. -/
  | item (i : WithItem)
  /-- A statement. -/
  | stmt (s : Stmt)
  /-- A handler. -/
  | handler (h : Handler)
  /-- A case of a match statement. -/
  | case (c : MatchCase)

/-- The expressions of an optional one. -/
def optional (e : Option Expr) : List Node := e.toList.map .expr

/-- A parameter that takes the rest of the arguments, which has no default. -/
def Param.taking : Param → Param
  | .mk line name hint _ => .mk line name hint none

/-- All parameters of a function. -/
def Params.all : Params → List Param
  | .mk positional plain rest named others =>
    positional ++ plain ++ (rest.map Param.taking).toList ++ named ++ (others.map Param.taking).toList

/-- The parts of an expression. -/
def Expr.parts : Expr → List Node
  | .constant _ _ => []
  | .name _ _ => []
  | .attribute _ value _ => [.expr value]
  | .subscript _ value index => [.expr value, .expr index]
  | .slice _ lower upper step => optional lower ++ optional upper ++ optional step
  | .starred _ value => [.expr value]
  | .list _ items => items.map .expr
  | .tuple _ items => items.map .expr
  | .set _ items => items.map .expr
  | .dict _ entries => entries.map .entry
  | .unary _ _ operand => [.expr operand]
  | .binary _ left _ right => [.expr left, .expr right]
  | .boolean _ _ operands => operands.map .expr
  | .compare _ left _ rights => .expr left :: rights.map .expr
  | .conditional _ test body orelse => [.expr test, .expr body, .expr orelse]
  | .call _ func args keywords => .expr func :: args.map .expr ++ keywords.map .keyword
  | .lambda _ params body => params.all.map .param ++ [.expr body]
  | .listComp _ element clauses => .expr element :: clauses.map .clause
  | .setComp _ element clauses => .expr element :: clauses.map .clause
  | .dictComp _ key value clauses => .expr key :: .expr value :: clauses.map .clause
  | .generator _ element clauses => .expr element :: clauses.map .clause
  | .await _ value => [.expr value]
  | .yield _ value => optional value
  | .yieldFrom _ value => [.expr value]
  | .named _ target value => [.expr target, .expr value]
  | .formatted _ parts => parts.map .expr
  | .replacement _ value _ spec => .expr value :: optional spec

/-- The parts of a pattern. -/
def Pattern.parts : Pattern → List Node
  | .value e => [.expr e]
  | .constant _ _ => []
  | .capture _ _ => []
  | .sequence _ items => items.map .pattern
  | .star _ _ => []
  | .mapping _ keys items _ => keys.map .expr ++ items.map .pattern
  | .instance cls items _ named => .expr cls :: items.map .pattern ++ named.map .pattern
  | .as _ pattern _ => [.pattern pattern]
  | .or _ options => options.map .pattern

/-- The parts of a statement. -/
def Stmt.parts : Stmt → List Node
  | .expr _ value => [.expr value]
  | .assign _ targets value => targets.map .expr ++ [.expr value]
  | .update _ target _ value => [.expr target, .expr value]
  | .annotate _ target hint value _ => .expr target :: .expr hint :: optional value
  | .delete _ targets => targets.map .expr
  | .pass _ => []
  | .break _ => []
  | .continue _ => []
  | .return _ value => optional value
  | .raise _ exception cause => optional exception ++ optional cause
  | .global _ _ => []
  | .nonlocal _ _ => []
  | .imports _ => []
  | .assert _ test message => .expr test :: optional message
  | .if _ test body orelse => .expr test :: body.map .stmt ++ orelse.map .stmt
  | .while _ test body orelse => .expr test :: body.map .stmt ++ orelse.map .stmt
  | .for _ _ target iter body orelse =>
    .expr target :: .expr iter :: body.map .stmt ++ orelse.map .stmt
  | .with _ _ items body => items.map .item ++ body.map .stmt
  | .try _ _ body handlers orelse final =>
    body.map .stmt ++ handlers.map .handler ++ orelse.map .stmt ++ final.map .stmt
  | .match _ subject cases => .expr subject :: cases.map .case
  | .function _ _ _ params body decorators returns =>
    params.all.map .param ++ body.map .stmt ++ decorators.map .expr ++ optional returns
  | .classDef _ _ bases keywords body decorators =>
    bases.map .expr ++ keywords.map .keyword ++ body.map .stmt ++ decorators.map .expr

namespace Node

/-- The parts of a node. -/
def parts : Node → List Node
  | .expr e => e.parts
  | .entry (.pair key value) => [.expr key, .expr value]
  | .entry (.unpack value) => [.expr value]
  | .keyword (.mk _ _ value) => [.expr value]
  | .clause (.mk _ target iter conditions) => .expr target :: .expr iter :: conditions.map .expr
  | .param (.mk _ _ hint fallback) => optional hint ++ optional fallback
  | .pattern p => p.parts
  | .item i => .expr i.context :: optional i.target
  | .stmt s => s.parts
  | .handler (.mk _ type _ body) => optional type ++ body.map .stmt
  | .case (.mk _ form guard body) => .pattern form :: optional guard ++ body.map .stmt

/-- What a node mentions. -/
def mentions : Node → List Mention
  | .expr e => Mentions.ofExpr e
  | .entry e => Mentions.ofKeys [e] ++ Mentions.ofValues [e]
  | .keyword k => Mentions.ofKeywords [k]
  | .clause c => Mentions.ofClauses [c]
  | .param p => Mentions.ofHints [p] ++ Mentions.ofDefaults [p]
  | .pattern p => Mentions.ofPattern p
  | .item i => Mentions.ofItems [i]
  | .stmt s => Mentions.ofStmt s
  | .handler h => Mentions.ofHandlers [h]
  | .case c => Mentions.ofCases [c]

/-- What a node writes itself, whatever its parts are. -/
def own : Node → List Mention
  | .expr (.constant line c) => Mentions.ofConstant line c
  | .expr (.name line id) => [.name line id]
  | .expr (.attribute line _ attr) => [.attribute line attr]
  | .param (.mk _ name _ _) => [.bound name]
  | .pattern (.capture _ name) => Mentions.ofName name
  | .pattern (.star _ name) => Mentions.ofName name
  | .pattern (.mapping _ _ _ rest) => Mentions.ofName rest
  | .pattern (.instance _ _ names _) => names.map .member
  | .pattern (.as _ _ name) => [.bound name]
  | .stmt (.global _ names) => names.map .bound
  | .stmt (.nonlocal _ names) => names.map .bound
  | .stmt (.imports line) => [.imports line]
  | .stmt (.function _ _ name _ _ _ _) => [.bound name]
  | .stmt (.classDef _ name _ _ _ _) => [.bound name]
  | .handler (.mk _ _ name _) => Mentions.ofName name
  | _ => []

section Size

/-- A part among several parts of a kind is at most as big as all of them. -/
theorem sizeOf_le_of_mem_map {α : Type} [SizeOf α] {f : α → Node} {xs : List α} {c : Node}
    (hf : ∀ x, sizeOf (f x) = 1 + sizeOf x) (h : c ∈ xs.map f) : sizeOf c ≤ sizeOf xs := by
  obtain ⟨x, hx, rfl⟩ := List.mem_map.mp h
  have hlt := List.sizeOf_lt_of_mem hx
  rw [hf]
  omega

/-- An optional part is at most as big as the option. -/
theorem sizeOf_le_of_mem_optional {e : Option Expr} {c : Node} (h : c ∈ optional e) :
    sizeOf c ≤ sizeOf e := by
  cases e with
  | none => cases h
  | some e =>
    rw [List.mem_singleton.mp h]
    simp

/-- A parameter is at most as big as all parameters. -/
theorem sizeOf_le_of_mem_all {params : Params} {c : Node} (h : c ∈ params.all.map .param) :
    sizeOf c ≤ sizeOf params := by
  obtain ⟨positional, plain, rest, named, others⟩ := params
  have hlist : ∀ ps : List Param, c ∈ ps.map .param → sizeOf c ≤ sizeOf ps := fun ps =>
    sizeOf_le_of_mem_map fun _ => rfl
  have hoption : ∀ p : Option Param, c ∈ (p.map Param.taking).toList.map .param →
      sizeOf c ≤ sizeOf p := by
    intro p hc
    cases p with
    | none => cases hc
    | some p =>
      obtain ⟨line, name, hint, fallback⟩ := p
      have hleast : 1 ≤ sizeOf fallback := by cases fallback <;> simp
      rw [List.mem_singleton.mp hc]
      simpa [Param.taking] using hleast
  unfold Params.all at h
  simp only [List.map_append, List.mem_append] at h
  rw [Params.mk.sizeOf_spec]
  rcases h with (((h | h) | h) | h) | h
  · have := hlist _ h
    omega
  · have := hlist _ h
    omega
  · have := hoption _ h
    omega
  · have := hlist _ h
    omega
  · have := hoption _ h
    omega

/-- A part of a node is smaller than the node. -/
theorem sizeOf_lt_of_mem_parts {c n : Node} (h : c ∈ n.parts) : sizeOf c < sizeOf n := by
  have hexprs : ∀ es : List Expr, c ∈ es.map .expr → sizeOf c ≤ sizeOf es := fun es =>
    sizeOf_le_of_mem_map fun _ => rfl
  have hentries : ∀ es : List DictEntry, c ∈ es.map .entry → sizeOf c ≤ sizeOf es := fun es =>
    sizeOf_le_of_mem_map fun _ => rfl
  have hkeywords : ∀ ks : List Keyword, c ∈ ks.map .keyword → sizeOf c ≤ sizeOf ks := fun ks =>
    sizeOf_le_of_mem_map fun _ => rfl
  have hclauses : ∀ cs : List Clause, c ∈ cs.map .clause → sizeOf c ≤ sizeOf cs := fun cs =>
    sizeOf_le_of_mem_map fun _ => rfl
  have hpatterns : ∀ ps : List Pattern, c ∈ ps.map .pattern → sizeOf c ≤ sizeOf ps := fun ps =>
    sizeOf_le_of_mem_map fun _ => rfl
  have hitems : ∀ is : List WithItem, c ∈ is.map .item → sizeOf c ≤ sizeOf is := fun is =>
    sizeOf_le_of_mem_map fun _ => rfl
  have hstmts : ∀ ss : List Stmt, c ∈ ss.map .stmt → sizeOf c ≤ sizeOf ss := fun ss =>
    sizeOf_le_of_mem_map fun _ => rfl
  have hhandlers : ∀ hs : List Handler, c ∈ hs.map .handler → sizeOf c ≤ sizeOf hs := fun hs =>
    sizeOf_le_of_mem_map fun _ => rfl
  have hcases : ∀ cs : List MatchCase, c ∈ cs.map .case → sizeOf c ≤ sizeOf cs := fun cs =>
    sizeOf_le_of_mem_map fun _ => rfl
  have hoptional : ∀ o : Option Expr, c ∈ optional o → sizeOf c ≤ sizeOf o := fun _ =>
    sizeOf_le_of_mem_optional
  have hparams : ∀ ps : Params, c ∈ ps.all.map .param → sizeOf c ≤ sizeOf ps := fun _ =>
    sizeOf_le_of_mem_all
  cases n with
  | expr e =>
    cases e <;> simp only [parts, Expr.parts, List.mem_append, List.mem_cons, List.not_mem_nil] at h <;>
      grind
  | pattern p =>
    cases p <;> simp only [parts, Pattern.parts, List.mem_append, List.mem_cons, List.not_mem_nil] at h <;>
      grind
  | stmt s =>
    cases s <;> simp only [parts, Stmt.parts, List.mem_append, List.mem_cons, List.not_mem_nil] at h <;>
      grind
  | entry e => cases e <;> simp only [parts, List.mem_cons, List.not_mem_nil] at h <;> grind
  | keyword k =>
    obtain ⟨line, name, value⟩ := k
    simp only [parts, List.mem_cons, List.not_mem_nil] at h
    grind
  | clause k =>
    obtain ⟨isAsync, target, iter, conditions⟩ := k
    simp only [parts, List.mem_cons] at h
    grind
  | param p =>
    obtain ⟨line, name, hint, fallback⟩ := p
    simp only [parts, List.mem_append] at h
    grind
  | item i =>
    obtain ⟨context, target⟩ := i
    simp only [parts, List.mem_cons] at h
    grind
  | handler k =>
    obtain ⟨line, type, name, body⟩ := k
    simp only [parts, List.mem_append] at h
    grind
  | case k =>
    obtain ⟨line, form, guard, body⟩ := k
    simp only [parts, List.mem_append, List.mem_cons] at h
    grind

/-- What holds of a node whenever it holds of its parts holds of every node. -/
theorem induction_parts {P : Node → Prop} (h : ∀ n, (∀ c ∈ n.parts, P c) → P n) (n : Node) : P n :=
  (measure (sizeOf : Node → Nat)).wf.induction n fun m ih => h m fun _ hc => ih _ (sizeOf_lt_of_mem_parts hc)

end Size

/-- Whether a node is another one or lies within it. -/
inductive Within (n : Node) : Node → Prop where
  /-- It is the node itself. -/
  | self : Within n n
  /-- It lies within a part. -/
  | part {c m : Node} (hc : c ∈ m.parts) (h : Within n c) : Within n m

section Mentions

open Mentions

/-- What several nodes mention. -/
def among (nodes : List Node) : List Mention := nodes.flatMap mentions

/-- What several nodes mention is mentioned by one of them. -/
theorem mem_among {nodes : List Node} {m : Mention} :
    m ∈ among nodes ↔ ∃ n ∈ nodes, m ∈ n.mentions := List.mem_flatMap

/-- No nodes mention nothing. -/
@[simp] theorem among_nil : among [] = [] := rfl

/-- The first of several nodes. -/
@[simp] theorem among_cons (n : Node) (rest : List Node) :
    among (n :: rest) = n.mentions ++ among rest := List.flatMap_cons

/-- Nodes in two parts. -/
@[simp] theorem among_append (xs ys : List Node) : among (xs ++ ys) = among xs ++ among ys :=
  List.flatMap_append

/-- What several expressions mention. -/
theorem ofExprs_eq (es : List Expr) : ofExprs es = among (es.map .expr) := by
  induction es with
  | nil => rfl
  | cons e rest ih => rw [ofExprs, ih]; rfl

/-- What an optional expression mentions. -/
theorem ofOption_eq (e : Option Expr) : ofOption e = among (optional e) := by
  cases e with
  | none => rfl
  | some e => exact (List.append_nil _).symm

/-- What arguments by keyword mention. -/
theorem ofKeywords_eq (ks : List Keyword) : ofKeywords ks = among (ks.map .keyword) := by
  induction ks with
  | nil => rfl
  | cons k rest ih =>
    obtain ⟨line, name, value⟩ := k
    rw [ofKeywords, ih, List.map_cons, among_cons]
    simp [mentions, ofKeywords]

/-- What the clauses of a comprehension mention. -/
theorem ofClauses_eq (cs : List Clause) : ofClauses cs = among (cs.map .clause) := by
  induction cs with
  | nil => rfl
  | cons c rest ih =>
    obtain ⟨isAsync, target, iter, conditions⟩ := c
    rw [ofClauses, ih, List.map_cons, among_cons]
    simp [mentions, ofClauses]

/-- What several patterns mention. -/
theorem ofPatterns_eq (ps : List Pattern) : ofPatterns ps = among (ps.map .pattern) := by
  induction ps with
  | nil => rfl
  | cons p rest ih => rw [ofPatterns, ih]; rfl

/-- What the items of a with statement mention. -/
theorem ofItems_eq (is : List WithItem) : ofItems is = among (is.map .item) := by
  unfold ofItems among
  rw [List.flatMap_map]
  refine congrArg (is.flatMap ·) (funext fun i => ?_)
  simp [mentions, ofItems]

/-- What a block mentions. -/
theorem ofBlock_eq (ss : List Stmt) : ofBlock ss = among (ss.map .stmt) := by
  induction ss with
  | nil => rfl
  | cons s rest ih => rw [ofBlock, ih]; rfl

/-- What handlers mention. -/
theorem ofHandlers_eq (hs : List Handler) : ofHandlers hs = among (hs.map .handler) := by
  induction hs with
  | nil => rfl
  | cons h rest ih =>
    obtain ⟨line, type, name, body⟩ := h
    rw [ofHandlers, ih, List.map_cons, among_cons]
    simp [mentions, ofHandlers]

/-- What the cases of a match statement mention. -/
theorem ofCases_eq (cs : List MatchCase) : ofCases cs = among (cs.map .case) := by
  induction cs with
  | nil => rfl
  | cons c rest ih =>
    obtain ⟨line, form, guard, body⟩ := c
    rw [ofCases, ih, List.map_cons, among_cons]
    simp [mentions, ofCases]

/-- What the entries of a dictionary display mention: keys first, then values. -/
theorem mem_ofEntries (es : List DictEntry) (m : Mention) :
    m ∈ ofKeys es ∨ m ∈ ofValues es ↔ m ∈ among (es.map .entry) := by
  induction es with
  | nil => simp [ofKeys, ofValues]
  | cons e rest ih =>
    rw [List.map_cons, among_cons, List.mem_append, ← ih]
    cases e <;> simp only [mentions, ofKeys, ofValues, List.mem_append] <;> grind

/-- What parameters mention: names and annotations, and defaults. -/
theorem mem_ofHints (ps : List Param) (m : Mention) :
    m ∈ ofHints ps ∨ m ∈ ofDefaults ps ↔ m ∈ among (ps.map .param) := by
  induction ps with
  | nil => simp [ofHints, ofDefaults]
  | cons p rest ih =>
    obtain ⟨line, name, hint, fallback⟩ := p
    rw [List.map_cons, among_cons, List.mem_append, ← ih]
    simp only [mentions, ofHints, ofDefaults, List.mem_append, List.mem_cons]
    grind

/-- What a parameter that takes the rest mentions. -/
theorem ofRest_eq (p : Option Param) :
    ofRest p = among ((p.map Param.taking).toList.map .param) := by
  cases p with
  | none => rfl
  | some p =>
    obtain ⟨line, name, hint, fallback⟩ := p
    simp [ofRest, mentions, Param.taking, ofHints, ofDefaults, ofOption]

/-- What the parameters of a function mention. -/
theorem mem_ofParams (ps : Params) (m : Mention) :
    m ∈ ofParams ps ↔ m ∈ among (ps.all.map .param) := by
  obtain ⟨positional, plain, rest, named, others⟩ := ps
  unfold ofParams Params.all
  simp only [List.map_append, among_append, List.mem_append, ofRest_eq, ← mem_ofHints]
  grind

/-- What a node mentions is what it writes itself and what its parts mention. -/
theorem mem_mentions (n : Node) (m : Mention) : m ∈ n.mentions ↔ m ∈ n.own ∨ m ∈ among n.parts := by
  cases n with
  | expr e =>
    cases e <;> simp [mentions, own, parts, Expr.parts, ofExpr, ofExprs_eq, ofOption_eq,
      ofKeywords_eq, ofClauses_eq, mem_ofEntries, mem_ofParams]
  | pattern p =>
    cases p <;> simp [mentions, own, parts, Pattern.parts, ofPattern, ofExprs_eq, ofPatterns_eq] <;> grind
  | stmt s =>
    cases s <;> simp [mentions, own, parts, Stmt.parts, ofStmt, ofExprs_eq, ofOption_eq, ofKeywords_eq,
      ofItems_eq, ofBlock_eq, ofHandlers_eq, ofCases_eq, mem_ofParams]
  | entry e => cases e <;> simp [mentions, own, parts, ofKeys, ofValues]
  | keyword k =>
    obtain ⟨line, name, value⟩ := k
    simp [mentions, own, parts, ofKeywords]
  | clause k =>
    obtain ⟨isAsync, target, iter, conditions⟩ := k
    simp [mentions, own, parts, ofClauses, ofExprs_eq]
  | param p =>
    obtain ⟨line, name, hint, fallback⟩ := p
    simp [mentions, own, parts, ofHints, ofDefaults, ofOption_eq]
  | item i => simp [mentions, own, parts, ofItems, ofOption_eq]
  | handler k =>
    obtain ⟨line, type, name, body⟩ := k
    simp [mentions, own, parts, ofHandlers, ofOption_eq, ofBlock_eq, or_left_comm]
  | case k =>
    obtain ⟨line, form, guard, body⟩ := k
    simp [mentions, own, parts, ofCases, ofOption_eq, ofBlock_eq]

/-- What a node mentions is what the nodes within it write themselves. -/
theorem mem_mentions_iff (n : Node) (m : Mention) :
    m ∈ n.mentions ↔ ∃ k : Node, k.Within n ∧ m ∈ k.own := by
  constructor
  · induction n using induction_parts with
    | h n ih =>
      intro hm
      rcases (n.mem_mentions m).mp hm with hown | hparts
      · exact ⟨n, .self, hown⟩
      · obtain ⟨c, hc, hmc⟩ := mem_among.mp hparts
        obtain ⟨k, hk, hown⟩ := ih c hc hmc
        exact ⟨k, .part hc hk, hown⟩
  · rintro ⟨k, hk, hown⟩
    induction hk with
    | self => exact (k.mem_mentions m).mpr (.inl hown)
    | part hc _ ih => exact (Node.mem_mentions _ m).mpr (.inr (mem_among.mpr ⟨_, hc, ih⟩))

end Mentions

end Node

/-- Whether a node occurs in a script. -/
def Node.OccursIn (n : Node) (script : List Stmt) : Prop := ∃ s ∈ script, n.Within (.stmt s)

/-- What a script mentions is what the nodes that occur in it write themselves. -/
theorem mem_ofBlock_iff (script : List Stmt) (m : Mention) :
    m ∈ Mentions.ofBlock script ↔ ∃ n : Node, n.OccursIn script ∧ m ∈ n.own := by
  rw [Node.ofBlock_eq, Node.mem_among]
  constructor
  · rintro ⟨c, hc, hm⟩
    obtain ⟨s, hs, rfl⟩ := List.mem_map.mp hc
    obtain ⟨n, hn, hown⟩ := ((Node.stmt s).mem_mentions_iff m).mp hm
    exact ⟨n, ⟨s, hs, hn⟩, hown⟩
  · rintro ⟨n, ⟨s, hs, hn⟩, hown⟩
    exact ⟨_, List.mem_map_of_mem hs, ((Node.stmt s).mem_mentions_iff m).mpr ⟨n, hn, hown⟩⟩

end ChartScript.Script
