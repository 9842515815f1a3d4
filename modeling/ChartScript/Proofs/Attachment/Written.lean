import Mathlib.Data.List.TakeWhile
import ChartScript.Attachment.Csv
/-!
# Texts as they are written

A text is a row of fields with a mark after each but the last: a comma, or one of the three ends
of a line. A field has no mark outside of quotes, and within them each quote is written twice. A
text whose last quote is never closed has what follows that quote in place of its last field.
Every text is written in exactly one way, so what is said of the fields and marks of a text is
said of the text.
-/

namespace ChartScript.Attachment.Csv

/-- Whether a character outside of quotes ends a field. -/
def endsField (c : Char) : Bool := c == '\n' || c == '\r' || c == ','

/-- The other characters go on in the field. -/
theorem endsField_eq_false_iff {c : Char} : endsField c = false ↔ c ≠ '\n' ∧ c ≠ '\r' ∧ c ≠ ',' := by
  simp [endsField, and_assoc]

/-- The part of a field between its quotes as it is written: each quote twice. -/
def doubled : List Char → List Char
  | [] => []
  | c :: cs => if c = '"' then '"' :: '"' :: doubled cs else c :: doubled cs

/-- Whether a part of a field is outside of quotes. -/
structure Bare (cs : List Char) : Prop where
  /-- It does not start with a quote. -/
  unquoted : cs.head? ≠ some '"'
  /-- It does not go on after the field. -/
  within : ∀ c ∈ cs, endsField c = false

/-- Whether a text goes on where a field has ended. -/
def AtEnd (cs : List Char) : Prop := cs.head?.all endsField = true

/-- Whether a text goes on where the part between quotes has ended. -/
def AtQuote (cs : List Char) : Prop := cs = [] ∨ ∃ rest, cs = '"' :: rest ∧ rest.head? ≠ some '"'

/-- A field as it is written. -/
inductive Field where
  /-- A field without quotes. -/
  | plain (content : List Char)
  /-- A field that starts with a part between quotes, and what follows the closing one. -/
  | quoted (content rest : List Char)

namespace Field

/-- The text of a field. -/
def text : Field → List Char
  | plain content => content
  | quoted content rest => '"' :: (doubled content ++ '"' :: rest)

/-- What a field says. -/
def value : Field → String
  | plain content => String.ofList content
  | quoted content rest => String.ofList (content ++ rest)

/-- Whether a field is what it is read as. -/
def Sound : Field → Prop
  | plain content => Bare content
  | quoted _ rest => Bare rest

end Field

/-- What stands after a field. -/
inductive Mark where
  /-- One more field follows. -/
  | comma
  /-- A newline. -/
  | newline
  /-- A carriage return. -/
  | carriageReturn
  /-- A carriage return with a newline. -/
  | both
  deriving DecidableEq

/-- The text of a mark. -/
def Mark.text : Mark → List Char
  | comma => [',']
  | newline => ['\n']
  | carriageReturn => ['\r']
  | both => ['\r', '\n']

/-- A text as it is written. -/
inductive Document where
  /-- The last field. -/
  | last (field : Field)
  /-- What follows a quote that is never closed. -/
  | unclosed (content : List Char)
  /-- A field, the mark after it, and the rest. -/
  | cell (field : Field) (mark : Mark) (rest : Document)

namespace Document

/-- The text of a document. -/
def text : Document → List Char
  | last field => field.text
  | unclosed content => '"' :: doubled content
  | cell field mark rest => field.text ++ (mark.text ++ rest.text)

/-- Whether a document is what its text is read as. A newline after a carriage return belongs to
the same mark. -/
def Sound : Document → Prop
  | last field => field.Sound
  | unclosed _ => True
  | cell field mark rest =>
    field.Sound ∧ (mark = .carriageReturn → rest.text.head? ≠ some '\n') ∧ rest.Sound

end Document

section Unique

variable {a b t u : List Char}

/-- Where the part between quotes has ended, no more of it follows. -/
theorem AtQuote.ne_doubled (h : AtQuote t) (c : Char) : t ≠ doubled (c :: b) ++ u := by
  rintro rfl
  unfold doubled at h
  rcases h with h | ⟨rest, h, hrest⟩
  · split at h <;> cases h
  · split at h
    · cases h
      exact hrest rfl
    · rename_i hc
      exact hc (List.cons.inj h).1

/-- The part between quotes starts with its first character, however that is written. -/
theorem head?_doubled_cons (c : Char) : (doubled (c :: a) ++ t).head? = some c := by
  unfold doubled
  split
  · rename_i hc
    rw [hc]
    rfl
  · rfl

/-- The part between quotes is known from the text. -/
theorem doubled_append_cancel (ht : AtQuote t) (hu : AtQuote u)
    (h : doubled a ++ t = doubled b ++ u) : a = b ∧ t = u := by
  induction a generalizing b with
  | nil =>
    cases b with
    | nil => exact ⟨rfl, h⟩
    | cons d b => exact absurd h (ht.ne_doubled d)
  | cons c a ih =>
    cases b with
    | nil => exact absurd h.symm (hu.ne_doubled c)
    | cons d b =>
      have hc : c = d := by
        have hhead := congrArg List.head? h
        rw [head?_doubled_cons, head?_doubled_cons] at hhead
        exact Option.some.inj hhead
      subst hc
      have hrest : doubled a ++ t = doubled b ++ u := by
        unfold doubled at h
        split at h <;> simpa using h
      obtain ⟨hab, htu⟩ := ih hrest
      exact ⟨by rw [hab], htu⟩

/-- A part outside of quotes is known from the text. -/
theorem Bare.append_cancel (ha : Bare a) (hb : Bare b) (ht : AtEnd t) (hu : AtEnd u)
    (h : a ++ t = b ++ u) : a = b ∧ t = u := by
  have htake {c s : List Char} (hc : Bare c) (hs : AtEnd s) :
      (c ++ s).takeWhile (fun x => !endsField x) = c := by
    rw [List.takeWhile_append_of_pos fun x hx => by rw [hc.within x hx]; rfl]
    cases s with
    | nil => exact List.append_nil c
    | cons x s => rw [List.takeWhile_cons_of_neg (by simpa [AtEnd] using hs), List.append_nil]
  have hab : a = b := by rw [← htake ha ht, h, htake hb hu]
  subst hab
  exact ⟨rfl, List.append_cancel_left h⟩

/-- What follows a closing quote does not start with a quote. -/
theorem Bare.atQuote (ha : Bare a) (ht : AtEnd t) : AtQuote ('"' :: (a ++ t)) := by
  refine Or.inr ⟨_, rfl, ?_⟩
  cases a with
  | nil =>
    intro hquote
    rw [List.nil_append] at hquote
    rw [AtEnd, hquote] at ht
    cases ht
  | cons c a => exact ha.unquoted

/-- A field without quotes does not start as one with quotes. -/
theorem Bare.ne_quote (ha : Bare a) (ht : AtEnd t) : a ++ t ≠ '"' :: u := by
  intro h
  rcases ha.atQuote ht with hnil | ⟨rest, hrest, hquote⟩
  · cases hnil
  · cases hrest
    rw [h] at hquote
    exact hquote rfl

/-- A field is known from the text. -/
theorem Field.append_cancel {f g : Field} (hf : f.Sound) (hg : g.Sound) (ht : AtEnd t)
    (hu : AtEnd u) (h : f.text ++ t = g.text ++ u) : f = g ∧ t = u := by
  cases f with
  | plain a =>
    cases g with
    | plain b =>
      obtain ⟨rfl, htu⟩ := Bare.append_cancel hf hg ht hu h
      exact ⟨rfl, htu⟩
    | quoted content b => exact absurd h (Bare.ne_quote hf ht)
  | quoted content a =>
    cases g with
    | plain b => exact absurd h.symm (Bare.ne_quote hg hu)
    | quoted content' b =>
      simp only [text, List.cons_append, List.append_assoc, List.cons.injEq, true_and] at h
      obtain ⟨rfl, hrest⟩ := doubled_append_cancel (Bare.atQuote hf ht) (Bare.atQuote hg hu) h
      obtain ⟨rfl, htu⟩ := Bare.append_cancel hf hg ht hu (List.cons.inj hrest).2
      exact ⟨rfl, htu⟩

/-- No field starts with a quote that is never closed. -/
theorem Field.append_ne_unclosed {f : Field} (hf : f.Sound) (ht : AtEnd t) :
    f.text ++ t ≠ '"' :: doubled a := by
  cases f with
  | plain content => exact Bare.ne_quote hf ht
  | quoted content rest =>
    intro h
    simp only [text, List.cons_append, List.append_assoc, List.cons.injEq, true_and] at h
    rw [← List.append_nil (doubled a)] at h
    exact List.cons_ne_nil _ _ (doubled_append_cancel (Bare.atQuote hf ht) (Or.inl rfl) h).2

/-- A field ends at a mark. -/
theorem Mark.atEnd (mark : Mark) (cs : List Char) : AtEnd (mark.text ++ cs) := by
  cases mark <;> rfl

/-- A mark is known from the text. -/
theorem Mark.append_cancel {m n : Mark} (hm : m = .carriageReturn → t.head? ≠ some '\n')
    (hn : n = .carriageReturn → u.head? ≠ some '\n') (h : m.text ++ t = n.text ++ u) :
    m = n ∧ t = u := by
  cases m <;> cases n <;> simp only [text, List.cons_append, List.nil_append, List.cons.injEq] at h
  case carriageReturn.both => exact absurd (congrArg List.head? h.2) (hm rfl)
  case both.carriageReturn => exact absurd (congrArg List.head? h.2).symm (hn rfl)
  all_goals simp_all

/-- A field ends at the end of the text. -/
theorem atEnd_nil : AtEnd [] := rfl

/-- A document is known from its text. -/
theorem Document.eq_of_text_eq {d e : Document} (hd : d.Sound) (he : e.Sound)
    (h : d.text = e.text) : d = e := by
  have hlast {f g : Field} {mark : Mark} {rest : List Char} (hf : f.Sound) (hg : g.Sound) :
      f.text ≠ g.text ++ (mark.text ++ rest) := by
    intro h
    rw [← List.append_nil f.text] at h
    have hmark := (Field.append_cancel hf hg atEnd_nil (mark.atEnd rest) h).2
    cases mark <;> cases hmark
  have hunclosed {f : Field} {content : List Char} (hf : f.Sound) :
      f.text ≠ '"' :: doubled content := by
    intro h
    rw [← List.append_nil f.text] at h
    exact Field.append_ne_unclosed hf atEnd_nil h
  induction d generalizing e with
  | last f =>
    cases e with
    | last g =>
      have hfg : f.text ++ [] = g.text ++ [] := congrArg (· ++ []) h
      rw [(Field.append_cancel hd he atEnd_nil atEnd_nil hfg).1]
    | unclosed content => exact absurd h (hunclosed hd)
    | cell g mark rest => exact absurd h (hlast hd he.1)
  | unclosed content =>
    cases e with
    | last g => exact absurd h.symm (hunclosed he)
    | unclosed content' =>
      have hsame : doubled content ++ [] = doubled content' ++ [] :=
        congrArg (· ++ []) (List.cons.inj h).2
      rw [(doubled_append_cancel (Or.inl rfl) (Or.inl rfl) hsame).1]
    | cell g mark rest => exact absurd h.symm (Field.append_ne_unclosed he.1 (mark.atEnd _))
  | cell f mark rest ih =>
    cases e with
    | last g => exact absurd h.symm (hlast he hd.1)
    | unclosed content => exact absurd h (Field.append_ne_unclosed hd.1 (mark.atEnd _))
    | cell g mark' rest' =>
      obtain ⟨rfl, hmarks⟩ := Field.append_cancel hd.1 he.1 (mark.atEnd _) (mark'.atEnd _) h
      obtain ⟨rfl, hrest⟩ := Mark.append_cancel hd.2.1 he.2.1 hmarks
      rw [ih hd.2.2 he.2.2 hrest]

end Unique

section Exists

/-- Between quotes a text goes on to its end, or up to a quote that stands alone. -/
theorem exists_doubled (cs : List Char) : ∃ content t, cs = doubled content ++ t ∧ AtQuote t := by
  induction hsize : cs.length using Nat.strong_induction_on generalizing cs with
  | _ size ih =>
    subst hsize
    cases cs with
    | nil => exact ⟨[], [], rfl, Or.inl rfl⟩
    | cons c cs =>
      by_cases hc : c = '"'
      · subst hc
        by_cases hnext : cs.head? = some '"'
        · obtain ⟨rest, rfl⟩ := List.head?_eq_some_iff.mp hnext
          have hshorter : rest.length < ('"' :: '"' :: rest).length :=
            Nat.lt_succ_of_lt (Nat.lt_succ_self _)
          obtain ⟨content, t, rfl, ht⟩ := ih rest.length hshorter rest rfl
          exact ⟨'"' :: content, t, rfl, ht⟩
        · exact ⟨[], '"' :: cs, rfl, Or.inr ⟨cs, rfl, hnext⟩⟩
      · obtain ⟨content, t, rfl, ht⟩ := ih cs.length (Nat.lt_succ_self _) cs rfl
        exact ⟨c :: content, t, by rw [doubled, if_neg hc]; rfl, ht⟩

/-- Outside of quotes a text goes on to the end of the field. -/
theorem exists_bare {cs : List Char} (h : cs.head? ≠ some '"') :
    ∃ a t, cs = a ++ t ∧ Bare a ∧ AtEnd t := by
  refine ⟨cs.takeWhile (fun c => !endsField c), cs.dropWhile (fun c => !endsField c),
    List.takeWhile_append_dropWhile.symm,
    ⟨?_, fun c hc => by simpa using List.mem_takeWhile_imp hc⟩, ?_⟩
  · cases cs with
    | nil => exact h
    | cons c cs =>
      rw [List.takeWhile_cons]
      split
      · exact h
      · exact Option.some_ne_none _ |>.symm
  · cases hdrop : cs.dropWhile (fun c => !endsField c) with
    | nil => rfl
    | cons c rest =>
      have hc := List.head?_dropWhile_not (fun c => !endsField c) cs
      rw [hdrop] at hc
      simpa [AtEnd] using hc

/-- A text starts with a field, or with a quote that is never closed. -/
theorem exists_field (cs : List Char) :
    (∃ f t, cs = Field.text f ++ t ∧ f.Sound ∧ AtEnd t) ∨ ∃ content, cs = '"' :: doubled content := by
  by_cases hquote : cs.head? = some '"'
  · obtain ⟨rest, rfl⟩ := List.head?_eq_some_iff.mp hquote
    obtain ⟨content, t, rfl, ht⟩ := exists_doubled rest
    rcases ht with rfl | ⟨t, rfl, ht⟩
    · exact Or.inr ⟨content, by rw [List.append_nil]⟩
    · obtain ⟨a, t, rfl, ha, hend⟩ := exists_bare ht
      exact Or.inl ⟨.quoted content a, t, by simp [Field.text], ha, hend⟩
  · obtain ⟨a, t, rfl, ha, hend⟩ := exists_bare hquote
    exact Or.inl ⟨.plain a, t, rfl, ha, hend⟩

/-- Where a field has ended, the text ends, or goes on with a mark. -/
theorem AtEnd.exists_mark {t : List Char} (h : AtEnd t) :
    t = [] ∨ ∃ (mark : Mark) (rest : List Char), t = mark.text ++ rest ∧
      (mark = .carriageReturn → rest.head? ≠ some '\n') := by
  cases t with
  | nil => exact Or.inl rfl
  | cons c rest =>
    refine Or.inr ?_
    have hc : c = '\n' ∨ c = '\r' ∨ c = ',' := by simpa [AtEnd, endsField, or_assoc] using h
    rcases hc with rfl | rfl | rfl
    · exact ⟨.newline, rest, rfl, fun hmark => nomatch hmark⟩
    · by_cases hnext : rest.head? = some '\n'
      · obtain ⟨rest, rfl⟩ := List.head?_eq_some_iff.mp hnext
        exact ⟨.both, rest, rfl, fun hmark => nomatch hmark⟩
      · exact ⟨.carriageReturn, rest, rfl, fun _ => hnext⟩
    · exact ⟨.comma, rest, rfl, fun hmark => nomatch hmark⟩

/-- Every text is that of a document. -/
theorem exists_document (cs : List Char) : ∃ d : Document, d.Sound ∧ d.text = cs := by
  induction hsize : cs.length using Nat.strong_induction_on generalizing cs with
  | _ size ih =>
    subst hsize
    rcases exists_field cs with ⟨f, t, rfl, hf, hend⟩ | ⟨content, rfl⟩
    · rcases hend.exists_mark with rfl | ⟨mark, rest, rfl, hmark⟩
      · exact ⟨.last f, hf, (List.append_nil _).symm⟩
      · have hshorter : rest.length < (f.text ++ (mark.text ++ rest)).length := by
          cases mark <;> simp [Mark.text] <;> omega
        obtain ⟨d, hd, rfl⟩ := ih _ hshorter rest rfl
        exact ⟨.cell f mark d, ⟨hf, hmark, hd⟩, rfl⟩
    · exact ⟨.unclosed content, trivial, rfl⟩

/-- Every text is written in exactly one way. -/
theorem existsUnique_document (cs : List Char) : ∃! d : Document, d.Sound ∧ d.text = cs := by
  obtain ⟨d, hd, htext⟩ := exists_document cs
  exact ⟨d, ⟨hd, htext⟩, fun e he => Document.eq_of_text_eq he.1 hd (he.2.trans htext.symm)⟩

end Exists

end ChartScript.Attachment.Csv
