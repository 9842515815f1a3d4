import ChartScript.Proofs.Attachment.Splitting
/-!
# The lines of a text

A text is read line by line. A line without content is passed over, unless the splitter goes back:
where the first line with content starts with a blank, it is read again from its start, and so are
the lines without content right before it that ended with a carriage return alone. Every other line
is a record. What is read of a text is therefore known from its written form alone, and the splitter
reads exactly that.
-/

namespace ChartScript.Attachment.Csv

/-- Whether a field has no content: no quotes, and nothing but blanks. -/
def Field.isBlank : Field → Bool
  | plain content => content.all isGap
  | quoted _ _ => false

/-- Whether a field starts with a blank. -/
def Field.isIndented : Field → Bool
  | plain content => content.head?.any isGap
  | quoted _ _ => false

/-- A line of a text, which may go on over several where it has quotes. -/
structure Line where
  /-- What its fields say. -/
  fields : List String
  /-- Whether the line is passed over. -/
  skipped : Bool

namespace Document

/-- Whether the first line has no content. -/
def startsBlank : Document → Bool
  | last field => field.isBlank
  | unclosed _ => false
  | cell field mark _ => field.isBlank && mark != .comma

/-- Whether the splitter goes back from the first line with content, and with it reads the lines
without content before it again: if that line starts with a blank, and each of the others ends
with a carriage return alone. -/
def goesBack : Document → Bool
  | last field => field.isIndented && !field.isBlank
  | unclosed _ => false
  | cell field mark rest =>
    if field.isBlank && mark != .comma then mark == .carriageReturn && rest.goesBack
    else field.isIndented

/-- Whether the first line is passed over. -/
def skipsFirst (d : Document) : Bool := d.startsBlank && !d.goesBack

/-- The lines, when some fields of the first one were read before. There is no line after the last
end of a line. -/
def linesFrom : Document → List String → List Line
  | last field, fields =>
    if fields.isEmpty && field.text.isEmpty then []
    else [⟨fields ++ [field.value], fields.isEmpty && (last field).skipsFirst⟩]
  | unclosed _, _ => []
  | cell field mark rest, fields =>
    if mark = .comma then rest.linesFrom (fields ++ [field.value])
    else ⟨fields ++ [field.value], fields.isEmpty && (cell field mark rest).skipsFirst⟩ ::
      rest.linesFrom []

/-- The records, when some fields of the first line were read before: one for each line that is
not passed over, with what is kept of its fields. -/
def keptFrom (d : Document) (fields : List String) : List (List String) :=
  ((d.linesFrom fields).filter fun line => !line.skipped).map fun line => line.fields.map stored

/-- Whether every quote is closed. -/
def isClosed : Document → Bool
  | last _ => true
  | unclosed _ => false
  | cell _ _ rest => rest.isClosed

end Document

/-- What is read of a document, when some records and some fields of the first line were read before:
all the records, or nothing if one of them cannot be added or a quote is never closed. -/
def Document.outcome (d : Document) (records : List (List String)) (fields : List String) :
    Option (List (List String)) :=
  if d.isClosed then (d.keptFrom fields).foldlM addRecord records else none

section Outcome

variable {field : Field} {mark : Mark} {rest : Document} {records : List (List String)}
  {fields : List String}

namespace Document

/-- A field before a comma belongs to the line that goes on. -/
theorem outcome_comma :
    (cell field .comma rest).outcome records fields =
      rest.outcome records (fields ++ [field.value]) := rfl

/-- What follows a quote that is never closed is not read. -/
theorem outcome_unclosed {content : List Char} : (unclosed content).outcome records fields = none := rfl

/-- A line that is not passed over is a record. -/
theorem outcome_ended (hmark : mark ≠ .comma)
    (h : fields ≠ [] ∨ (cell field mark rest).skipsFirst = false) :
    (cell field mark rest).outcome records fields =
      (addRecord records (fields.map stored ++ [stored field.value])).bind
        fun more => rest.outcome more [] := by
  have hkept : (fields.isEmpty && (cell field mark rest).skipsFirst) = false := by
    rcases h with h | h <;> simp [h]
  unfold outcome keptFrom
  rw [linesFrom, if_neg hmark, hkept]
  by_cases hclosed : rest.isClosed = true
  · simp [isClosed, hclosed]
  · simp [isClosed, hclosed]

/-- A line that is passed over is none. -/
theorem outcome_skipped (hmark : mark ≠ .comma) (h : (cell field mark rest).skipsFirst = true) :
    (cell field mark rest).outcome records [] = rest.outcome records [] := by
  unfold outcome keptFrom
  rw [linesFrom, if_neg hmark, h]
  simp [isClosed]

/-- The last line is a record if it is not passed over. -/
theorem outcome_last (h : fields ≠ [] ∨ (last field).skipsFirst = false) :
    (last field).outcome records fields =
      addRecord records (fields.map stored ++ [stored field.value]) := by
  have hkept : (fields.isEmpty && (last field).skipsFirst) = false := by
    rcases h with h | h <;> simp [h]
  have hthere : (fields.isEmpty && field.text.isEmpty) = false := by
    rcases h with h | h
    · simp [h]
    · cases field with
      | quoted content rest => simp [Field.text]
      | plain content =>
        cases content with
        | nil => cases h
        | cons c content => simp [Field.text]
  unfold outcome keptFrom
  rw [linesFrom, hthere, hkept]
  simp [isClosed]

/-- The last line is none if it is passed over. -/
theorem outcome_last_skipped (h : (last field).skipsFirst = true) :
    (last field).outcome records [] = some records := by
  have hkept : (last field).keptFrom [] = [] := by
    unfold keptFrom
    rw [linesFrom, h]
    split <;> rfl
  unfold outcome
  rw [hkept]
  rfl

end Document

end Outcome

section Opening

/-- A field with content has blanks up to a character that is content. -/
theorem Field.exists_content {field : Field} (h : field.Sound) (hblank : field.isBlank = false) :
    ∃ gaps c rest, field.text = gaps ++ c :: rest ∧ (∀ g ∈ gaps, isGap g = true) ∧
      isContent c = true ∧ (gaps = [] ↔ field.isIndented = false) := by
  cases field with
  | quoted content bare => exact ⟨[], '"', _, rfl, nofun, rfl, iff_of_true rfl rfl⟩
  | plain content =>
    have hsplit : content = content.takeWhile isGap ++ content.dropWhile isGap :=
      List.takeWhile_append_dropWhile.symm
    cases hdrop : content.dropWhile isGap with
    | nil =>
      have hall : content.all isGap = true :=
        List.all_eq_true.mpr fun c hc => List.dropWhile_eq_nil_iff.mp hdrop c hc
      rw [Field.isBlank, hall] at hblank
      cases hblank
    | cons c rest =>
      have hgap : isGap c = false := by
        have hhead := List.head?_dropWhile_not isGap content
        rw [hdrop] at hhead
        simpa using hhead
      have hmem : c ∈ content := by rw [hsplit, hdrop]; simp
      have hends := endsField_eq_false_iff.mp (h.within c hmem)
      refine ⟨content.takeWhile isGap, c, rest, by rw [← hdrop]; exact hsplit,
        fun g hg => List.mem_takeWhile_imp hg, ?_, ?_⟩
      · simp [isContent, hgap, hends]
      · cases content with
        | nil => cases hdrop
        | cons a content =>
          rw [List.takeWhile_cons]
          cases ha : isGap a <;> simp [Field.isIndented, ha]

/-- A line with content has blanks up to a character that is content. -/
theorem Document.exists_content {d : Document} (h : d.Sound) (hblank : d.startsBlank = false) :
    ∃ gaps c rest, d.text = gaps ++ c :: rest ∧ (∀ g ∈ gaps, isGap g = true) ∧
      isContent c = true ∧ (gaps = [] ↔ d.goesBack = false) := by
  cases d with
  | unclosed content => exact ⟨[], '"', _, rfl, nofun, rfl, iff_of_true rfl rfl⟩
  | last field =>
    obtain ⟨gaps, c, rest, htext, hgaps, hc, hnil⟩ := Field.exists_content h hblank
    refine ⟨gaps, c, rest, htext, hgaps, hc, ?_⟩
    have hfield : field.isBlank = false := hblank
    rw [goesBack, hfield]
    simpa using hnil
  | cell field mark rest =>
    have hback : (cell field mark rest).goesBack = field.isIndented := by
      have hline : (field.isBlank && mark != .comma) = false := hblank
      rw [goesBack, hline]
      rfl
    rw [hback]
    cases hfield : field.isBlank with
    | false =>
      obtain ⟨gaps, c, more, htext, hgaps, hc, hnil⟩ := Field.exists_content h.1 hfield
      exact ⟨gaps, c, more ++ (mark.text ++ rest.text), by simp [Document.text, htext], hgaps, hc, hnil⟩
    | true =>
      have hcomma : mark = .comma := by simpa [startsBlank, hfield] using hblank
      subst hcomma
      cases field with
      | quoted content bare => cases hfield
      | plain content =>
        refine ⟨content, ',', rest.text, rfl, List.all_eq_true.mp hfield, rfl, ?_⟩
        cases content with
        | nil => simp [Field.isIndented]
        | cons c content =>
          have hgap : isGap c = true := List.all_eq_true.mp hfield c List.mem_cons_self
          simp [Field.isIndented, hgap]

end Opening

/-- Whether a document is left once some lines without content, each up to a carriage return
alone, are passed over. -/
inductive Skips : Document → Document → Prop where
  /-- No line is passed over. -/
  | refl (d : Document) : Skips d d
  /-- One more line is passed over. -/
  | blank {field : Field} {rest e : Document} (blank : field.isBlank = true) (more : Skips rest e) :
    Skips (.cell field .carriageReturn rest) e

namespace Skips

variable {d e : Document} {field : Field} {rest : Document}

/-- One more line is passed over at the end. -/
theorem concat (h : Skips d (.cell field .carriageReturn rest)) (hblank : field.isBlank = true) :
    Skips d rest := by
  generalize hlast : Document.cell field .carriageReturn rest = last at h
  induction h with
  | refl => exact hlast ▸ .blank hblank (.refl rest)
  | blank hfield _ ih => exact .blank hfield (ih hlast)

/-- What is left of a sound document is sound. -/
theorem sound (h : Skips d e) (hd : d.Sound) : e.Sound := by
  induction h with
  | refl => exact hd
  | blank _ _ ih => exact ih hd.2.2

/-- What is left is no longer. -/
theorem length_le (h : Skips d e) : e.text.length ≤ d.text.length := by
  induction h with
  | refl => exact Nat.le_refl _
  | blank _ _ ih =>
    rw [Document.text, List.length_append, List.length_append]
    omega

/-- Whether the splitter goes back is the same before the lines and after them. -/
theorem goesBack_eq (h : Skips d e) : d.goesBack = e.goesBack := by
  induction h with
  | refl => rfl
  | blank hfield _ ih => rw [Document.goesBack, hfield, ← ih]; rfl

/-- If it does not go back, no record is read from them. -/
theorem outcome_eq (h : Skips d e) (hback : e.goesBack = false) (records : List (List String)) :
    d.outcome records [] = e.outcome records [] := by
  induction h with
  | refl => rfl
  | @blank field rest e hfield hmore ih =>
    have hskips : (Document.cell field .carriageReturn rest).skipsFirst = true := by
      rw [Document.skipsFirst, (blank hfield hmore).goesBack_eq, hback, Document.startsBlank, hfield]
      rfl
    rw [Document.outcome_skipped (by decide) hskips, ih hback]

end Skips

/-- Whether a document is read from the start of a field. -/
def ReadsInLine (d : Document) : Prop :=
  ∀ (s : Splitter) (records : List (List String)) (fields : List String),
    s.AtField records (fields.map stored) →
      fields ≠ [] ∨ d.skipsFirst = false → s.Reads d.text (d.outcome records fields)

/-- Whether a document is read from the start of a line once some lines of it were passed over. -/
def ReadsLine (d e : Document) : Prop :=
  ∀ (s : Splitter) (records : List (List String)), s.AtLine records →
    s.lineStart = d.text ∨ e.text.head? = some ',' → s.Reads e.text (d.outcome records [])

section Reading

variable {d e : Document}

/-- A document is read from the start of a field if what follows that field is read. -/
theorem readsInLine_of_rest (hd : d.Sound)
    (hrest : ∀ field mark rest, d = .cell field mark rest → ReadsInLine rest ∧ ReadsLine rest rest) :
    ReadsInLine d := by
  intro s records fields hs hfirst
  cases d with
  | unclosed content =>
    rw [Document.outcome_unclosed]
    exact hs.reads_unclosed
  | last field =>
    rw [Document.outcome_last hfirst, Document.text, ← List.append_nil field.text]
    exact hs.reads_field hd fun t ht => ht.reads_nil
  | cell field mark rest =>
    obtain ⟨hfield, hmark, -⟩ := hd
    obtain ⟨hin, hline⟩ := hrest field mark rest rfl
    refine hs.reads_field hfield fun t ht => ?_
    cases mark with
    | comma =>
      rw [Document.outcome_comma]
      refine ht.reads_comma fun u hu => hin u records _ ?_ (.inl (by simp))
      rwa [List.map_append]
    | newline =>
      rw [Document.outcome_ended (by decide) hfirst]
      exact ht.reads_newline fun u more hu hstart => hline u more hu (.inl hstart)
    | carriageReturn =>
      rw [Document.outcome_ended (by decide) hfirst]
      exact ht.reads_return ((ht.ended .afterReturn).reads_afterReturn rfl (hmark rfl)
        fun u more hu hstart => hline u more hu hstart)
    | both =>
      rw [Document.outcome_ended (by decide) hfirst]
      exact ht.reads_return ((ht.ended .afterReturn).reads_newline rfl
        fun u more hu hstart => hline u more hu (.inl hstart))

/-- A line with content is read, or else the document from the lines on that were passed over
before it. -/
theorem readsLine_of_content (hskips : Skips d e) (hd : d.Sound) (hstarts : e.startsBlank = false)
    (hin : ReadsInLine d) (hat : ReadsInLine e) : ReadsLine d e := by
  intro s records hs hstart
  obtain ⟨gaps, c, rest, htext, hgaps, hc, hnil⟩ := Document.exists_content (hskips.sound hd) hstarts
  cases hback : e.goesBack with
  | false =>
    rw [hskips.outcome_eq hback]
    rw [hnil.mpr hback, List.nil_append] at htext
    have hread (t : Splitter) (ht : t.AtField records []) : t.Reads e.text (e.outcome records []) :=
      hat t records [] ht (.inr (by rw [Document.skipsFirst, hstarts]; rfl))
    rw [htext] at hread ⊢
    exact hs.reads_content hc hread
  | true =>
    have hsome : gaps ≠ [] := fun h => by rw [hnil.mp h] at hback; cases hback
    have hfrom : s.lineStart = d.text := by
      refine hstart.resolve_right fun hcomma => ?_
      obtain ⟨g, gaps, rfl⟩ := List.exists_cons_of_ne_nil hsome
      rw [htext] at hcomma
      cases hcomma
      exact absurd (hgaps ',' List.mem_cons_self) (by decide)
    rw [htext]
    refine hs.reads_back hgaps hsome hc fun t ht => ?_
    rw [hfrom]
    exact hin t records [] ht (.inr (by rw [Document.skipsFirst, hskips.goesBack_eq, hback]; simp))

/-- A document is read from the start of a line, whatever lines were passed over, if each part of
it is read. -/
theorem readsLine_of_skips (hd : d.Sound) (hin : ∀ e, Skips d e → ReadsInLine e)
    (hline : ∀ field mark rest, Skips d (.cell field mark rest) → ReadsLine rest rest)
    (hskips : Skips d e) : ReadsLine d e := by
  -- A carriage return alone leaves the start of the line, so only there the induction is needed.
  induction e with
  | unclosed content =>
    exact readsLine_of_content hskips hd rfl (hin d (.refl d)) (hin _ hskips)
  | last field =>
    cases hstarts : (Document.last field).startsBlank with
    | false => exact readsLine_of_content hskips hd hstarts (hin d (.refl d)) (hin _ hskips)
    | true =>
      intro s records hs hstart
      obtain ⟨content, rfl⟩ : ∃ content, field = .plain content := by
        cases field with
        | plain content => exact ⟨content, rfl⟩
        | quoted content bare => cases hstarts
      have hback : (Document.last (.plain content)).goesBack = false := by
        have hblank : (Field.plain content).isBlank = true := hstarts
        rw [Document.goesBack, hblank]
        simp
      rw [hskips.outcome_eq hback, Document.outcome_last_skipped
        (by rw [Document.skipsFirst, hstarts, hback]; rfl)]
      exact hs.reads_blank (List.all_eq_true.mp hstarts)
  | cell field mark rest ih =>
    cases hstarts : (Document.cell field mark rest).startsBlank with
    | false => exact readsLine_of_content hskips hd hstarts (hin d (.refl d)) (hin _ hskips)
    | true =>
      intro s records hs hstart
      obtain ⟨hblank, hmark⟩ : field.isBlank = true ∧ mark ≠ .comma := by
        simpa [Document.startsBlank] using hstarts
      obtain ⟨content, rfl⟩ : ∃ content, field = .plain content := by
        cases field with
        | plain content => exact ⟨content, rfl⟩
        | quoted content bare => cases hblank
      have hgaps : ∀ c ∈ content, isGap c = true := List.all_eq_true.mp hblank
      have hpassed (hback : (Document.cell (.plain content) mark rest).goesBack = false) :
          d.outcome records [] = rest.outcome records [] := by
        rw [hskips.outcome_eq hback, Document.outcome_skipped hmark
          (by rw [Document.skipsFirst, hstarts, hback]; rfl)]
      have hrest := hline _ _ _ hskips
      cases mark with
      | comma => exact absurd rfl hmark
      | newline =>
        rw [hpassed (by rw [Document.goesBack, hblank]; rfl)]
        exact hs.reads_blank_newline hgaps fun t ht hfrom => hrest t records ht (.inl hfrom)
      | both =>
        rw [hpassed (by rw [Document.goesBack, hblank]; rfl)]
        exact hs.reads_blank_both hgaps fun t ht hfrom => hrest t records ht (.inl hfrom)
      | carriageReturn =>
        refine hs.reads_blank_return hgaps ((hskips.sound hd).2.1 rfl) fun t ht hfrom => ?_
        have hcomma : ¬ (content ++ (Mark.carriageReturn.text ++ rest.text)).head? = some ',' := by
          cases content with
          | nil => nofun
          | cons c content =>
            intro hc
            cases hc
            exact absurd (hgaps ',' List.mem_cons_self) (by decide)
        exact ih (hskips.concat hblank) t records ht
          (.inl (hfrom.trans (hstart.resolve_right hcomma)))

/-- A document is read from the start of a field, and from the start of a line. -/
theorem reads_document (hd : d.Sound) : ReadsInLine d ∧ ∀ e, Skips d e → ReadsLine d e := by
  -- Going back starts the whole document anew, but then one of its lines is read before the rest is.
  induction hsize : d.text.length using Nat.strong_induction_on generalizing d with
  | _ size ih =>
    subst hsize
    have hrest {e : Document} (hskips : Skips d e) {field : Field} {mark : Mark} {rest : Document}
        (he : e = .cell field mark rest) : ReadsInLine rest ∧ ReadsLine rest rest := by
      subst he
      have hshorter : rest.text.length < d.text.length := by
        have hle := hskips.length_le
        have hmark : 0 < mark.text.length := by cases mark <;> decide
        rw [Document.text, List.length_append, List.length_append] at hle
        omega
      obtain ⟨hin, hline⟩ := ih _ hshorter (hskips.sound hd).2.2 rfl
      exact ⟨hin, hline rest (.refl rest)⟩
    have hin (e : Document) (hskips : Skips d e) : ReadsInLine e :=
      readsInLine_of_rest (hskips.sound hd) fun field mark rest he => hrest hskips he
    exact ⟨hin d (.refl d), fun e hskips =>
      readsLine_of_skips hd hin (fun field mark rest hcell => (hrest hcell rfl).2) hskips⟩

end Reading

/-- The records of a text are those of the document that it is written as. -/
theorem records_eq_outcome {d : Document} (hd : d.Sound) {text : String}
    (htext : d.text = dropMark text.toList) : (records text).toOption = d.outcome [] [] := by
  refine records_of_reads ?_
  rw [← htext]
  exact (reads_document hd).2 d (.refl d) _ [] ⟨rfl, rfl, rfl, rfl⟩ (.inl rfl)

/-- A line without content is passed over, one with an empty field in quotes is not. -/
example : (Document.cell (.plain ['a']) .newline (.cell (.plain []) .newline
    (.cell (.quoted [] []) .newline (.last (.plain []))))).outcome [] [] = some [["a"], [""]] := rfl

end ChartScript.Attachment.Csv
