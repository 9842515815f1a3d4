import ChartScript.Proofs.Attachment.Reading
import ChartScript.Proofs.Attachment.Written
/-!
# From the characters to the records

What the splitter does with the written parts of a text: with a field, with each mark after a
field, and with a line that has no content or starts with blanks. The end of a record is said
once, as the addition of the record; all else is read as it is written.
-/

namespace ChartScript.Attachment.Csv

/-- Whether a character leaves a line without content. -/
def isGap (c : Char) : Bool := c == ' ' || c == '\t'

/-- Whether a line has content from a character on. -/
def isContent (c : Char) : Bool := !isGap c && c != '\n' && c != '\r'

/-- The characters that leave a line without content. -/
theorem isGap_iff {c : Char} : isGap c = true ↔ c = ' ' ∨ c = '\t' := by simp [isGap]

/-- The characters that do not give a line content. -/
theorem isContent_iff {c : Char} :
    isContent c = true ↔ c ≠ ' ' ∧ c ≠ '\t' ∧ c ≠ '\n' ∧ c ≠ '\r' := by
  simp [isContent, isGap, and_assoc]

/-- The records with one more, which is filled up to the length of the last one. From the third on
it may not be longer than that. -/
def addRecord (records : List (List String)) (fields : List String) : Option (List (List String)) :=
  let expected := (records.getLast?.map List.length).getD 0
  if 2 ≤ records.length ∧ expected < fields.length then none
  else some (records ++ [fields ++ List.replicate (expected - fields.length) ""])

namespace Splitter

variable {s : Splitter} {c : Char} {cs after rest : List Char} {records : List (List String)}
  {fields : List String} {value : String} {result : Option (List (List String))}
  {next : List (List String) → Option (List (List String))}

/-- Whether the splitter is at the start of a line, after some records. -/
structure AtLine (s : Splitter) (records : List (List String)) : Prop where
  /-- The place. -/
  mode : s.mode = .startRecord
  /-- No field is open. -/
  field : s.field = []
  /-- No field of the line was read. -/
  fields : s.fields = []
  /-- The records. -/
  records_eq : s.records.reverse = records

/-- Whether the splitter is at the start of a field, after some records and some fields. -/
structure AtField (s : Splitter) (records : List (List String)) (fields : List String) : Prop where
  /-- The place. -/
  mode : s.mode = .startField
  /-- No field is open. -/
  field : s.field = []
  /-- The fields of the line that were read. -/
  fields_eq : s.fields.reverse = fields
  /-- The records. -/
  records_eq : s.records.reverse = records

/-- Whether the splitter has read a field up to its end. -/
structure AfterField (s : Splitter) (records : List (List String)) (fields : List String)
    (value : String) : Prop where
  /-- The place. -/
  mode : s.mode = .startField ∨ s.mode = .inField ∨ s.mode = .afterQuote
  /-- What the field says. -/
  field_eq : String.ofList s.field.reverse = value
  /-- The fields of the line that were read before. -/
  fields_eq : s.fields.reverse = fields
  /-- The records. -/
  records_eq : s.records.reverse = records

/-- Whether the splitter has read a record up to its end. -/
structure Ended (s : Splitter) (records : List (List String)) (fields : List String) : Prop where
  /-- No field is open. -/
  field : s.field = []
  /-- The fields of the record. -/
  fields_eq : s.fields.reverse = fields
  /-- The records before it. -/
  records_eq : s.records.reverse = records

section Ends

/-- The end of a record adds it to those before. -/
theorem Ended.endRecord_eq (h : s.Ended records fields) :
    (∃ more t, addRecord records fields = some more ∧ s.endRecord = .ok t ∧ t.AtLine more) ∨
      ∃ fault, addRecord records fields = none ∧ s.endRecord = .error fault := by
  obtain ⟨hfield, rfl, rfl⟩ := h
  have hlast : s.records.head? = s.records.reverse.getLast? := by simp
  unfold addRecord endRecord
  dsimp only
  rw [hlast, List.length_reverse]
  by_cases hlong : 2 ≤ s.records.length ∧
      (s.records.reverse.getLast?.map List.length).getD 0 < s.fields.reverse.length
  · rw [if_pos hlong, if_pos hlong]
    exact .inr ⟨_, rfl, rfl⟩
  · rw [if_neg hlong, if_neg hlong]
    exact .inl ⟨_, _, rfl, rfl, rfl, hfield, rfl, List.reverse_cons⟩

/-- Where a line starts does not matter to what was read before it. -/
theorem AtLine.withStart (h : s.AtLine records) (start : List Char) :
    { s with lineStart := start }.AtLine records := ⟨h.mode, h.field, h.fields, h.records_eq⟩

/-- A newline that ends a record goes on with the next line once the record is added. -/
theorem Ended.reads_newline {u : Splitter} (h : u.Ended records fields)
    (hstep : s.step '\n' ('\n' :: rest) rest =
      u.endRecord >>= fun t => .ok ({ t with lineStart := rest }, rest))
    (hnext : ∀ (t : Splitter) (more : List (List String)), t.AtLine more → t.lineStart = rest →
      t.Reads rest (next more)) :
    s.Reads ('\n' :: rest) ((addRecord records fields).bind next) := by
  rcases h.endRecord_eq with ⟨more, t, hadd, ht, hline⟩ | ⟨fault, hadd, hfault⟩
  · rw [hadd]
    exact .step (by rw [hstep, ht]; rfl) (hnext _ more (hline.withStart rest) rfl)
  · rw [hadd]
    exact .fail (by rw [hstep, hfault]; rfl)

/-- A record that ends with the text is added. -/
theorem Ended.reads_nil {u : Splitter} (h : u.Ended records fields)
    (hfinish : s.finish = u.endRecord.map fun t => t.records.reverse) :
    s.Reads [] (addRecord records fields) := by
  rw [reads_nil_iff, hfinish]
  rcases h.endRecord_eq with ⟨more, t, hadd, ht, hline⟩ | ⟨fault, hadd, hfault⟩
  · rw [ht, hadd]
    exact congrArg some hline.records_eq
  · rw [hfault, hadd]
    rfl

/-- A line that ends with the text leaves the records. -/
theorem AtLine.reads_nil_iff (h : s.AtLine records) : s.Reads [] result ↔ some records = result := by
  have hfinish : s.finish = .ok records := by
    unfold finish
    rw [h.mode]
    exact congrArg _ h.records_eq
  rw [Splitter.reads_nil_iff, hfinish]
  rfl

/-- A carriage return that no newline follows ends the record. From where the next line is read
again does not matter if it starts with a comma, which is content. -/
theorem Ended.reads_afterReturn (h : s.Ended records fields) (hmode : s.mode = .afterReturn)
    (hrest : rest.head? ≠ some '\n')
    (hnext : ∀ (t : Splitter) (more : List (List String)), t.AtLine more →
      t.lineStart = rest ∨ rest.head? = some ',' → t.Reads rest (next more)) :
    s.Reads rest ((addRecord records fields).bind next) := by
  cases rest with
  | nil =>
    have hsame : (addRecord records fields).bind next = addRecord records fields := by
      rcases h.endRecord_eq with ⟨more, t, hadd, -, hline⟩ | ⟨fault, hadd, -⟩
      · have hread := hnext _ more (hline.withStart []) (.inl rfl)
        rw [hadd, Option.bind_some, ← (hline.withStart []).reads_nil_iff.mp hread]
      · rw [hadd]
        rfl
    rw [hsame]
    exact h.reads_nil (by unfold finish; rw [hmode])
  | cons c after =>
    have hc : c ≠ '\n' := fun hc => hrest (congrArg some hc)
    rcases h.endRecord_eq with ⟨more, t, hadd, ht, hline⟩ | ⟨fault, hadd, hfault⟩
    · rw [hadd]
      by_cases hcomma : c = ','
      · subst hcomma
        refine .congr ?_ (hnext t more hline (.inr rfl))
        simp [step, hmode, ht, hline.mode, bind, Except.bind]
      · refine .step ?_ (hnext _ more (hline.withStart (c :: after)) (.inl rfl))
        simp [step, hmode, ht, hc, hcomma, bind, Except.bind, pure, Except.pure]
    · have hstep : s.step c (c :: after) after = .error fault := by
        simp [step, hmode, hfault, bind, Except.bind]
      rw [hadd]
      exact .fail hstep

end Ends

section AfterField

/-- The end of a field after which its record ends. -/
theorem AfterField.ended (h : s.AfterField records fields value) (mode : Mode) :
    (s.endField mode).Ended records (fields ++ [stored value]) := by
  obtain ⟨-, rfl, rfl, rfl⟩ := h
  exact ⟨rfl, List.reverse_cons, rfl⟩

/-- A comma after a field goes on with the next one. -/
theorem AfterField.reads_comma (h : s.AfterField records fields value)
    (hnext : ∀ t : Splitter, t.AtField records (fields ++ [stored value]) → t.Reads rest result) :
    s.Reads (',' :: rest) result := by
  have hended := h.ended .startField
  have hstep : s.step ',' (',' :: rest) rest = .ok (s.endField .startField, rest) := by
    rcases h.mode with hmode | hmode | hmode <;> simp [step, hmode]
  exact .step hstep (hnext _ ⟨rfl, hended.field, hended.fields_eq, hended.records_eq⟩)

/-- A newline after a field ends the record. -/
theorem AfterField.reads_newline (h : s.AfterField records fields value)
    (hnext : ∀ (t : Splitter) (more : List (List String)), t.AtLine more → t.lineStart = rest →
      t.Reads rest (next more)) :
    s.Reads ('\n' :: rest) ((addRecord records (fields ++ [stored value])).bind next) := by
  refine (h.ended .startRecord).reads_newline ?_ hnext
  rcases h.mode with hmode | hmode | hmode <;> simp [step, hmode]

/-- The end of the text after a field ends the record. -/
theorem AfterField.reads_nil (h : s.AfterField records fields value) :
    s.Reads [] (addRecord records (fields ++ [stored value])) := by
  refine (h.ended .startRecord).reads_nil ?_
  unfold finish
  rcases h.mode with hmode | hmode | hmode <;> rw [hmode]

/-- A carriage return after a field is read before the record ends. -/
theorem AfterField.reads_return (h : s.AfterField records fields value)
    (hnext : (s.endField .afterReturn).Reads rest result) : s.Reads ('\r' :: rest) result := by
  refine .step ?_ hnext
  rcases h.mode with hmode | hmode | hmode <;> simp [step, hmode]

end AfterField

section Field

/-- A part of a field outside of quotes is read as it is. -/
theorem reads_inField (hmode : s.mode = .inField) (hcs : ∀ c ∈ cs, endsField c = false)
    (hnext : { s with field := cs.reverse ++ s.field }.Reads rest result) :
    s.Reads (cs ++ rest) result := by
  induction cs generalizing s with
  | nil => exact hnext
  | cons c cs ih =>
    have hne := endsField_eq_false_iff.mp (hcs c List.mem_cons_self)
    have hstep : s.step c (c :: (cs ++ rest)) (cs ++ rest) = .ok (s.push c .inField, cs ++ rest) := by
      simp [step, hmode, hne]
    refine .step hstep (ih rfl (fun d hd => hcs d (List.mem_cons_of_mem c hd)) ?_)
    simpa [push, hmode] using hnext

/-- The part of a field between quotes is read with each quote once. -/
theorem reads_quoted {content : List Char} (hmode : s.mode = .quoted)
    (hnext : ∀ start,
      { s with field := content.reverse ++ s.field, lineStart := start }.Reads rest result) :
    s.Reads (doubled content ++ rest) result := by
  induction content generalizing s with
  | nil => exact hnext s.lineStart
  | cons c content ih =>
    by_cases hquote : c = '"'
    · subst hquote
      have hfirst : s.step '"' ('"' :: '"' :: (doubled content ++ rest))
          ('"' :: (doubled content ++ rest)) =
            .ok ({ s with mode := .afterQuote }, '"' :: (doubled content ++ rest)) := by
        simp [step, hmode]
      have hsecond : { s with mode := .afterQuote }.step '"' ('"' :: (doubled content ++ rest))
          (doubled content ++ rest) = .ok (s.push '"' .quoted, doubled content ++ rest) := rfl
      refine .step hfirst (.step hsecond (ih rfl fun start => ?_))
      simpa [push, hmode] using hnext start
    · have hstep : ∃ start, s.step c (c :: (doubled content ++ rest)) (doubled content ++ rest) =
          .ok ({ s.push c .quoted with lineStart := start }, doubled content ++ rest) := by
        by_cases hnewline : c = '\n'
        · exact ⟨doubled content ++ rest, by simp [step, hmode, hnewline]⟩
        · exact ⟨s.lineStart, by simp [step, hmode, hquote, hnewline, push]⟩
      obtain ⟨start, hstep⟩ := hstep
      rw [doubled, if_neg hquote]
      refine .step hstep (ih rfl fun start => ?_)
      simpa [push, hmode] using hnext start

/-- A part of a field outside of quotes is read where a field starts, or after a quoted part. -/
theorem reads_bare (hmode : s.mode = .startField ∨ s.mode = .afterQuote) (hcs : Bare cs)
    (hnext : ∀ mode, mode = .startField ∨ mode = .inField ∨ mode = .afterQuote →
      { s with mode, field := cs.reverse ++ s.field }.Reads rest result) :
    s.Reads (cs ++ rest) result := by
  cases cs with
  | nil => exact hnext s.mode (hmode.imp_right .inr)
  | cons c cs =>
    have hquote : c ≠ '"' := fun h => hcs.unquoted (congrArg some h)
    have hne := endsField_eq_false_iff.mp (hcs.within c List.mem_cons_self)
    have hstep : s.step c (c :: (cs ++ rest)) (cs ++ rest) = .ok (s.push c .inField, cs ++ rest) := by
      rcases hmode with hmode | hmode <;> simp [step, hmode, hne, hquote]
    refine .step hstep (reads_inField rfl (fun d hd => hcs.within d (List.mem_cons_of_mem c hd)) ?_)
    simpa [push] using hnext .inField (.inr (.inl rfl))

/-- A field is read up to its end. -/
theorem AtField.reads_field {field : Field} (h : s.AtField records fields) (hf : field.Sound)
    (hnext : ∀ t : Splitter, t.AfterField records fields field.value → t.Reads rest result) :
    s.Reads (field.text ++ rest) result := by
  obtain ⟨hmode, hfield, hfields, hrecords⟩ := h
  cases field with
  | plain content =>
    refine reads_bare (.inl hmode) hf fun mode hend => hnext _ ⟨hend, ?_, hfields, hrecords⟩
    rw [hfield, List.append_nil, List.reverse_reverse]
    rfl
  | quoted content bare =>
    have htext : (Field.quoted content bare).text ++ rest =
        '"' :: (doubled content ++ '"' :: (bare ++ rest)) := by simp [Field.text]
    have hopen : s.step '"' ('"' :: (doubled content ++ '"' :: (bare ++ rest)))
        (doubled content ++ '"' :: (bare ++ rest)) =
          .ok ({ s with mode := .quoted }, doubled content ++ '"' :: (bare ++ rest)) := by
      simp [step, hmode]
    rw [htext]
    refine .step hopen (reads_quoted rfl fun start => .step rfl ?_)
    refine reads_bare (.inr rfl) hf fun mode hend => hnext _ ⟨hend, ?_, hfields, hrecords⟩
    simp [hfield, Field.value]

/-- What follows a quote that is never closed is refused. -/
theorem AtField.reads_unclosed {content : List Char} (h : s.AtField records fields) :
    s.Reads ('"' :: doubled content) none := by
  have hopen : s.step '"' ('"' :: doubled content) (doubled content) =
      .ok ({ s with mode := .quoted }, doubled content) := by
    simp [step, h.mode]
  refine .step hopen ?_
  rw [← List.append_nil (doubled content)]
  exact reads_quoted rfl fun start => reads_nil_iff.mpr rfl

end Field

section Line

/-- A line with content from its first character on is read as a field is. -/
theorem AtLine.reads_content (h : s.AtLine records) (hc : isContent c = true)
    (hnext : ∀ t : Splitter, t.AtField records [] → t.Reads (c :: after) result) :
    s.Reads (c :: after) result := by
  have hat : { s with mode := .startField }.AtField records [] :=
    ⟨rfl, h.field, by rw [h.fields]; rfl, h.records_eq⟩
  refine .congr ?_ (hnext _ hat)
  have hne := isContent_iff.mp hc
  by_cases hcomma : c = ','
  · subst hcomma
    simp [step, h.mode, endField]
  · simp [step, h.mode, hne, hcomma, push]

/-- More blanks leave a line without content. -/
theorem reads_gaps {gaps : List Char} (hmode : s.mode = .blankLine)
    (hgaps : ∀ c ∈ gaps, isGap c = true) (hnext : s.Reads rest result) :
    s.Reads (gaps ++ rest) result := by
  induction gaps with
  | nil => exact hnext
  | cons c gaps ih =>
    have hstep : s.step c (c :: (gaps ++ rest)) (gaps ++ rest) = .ok (s, gaps ++ rest) := by
      rcases isGap_iff.mp (hgaps c List.mem_cons_self) with rfl | rfl <;> simp [step, hmode]
    exact .step hstep (ih fun d hd => hgaps d (List.mem_cons_of_mem c hd))

/-- Blanks leave a line without content. -/
theorem AtLine.reads_gaps {gaps : List Char} (h : s.AtLine records)
    (hgaps : ∀ c ∈ gaps, isGap c = true)
    (hnext : ∀ mode, mode = .startRecord ∧ gaps = [] ∨ mode = .blankLine →
      { s with mode }.Reads rest result) : s.Reads (gaps ++ rest) result := by
  cases gaps with
  | nil => simpa [← h.mode] using hnext .startRecord (.inl ⟨rfl, rfl⟩)
  | cons c gaps =>
    have hstep : s.step c (c :: (gaps ++ rest)) (gaps ++ rest) =
        .ok ({ s with mode := .blankLine }, gaps ++ rest) := by
      rcases isGap_iff.mp (hgaps c List.mem_cons_self) with rfl | rfl <;> simp [step, h.mode]
    exact .step hstep (Splitter.reads_gaps rfl (fun d hd => hgaps d (List.mem_cons_of_mem c hd))
      (hnext .blankLine (.inr rfl)))

variable {gaps : List Char}

/-- A line without content at the end of the text is passed over. -/
theorem AtLine.reads_blank (h : s.AtLine records) (hgaps : ∀ c ∈ gaps, isGap c = true) :
    s.Reads gaps (some records) := by
  rw [← List.append_nil gaps]
  refine h.reads_gaps hgaps fun mode hmode => Splitter.reads_nil_iff.mpr ?_
  have hrecords := congrArg some h.records_eq
  rcases hmode with ⟨rfl, -⟩ | rfl <;> exact hrecords

/-- A line without content up to a newline is passed over. -/
theorem AtLine.reads_blank_newline (h : s.AtLine records) (hgaps : ∀ c ∈ gaps, isGap c = true)
    (hnext : ∀ t : Splitter, t.AtLine records → t.lineStart = rest → t.Reads rest result) :
    s.Reads (gaps ++ '\n' :: rest) result := by
  refine h.reads_gaps hgaps fun mode hmode => ?_
  rcases hmode with ⟨rfl, -⟩ | rfl <;>
    exact .step rfl (hnext _ ⟨rfl, h.field, h.fields, h.records_eq⟩ rfl)

/-- A line without content up to a carriage return with a newline is passed over. -/
theorem AtLine.reads_blank_both (h : s.AtLine records) (hgaps : ∀ c ∈ gaps, isGap c = true)
    (hnext : ∀ t : Splitter, t.AtLine records → t.lineStart = rest → t.Reads rest result) :
    s.Reads (gaps ++ '\r' :: '\n' :: rest) result := by
  refine h.reads_gaps hgaps fun mode hmode => ?_
  rcases hmode with ⟨rfl, -⟩ | rfl <;>
    exact .step rfl (.step rfl (hnext _ ⟨rfl, h.field, h.fields, h.records_eq⟩ rfl))

/-- A line without content up to a carriage return alone is passed over, but the text is read again
from where it started, or from before that, if the next line starts with a blank. -/
theorem AtLine.reads_blank_return (h : s.AtLine records) (hgaps : ∀ c ∈ gaps, isGap c = true)
    (hrest : rest.head? ≠ some '\n')
    (hnext : ∀ t : Splitter, t.AtLine records → t.lineStart = s.lineStart → t.Reads rest result) :
    s.Reads (gaps ++ '\r' :: rest) result := by
  have hread := hnext (s.skipLine .startRecord) ⟨rfl, h.field, h.fields, h.records_eq⟩ rfl
  have hafter : (s.skipLine .afterBlankReturn).Reads rest result := by
    cases rest with
    | nil =>
      have hfinish := Splitter.reads_nil_iff.mp hread
      exact Splitter.reads_nil_iff.mpr hfinish
    | cons c after =>
      have hc : c ≠ '\n' := fun hc => hrest (congrArg some hc)
      exact .step (by simp [step, skipLine, hc]) hread
  refine h.reads_gaps hgaps fun mode hmode => ?_
  rcases hmode with ⟨rfl, -⟩ | rfl <;> exact .step rfl hafter

/-- A line that starts with a blank is read again as a field is, once it turns out to have content. -/
theorem AtLine.reads_back (h : s.AtLine records) (hgaps : ∀ c ∈ gaps, isGap c = true)
    (hsome : gaps ≠ []) (hc : isContent c = true)
    (hnext : ∀ t : Splitter, t.AtField records [] → t.Reads s.lineStart result) :
    s.Reads (gaps ++ c :: after) result := by
  have hne := isContent_iff.mp hc
  refine h.reads_gaps hgaps fun mode hmode => ?_
  rcases hmode with ⟨-, hnil⟩ | rfl
  · exact absurd hnil hsome
  · refine .step (by simp [step, hne]) (hnext { s with mode := .startField } ?_)
    exact ⟨rfl, h.field, by rw [h.fields]; rfl, h.records_eq⟩

end Line

end Splitter

end ChartScript.Attachment.Csv
