import ChartScript.Attachment.Csv
import ChartScript.Proofs.Data.Basic
/-!
# Reading a text to its end

A line is read again from where it started once it turns out to have content, and the blank lines
before it that ended with a carriage return are read again with it. In a line without content the
text from that start on bounds what is still to be read, elsewhere the text that is left does; so
the steps come to an end, within the number that is allowed, and what is read does not depend on
that number.
-/

namespace ChartScript.Attachment.Csv.Splitter

/-- Whether the splitter is in a line with content. -/
def Inside (s : Splitter) : Prop :=
  s.mode = .startField ∨ s.mode = .inField ∨ s.mode = .quoted ∨ s.mode = .afterQuote

/-- Whether the splitter is in a line without content, from which it may go back. -/
def MayReturn (s : Splitter) : Prop :=
  s.mode = .startRecord ∨ s.mode = .afterBlankReturn ∨ s.mode = .blankLine

/-- Where a step at a character leads. -/
inductive Goes (s : Splitter) (c : Char) (after : List Char) : Splitter → List Char → Prop where
  /-- On in a line with content. -/
  | inside {t : Splitter} (inside : t.Inside)
      (start : t.lineStart = s.lineStart ∨ t.lineStart = after) : Goes s c after t after
  /-- To the carriage return that ends such a line. -/
  | atReturn {t : Splitter} (inside : s.Inside) (mode : t.mode = .afterReturn)
      (start : t.lineStart = s.lineStart) : Goes s c after t after
  /-- To a new line after the character. -/
  | newLine {t : Splitter} (mode : t.mode = .startRecord) (start : t.lineStart = after) :
      Goes s c after t after
  /-- To a new line that the character starts. -/
  | newLineAt {t : Splitter} (inside : s.mode = .afterReturn) (mode : t.mode = .startRecord)
      (start : t.lineStart = c :: after) : Goes s c after t (c :: after)
  /-- On without content. -/
  | blank {t : Splitter} (inside : s.mode = .startRecord ∨ s.mode = .blankLine)
      (mode : t.mode = .afterBlankReturn ∨ t.mode = .blankLine)
      (start : t.lineStart = s.lineStart) : Goes s c after t after
  /-- To the line that the character starts after a blank one. -/
  | blankAt {t : Splitter} (inside : s.mode = .afterBlankReturn) (mode : t.mode = .startRecord)
      (start : t.lineStart = s.lineStart) : Goes s c after t (c :: after)
  /-- Back to where the line started. -/
  | back {t : Splitter} (inside : s.mode = .blankLine) (mode : t.mode = .startField)
      (start : t.lineStart = s.lineStart) : Goes s c after t s.lineStart

/-- The end of a record leaves the start of the line. -/
theorem lineStart_endRecord {s t : Splitter} (h : s.endRecord = .ok t) :
    t.lineStart = s.lineStart ∧ t.mode = .startRecord := by
  unfold endRecord at h
  dsimp only at h
  split at h
  · cases h
  · cases h
    exact ⟨rfl, rfl⟩

/-- Where a step leads. -/
theorem goes_step {s t : Splitter} {c : Char} {after rest : List Char}
    (ht : s.step c (c :: after) after = .ok (t, rest)) : s.Goes c after t rest := by
  unfold step at ht
  -- Only a newline sets the start of the line while it is read.
  by_cases hnewline : c = '\n'
  · subst hnewline
    cases hmode : s.mode with
    | startRecord | afterBlankReturn | blankLine =>
      simp only [hmode, if_true] at ht
      cases ht
      exact .newLine rfl rfl
    | afterReturn =>
      simp only [hmode, if_true] at ht
      obtain ⟨ended, hended, ht⟩ := ok_of_bind ht
      cases ht
      exact .newLine (lineStart_endRecord hended).2 rfl
    | quoted =>
      simp only [hmode] at ht
      cases ht
      exact .inside (by simp [Inside, push]) (.inr rfl)
    | startField | inField | afterQuote =>
      simp only [hmode] at ht
      obtain ⟨ended, hended, ht⟩ := ok_of_bind ht
      cases ht
      exact .newLine (lineStart_endRecord hended).2 rfl
  simp only [if_neg hnewline] at ht
  cases hmode : s.mode with
  | startRecord =>
    simp only [hmode] at ht
    split at ht
    · cases ht
      exact .blank (.inl hmode) (.inl rfl) rfl
    split at ht
    · cases ht
      exact .blank (.inl hmode) (.inr rfl) rfl
    repeat' split at ht
    all_goals
      cases ht
      exact .inside (by simp [Inside, push, endField]) (.inl rfl)
  | blankLine =>
    simp only [hmode] at ht
    split at ht
    · cases ht
      exact .blank (.inr hmode) (.inl rfl) rfl
    split at ht
    · cases ht
      exact .blank (.inr hmode) (.inr hmode) rfl
    · cases ht
      exact .back hmode rfl rfl
  | afterBlankReturn =>
    simp only [hmode] at ht
    cases ht
    exact .blankAt hmode rfl rfl
  | afterReturn =>
    simp only [hmode] at ht
    obtain ⟨ended, hended, ht⟩ := ok_of_bind ht
    split at ht
    · cases ht
      exact .inside (.inl rfl) (.inl (lineStart_endRecord hended).1)
    · cases ht
      exact .newLineAt hmode (lineStart_endRecord hended).2 rfl
  | quoted =>
    simp only [hmode] at ht
    split at ht
    all_goals
      cases ht
      exact .inside (by simp [Inside, push]) (.inl rfl)
  | startField | inField | afterQuote =>
    simp only [hmode] at ht
    split at ht
    · split at ht
      · cases ht
        exact .atReturn (by simp [Inside, hmode]) rfl rfl
      · cases ht
        exact .inside (.inl rfl) (.inl rfl)
    · repeat' split at ht
      all_goals
        cases ht
        exact .inside (by simp [Inside, push]) (.inl rfl)

/-- Whether all that is still to be read is within a bound. -/
structure Within (bound : Nat) (s : Splitter) (cs : List Char) : Prop where
  /-- The text that is left. -/
  left : cs.length ≤ bound
  /-- The text from which a line would be read again. -/
  again : s.lineStart.length ≤ bound
  /-- A line is not read again from further on. -/
  behind : s.MayReturn → cs.length ≤ s.lineStart.length

/-- A bound for the number of steps up to the end. Going back costs less than one character that
is read in a line with content. -/
def stepsLeft (bound : Nat) (s : Splitter) (cs : List Char) : Nat :=
  match s.mode with
  | .startRecord | .blankLine => (2 * bound + 2) * s.lineStart.length + 2 * cs.length
  | .afterBlankReturn => (2 * bound + 2) * s.lineStart.length + 2 * cs.length + 1
  | .afterReturn => (2 * bound + 2) * cs.length + 2 * cs.length + 1
  | _ => (2 * bound + 2) * cs.length

/-- The bound in a line with content. -/
theorem stepsLeft_inside {bound : Nat} {s : Splitter} {cs : List Char} (h : s.Inside) :
    stepsLeft bound s cs = (2 * bound + 2) * cs.length := by
  unfold stepsLeft
  rcases h with h | h | h | h <;> rw [h]

/-- No place is nearer to the end than a line with content with as much text left. -/
theorem stepsLeft_ge {bound : Nat} {s : Splitter} {cs : List Char} (h : Within bound s cs) :
    (2 * bound + 2) * cs.length ≤ stepsLeft bound s cs := by
  unfold stepsLeft
  have hbehind := h.behind
  cases hmode : s.mode with
  | startRecord | afterBlankReturn | blankLine =>
    have hfrom : cs.length ≤ s.lineStart.length := hbehind (by simp [MayReturn, hmode])
    have hstart := Nat.mul_le_mul_left (2 * bound + 2) hfrom
    dsimp only
    omega
  | afterReturn | startField | inField | quoted | afterQuote =>
    dsimp only
    omega

/-- From a line with content the splitter does not go back. -/
theorem Inside.not_mayReturn {s : Splitter} (h : s.Inside) : ¬ s.MayReturn := by
  rintro (hmay | hmay | hmay) <;> rcases h with h | h | h | h <;> rw [hmay] at h <;> cases h

/-- Each step leaves fewer steps up to the end. -/
theorem stepsLeft_step {bound : Nat} {s t : Splitter} {c : Char} {after rest : List Char}
    (h : Within bound s (c :: after)) (hstep : s.step c (c :: after) after = .ok (t, rest)) :
    Within bound t rest ∧ stepsLeft bound t rest < stepsLeft bound s (c :: after) := by
  have hge := stepsLeft_ge h
  obtain ⟨hleft, hagain, hbehind⟩ := h
  rw [List.length_cons] at hleft hbehind hge
  rw [Nat.mul_succ] at hge
  cases goes_step hstep with
  | inside hinside hstart =>
    have hagain' : t.lineStart.length ≤ bound := by
      rcases hstart with hstart | hstart <;> rw [hstart] <;> omega
    rw [stepsLeft_inside hinside]
    exact ⟨⟨by omega, hagain', fun hmay => absurd hmay hinside.not_mayReturn⟩, by omega⟩
  | atReturn hinside hmode hstart =>
    have hbound : stepsLeft bound t after = (2 * bound + 2) * after.length + 2 * after.length + 1 := by
      unfold stepsLeft
      rw [hmode]
    refine ⟨⟨by omega, hstart ▸ hagain, fun hmay => ?_⟩, by omega⟩
    rcases hmay with hmay | hmay | hmay <;> rw [hmode] at hmay <;> cases hmay
  | newLine hmode hstart =>
    have hbound : stepsLeft bound t after = (2 * bound + 2) * after.length + 2 * after.length := by
      unfold stepsLeft
      rw [hmode, hstart]
    have hsame : t.lineStart.length = after.length := congrArg List.length hstart
    exact ⟨⟨by omega, by omega, fun _ => Nat.le_of_eq hsame.symm⟩, by omega⟩
  | newLineAt hinside hmode hstart =>
    have hsame : t.lineStart.length = after.length + 1 := congrArg List.length hstart
    refine ⟨⟨hleft, by omega, fun _ => Nat.le_of_eq hsame.symm⟩, ?_⟩
    unfold stepsLeft
    rw [hmode, hstart, hinside]
    exact Nat.lt_succ_self _
  | blank hinside hmode hstart =>
    have hfrom := hbehind (by rcases hinside with h | h <;> simp [MayReturn, h])
    refine ⟨⟨by omega, hstart ▸ hagain, fun _ => by rw [hstart]; omega⟩, ?_⟩
    unfold stepsLeft
    rcases hinside with hinside | hinside <;> rcases hmode with hmode | hmode <;>
      rw [hinside, hmode, hstart] <;> dsimp only [List.length_cons] <;> omega
  | blankAt hinside hmode hstart =>
    refine ⟨⟨hleft, hstart ▸ hagain, fun _ => hstart ▸ hbehind (.inr (.inl hinside))⟩, ?_⟩
    unfold stepsLeft
    rw [hmode, hinside, hstart]
    exact Nat.lt_succ_self _
  | back hinside hmode hstart =>
    have ht : t.Inside := .inl hmode
    have hbound : stepsLeft bound s (c :: after) =
        (2 * bound + 2) * s.lineStart.length + 2 * (after.length + 1) := by
      unfold stepsLeft
      rw [hinside]
      rfl
    rw [stepsLeft_inside ht]
    exact ⟨⟨hagain, hstart ▸ hagain, fun hmay => absurd hmay ht.not_mayReturn⟩, by omega⟩

/-- A text that has ended is read no further. -/
theorem run_nil (fuel : Nat) (s : Splitter) : run fuel s [] = s.finish := by
  cases fuel <;> rfl

/-- What is read does not depend on the number of steps, once they lead up to the end. -/
theorem run_eq_run {bound fuel more : Nat} {s : Splitter} {cs : List Char} (h : Within bound s cs)
    (hfuel : stepsLeft bound s cs ≤ fuel) (hmore : stepsLeft bound s cs ≤ more) :
    run fuel s cs = run more s cs := by
  induction fuel generalizing s cs more with
  | zero =>
    have hge := stepsLeft_ge h
    cases cs with
    | nil => rw [run_nil, run_nil]
    | cons c after =>
      rw [List.length_cons, Nat.mul_succ] at hge
      omega
  | succ fuel ih =>
    cases cs with
    | nil => rw [run_nil, run_nil]
    | cons c after =>
      have hge := stepsLeft_ge h
      rw [List.length_cons, Nat.mul_succ] at hge
      obtain ⟨more, rfl⟩ : ∃ n, more = n + 1 := ⟨more - 1, by omega⟩
      unfold run
      cases hstep : s.step c (c :: after) after with
      | error fault => rfl
      | ok reached =>
        obtain ⟨hwithin, hless⟩ := stepsLeft_step h hstep
        exact ih hwithin (by omega) (by omega)

/-- What is read from a state on, if it is read to its end. -/
def Reads (s : Splitter) (cs : List Char) (result : Option (List (List String))) : Prop :=
  ∃ bound, ∀ fuel, bound ≤ fuel → (run fuel s cs).toOption = result

section Reads

variable {s t : Splitter} {c : Char} {cs after rest : List Char}
  {result : Option (List (List String))}

/-- What is read where a text has ended. -/
theorem reads_nil_iff : s.Reads [] result ↔ s.finish.toOption = result := by
  refine ⟨fun ⟨bound, hbound⟩ => ?_, fun h => ⟨0, fun fuel _ => by rw [run_nil, h]⟩⟩
  rw [← hbound bound (Nat.le_refl _), run_nil]

/-- What is read after a step is read before it. -/
theorem Reads.step (hstep : s.step c (c :: after) after = .ok (t, rest)) (h : t.Reads rest result) :
    s.Reads (c :: after) result := by
  obtain ⟨bound, hbound⟩ := h
  refine ⟨bound + 1, fun fuel hfuel => ?_⟩
  obtain ⟨fuel, rfl⟩ : ∃ n, fuel = n + 1 := ⟨fuel - 1, by omega⟩
  unfold run
  rw [hstep]
  exact hbound fuel (by omega)

/-- What is read after the same step is the same. -/
theorem Reads.congr (hstep : s.step c (c :: after) after = t.step c (c :: after) after)
    (h : t.Reads (c :: after) result) : s.Reads (c :: after) result := by
  obtain ⟨bound, hbound⟩ := h
  refine ⟨bound + 1, fun fuel hfuel => ?_⟩
  obtain ⟨fuel, rfl⟩ : ∃ n, fuel = n + 1 := ⟨fuel - 1, by omega⟩
  rw [← hbound (fuel + 1) (by omega)]
  unfold run
  rw [hstep]

/-- Nothing is read where a step fails. -/
theorem Reads.fail {fault : Fault} (hstep : s.step c (c :: after) after = .error fault) :
    s.Reads (c :: after) none := by
  refine ⟨1, fun fuel hfuel => ?_⟩
  obtain ⟨fuel, rfl⟩ : ∃ n, fuel = n + 1 := ⟨fuel - 1, by omega⟩
  unfold run
  rw [hstep]
  rfl

end Reads

end Splitter

/-- The number of steps that is allowed leads up to the end. -/
theorem records_of_reads {text : String} {result : Option (List (List String))}
    (h : (Splitter.start (dropMark text.toList)).Reads (dropMark text.toList) result) :
    (records text).toOption = result := by
  obtain ⟨bound, hbound⟩ := h
  unfold records
  dsimp only
  generalize dropMark text.toList = cs at hbound ⊢
  have hwithin : Splitter.Within cs.length (.start cs) cs :=
    ⟨Nat.le_refl _, Nat.le_refl _, fun _ => Nat.le_refl _⟩
  have hsteps : Splitter.stepsLeft cs.length (.start cs) cs ≤ 2 * (cs.length + 2) * (cs.length + 2) := by
    have hstart : Splitter.stepsLeft cs.length (.start cs) cs =
        (2 * cs.length + 2) * cs.length + 2 * cs.length := rfl
    have hless : (2 * cs.length + 2) * cs.length ≤ 2 * (cs.length + 2) * cs.length :=
      Nat.mul_le_mul_right _ (by omega)
    have hmore : 2 * (cs.length + 2) * (cs.length + 2) =
        2 * (cs.length + 2) * cs.length + 2 * (cs.length + 2) * 2 := Nat.mul_add _ _ _
    omega
  have hsame := Splitter.run_eq_run hwithin hsteps (Nat.le_trans hsteps (Nat.le_max_right bound _))
  rw [hsame]
  exact hbound _ (Nat.le_max_left _ _)

end ChartScript.Attachment.Csv
