import Mathlib.Data.List.GetD
import Mathlib.Data.List.Nodup
import Mathlib.Data.List.Perm.Subperm
import Mathlib.Data.List.TakeWhile
import ChartScript.Attachment.Csv
import ChartScript.Proofs.Data.Assoc
import ChartScript.Proofs.Data.Basic
/-!
# The columns of a table

Every row of a table that was read from a text has a cell for each column, in their order, and
for no other, and no two columns have the same name. For the first, all records after the header
come out equally long, and at least as long as the header; for the second, every name that is
treated is counted, so that a name without a count is new and any other is replaced by one that
the header does not have.
-/

namespace ChartScript.Attachment.Csv

/-- Whether all records after the first are equally long, and at least as long as the first. -/
def Level : List (List String) → Prop
  | [] => True
  | header :: rows => ∃ width, header.length ≤ width ∧ ∀ row ∈ rows, row.length = width

/-- A record that is filled up, or that is not too long, leaves the records level. -/
theorem level_concat {records : List (List String)} (h : Level records) {fields : List String}
    (hshort : 2 ≤ records.length → fields.length ≤ (records.getLast?.map List.length).getD 0) :
    Level (records ++ [fields ++
      List.replicate ((records.getLast?.map List.length).getD 0 - fields.length) ""]) := by
  cases records with
  | nil => exact ⟨_, Nat.le_refl _, fun row hrow => absurd hrow List.not_mem_nil⟩
  | cons header rows =>
    obtain ⟨width, hwidth, hrows⟩ := h
    rw [List.getLast?_cons, Option.map_some, Option.getD_some] at hshort ⊢
    cases hlast : rows.getLast? with
    | none =>
      -- The second record may be as long as it likes, and sets the width of all that follow.
      rw [List.getLast?_eq_none_iff] at hlast
      subst hlast
      refine ⟨_, ?_, fun row hrow => congrArg List.length (List.mem_singleton.mp hrow)⟩
      rw [Option.getD_none, List.length_append, List.length_replicate]
      omega
    | some last =>
      have hmem := List.mem_of_getLast? hlast
      have hlength := hrows last hmem
      rw [hlast, Option.getD_some, hlength] at hshort
      rw [Option.getD_some, hlength]
      have hfits := hshort (by rw [List.length_cons]; have := List.length_pos_of_mem hmem; omega)
      refine ⟨width, hwidth, fun row hrow => ?_⟩
      rcases List.mem_append.mp hrow with hrow | hrow
      · exact hrows row hrow
      · rw [List.mem_singleton.mp hrow, List.length_append, List.length_replicate]
        omega

namespace Splitter

/-- The end of a record leaves the records level. -/
theorem level_endRecord {s t : Splitter} (h : Level s.records.reverse) (ht : s.endRecord = .ok t) :
    Level t.records.reverse := by
  unfold endRecord at ht
  dsimp only at ht
  split at ht
  · cases ht
  · rename_i hfits
    cases ht
    dsimp only
    rw [List.reverse_cons]
    have hlast : s.records.head? = s.records.reverse.getLast? := by simp
    rw [hlast] at hfits ⊢
    refine level_concat h fun hmany => ?_
    rw [List.length_reverse] at hmany
    exact Nat.not_lt.mp fun hlong => hfits ⟨hmany, hlong⟩

/-- Whether the records are left, or one more has ended. -/
def Follows (s t : Splitter) : Prop :=
  t.records = s.records ∨
    ∃ u v : Splitter, u.records = s.records ∧ u.endRecord = .ok v ∧ t.records = v.records

/-- A step reads on in the open record, or ends it. -/
theorem follows_step {s t : Splitter} {c : Char} {rest after remaining : List Char}
    (ht : s.step c rest after = .ok (t, remaining)) : s.Follows t := by
  unfold step at ht
  cases hmode : s.mode with
  | startRecord | quoted | afterBlankReturn | blankLine =>
    rw [hmode] at ht
    dsimp only at ht
    repeat' split at ht
    all_goals
      cases ht
      exact Or.inl rfl
  | afterReturn =>
    rw [hmode] at ht
    obtain ⟨ended, hended, ht⟩ := ok_of_bind ht
    refine Or.inr ⟨s, ended, rfl, hended, ?_⟩
    repeat' split at ht
    all_goals
      cases ht
      rfl
  | startField | inField | afterQuote =>
    rw [hmode] at ht
    dsimp only at ht
    split at ht
    · split at ht
      · obtain ⟨ended, hended, ht⟩ := ok_of_bind ht
        refine Or.inr ⟨s.endField .startRecord, ended, rfl, hended, ?_⟩
        cases ht
        rfl
      · repeat' split at ht
        all_goals
          cases ht
          exact Or.inl rfl
    · repeat' split at ht
      all_goals
        cases ht
        exact Or.inl rfl

/-- The records stay level from step to step. -/
theorem Follows.level {s t : Splitter} (hst : s.Follows t) (h : Level s.records.reverse) :
    Level t.records.reverse := by
  rcases hst with hsame | ⟨u, v, hu, hv, ht⟩
  · rw [hsame]
    exact h
  · rw [ht]
    exact level_endRecord (hu ▸ h) hv

/-- The records are level when a text ends. -/
theorem level_finish {s : Splitter} (h : Level s.records.reverse) {records : List (List String)}
    (hf : s.finish = .ok records) : Level records := by
  have hended {u : Splitter} (hu : u.records = s.records)
      (hrecords : u.endRecord.map (fun t => t.records.reverse) = .ok records) : Level records := by
    obtain ⟨t, ht, rfl⟩ := ok_of_map hrecords
    exact level_endRecord (hu ▸ h) ht
  unfold finish at hf
  cases hmode : s.mode with
  | startRecord | afterBlankReturn | blankLine =>
    rw [hmode] at hf
    cases hf
    exact h
  | quoted =>
    rw [hmode] at hf
    cases hf
  | afterReturn =>
    rw [hmode] at hf
    exact hended rfl hf
  | startField | inField | afterQuote =>
    rw [hmode] at hf
    exact hended (u := s.endField .startRecord) rfl hf

/-- The records of a text are level, however far it is read. -/
theorem level_run {fuel : Nat} {s : Splitter} {cs : List Char} {records : List (List String)}
    (h : Level s.records.reverse) (hr : run fuel s cs = .ok records) : Level records := by
  induction fuel generalizing s cs with
  | zero => exact level_finish h hr
  | succ fuel ih =>
    cases cs with
    | nil => exact level_finish h hr
    | cons c after =>
      unfold run at hr
      cases hstep : s.step c (c :: after) after with
      | error fault =>
        rw [hstep] at hr
        cases hr
      | ok reached =>
        rw [hstep] at hr
        exact ih ((follows_step hstep).level h) hr

end Splitter

/-- The records of a text are level. -/
theorem level_records {text : String} {records : List (List String)}
    (h : Csv.records text = .ok records) : Level records :=
  Splitter.level_run (s := .start (dropMark text.toList)) trivial h

section Names

variable {header : List String} {name : String}

/-- A name with a number. -/
def numbered (name : String) (n : Nat) : String := name ++ "." ++ toString n

/-- Names with different numbers are different. -/
theorem numbered_injective (name : String) : Function.Injective (numbered name) := by
  intro m n h
  have hlist := congrArg String.toList h
  simp only [numbered, String.toList_append, List.append_cancel_left_eq] at hlist
  exact toString_injective (String.toList_injective hlist)

/-- The search for a name ends at one that the header does not have, or has seen only names
that it has. -/
theorem freshName_or (header : List String) (name : String) (fuel count : Nat) :
    (freshName header name fuel count).1 ∉ header ∨
      ∀ k, k ≤ fuel → numbered name (count + k) ∈ header := by
  induction fuel generalizing count with
  | zero =>
    by_cases hthere : numbered name count ∈ header
    · refine Or.inr fun k hk => ?_
      rw [Nat.le_zero.mp hk, Nat.add_zero]
      exact hthere
    · exact Or.inl hthere
  | succ fuel ih =>
    unfold freshName
    dsimp only
    split
    · rename_i hthere
      rcases ih (count + 1) with hnew | hall
      · exact Or.inl hnew
      · refine Or.inr fun k hk => ?_
        cases k with
        | zero => exact List.contains_iff_mem.mp hthere
        | succ k =>
          have hnext := hall k (Nat.le_of_succ_le_succ hk)
          rwa [Nat.add_assoc, Nat.add_comm 1 k] at hnext
    · rename_i hnew
      exact Or.inl fun hmem => hnew (List.contains_iff_mem.mpr hmem)

/-- No header has all the names among which a new one is sought. -/
theorem freshName_notMem (header : List String) (name : String) (count : Nat) :
    (freshName header name header.length count).1 ∉ header := by
  rcases freshName_or header name header.length count with hnew | hall
  · exact hnew
  · have hnodup : ((List.range (header.length + 1)).map fun k => numbered name (count + k)).Nodup :=
      List.nodup_range.map fun m n h => Nat.add_left_cancel (numbered_injective name h)
    have hsub : ((List.range (header.length + 1)).map fun k => numbered name (count + k)) ⊆ header := by
      intro candidate hcandidate
      obtain ⟨k, hk, rfl⟩ := List.mem_map.mp hcandidate
      exact hall k (Nat.le_of_lt_succ (List.mem_range.mp hk))
    have hlength := (hnodup.subperm hsub).length_le
    rw [List.length_map, List.length_range] at hlength
    omega

/-- The names at some places have been treated: each is counted, and they are distinct. -/
structure Treated (size : Nat) (done : List Nat) (state : List String × List (String × Nat)) :
    Prop where
  /-- The header keeps its size. -/
  size_eq : state.1.length = size
  /-- The places are in the header. -/
  inside : ∀ i ∈ done, i < size
  /-- Their names are counted. -/
  counted : ∀ i ∈ done, state.1.getD i "" ∈ Assoc.keys state.2
  /-- Their names are distinct. -/
  distinct : (done.map fun i => state.1.getD i "").Nodup

/-- One more name is treated. -/
theorem Treated.renameAt {size : Nat} {done : List Nat} {state : List String × List (String × Nat)}
    (h : Treated size done state) {i : Nat} (hi : i < size) (hnew : i ∉ done) :
    Treated size (i :: done) (renameAt state i) := by
  obtain ⟨header, counts⟩ := state
  obtain ⟨hsize, hinside, hcounted, hdistinct⟩ := h
  dsimp only at hsize hcounted hdistinct
  have hbounds : ∀ j ∈ i :: done, j < size := by
    intro j hj
    rcases List.mem_cons.mp hj with rfl | hj
    · exact hi
    · exact hinside j hj
  unfold Csv.renameAt
  dsimp only
  cases hcount : Assoc.get? counts (header.getD i "") with
  | none =>
    -- A name without a count differs from all that were treated, which have one.
    have hfresh := (Assoc.get?_eq_none_iff _ _).mp hcount
    refine ⟨hsize, hbounds, fun j hj => ?_, ?_⟩
    · rw [Assoc.mem_keys_put]
      rcases List.mem_cons.mp hj with rfl | hj
      · exact Or.inl rfl
      · exact Or.inr (hcounted j hj)
    · rw [List.map_cons, List.nodup_cons]
      refine ⟨fun hmem => ?_, hdistinct⟩
      obtain ⟨j, hj, hsame⟩ := List.mem_map.mp hmem
      exact hfresh (hsame ▸ hcounted j hj)
  | some count =>
    dsimp only
    have hfresh := freshName_notMem header (header.getD i "") count
    generalize freshName header (header.getD i "") header.length count = found at hfresh ⊢
    obtain ⟨fresh, used⟩ := found
    have hat : (header.set i fresh).getD i "" = fresh := by
      rw [List.getD_eq_getElem?_getD, List.getElem?_set_self (hsize ▸ hi), Option.getD_some]
    have haway : ∀ j ∈ done, (header.set i fresh).getD j "" = header.getD j "" := by
      intro j hj
      have hne : i ≠ j := fun he => hnew (he ▸ hj)
      rw [List.getD_eq_getElem?_getD, List.getElem?_set_ne hne, ← List.getD_eq_getElem?_getD]
    have hsame : (done.map fun j => (header.set i fresh).getD j "") =
        done.map fun j => header.getD j "" := List.map_congr_left haway
    refine ⟨by rw [List.length_set, hsize], hbounds, fun j hj => ?_, ?_⟩
    · rw [Assoc.mem_keys_put, Assoc.mem_keys_put]
      rcases List.mem_cons.mp hj with rfl | hj
      · exact Or.inl hat
      · rw [haway j hj]
        exact Or.inr (Or.inr (hcounted j hj))
    · rw [List.map_cons, hat, hsame, List.nodup_cons]
      refine ⟨fun hmem => ?_, hdistinct⟩
      obtain ⟨j, hj, hname⟩ := List.mem_map.mp hmem
      have hlt : j < header.length := hsize ▸ hinside j hj
      rw [List.getD_eq_getElem _ _ hlt] at hname
      exact hfresh (hname ▸ List.getElem_mem hlt)

/-- All names at some places are treated in turn. -/
theorem Treated.foldl {size : Nat} {done order : List Nat} {state : List String × List (String × Nat)}
    (h : Treated size done state) (horder : ∀ i ∈ order, i < size) (hnodup : (order ++ done).Nodup) :
    Treated size (order.reverse ++ done) (order.foldl Csv.renameAt state) := by
  induction order generalizing done state with
  | nil => exact h
  | cons i rest ih =>
    have hmoved : (rest ++ i :: done).Nodup := List.perm_middle.nodup_iff.mpr hnodup
    have hnew : i ∉ done := fun hi =>
      (List.nodup_cons.mp hnodup).1 (List.mem_append_right rest hi)
    have hstep := h.renameAt (horder i List.mem_cons_self) hnew
    rw [List.foldl_cons, List.reverse_cons, List.append_assoc]
    exact ih hstep (fun j hj => horder j (List.mem_cons_of_mem i hj)) hmoved

/-- Each place of a header is treated once: those with a name first, then the empty ones. -/
theorem perm_treated (header : List String) :
    ((List.range header.length).filter (fun i => !(header.getD i "").isEmpty) ++
      (List.range header.length).filter fun i => (header.getD i "").isEmpty).Perm
        (List.range header.length) :=
  List.perm_append_comm.trans (List.filter_append_perm _ _)

/-- The names of the columns are as many as the header has, and distinct. -/
theorem columnNames_spec (header : List String) :
    (columnNames header).length = header.length ∧ (columnNames header).Nodup := by
  unfold columnNames
  dsimp only
  generalize hnamed : (header.mapIdx fun i name => if name.isEmpty then placeholder i else name) = named
  have hsize : named.length = header.length := by rw [← hnamed, List.length_mapIdx]
  have hstart : Treated header.length [] (named, []) :=
    ⟨hsize, fun _ h => absurd h List.not_mem_nil, fun _ h => absurd h List.not_mem_nil, List.nodup_nil⟩
  have hperm := perm_treated header
  have htreated := hstart.foldl (fun i hi => List.mem_range.mp (hperm.subset hi))
    (by rw [List.append_nil]; exact hperm.nodup_iff.mpr List.nodup_range)
  generalize List.foldl Csv.renameAt (named, []) _ = state at htreated ⊢
  obtain ⟨hlength, -, -, hdistinct⟩ := htreated
  refine ⟨hlength, ?_⟩
  have hall : state.1 = (List.range header.length).map fun i => state.1.getD i "" := by
    refine List.ext_getElem (by rw [List.length_map, List.length_range, hlength]) fun i hi _ => ?_
    rw [List.getElem_map, List.getElem_range, List.getD_eq_getElem _ _ hi]
  rw [List.append_nil] at hdistinct
  rw [hall]
  exact (((List.reverse_perm _).trans hperm).map _).nodup_iff.mp hdistinct

end Names

/-- Whether a text has no null character. -/
def NullFree (text : String) : Prop := '\x00' ∉ text.toList

section NullFree

variable {header : List String} {name field : String}

/-- A field is kept whole if and only if it has no null character. -/
theorem stored_eq_self_iff : stored field = field ↔ NullFree field := by
  have hlist : stored field = field ↔ field.toList.takeWhile (· != '\x00') = field.toList := by
    unfold stored
    rw [← String.toList_inj, String.toList_ofList]
  rw [hlist, List.takeWhile_eq_self_iff]
  refine ⟨fun h hmem => ?_, fun h c hc => ?_⟩
  · simpa using h _ hmem
  · simpa using fun hnull : c = '\x00' => h (hnull ▸ hc)

/-- What is kept of a field has no null character. -/
theorem nullFree_stored (field : String) : NullFree (stored field) := by
  unfold NullFree stored
  rw [String.toList_ofList]
  intro hmem
  simpa using List.mem_takeWhile_imp hmem

/-- A number is written without a null character. -/
theorem nullFree_toString (n : Nat) : NullFree (toString n) := by
  have hdigits : (toString n).toList = Nat.toDigits 10 n := Nat.toList_repr
  unfold NullFree
  rw [hdigits]
  exact fun hmem => absurd (Nat.isDigit_of_mem_toDigits (by decide) (by decide) hmem) (by decide)

/-- A name with a number has no more null characters than the name. -/
theorem NullFree.numbered (h : NullFree name) (n : Nat) : NullFree (numbered name n) := by
  unfold NullFree Csv.numbered
  rw [String.toList_append, String.toList_append]
  simpa [NullFree] using And.intro h (nullFree_toString n)

/-- The name of a column that the header leaves empty has no null character. -/
theorem nullFree_placeholder (index : Nat) : NullFree (placeholder index) := by
  unfold NullFree placeholder
  rw [String.toList_append]
  simpa [NullFree] using nullFree_toString index

/-- The name that is found for a repeated one has no more null characters. -/
theorem NullFree.freshName (h : NullFree name) (header : List String) (fuel count : Nat) :
    NullFree (freshName header name fuel count).1 := by
  induction fuel generalizing count with
  | zero => exact h.numbered count
  | succ fuel ih =>
    unfold Csv.freshName
    dsimp only
    split
    · exact ih (count + 1)
    · exact h.numbered count

/-- A name that is made distinct brings no null character into the header. -/
theorem nullFree_renameAt {state : List String × List (String × Nat)}
    (h : ∀ name ∈ state.1, NullFree name) (i : Nat) : ∀ name ∈ (renameAt state i).1, NullFree name := by
  obtain ⟨header, counts⟩ := state
  unfold renameAt
  dsimp only
  split
  · exact h
  · have hname : NullFree (header.getD i "") := by
      rw [List.getD_eq_getElem?_getD]
      cases hget : header[i]? with
      | none => exact List.not_mem_nil
      | some name => exact h name (List.mem_of_getElem? hget)
    intro name hmem
    rcases List.mem_or_eq_of_mem_set hmem with hmem | rfl
    · exact h name hmem
    · exact hname.freshName header header.length _

/-- Where no name of the header has a null character, no name of a column has one. -/
theorem nullFree_columnNames (h : ∀ name ∈ header, NullFree name) :
    ∀ name ∈ columnNames header, NullFree name := by
  have hfold (order : List Nat) {state : List String × List (String × Nat)}
      (hstate : ∀ name ∈ state.1, NullFree name) :
      ∀ name ∈ (order.foldl renameAt state).1, NullFree name := by
    induction order generalizing state with
    | nil => exact hstate
    | cons i order ih => exact ih (nullFree_renameAt hstate i)
  refine hfold _ fun name hname => ?_
  obtain ⟨i, hi, rfl⟩ := List.mem_mapIdx.mp hname
  split
  · exact nullFree_placeholder i
  · exact h _ (List.getElem_mem hi)

end NullFree

/-- A table whose columns are distinct and whose rows have a cell for each of them and no other. -/
structure Regular (table : Table) : Prop where
  /-- No two columns have the same name. -/
  distinct : table.columns.Nodup
  /-- The cells of a row are named by the columns, in order. -/
  keyed : ∀ row ∈ table.rows, Assoc.keys row = table.columns

/-- The table of level records is regular. -/
theorem regular_tableOf {records : List (List String)} (h : Level records) {table : Table}
    (ht : tableOf records = .ok table) : Regular table := by
  cases records with
  | nil => cases ht
  | cons header rows =>
    cases ht
    obtain ⟨hlength, hdistinct⟩ := columnNames_spec header
    obtain ⟨width, hwidth, hrows⟩ := h
    refine ⟨hdistinct, fun row hrow => ?_⟩
    obtain ⟨record, hrecord, rfl⟩ := List.mem_map.mp hrow
    have hfirst : (rows.head?.map List.length).getD 0 = width := by
      obtain ⟨first, more, rfl⟩ := List.exists_cons_of_ne_nil (List.ne_nil_of_mem hrecord)
      exact hrows first List.mem_cons_self
    -- As many labels are dropped as the records are longer than the header.
    refine List.map_fst_zip ?_
    rw [List.length_drop, hrows record hrecord, hlength, hfirst]
    omega

/-- The table of a text is regular. -/
theorem regular_parse {text : String} {table : Table} (h : parse text = .ok table) : Regular table := by
  unfold parse at h
  split at h
  · cases h
    exact ⟨List.nodup_nil, fun _ hrow => absurd hrow List.not_mem_nil⟩
  · obtain ⟨records, hrecords, h⟩ := ok_of_bind h
    exact regular_tableOf (level_records hrecords) h

end ChartScript.Attachment.Csv
