import ChartScript.Proofs.Attachment.Lines
import ChartScript.Proofs.Attachment.Store
/-!
# Which cells of a text are kept

The table of a text has a row for each record that is read after the header, and a record that is
read loses fields only at its front, as many as the first record after the header has more than the
header, and characters only after the first null character of a field. So a table has all cells of
its text if and only if no line of the text is passed over, that first record is not longer than the
header, and no field has a null character; a text is refused only for a quote that is never
closed, for lack of a record, or for a record that is longer than each of the first two.
-/

namespace ChartScript.Attachment.Csv

/-- A record that is filled up to a width. -/
def fill (width : Nat) (row : List String) : List String :=
  row ++ List.replicate (width - row.length) ""

/-- How many fields of each row stand in front of its cells: as many as the first record after the
header has more than the header. -/
def surplus : List (List String) → Nat
  | header :: first :: _ => first.length - header.length
  | _ => 0

/-- Whether there is a header, and no record from the third on is longer than both records before. -/
def Fits : List (List String) → Prop
  | [] => False
  | [_] => True
  | header :: first :: more => ∀ row ∈ more, row.length ≤ max header.length first.length

/-- Whether records fit can be checked. -/
instance : DecidablePred Fits
  | [] => isFalse id
  | [_] => isTrue trivial
  | header :: first :: more =>
    inferInstanceAs (Decidable (∀ row ∈ more, row.length ≤ max header.length first.length))

section Addition

/-- Rows are added after two records if none is longer than the last of them. -/
theorem foldlM_addRecord_rows {records rows : List (List String)} {width : Nat}
    (hmany : 2 ≤ records.length) (hlast : (records.getLast?.map List.length).getD 0 = width) :
    rows.foldlM addRecord records =
      if ∀ row ∈ rows, row.length ≤ width then some (records ++ rows.map (fill width)) else none := by
  induction rows generalizing records with
  | nil => simp
  | cons row rows ih =>
    rw [List.foldlM_cons]
    by_cases hlong : row.length ≤ width
    · have hadd : addRecord records row = some (records ++ [fill width row]) := by
        unfold addRecord
        dsimp only
        rw [hlast, if_neg fun h => Nat.not_lt.mpr hlong h.2]
        rfl
      have hwidth : (((records ++ [fill width row]).getLast?.map List.length).getD 0) = width := by
        rw [List.getLast?_concat, Option.map_some, Option.getD_some, fill, List.length_append,
          List.length_replicate]
        omega
      rw [hadd, Option.bind_eq_bind, Option.bind_some, ih (by simp; omega) hwidth]
      simp [hlong]
    · have hadd : addRecord records row = none := by
        unfold addRecord
        dsimp only
        rw [hlast, if_pos ⟨hmany, Nat.not_le.mp hlong⟩]
      rw [hadd]
      simp [hlong]

/-- The first record after the header sets the width to which all rows are filled up. -/
theorem foldlM_addRecord_rows_of_header (header first : List String) (more : List (List String)) :
    (header :: first :: more).foldlM addRecord [] =
      if Fits (header :: first :: more) then
        some (header :: (first :: more).map (fill (max header.length first.length)))
      else none := by
  have hheader : addRecord [] header = some [header] := by simp [addRecord]
  have hfirst : addRecord [header] first = some [header, fill (max header.length first.length) first] := by
    have hfill : header.length - first.length = max header.length first.length - first.length := by
      omega
    simp [addRecord, fill, hfill]
  have hlast : (([header, fill (max header.length first.length) first].getLast?.map
      List.length).getD 0) = max header.length first.length := by
    rw [List.getLast?_cons_cons, List.getLast?_singleton, Option.map_some, Option.getD_some, fill,
      List.length_append, List.length_replicate]
    omega
  rw [List.foldlM_cons, hheader, Option.bind_eq_bind, Option.bind_some, List.foldlM_cons, hfirst,
    Option.bind_eq_bind, Option.bind_some, foldlM_addRecord_rows (by simp) hlast]
  rfl

/-- The records that are read if they fit: all rows after the header are filled up to one width. -/
theorem foldlM_addRecord_of_fits {header : List String} {rows : List (List String)}
    (h : Fits (header :: rows)) :
    (header :: rows).foldlM addRecord [] =
      some (header :: rows.map (fill (header.length + surplus (header :: rows)))) := by
  cases rows with
  | nil => simp [addRecord]
  | cons first more =>
    have hwidth : header.length + (first.length - header.length) = max header.length first.length := by
      omega
    rw [foldlM_addRecord_rows_of_header, if_pos h, surplus, hwidth]

/-- Records that do not fit are not read, or there is none. -/
theorem foldlM_addRecord_of_not_fits {kept : List (List String)} (h : ¬ Fits kept) :
    kept.foldlM addRecord [] = none ∨ kept.foldlM addRecord [] = some [] := by
  match kept with
  | [] => exact .inr rfl
  | [header] => exact absurd trivial h
  | header :: first :: more =>
    rw [foldlM_addRecord_rows_of_header, if_neg h]
    exact .inl rfl

end Addition

section Names

variable {header : List String}

/-- Names that are distinct stay as they are, whatever the order in which they are treated. -/
theorem foldl_renameAt_of_nodup (hnodup : header.Nodup) {order : List Nat}
    {counts : List (String × Nat)} (hinside : ∀ i ∈ order, i < header.length)
    (honce : order.Nodup) (hnew : ∀ i ∈ order, header.getD i "" ∉ Assoc.keys counts) :
    (order.foldl renameAt (header, counts)).1 = header := by
  induction order generalizing counts with
  | nil => rfl
  | cons i order ih =>
    have hnone : Assoc.get? counts (header.getD i "") = none :=
      (Assoc.get?_eq_none_iff _ _).mpr (hnew i List.mem_cons_self)
    have hrename : renameAt (header, counts) i = (header, Assoc.put counts (header.getD i "") 1) := by
      unfold renameAt
      dsimp only
      rw [hnone]
    obtain ⟨hi, honce⟩ := List.nodup_cons.mp honce
    rw [List.foldl_cons, hrename]
    refine ih (fun j hj => hinside j (List.mem_cons_of_mem i hj)) honce fun j hj hmem => ?_
    rcases (Assoc.mem_keys_put _ _ _ _).mp hmem with hsame | hmem
    · have hij : j = i := by
        have hjlt := hinside j (List.mem_cons_of_mem i hj)
        have hilt := hinside i List.mem_cons_self
        rw [List.getD_eq_getElem _ _ hjlt, List.getD_eq_getElem _ _ hilt] at hsame
        exact (hnodup.getElem_inj_iff).mp hsame
      exact hi (hij ▸ hj)
    · exact hnew j (List.mem_cons_of_mem i hj) hmem

/-- Distinct names that are not empty name the columns. -/
theorem columnNames_of_nodup (hnodup : header.Nodup) (hfull : "" ∉ header) :
    columnNames header = header := by
  have hnamed : (header.mapIdx fun i name => if name.isEmpty then placeholder i else name) = header := by
    refine List.ext_getElem (by rw [List.length_mapIdx]) fun i hi hlt => ?_
    have hne : header[i].isEmpty = false := by
      refine Bool.eq_false_iff.mpr fun hempty => hfull ?_
      rw [← String.isEmpty_iff.mp hempty]
      exact List.getElem_mem hlt
    rw [List.getElem_mapIdx, hne]
    rfl
  have hperm := perm_treated header
  unfold columnNames
  dsimp only
  rw [hnamed]
  exact foldl_renameAt_of_nodup hnodup (fun i hi => List.mem_range.mp (hperm.subset hi))
    (hperm.nodup_iff.mpr List.nodup_range) fun i _ => List.not_mem_nil

end Names

/-- What a table has of some records: the columns are named by the header, and each record after it
is a row, whose cells are its fields after the surplus ones, or empty where there is none. -/
structure Tabulates (kept : List (List String)) (table : Table) : Prop where
  /-- The columns. -/
  columns_eq : table.columns = columnNames (kept.headD [])
  /-- The rows. -/
  rows_eq : table.rows = kept.tail.map fun row =>
    (columnNames (kept.headD [])).mapIdx fun j name => (name, row.getD (surplus kept + j) "")

section Table

/-- A record that is filled up has the fields that it had, and empty ones. -/
theorem getD_fill (width : Nat) (row : List String) (k : Nat) :
    (fill width row).getD k "" = row.getD k "" := by
  unfold fill
  by_cases hk : k < row.length
  · rw [List.getD_append _ _ _ _ hk]
  · rw [List.getD_append_right _ _ _ _ (Nat.not_lt.mp hk), List.getD_eq_default _ _ (Nat.not_lt.mp hk),
      List.getD_eq_getElem?_getD, List.getElem?_getD_replicate_default_eq]

/-- The cells of a record that is filled up, without the surplus fields. -/
theorem zip_drop_fill {columns row : List String} {width labels : Nat}
    (h : labels + columns.length ≤ width) :
    columns.zip ((fill width row).drop labels) =
      columns.mapIdx fun j name => (name, row.getD (labels + j) "") := by
  have hwide : width ≤ (fill width row).length := by
    rw [fill, List.length_append, List.length_replicate]
    omega
  refine List.ext_getElem ?_ fun j hzip hmap => ?_
  · rw [List.length_zip, List.length_drop, List.length_mapIdx]
    omega
  · have hin : labels + j < (fill width row).length := by
      rw [List.length_zip, List.length_drop] at hzip
      omega
    rw [List.getElem_zip, List.getElem_drop, List.getElem_mapIdx, ← getD_fill width,
      List.getD_eq_getElem _ _ hin]

/-- The table of the records that are read. -/
theorem tabulates_tableOf (header : List String) (rows : List (List String)) :
    ∃ table, tableOf (header :: rows.map (fill (header.length + surplus (header :: rows)))) = .ok table ∧
      Tabulates (header :: rows) table := by
  refine ⟨_, rfl, rfl, ?_⟩
  have hlabels : ((rows.map (fill (header.length + surplus (header :: rows)))).head?.map
      List.length).getD 0 - header.length = surplus (header :: rows) := by
    cases rows with
    | nil => exact Nat.zero_sub _
    | cons first more =>
      rw [List.map_cons, List.head?_cons, Option.map_some, Option.getD_some, surplus, fill,
        List.length_append, List.length_replicate]
      omega
  have hsize := (columnNames_spec header).1
  dsimp only
  rw [hlabels, List.map_map]
  refine List.map_congr_left fun row _ => ?_
  exact zip_drop_fill (by rw [hsize]; omega)

end Table

namespace Document

/-- The lines of a document. -/
def lines (d : Document) : List Line := d.linesFrom []

/-- The records of a document: one for each line. -/
def records (d : Document) : List (List String) := d.lines.map Line.fields

/-- The records of a document that are read, with what is kept of their fields. -/
def kept (d : Document) : List (List String) := d.keptFrom []

/-- Whether every quote is closed, and the records that are read fit. -/
def Readable (d : Document) : Prop := d.isClosed = true ∧ Fits d.kept

/-- A line has a field. -/
theorem fields_ne_nil {d : Document} {fields : List String} {line : Line}
    (h : line ∈ d.linesFrom fields) : line.fields ≠ [] := by
  induction d generalizing fields with
  | unclosed content => cases h
  | last field =>
    rw [linesFrom] at h
    split at h
    · cases h
    · rw [List.mem_singleton.mp h]
      simp
  | cell field mark rest ih =>
    rw [linesFrom] at h
    split at h
    · exact ih h
    · rcases List.mem_cons.mp h with rfl | h
      · simp
      · exact ih h

/-- As many records are read as there are lines only if no line is passed over. -/
theorem forall_not_skipped_of_length {d : Document} (h : d.kept.length = d.records.length) :
    ∀ line ∈ d.lines, line.skipped = false := by
  have hlength : (d.lines.filter fun line => !line.skipped).length = d.lines.length := by
    simpa [kept, keptFrom, records, lines] using h
  intro line hline
  simpa using List.length_filter_eq_length_iff.mp hlength line hline

/-- All records are read if no line is passed over. -/
theorem kept_eq_records {d : Document} (h : ∀ line ∈ d.lines, line.skipped = false) :
    d.kept = d.records.map (List.map stored) := by
  have hall : (d.lines.filter fun line => !line.skipped) = d.lines :=
    List.filter_eq_self.mpr fun line hline => by rw [h line hline]; rfl
  unfold kept keptFrom records
  rw [List.map_map]
  exact congrArg _ hall

end Document

section Parse

variable {d : Document} {text : String}

/-- A blank text has a table without columns and rows. -/
theorem parse_of_blank (h : isEmptyText text = true) : parse text = .ok ⟨[], []⟩ := by
  unfold parse
  rw [if_pos h]

/-- A text that is not blank has the table of the records that are read. -/
theorem parse_toOption (hd : d.Sound) (htext : d.text = dropMark text.toList)
    (hblank : isEmptyText text = false) :
    (parse text).toOption = (d.outcome [] []).bind fun records => (tableOf records).toOption := by
  rw [← records_eq_outcome hd htext]
  unfold parse
  rw [hblank]
  cases Csv.records text <;> rfl

/-- A text that can be read has the table of its records. -/
theorem parse_of_readable (hd : d.Sound) (htext : d.text = dropMark text.toList)
    (hblank : isEmptyText text = false) (h : d.Readable) :
    ∃ table, parse text = .ok table ∧ Tabulates d.kept table := by
  have hparse := parse_toOption hd htext hblank
  obtain ⟨hclosed, hfits⟩ := h
  unfold Document.outcome at hparse
  rw [if_pos hclosed] at hparse
  change (parse text).toOption = (d.kept.foldlM addRecord []).bind _ at hparse
  generalize d.kept = kept at hfits hparse ⊢
  cases kept with
  | nil => exact absurd hfits id
  | cons header rows =>
    obtain ⟨table, htable, htabulates⟩ := tabulates_tableOf header rows
    rw [foldlM_addRecord_of_fits hfits, Option.bind_some, htable] at hparse
    exact ⟨table, ok_of_toOption hparse, htabulates⟩

/-- A text that cannot be read has no table. -/
theorem parse_of_not_readable (hd : d.Sound) (htext : d.text = dropMark text.toList)
    (hblank : isEmptyText text = false) (h : ¬ d.Readable) : ∃ fault, parse text = .error fault := by
  refine error_of_toOption ?_
  rw [parse_toOption hd htext hblank]
  unfold Document.outcome
  split
  · rename_i hclosed
    rcases foldlM_addRecord_of_not_fits fun hfits => h ⟨hclosed, hfits⟩ with hkept | hkept
    · exact congrArg (Option.bind · _) hkept
    · exact congrArg (Option.bind · _) hkept
  · rfl

end Parse

/-- Whether a table has all cells of some records and no other: the columns are the header, there is
a row for each record, each cell is the field at its place, and no record has more fields than the
header. A record with fewer has empty cells at its end. -/
structure Faithful (header : List String) (rows : List (List String)) (table : Table) : Prop where
  /-- The columns. -/
  columns_eq : table.columns = header
  /-- The rows. -/
  rows_eq : table.rows = rows.map fun row => header.mapIdx fun j name => (name, row.getD j "")
  /-- The number of fields. -/
  within : ∀ row ∈ rows, row.length ≤ header.length

/-- The table of records that are all read has all their cells if no field is surplus. -/
theorem Tabulates.faithful {header : List String} {rows : List (List String)} {table : Table}
    (h : Tabulates (header :: rows) table) (hnodup : header.Nodup) (hfull : "" ∉ header)
    (hfits : Fits (header :: rows)) (hsurplus : surplus (header :: rows) = 0) :
    Faithful header rows table := by
  obtain ⟨hcolumns, hrows⟩ := h
  rw [hsurplus] at hrows
  simp only [List.headD_cons, columnNames_of_nodup hnodup hfull, List.tail_cons,
    Nat.zero_add] at hcolumns hrows
  refine ⟨hcolumns, hrows, fun row hrow => ?_⟩
  cases rows with
  | nil => exact absurd hrow List.not_mem_nil
  | cons first more =>
    have hfirst : first.length ≤ header.length := Nat.sub_eq_zero_iff_le.mp hsurplus
    rcases List.mem_cons.mp hrow with rfl | hrow
    · exact hfirst
    · exact (hfits row hrow).trans (Nat.max_le.mpr ⟨Nat.le_refl _, hfirst⟩)

/-- Records without null characters are kept whole. -/
theorem map_stored_of_nullFree {records : List (List String)}
    (h : ∀ record ∈ records, ∀ field ∈ record, NullFree field) :
    records.map (List.map stored) = records := by
  refine List.map_congr_left (g := id) (fun record hrecord => ?_) |>.trans (List.map_id records)
  refine List.map_congr_left (g := id) (fun field hfield => ?_) |>.trans (List.map_id record)
  exact stored_eq_self_iff.mpr (h record hrecord field hfield)

/-- What is surplus depends on the number of fields only. -/
theorem surplus_map_stored (records : List (List String)) :
    surplus (records.map (List.map stored)) = surplus records := by
  match records with
  | [] => rfl
  | [_] => rfl
  | header :: first :: more => simp [surplus]

/-- A table that has all cells of some records has them as they are kept, so no field of these has a
null character. -/
theorem Tabulates.nullFree {header : List String} {rows : List (List String)} {table : Table}
    (h : Tabulates ((header :: rows).map (List.map stored)) table)
    (hfaithful : Faithful header rows table) (hsurplus : surplus (header :: rows) = 0) :
    ∀ record ∈ header :: rows, ∀ field ∈ record, NullFree field := by
  obtain ⟨hcolumns, hrows⟩ := h
  rw [surplus_map_stored, hsurplus] at hrows
  simp only [List.map_cons, List.headD_cons, List.tail_cons, Nat.zero_add] at hcolumns hrows
  have hheader : ∀ name ∈ header, NullFree name := by
    have hstored : ∀ name ∈ header.map stored, NullFree name := by
      intro name hname
      obtain ⟨field, -, rfl⟩ := List.mem_map.mp hname
      exact nullFree_stored field
    have hnames := nullFree_columnNames hstored
    rwa [← hcolumns, hfaithful.columns_eq] at hnames
  intro record hrecord field hfield
  rcases List.mem_cons.mp hrecord with rfl | hrow
  · exact hheader field hfield
  · obtain ⟨j, hj, rfl⟩ := List.getElem_of_mem hfield
    have hin : j < header.length := Nat.lt_of_lt_of_le hj (hfaithful.within record hrow)
    have hcells := hrows.symm.trans hfaithful.rows_eq
    rw [← hcolumns, hfaithful.columns_eq, List.map_map] at hcells
    have hkept : stored record[j] = record[j] := by
      have hcell := congrArg (fun cells => cells[j]?) (List.map_inj_left.mp hcells record hrow)
      simpa [hin, hj] using hcell
    exact stored_eq_self_iff.mp hkept

end ChartScript.Attachment.Csv

namespace ChartScript.Attachment.Store

open Csv (Document Faithful Tabulates)

/-- What comes of the cells of a text that is added to a store, said of the document that the text is
written as. -/
structure Keeps (store : Store) (name text : String) (d : Document) : Prop where
  /-- The document is what the text is read as. -/
  sound : d.Sound
  /-- Its text is the given one, without a mark of byte order. -/
  text_eq : d.text = Csv.dropMark text.toList
  /-- No other document is. -/
  only : ∀ e : Document, e.Sound → e.text = Csv.dropMark text.toList → e = d
  /-- A blank text is stored as a table without columns and rows. -/
  blank : Csv.isEmptyText text = true → (store.add name text).1.table name = .ok ⟨[], []⟩
  /-- Any other is refused, and nothing changes, if and only if a quote is never closed, no record is
  read, or one from the third on is longer than each of the first two. -/
  refused : Csv.isEmptyText text = false →
    ((∃ failure, store.add name text = (store, .error failure)) ↔ ¬ d.Readable)
  /-- Else the records that are read are stored as a table, with a manifest that describes it. -/
  accepted : Csv.isEmptyText text = false → d.Readable → ∃ manifest table,
    (store.add name text).2 = .ok manifest ∧ (store.add name text).1.table name = .ok table ∧
      Describes name text table manifest ∧ Tabulates d.kept table
  /-- If the header of an accepted text has distinct names that are not empty, the stored table has
  all cells of the text and no other if and only if the text is not blank, no line is passed over,
  the first record after the header is not longer than it, and no field has a null character. -/
  faithful : ∀ header rows manifest, d.records = header :: rows → header.Nodup → "" ∉ header →
    (store.add name text).2 = .ok manifest →
      ((∃ table, (store.add name text).1.table name = .ok table ∧ Faithful header rows table) ↔
        Csv.isEmptyText text = false ∧ (∀ line ∈ d.lines, line.skipped = false) ∧
          Csv.surplus d.records = 0 ∧ ∀ record ∈ d.records, ∀ field ∈ record, Csv.NullFree field)

variable {store : Store} {name text : String} {d : Document}

/-- The table of a text that was added. -/
theorem table_add {table : Table} (h : Csv.parse text = .ok table) :
    (store.add name text).1.table name = .ok table := by
  rw [add_of_table h]
  unfold Store.table
  rw [Assoc.get?_put, if_pos rfl]

/-- The table of the records that are read has all cells of the text if and only if no line is passed
over, no field is surplus, and each field is kept whole. -/
theorem faithful_iff {header : List String} {rows : List (List String)} {table : Table}
    (hrecords : d.records = header :: rows) (hnodup : header.Nodup) (hfull : "" ∉ header)
    (hread : d.Readable) (htable : Tabulates d.kept table) :
    Faithful header rows table ↔
      (∀ line ∈ d.lines, line.skipped = false) ∧ Csv.surplus d.records = 0 ∧
        ∀ record ∈ d.records, ∀ field ∈ record, Csv.NullFree field := by
  constructor
  · intro hfaithful
    have hkept : d.kept ≠ [] := fun h => by
      have hfits := hread.2
      rw [h] at hfits
      exact hfits
    have hlength : d.kept.length = d.records.length := by
      have hrows := congrArg List.length (htable.rows_eq.symm.trans hfaithful.rows_eq)
      rw [List.length_map, List.length_map, List.length_tail] at hrows
      have hpos := List.length_pos_of_ne_nil hkept
      rw [hrecords, List.length_cons]
      omega
    have hlines := Document.forall_not_skipped_of_length hlength
    have hsurplus : Csv.surplus (header :: rows) = 0 := by
      cases rows with
      | nil => rfl
      | cons first more => exact Nat.sub_eq_zero_of_le (hfaithful.within first List.mem_cons_self)
    rw [Document.kept_eq_records hlines, hrecords] at htable
    rw [hrecords]
    exact ⟨hlines, hsurplus, htable.nullFree hfaithful hsurplus⟩
  · rintro ⟨hlines, hsurplus, hwhole⟩
    have hkept : d.kept = header :: rows := by
      rw [Document.kept_eq_records hlines, Csv.map_stored_of_nullFree hwhole, hrecords]
    rw [hrecords] at hsurplus
    have hfits := hread.2
    rw [hkept] at htable hfits
    exact htable.faithful hnodup hfull hfits hsurplus

/-- A text that is not blank is refused if and only if it cannot be read. -/
theorem refused_add_iff (hd : d.Sound) (htext : d.text = Csv.dropMark text.toList)
    (hblank : Csv.isEmptyText text = false) :
    (∃ failure, store.add name text = (store, .error failure)) ↔ ¬ d.Readable := by
  constructor
  · rintro ⟨failure, hfailure⟩ hread
    obtain ⟨table, hparse, -⟩ := Csv.parse_of_readable hd htext hblank hread
    rw [add_of_table hparse] at hfailure
    exact nomatch congrArg Prod.snd hfailure
  · intro hread
    obtain ⟨fault, hparse⟩ := Csv.parse_of_not_readable hd htext hblank hread
    exact ⟨_, add_of_fault hparse⟩

/-- A text that is not blank and can be read is stored as the table of its records. -/
theorem accepted_add (hd : d.Sound) (htext : d.text = Csv.dropMark text.toList)
    (hblank : Csv.isEmptyText text = false) (hread : d.Readable) : ∃ manifest table,
      (store.add name text).2 = .ok manifest ∧ (store.add name text).1.table name = .ok table ∧
        Describes name text table manifest ∧ Tabulates d.kept table := by
  obtain ⟨table, hparse, htable⟩ := Csv.parse_of_readable hd htext hblank hread
  refine ⟨.describe name text table, table, ?_, table_add hparse, describes_describe name text table,
    htable⟩
  rw [add_of_table hparse]

/-- When the table that is stored of an accepted text has all its cells. -/
theorem faithful_add_iff {header : List String} {rows : List (List String)} {manifest : Manifest}
    (hd : d.Sound) (htext : d.text = Csv.dropMark text.toList) (hrecords : d.records = header :: rows)
    (hnodup : header.Nodup) (hfull : "" ∉ header) (hadded : (store.add name text).2 = .ok manifest) :
    (∃ table, (store.add name text).1.table name = .ok table ∧ Faithful header rows table) ↔
      Csv.isEmptyText text = false ∧ (∀ line ∈ d.lines, line.skipped = false) ∧
        Csv.surplus d.records = 0 ∧ ∀ record ∈ d.records, ∀ field ∈ record, Csv.NullFree field := by
  cases hblank : Csv.isEmptyText text with
  | true =>
    have hheader : header ≠ [] := by
      have hmem : header ∈ d.records := by rw [hrecords]; exact List.mem_cons_self
      obtain ⟨line, hline, rfl⟩ := List.mem_map.mp hmem
      exact Document.fields_ne_nil hline
    refine iff_of_false ?_ fun h => nomatch h.1
    rintro ⟨table, htable, hfaithful⟩
    cases (table_add (Csv.parse_of_blank hblank)).symm.trans htable
    exact hheader hfaithful.columns_eq.symm
  | false =>
    have hread : d.Readable := by
      by_contra hread
      obtain ⟨failure, hfailure⟩ := (refused_add_iff hd htext hblank).mpr hread
      rw [hfailure] at hadded
      cases hadded
    obtain ⟨table, hparse, htable⟩ := Csv.parse_of_readable hd htext hblank hread
    rw [← faithful_iff hrecords hnodup hfull hread htable]
    refine ⟨fun ⟨found, hfound, hfaithful⟩ => ⟨rfl, ?_⟩,
      fun ⟨_, hfaithful⟩ => ⟨table, table_add hparse, hfaithful⟩⟩
    cases (table_add hparse).symm.trans hfound
    exact hfaithful

/-- Every text is written as one document, and what is stored of it, when it is added, is told by the
lines of that document: which of them are passed over, and how long its records are. -/
theorem exists_keeps_add (store : Store) (name text : String) :
    ∃ d : Document, Keeps store name text d := by
  obtain ⟨d, ⟨hd, htext⟩, honly⟩ := Csv.existsUnique_document (Csv.dropMark text.toList)
  refine ⟨d, hd, htext, fun e he hsame => honly e ⟨he, hsame⟩,
    fun hblank => table_add (Csv.parse_of_blank hblank), refused_add_iff hd htext,
    accepted_add hd htext, fun header rows manifest hrecords hnodup hfull hadded => ?_⟩
  exact faithful_add_iff hd htext hrecords hnodup hfull hadded

/-- Where the first record after the header has one field more, each row loses its first field. -/
example : (Csv.parse "a,b\n1,2,3\n").toOption.map Table.rows = some [[("a", "2"), ("b", "3")]] := by
  decide +kernel

end ChartScript.Attachment.Store
