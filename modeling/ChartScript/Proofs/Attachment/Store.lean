import Mathlib.Data.List.Induction
import ChartScript.Attachment.Store
import ChartScript.Proofs.Attachment.Columns
import ChartScript.Proofs.Schema.Recovery
/-!
# What an attachment store keeps

Tables and manifests are kept apart and written one after the other, but only once a text was
read, and its table and its manifest were made and checked. The checks never refuse: all that can
fail is the reading. So after any additions, whether they were accepted or refused, both sides
have the same names, and under each name there is what the last accepted text for it describes.
-/

namespace ChartScript.Attachment

open Schema (Recovers)

section Making

/-- A table is recovered from its fields. -/
theorem recovers_table : Recovers Table.check fun t => t.view.dump := by
  intro t
  have hcolumns : Schema.listOf Schema.text (Wire.texts t.columns) = .valid t.columns :=
    Schema.recovers_text.listOf t.columns
  have hrows : Schema.listOf (Schema.dictOf Schema.text) (.list (t.rows.map Table.rowData)) =
      .valid t.rows := Schema.recovers_text.dictOf.listOf t.rows
  have hread : Table.check t.view.dump =
      (((Schema.listOf Schema.text (Wire.texts t.columns)).under (.field "columns")).map Table.mk).ap
        ((Schema.listOf (Schema.dictOf Schema.text) (.list (t.rows.map Table.rowData))).under
          (.field "rows")) := rfl
  rw [hread, hcolumns, hrows]
  rfl

/-- A manifest is recovered from its fields. -/
theorem recovers_manifest : Recovers Manifest.check fun m => m.view.dump := by
  intro m
  have hcolumns : Schema.listOf Schema.text (Wire.texts m.columns) = .valid m.columns :=
    Schema.recovers_text.listOf m.columns
  have hread : Manifest.check m.view.dump =
      ((Schema.Checked.valid (Manifest.mk m.name m.size m.checksum)).ap
        ((Schema.listOf Schema.text (Wire.texts m.columns)).under (.field "columns"))).ap
          (.valid m.rowCount) := rfl
  rw [hread, hcolumns]
  rfl

/-- A record that is recovered from its fields is made as it is. -/
theorem made_of_recovers {α : Type} {check : Schema.Check α} {view : α → Schema.RecordView}
    (h : Recovers check fun a => (view a).dump) (a : α) : made check view a = .ok a := by
  unfold made
  rw [h a]

/-- A text is refused only because it has no table. -/
theorem admission_eq (name text : String) :
    admission name text = match Csv.parse text with
      | .error fault => .error fault.failure
      | .ok table => .ok (table, .describe name text table) := by
  unfold admission
  cases Csv.parse text with
  | error fault => rfl
  | ok table =>
    simp only [Except.mapError, bind, Except.bind, made_of_recovers recovers_table,
      made_of_recovers recovers_manifest]
    rfl

end Making

namespace Store

variable {store : Store} {name text : String}

/-- A text that has no table is refused, and changes nothing. -/
theorem add_of_fault {fault : Csv.Fault} (h : Csv.parse text = .error fault) :
    store.add name text = (store, .error fault.failure) := by
  unfold add
  rw [admission_eq, h]

/-- A text that has a table is accepted, and stored with its manifest. -/
theorem add_of_table {table : Table} (h : Csv.parse text = .ok table) :
    store.add name text =
      (⟨Assoc.put store.tables name table,
        Assoc.put store.manifests name (.describe name text table)⟩,
          .ok (.describe name text table)) := by
  unfold add
  rw [admission_eq, h]

/-- The store after additions, whether they are accepted or refused. -/
def addEach (store : Store) (calls : List (String × String)) : Store :=
  calls.foldl (fun s call => (s.add call.1 call.2).1) store

/-- What the last accepted text under a name is, and its table. -/
def lastAccepted? (calls : List (String × String)) (name : String) : Option (String × Table) :=
  calls.reverse.findSome? fun call =>
    if call.1 = name then (Csv.parse call.2).toOption.map fun table => (call.2, table) else none

/-- One more text is the last one under its name, if it is accepted. -/
theorem lastAccepted?_concat (calls : List (String × String)) (call : String × String) (name : String) :
    lastAccepted? (calls ++ [call]) name =
      (if call.1 = name then (Csv.parse call.2).toOption.map fun table => (call.2, table)
        else none).or (lastAccepted? calls name) := by
  unfold lastAccepted?
  rw [List.reverse_concat, List.findSome?_cons]
  split <;> simp [*]

/-- What is stored after additions. -/
structure Holds (calls : List (String × String)) (store : Store) : Prop where
  /-- There is a manifest exactly where there is a table, in the same order. -/
  same : Assoc.keys store.manifests = Assoc.keys store.tables
  /-- No name occurs twice. -/
  once : (Assoc.keys store.tables).Nodup
  /-- Under a name there is the table of the last accepted text. -/
  tables : ∀ name, Assoc.get? store.tables name = (lastAccepted? calls name).map Prod.snd
  /-- Its manifest describes it. -/
  manifests : ∀ name, Assoc.get? store.manifests name =
    (lastAccepted? calls name).map fun found => Manifest.describe name found.1 found.2

/-- Nothing is stored before the first addition. -/
theorem holds_empty : Holds [] empty := ⟨rfl, List.nodup_nil, fun _ => rfl, fun _ => rfl⟩

/-- Both sides stay in step at one more addition. -/
theorem Holds.add {calls : List (String × String)} (h : Holds calls store) (call : String × String) :
    Holds (calls ++ [call]) (store.add call.1 call.2).1 := by
  cases hparse : Csv.parse call.2 with
  | error fault =>
    have hlast (name : String) : lastAccepted? (calls ++ [call]) name = lastAccepted? calls name := by
      rw [lastAccepted?_concat, hparse]
      split <;> rfl
    rw [add_of_fault hparse]
    exact ⟨h.same, h.once, fun name => hlast name ▸ h.tables name,
      fun name => hlast name ▸ h.manifests name⟩
  | ok table =>
    have hlast (name : String) : lastAccepted? (calls ++ [call]) name =
        if name = call.1 then some (call.2, table) else lastAccepted? calls name := by
      rw [lastAccepted?_concat, hparse]
      by_cases hname : name = call.1
      · rw [if_pos hname, if_pos hname.symm]
        rfl
      · rw [if_neg hname, if_neg (Ne.symm hname), Option.none_or]
    rw [add_of_table hparse]
    refine ⟨Assoc.keys_put_congr h.same _ _ _, Assoc.nodup_keys_put h.once _ _, fun name => ?_,
      fun name => ?_⟩
    · rw [hlast, Assoc.get?_put, h.tables]
      split <;> rfl
    · rw [hlast, Assoc.get?_put, h.manifests]
      by_cases hname : name = call.1
      · rw [if_pos hname, if_pos hname, hname]
        rfl
      · rw [if_neg hname, if_neg hname]

/-- After any additions both sides hold what the last accepted texts describe. -/
theorem holds_addEach (calls : List (String × String)) : Holds calls (empty.addEach calls) := by
  induction calls using List.reverseRecOn with
  | nil => exact holds_empty
  | append_singleton calls call ih =>
    unfold addEach at ih ⊢
    rw [List.foldl_concat]
    exact ih.add call

/-- The names are listed in strict order. -/
theorem Holds.names_sorted {calls : List (String × String)} (h : Holds calls store) :
    store.names.Pairwise (· < ·) := by
  have hperm : store.names.Perm (Assoc.keys store.tables) := List.mergeSort_perm _ _
  have hsorted : store.names.Pairwise fun a b => decide (a ≤ b) = true :=
    List.pairwise_mergeSort
      (fun a b c hab hbc => by simpa using String.le_trans (by simpa using hab) (by simpa using hbc))
      (fun a b => by simpa using String.le_total a b) _
  refine (hsorted.and (hperm.nodup_iff.mpr h.once)).imp fun {a b} hboth => ?_
  obtain ⟨hle, hne⟩ := hboth
  exact String.not_le.mp fun hba => hne (String.le_antisymm (by simpa using hle) hba)

/-- What a manifest says of a text and its table. -/
structure Describes (name text : String) (table : Table) (manifest : Manifest) : Prop where
  /-- The name. -/
  name_eq : manifest.name = name
  /-- The size is that of the encoded text. -/
  size_eq : manifest.size = text.toUTF8.size
  /-- The columns are those of the table. -/
  columns_eq : manifest.columns = table.columns
  /-- The rows are counted. -/
  rowCount_eq : manifest.rowCount = table.rows.length

/-- What a store answers after additions. -/
structure Answers (calls : List (String × String)) (store : Store) : Prop where
  /-- There are tables and manifests for the same names. -/
  same : Assoc.keys store.manifests = Assoc.keys store.tables
  /-- The names that are listed are those of the tables. -/
  listed : store.names.Perm (Assoc.keys store.tables)
  /-- They are listed in strict order. -/
  sorted : store.names.Pairwise (· < ·)
  /-- They are the names under which some text was accepted. -/
  mem_names : ∀ name, name ∈ store.names ↔ (lastAccepted? calls name).isSome = true
  /-- Under any other name neither a table nor a manifest is found. -/
  absent : ∀ name, lastAccepted? calls name = none →
    store.table name = .error (notFound name) ∧ store.manifest name = .error (notFound name)
  /-- Under such a name there are the table of the last accepted text, which is regular, and a
  manifest that describes it. -/
  present : ∀ name text table, lastAccepted? calls name = some (text, table) →
    Csv.parse text = .ok table ∧ Csv.Regular table ∧ store.table name = .ok table ∧
      ∃ manifest, store.manifest name = .ok manifest ∧ Describes name text table manifest
  /-- One more text that has no table is refused, and changes nothing. -/
  refuses : ∀ name text fault, Csv.parse text = .error fault →
    store.add name text = (store, .error fault.failure)
  /-- One more text that has a table is accepted with a manifest that describes it. -/
  accepts : ∀ name text table, Csv.parse text = .ok table →
    ∃ manifest, (store.add name text).2 = .ok manifest ∧ Describes name text table manifest

/-- A text that was accepted last has its table. -/
theorem parse_of_lastAccepted? {calls : List (String × String)} {table : Table}
    (h : lastAccepted? calls name = some (text, table)) : Csv.parse text = .ok table := by
  obtain ⟨call, -, hcall⟩ := List.exists_of_findSome?_eq_some h
  split at hcall
  · cases hparse : Csv.parse call.2 with
    | error fault =>
      rw [hparse] at hcall
      cases hcall
    | ok found =>
      rw [hparse] at hcall
      cases hcall
      exact hparse
  · cases hcall

/-- The manifest of a text describes it. -/
theorem describes_describe (name text : String) (table : Table) :
    Describes name text table (.describe name text table) := ⟨rfl, rfl, rfl, rfl⟩

/-- After any additions, accepted or refused, a store has tables and manifests for the same names,
and for each name they are those of the last text that was accepted under it. -/
theorem answers_addEach (calls : List (String × String)) : Answers calls (empty.addEach calls) := by
  have hholds := holds_addEach calls
  have hlisted : (empty.addEach calls).names.Perm (Assoc.keys (empty.addEach calls).tables) :=
    List.mergeSort_perm _ _
  refine ⟨hholds.same, hlisted, hholds.names_sorted, fun name => ?_, fun name hnone => ⟨?_, ?_⟩,
    fun name text table hlast => ?_, fun name text fault => add_of_fault,
    fun name text table hparse => ?_⟩
  · rw [hlisted.mem_iff, ← Assoc.isSome_get?_iff, hholds.tables, Option.isSome_map]
  · unfold Store.table
    rw [hholds.tables, hnone]
    rfl
  · unfold Store.manifest
    rw [hholds.manifests, hnone]
    rfl
  · have hparse := parse_of_lastAccepted? hlast
    refine ⟨hparse, Csv.regular_parse hparse, ?_, .describe name text table, ?_,
      describes_describe name text table⟩
    · unfold Store.table
      rw [hholds.tables, hlast]
      rfl
    · unfold Store.manifest
      rw [hholds.manifests, hlast]
      rfl
  · rw [add_of_table hparse]
    exact ⟨_, rfl, describes_describe name text table⟩

end Store

end ChartScript.Attachment
