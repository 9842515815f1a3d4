import ChartScript.Proofs.Data.Assoc
import ChartScript.Proofs.Wire.Finite
import ChartScript.Script.Environment
/-!
# Data that a script sends

A value of a script that holds a piece of data is sent as that data made finite. A function that
plots makes a list of its items and a dictionary of its options, which hold the same data.
-/

namespace ChartScript

namespace Assoc

variable {κ α : Type} [DecidableEq κ]

/-- Entries of new and distinct keys are stored one after the other. -/
theorem putAll_of_nodup (entries more : List (κ × α)) (h : (keys entries ++ keys more).Nodup) :
    putAll entries more = entries ++ more := by
  induction more generalizing entries with
  | nil => rw [List.append_nil]; rfl
  | cons e rest ih =>
    obtain ⟨key, value⟩ := e
    have hnew : key ∉ keys entries := fun hmem =>
      (List.nodup_append.mp h).2.2 key hmem key (List.mem_cons_self ..) rfl
    have hput : put entries key value = entries ++ [(key, value)] := by
      unfold put
      rw [if_neg fun hhas => hnew ((has_iff_mem_keys entries key).mp hhas)]
    have hrest : (keys (entries ++ [(key, value)]) ++ keys rest).Nodup := by
      simpa [keys] using h
    have hstep : putAll entries ((key, value) :: rest) = putAll (put entries key value) rest := rfl
    rw [hstep, hput, ih _ hrest, List.append_assoc]
    rfl

end Assoc

/-- Work on all items succeeds if it does on each. -/
theorem mapM_eq_ok {ε α β γ : Type} {f : α → Except ε β} {g : γ → β} {related : α → γ → Prop}
    {as : List α} {cs : List γ} (hall : List.Forall₂ related as cs)
    (hf : ∀ a c, related a c → f a = .ok (g c)) : as.mapM f = .ok (cs.map g) := by
  induction hall with
  | nil => rfl
  | cons hac _ ih =>
    rw [List.mapM_cons, hf _ _ hac, ih]
    rfl

namespace Script

/-- Whether a value holds a piece of data that is nested less deep than a bound. -/
def Holds (h : Heap) : Nat → Value → Wire → Prop
  | 0, _, _ => False
  | depth + 1, v, w =>
    match w with
    | .null => v = .none
    | .bool b => v = .bool b
    | .int n => v = .int n
    | .float x => v = .float x
    | .text s => v = .text s
    | .list ws => ∃ a items, v = .object a ∧ h.get? a = some (.list items) ∧
        List.Forall₂ (Holds h depth) items.toList ws
    | .object fields => ∃ a entries, v = .object a ∧ h.get? a = some (.dict entries) ∧
        (Assoc.keys fields).Nodup ∧
          List.Forall₂ (fun e f => e.1 = .text f.1 ∧ e.2.1 = .text f.1 ∧ Holds h depth e.2.2 f.2)
            entries.toList fields

/-- A value is sent as the data it holds, made finite. -/
theorem transferWithin_of_holds {h : Heap} {depth : Nat} {v : Value} {w : Wire}
    (hv : Holds h depth v w) : h.transferWithin depth v = .ok w.finite := by
  induction depth generalizing v w with
  | zero => exact hv.elim
  | succ depth ih =>
    cases w with
    | null | bool b | int n | text s =>
      cases (hv : v = _)
      rfl
    | float x =>
      cases (hv : v = _)
      unfold Heap.transferWithin Wire.finite
      rfl
    | list ws =>
      obtain ⟨a, items, rfl, ha, hitems⟩ := hv
      have hmap := mapM_eq_ok hitems fun _ _ hitem => ih hitem
      unfold Heap.transferWithin Wire.finite
      dsimp only
      rw [ha]
      dsimp only
      rw [hmap, Wire.finiteItems_eq_map]
      rfl
    | object fields =>
      obtain ⟨a, entries, rfl, ha, hnames, hentries⟩ := hv
      have hmap : (entries.toList.mapM fun e => do
          return (← fieldName h e.2.1, ← h.transferWithin depth e.2.2) : Except Raised _) =
            .ok (fields.map fun f => (f.1, f.2.finite)) := by
        refine mapM_eq_ok hentries fun e f hentry => ?_
        obtain ⟨-, hname, hvalue⟩ := hentry
        rw [hname, ih hvalue]
        rfl
      have hkeys : Assoc.keys (fields.map fun f => (f.1, f.2.finite)) = Assoc.keys fields := by
        unfold Assoc.keys
        rw [List.map_map]
        rfl
      unfold Heap.transferWithin Wire.finite
      dsimp only
      rw [ha]
      dsimp only
      rw [hmap, Wire.finiteFields_eq_map]
      have hput := Assoc.putAll_of_nodup [] (fields.map fun f => (f.1, f.2.finite))
        (by rw [hkeys]; exact hnames)
      rw [List.nil_append] at hput
      exact congrArg (fun fields => Except.ok (Wire.object fields)) hput

/-- What a value holds stays when there is a new object. -/
theorem Holds.alloc {h : Heap} {depth : Nat} {v : Value} {w : Wire} (hv : Holds h depth v w)
    (o : Object) : Holds (h.alloc o).1 depth v w := by
  have hkept {a : Address} {old : Object} (ha : h.get? a = some old) :
      (h.alloc o).1.get? a = some old := by
    obtain ⟨hlt, rfl⟩ := Array.getElem?_eq_some_iff.mp ha
    exact Array.getElem?_push_lt hlt
  induction depth generalizing v w with
  | zero => exact hv
  | succ depth ih =>
    cases w with
    | null | bool b | int n | float x | text s => exact hv
    | list ws =>
      obtain ⟨a, items, rfl, ha, hitems⟩ := hv
      exact ⟨a, items, rfl, hkept ha, hitems.imp fun _ _ => ih⟩
    | object fields =>
      obtain ⟨a, entries, rfl, ha, hnames, hentries⟩ := hv
      exact ⟨a, entries, rfl, hkept ha, hnames,
        hentries.imp fun _ _ hentry => ⟨hentry.1, hentry.2.1, ih hentry.2.2⟩⟩

section Emitters

variable {h : Heap} {depth : Nat}

/-- Entries of new and distinct keys are stored one after the other. -/
theorem storeAll_of_nodup (entries : Array (Key × Value × Value)) (more : List (Key × Value × Value))
    (hkeys : (entries.toList.map Prod.fst ++ more.map Prod.fst).Nodup) :
    storeAll entries more.toArray = entries ++ more.toArray := by
  unfold storeAll
  rw [List.foldl_toArray]
  induction more generalizing entries with
  | nil => simp
  | cons e rest ih =>
    have hnew : e.1 ∉ entries.toList.map Prod.fst := fun hmem =>
      (List.nodup_append.mp hkeys).2.2 e.1 hmem e.1 (List.mem_cons_self ..) rfl
    have hstore : storeEntry entries e.1 e.2.1 e.2.2 = entries.push e := by
      have hposition : Heap.position? entries e.1 = none := by
        unfold Heap.position?
        rw [Array.findIdx?_eq_none_iff]
        intro x hx
        have hne : x.1 ≠ e.1 := fun heq =>
          hnew (heq ▸ List.mem_map_of_mem (Array.mem_toList_iff.mpr hx))
        simpa using hne
      unfold storeEntry
      rw [hposition]
    rw [List.foldl_cons, hstore, ih (entries.push e) (by simpa using hkeys)]
    simp

/-- A new object is at its address. -/
theorem get?_alloc (o : Object) : (h.alloc o).1.get? (h.alloc o).2 = some o :=
  Array.getElem?_push_size

/-- What comes of a new object that holds the data of an old one. -/
def Copied (h : Heap) (depth : Nat) (w : Wire) (r : EStateM.Result Raised Heap Value) : Prop :=
  ∃ v next, r = .ok v next ∧ Holds next depth v w ∧ ∀ u d, Holds h depth u d → Holds next depth u d

/-- A function makes a list of its items that holds the same items. -/
theorem copied_itemsOf {v : Value} {ws : List Wire} (hv : Holds h depth v (.list ws)) :
    Copied h depth (.list ws) (Environment.itemsOf v h) := by
  cases depth with
  | zero => exact hv.elim
  | succ depth =>
    obtain ⟨a, items, rfl, ha, hitems⟩ := hv
    have htruthy : h.truthy (.object a) = !items.isEmpty := by
      unfold Heap.truthy
      dsimp only
      rw [ha]
    have helements : elementsOrRefuse h (.object a) = .ok items.toList := by
      unfold elementsOrRefuse Heap.elements?
      dsimp only
      rw [ha]
    have hrun : Environment.itemsOf (.object a) h =
        .ok (.object (h.alloc (.list items)).2) (h.alloc (.list items)).1 := by
      change (if h.truthy (.object a) then do
        Op.newList (← Op.lift (elementsOrRefuse h (.object a))) else Op.newList []) h = _
      rw [htruthy, helements]
      by_cases hempty : items = #[]
      · rw [hempty]
        rfl
      · rw [if_pos (by simpa using hempty)]
        rfl
    exact ⟨_, _, hrun, ⟨_, items, rfl, get?_alloc _, hitems.imp fun _ _ hitem => hitem.alloc _⟩,
      fun _ _ hu => hu.alloc _⟩

/-- A function makes a dictionary of its options that holds the same options. -/
theorem copied_optionsOf {v : Value} {fields : List (String × Wire)}
    (hv : Holds h depth v (.object fields)) :
    Copied h depth (.object fields) (Environment.optionsOf v h) := by
  cases depth with
  | zero => exact hv.elim
  | succ depth =>
    obtain ⟨a, entries, rfl, ha, hnames, hentries⟩ := hv
    have htruthy : h.truthy (.object a) = !entries.isEmpty := by
      unfold Heap.truthy
      dsimp only
      rw [ha]
    have hkeys : entries.toList.map Prod.fst = (Assoc.keys fields).map Key.text := by
      unfold Assoc.keys
      rw [List.map_map]
      exact List.forall₂_eq_eq_eq ▸ List.rel_map (fun _ _ hentry => hentry.1) hentries
    have hmerge : mergeEntries h #[] (.object a) = .ok entries := by
      have hstored := storeAll_of_nodup #[] entries.toList (by
        rw [hkeys]
        exact hnames.map fun _ _ hsame => Key.text.inj hsame)
      unfold mergeEntries Heap.entries?
      dsimp only
      rw [ha]
      rw [Array.toArray_toList, Array.empty_append] at hstored
      exact congrArg Except.ok hstored
    have hrun : Environment.optionsOf (.object a) h =
        .ok (.object (h.alloc (.dict entries)).2) (h.alloc (.dict entries)).1 := by
      change (if h.truthy (.object a) then do
        Op.alloc (.dict (← Op.lift (mergeEntries h #[] (.object a)))) else Op.alloc (.dict #[])) h = _
      rw [htruthy, hmerge]
      by_cases hempty : entries = #[]
      · rw [hempty]
        rfl
      · rw [if_pos (by simpa using hempty)]
        rfl
    exact ⟨_, _, hrun, ⟨_, entries, rfl, get?_alloc _, hnames,
      hentries.imp fun _ _ hentry => ⟨hentry.1, hentry.2.1, hentry.2.2.alloc _⟩⟩, fun _ _ hu => hu.alloc _⟩

/-- A function that plots asks for its kind of plot with values that hold what it was given. -/
theorem call_plot (setting : Message.EnvSpec) (kind : Plot.Kind) {id items options : Value} {name : Wire}
    {drawn : List Wire} {fields : List (String × Wire)} (hid : Holds h depth id name)
    (hitems : Holds h depth items (.list drawn)) (hoptions : Holds h depth options (.object fields)) :
    ∃ params next,
      Environment.call setting .plot kind.name [id, items, options] [] h =
        .ok (.request (Message.plotMethod kind) params) next ∧
      List.Forall₂ (fun f g => g.1 = f.1 ∧ Holds next depth f.2 g.2) params
        (Message.plotParams kind name (.list drawn) (.object fields)) := by
  obtain ⟨list, first, hlist, hdrawn, hkeeps⟩ := copied_itemsOf hitems
  obtain ⟨dict, second, hdict, hfields, hholds⟩ := copied_optionsOf (hkeeps _ _ hoptions)
  refine ⟨Message.plotParams kind id list dict, second, ?_, ?_⟩
  · have hcall : Environment.call setting .plot kind.name [id, items, options] [] h =
        (do
          let list ← Environment.itemsOf items
          let dict ← Environment.optionsOf options
          return .request (Message.plotMethod kind) (Message.plotParams kind id list dict) : Op _) h := by
      cases kind <;> rfl
    simp only [hcall, bind, EStateM.bind, hlist, hdict]
    rfl
  · exact .cons ⟨rfl, hholds _ _ (hkeeps _ _ hid)⟩ (.cons ⟨rfl, hholds _ _ hdrawn⟩ (.cons ⟨rfl, hfields⟩ .nil))

/-- Values are sent one by one. -/
theorem transferAll_of_holds {params : Keywords} {fields : List (String × Wire)}
    (hparams : List.Forall₂ (fun f g => g.1 = f.1 ∧ Holds h 250 f.2 g.2) params fields) :
    h.transferAll params = .ok (Wire.finiteFields fields) := by
  have hall : (params.mapM fun f => do return (f.1, ← h.transfer f.2) : Except Raised _) =
      .ok (fields.map fun f => (f.1, f.2.finite)) := by
    refine mapM_eq_ok hparams fun f g hfg => ?_
    unfold Heap.transfer
    rw [transferWithin_of_holds hfg.2, hfg.1]
    rfl
  unfold Heap.transferAll
  dsimp only
  rw [hall, Wire.finiteFields_eq_map]
  rfl

end Emitters

end Script

end ChartScript
