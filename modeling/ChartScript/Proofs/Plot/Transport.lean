import ChartScript.Proofs.Message.Transit
import ChartScript.Proofs.Schema.Weathering
import ChartScript.Proofs.Script.Transfer
/-!
# Plots on their way

A plot call that would be accepted as it was made is sent through the pipe, where every number
that is not finite becomes null. Points of a line and sizes of labels need no number, so they
arrive without it. Bands, boxes and the prices of labels do need their numbers: the call is
refused for the first of them that was lost. A call that loses none arrives as it was made, up
to the numbers that are null now.
-/

namespace ChartScript

open scoped Relator

open Schema (Weathers Survives Step Violation lostNumber? lostField? lostItem? nothingLost Fades)

namespace Plot

/-- The numbers that an item of a kind of plot must have. -/
def Kind.demanded : Kind → List String
  | .line => []
  | .bands => ["upper", "basis", "lower"]
  | .histogram => []
  | .boxes => ["top", "bottom"]
  | .labels => ["price"]

/-- Whether a value is a number that is not finite. -/
def isNonFinite : Wire → Bool
  | .float x => !x.isFinite
  | _ => false

/-- The first of the numbers that an item must have and that is not finite. -/
def lostOf? (kind : Kind) (item : Wire) : Option String :=
  kind.demanded.find? fun name => (item.field? name).any isNonFinite

/-- The first such number among the items from an index on. -/
def firstLost? (kind : Kind) : Nat → List Wire → Option (Nat × String)
  | _, [] => none
  | i, item :: rest => ((lostOf? kind item).map fun name => (i, name)).or (firstLost? kind (i + 1) rest)

/-- A sample of a line that lost its value or not. -/
def LinePoint.Fades (p q : LinePoint) : Prop := q.time = p.time ∧ Schema.Fades p.value q.value

/-- A label that lost its size or not. -/
def Label.Fades (l m : Label) : Prop := ∃ size, m = { l with size } ∧ Schema.Fades l.size size

section Items

/-- The way to a number that a field of one name loses. -/
theorem lostField?_number (name : String) (fields : List (String × Wire)) :
    lostField? lostNumber? [name] ⟨fields⟩ =
      if (Assoc.get? fields name).any isNonFinite then some [.field name] else none := by
  unfold lostField? Schema.Source.find?
  dsimp only
  cases Assoc.get? fields name with
  | none => rfl
  | some w =>
    cases w with
    | float x => by_cases hx : x.isFinite = true <;> simp [isNonFinite, lostNumber?, hx]
    | _ => rfl

/-- A field that loses nothing. -/
theorem lostField?_nothing (names : List String) (o : Schema.Source) :
    lostField? nothingLost names o = none := by
  unfold lostField? nothingLost
  cases o.find? names <;> rfl

/-- The way to the number that an item loses. -/
def lostIn (kind : Kind) (item : Wire) : Option (List Step) :=
  (lostOf? kind item).map fun name => [.field name]

/-- The way to the first of several numbers that an item loses. -/
theorem map_find?_cons (name : String) (rest : List String) (fields : List (String × Wire)) :
    (((name :: rest).find? fun n => (Assoc.get? fields n).any isNonFinite).map fun n => [Step.field n]) =
      (lostField? lostNumber? [name] ⟨fields⟩).or
        ((rest.find? fun n => (Assoc.get? fields n).any isNonFinite).map fun n => [Step.field n]) := by
  rw [lostField?_number, List.find?_cons]
  cases (Assoc.get? fields name).any isNonFinite <;> rfl

/-- A mark that need not be there stays. -/
theorem weathers_mark : Weathers Wire.finite (Schema.optional Mark.check) Eq nothingLost := by
  intro w m h
  cases w with
  | null => exact ⟨m, h, rfl⟩
  | text t => exact ⟨m, h, rfl⟩
  | _ => cases h

/-- A sample of a line is never refused. -/
theorem weathers_linePoint {kind : Kind} (hdemanded : kind.demanded = []) :
    Weathers Wire.finite LinePoint.check LinePoint.Fades (lostIn kind) := by
  have hmake : (Eq ⇒ Fades ⇒ LinePoint.Fades) LinePoint.mk LinePoint.mk := by
    rintro time _ rfl value value' hvalue
    exact ⟨rfl, hvalue⟩
  have hread := ((Schema.weathers_integer.required ["time"]).map LinePoint.mk fun _ _ h => hmake h).ap
    (Schema.weathers_optionalNumber.withDefault ["value"] (Or.inl (rfl : none = none)))
  refine (hread.record "LinePoint").of_eq fun w => ?_
  unfold lostIn lostOf?
  rw [hdemanded]
  cases w with
  | object fields =>
    dsimp only
    rw [lostField?_nothing, lostField?_nothing]
    rfl
  | _ => rfl

/-- A sample of bands is refused for the first number it lost. -/
theorem weathers_bandPoint : Weathers Wire.finite BandPoint.check Eq (lostIn .bands) := by
  have hmake : (Eq ⇒ Eq ⇒ Eq ⇒ Eq ⇒ Eq) BandPoint.mk BandPoint.mk := by
    rintro _ _ rfl _ _ rfl _ _ rfl _ _ rfl
    rfl
  have hread := ((((Schema.weathers_integer.required ["time"]).map BandPoint.mk fun _ _ h => hmake h).ap
    (Schema.weathers_number.required ["upper"])).ap (Schema.weathers_number.required ["basis"])).ap
      (Schema.weathers_number.required ["lower"])
  refine (hread.record "BandPoint").of_eq fun w => ?_
  cases w with
  | object fields =>
    simp only [lostIn, lostOf?, Kind.demanded, Wire.field?, map_find?_cons, lostField?_nothing,
      List.find?_nil, Option.map_none, Option.none_or, Option.or_none, Option.or_assoc]
  | _ => rfl

/-- A box is refused for the first number it lost. -/
theorem weathers_box : Weathers Wire.finite Box.check Eq (lostIn .boxes) := by
  have hmake : (Eq ⇒ Eq ⇒ Eq ⇒ Eq ⇒ Eq) Box.mk Box.mk := by
    rintro _ _ rfl _ _ rfl _ _ rfl _ _ rfl
    rfl
  have hread := ((((Schema.weathers_integer.required ["from", "from_"]).map Box.mk fun _ _ h => hmake h).ap
    (Schema.weathers_integer.required ["to"])).ap (Schema.weathers_number.required ["top"])).ap
      (Schema.weathers_number.required ["bottom"])
  refine (hread.record "Box").of_eq fun w => ?_
  cases w with
  | object fields =>
    simp only [lostIn, lostOf?, Kind.demanded, Wire.field?, map_find?_cons, lostField?_nothing,
      List.find?_nil, Option.map_none, Option.none_or, Option.or_none]
  | _ => rfl

/-- A label is refused for its price if it lost it, and never for its size. -/
theorem weathers_label : Weathers Wire.finite Label.check Label.Fades (lostIn .labels) := by
  have hmake : (Eq ⇒ Eq ⇒ Eq ⇒ Eq ⇒ Eq ⇒ Eq ⇒ Fades ⇒ Label.Fades) Label.mk Label.mk := by
    rintro _ _ rfl _ _ rfl _ _ rfl _ _ rfl _ _ rfl _ _ rfl size size' hsize
    exact ⟨size', rfl, hsize⟩
  have hread := ((((((Schema.weathers_integer.required ["time"]).map Label.mk fun _ _ h => hmake h).ap
    (Schema.weathers_number.required ["price"])).ap
      (Schema.weathers_text.withDefault ["text"] (rfl : "" = ""))).ap
        (Schema.weathers_optionalText.withDefault ["color"] (rfl : none = none))).ap
          (Schema.weathers_optionalText.withDefault ["background"] (rfl : none = none))).ap
            (weathers_mark.withDefault ["shape"] (rfl : none = none)) |>.ap
              (Schema.weathers_optionalNumber.withDefault ["size"] (Or.inl (rfl : none = none)))
  refine (hread.record "Label").of_eq fun w => ?_
  cases w with
  | object fields =>
    simp only [lostIn, lostOf?, Kind.demanded, Wire.field?, map_find?_cons, lostField?_nothing,
      List.find?_nil, Option.map_none, Option.none_or, Option.or_none]
  | _ => rfl

end Items

end Plot

namespace Message

open Plot (Kind LinePoint BandPoint Box Label lostIn firstLost?)
open Script (Holds)

/-- What is drawn, up to numbers that are not there any more. -/
inductive Drawing.Fades : Drawing → Drawing → Prop where
  /-- A line. -/
  | line {ps qs : List LinePoint} : List.Forall₂ LinePoint.Fades ps qs → Fades (.line ps) (.line qs)
  /-- Bands keep all their numbers. -/
  | bands (ps : List BandPoint) : Fades (.bands ps) (.bands ps)
  /-- A histogram. -/
  | histogram {ps qs : List LinePoint} :
    List.Forall₂ LinePoint.Fades ps qs → Fades (.histogram ps) (.histogram qs)
  /-- Boxes keep all their numbers. -/
  | boxes (bs : List Box) : Fades (.boxes bs) (.boxes bs)
  /-- Labels. -/
  | labels {ls ms : List Label} : List.Forall₂ Label.Fades ls ms → Fades (.labels ls) (.labels ms)

/-- A plot call, up to numbers that are not there any more. -/
inductive Call.Fades : Call → Call → Prop where
  /-- The options are made finite. -/
  | plot (id : String) (options : List (String × Wire)) {drawn arrived : Drawing} :
    drawn.Fades arrived →
      Fades (.plot id options drawn) (.plot id (Wire.finiteFields options) arrived)

/-- The way to the number that a list of items loses. -/
def lostAmong (kind : Kind) (w : Wire) : Option (List Step) :=
  match w with
  | .list ws => lostItem? (lostIn kind) 0 ws
  | _ => none

theorem lostItem?_lostIn (kind : Kind) (ws : List Wire) (i : Nat) :
    lostItem? (lostIn kind) i ws =
      (firstLost? kind i ws).map fun found => [.item found.1, .field found.2] := by
  induction ws generalizing i with
  | nil => rfl
  | cons w rest ih =>
    unfold lostItem? firstLost?
    rw [ih]
    unfold lostIn
    cases Plot.lostOf? kind w <;> rfl

/-- What is drawn is refused for the first number that one of its items lost. -/
theorem weathers_drawing (kind : Kind) :
    Weathers Wire.finite (Drawing.check kind) Drawing.Fades (lostAmong kind) := by
  cases kind with
  | line => exact (Plot.weathers_linePoint rfl).listOf.map Drawing.line fun _ _ h => Drawing.Fades.line h
  | bands =>
    refine Plot.weathers_bandPoint.listOf.map Drawing.bands fun ps qs h => ?_
    rw [List.forall₂_eq_eq_eq] at h
    exact h ▸ .bands ps
  | histogram =>
    exact (Plot.weathers_linePoint rfl).listOf.map Drawing.histogram fun _ _ h => Drawing.Fades.histogram h
  | boxes =>
    refine Plot.weathers_box.listOf.map Drawing.boxes fun bs cs h => ?_
    rw [List.forall₂_eq_eq_eq] at h
    exact h ▸ .boxes bs
  | labels => exact Plot.weathers_label.listOf.map Drawing.labels fun _ _ h => Drawing.Fades.labels h

/-- A plot call is refused for the first number that one of its items lost. -/
theorem weathers_plot (kind : Kind) :
    Weathers Schema.Source.finite (checkPlot kind) Call.Fades
      (lostField? (lostAmong kind) [itemsKey kind]) := by
  have hmake : (Eq ⇒ (fun options thinned => thinned = Wire.finiteFields options) ⇒ Drawing.Fades ⇒
      Call.Fades) Call.plot Call.plot := by
    rintro id _ rfl options _ rfl drawn arrived hfades
    exact .plot id options hfades
  have hid := Schema.weathers_text.ensuring (fun s => !s.isEmpty) (.tooShort 1)
  have hread := (((hid.required ["id"]).map Call.plot fun _ _ h => hmake h).ap
    (Schema.weathers_dict.withDefault ["opts"] (rfl : [] = Wire.finiteFields []))).ap
      ((weathers_drawing kind).required [itemsKey kind])
  refine hread.of_eq fun o => ?_
  rw [Plot.lostField?_nothing, Plot.lostField?_nothing]
  rfl

section Payload

/-- A value that is the same, or is null in place of a number that is not finite. -/
def WireFades (before after : Wire) : Prop :=
  after = before ∨ after = .null ∧ Plot.isNonFinite before = true

/-- An item as a sink keeps it, up to numbers that are null now. Of a label a sink keeps no null
fields. -/
def ItemFades (kind : Kind) (before after : Wire) : Prop :=
  ∃ fields faded : List (String × Wire), before = .object fields ∧
    List.Forall₂ (fun f g => g.1 = f.1 ∧ WireFades f.2 g.2) fields faded ∧
      after = .object
        (if kind = .labels then faded.filter fun f => !Schema.RecordView.isNull f.2 else faded)

/-- A number that need not be there, as data. -/
theorem wireFades_ofFloat? {before after : Option Float} (h : Fades before after) :
    WireFades (Wire.ofFloat? before) (Wire.ofFloat? after) := by
  obtain rfl | ⟨rfl, x, rfl, hx⟩ := h
  · exact Or.inl rfl
  · refine Or.inr ⟨rfl, ?_⟩
    unfold Wire.ofFloat? Plot.isNonFinite
    dsimp only
    rw [hx]
    rfl

/-- Fields that stay. -/
theorem forall₂_stay (fields : List (String × Wire)) :
    List.Forall₂ (fun f g => g.1 = f.1 ∧ WireFades f.2 g.2) fields fields :=
  List.forall₂_same.mpr fun _ _ => ⟨rfl, Or.inl rfl⟩

/-- An item that stays, of a kind whose null fields are kept. -/
theorem itemFades_refl {kind : Kind} (hkind : kind ≠ .labels) (fields : List (String × Wire)) :
    ItemFades kind (.object fields) (.object fields) :=
  ⟨fields, fields, rfl, forall₂_stay fields, by rw [if_neg hkind]⟩

/-- A sample of a line as a sink keeps it. -/
theorem itemFades_linePoint {kind : Kind} (hkind : kind ≠ .labels) {p q : LinePoint} (h : p.Fades q) :
    ItemFades kind p.view.dump q.view.dump := by
  obtain ⟨htime, hvalue⟩ := h
  refine ⟨_, [("time", .int q.time), ("value", Wire.ofFloat? q.value)], rfl, ?_, by rw [if_neg hkind]; rfl⟩
  exact .cons ⟨rfl, Or.inl (congrArg Wire.int htime)⟩ (.cons ⟨rfl, wireFades_ofFloat? hvalue⟩ .nil)

/-- The fields of a label but its size, as far as they are not null. -/
def labelFront (l : Label) : List (String × Wire) :=
  (l.view.fields.dropLast.filter fun f => !Schema.RecordView.isNull f.value).map fun f => (f.name, f.value)

/-- A label as a sink keeps it. -/
theorem dumpPresent_label (l : Label) :
    l.view.dumpPresent = .object (labelFront l ++ match l.size with
      | some x => [("size", .float x)]
      | none => []) := by
  have hfields : l.view.fields = l.view.fields.dropLast ++ [.plain "size" (Wire.ofFloat? l.size)] := rfl
  unfold Schema.RecordView.dumpPresent labelFront
  rw [hfields, List.filter_append, List.map_append, List.dropLast_concat]
  cases l.size <;> rfl

/-- What a sink keeps of a label has no null fields. -/
theorem filter_labelFront (l : Label) :
    ((labelFront l).filter fun f => !Schema.RecordView.isNull f.2) = labelFront l := by
  refine List.filter_eq_self.mpr fun f hf => ?_
  obtain ⟨view, hview, rfl⟩ := List.mem_map.mp hf
  exact (List.mem_filter.mp hview).2

/-- A label as a sink keeps it, with or without its size. -/
theorem itemFades_label {l m : Label} (h : l.Fades m) :
    ItemFades .labels l.view.dumpPresent m.view.dumpPresent := by
  obtain ⟨size, rfl, hsize⟩ := h
  have hfront : labelFront { l with size } = labelFront l := rfl
  rw [dumpPresent_label, dumpPresent_label, hfront]
  obtain rfl | ⟨rfl, x, hx, hfinite⟩ := hsize
  · refine ⟨_, _, rfl, forall₂_stay _, ?_⟩
    rw [if_pos rfl, List.filter_append, filter_labelFront]
    cases l.size <;> rfl
  · rw [hx]
    refine ⟨_, labelFront l ++ [("size", .null)], rfl, ?_, ?_⟩
    · refine List.rel_append (forall₂_stay _) (.cons ⟨rfl, Or.inr ⟨rfl, ?_⟩⟩ .nil)
      unfold Plot.isNonFinite
      dsimp only
      rw [hfinite]
      rfl
    · rw [if_pos rfl, List.filter_append, filter_labelFront]
      rfl

/-- What a sink keeps of a drawing, up to numbers that are null now. -/
theorem Drawing.Fades.payload {d e : Drawing} (h : d.Fades e) :
    e.kind = d.kind ∧ List.Forall₂ (ItemFades d.kind) d.payload e.payload := by
  cases h with
  | line hps =>
    have hitem : (LinePoint.Fades ⇒ ItemFades .line) (fun p => p.view.dump) fun p => p.view.dump :=
      fun _ _ => itemFades_linePoint (by decide)
    exact ⟨rfl, List.rel_map hitem hps⟩
  | bands ps =>
    have hitem : (Eq ⇒ ItemFades .bands) (fun p : BandPoint => p.view.dump) fun p => p.view.dump :=
      fun _ _ h => h ▸ itemFades_refl (by decide) _
    exact ⟨rfl, List.rel_map hitem (List.forall₂_refl ps)⟩
  | histogram hps =>
    have hitem : (LinePoint.Fades ⇒ ItemFades .histogram) (fun p => p.view.dump) fun p => p.view.dump :=
      fun _ _ => itemFades_linePoint (by decide)
    exact ⟨rfl, List.rel_map hitem hps⟩
  | boxes bs =>
    have hitem : (Eq ⇒ ItemFades .boxes) (fun b : Box => b.view.byAlias) fun b => b.view.byAlias :=
      fun _ _ h => h ▸ itemFades_refl (by decide) _
    exact ⟨rfl, List.rel_map hitem (List.forall₂_refl bs)⟩
  | labels hls =>
    have hitem : (Label.Fades ⇒ ItemFades .labels) (fun l => l.view.dumpPresent)
        fun l => l.view.dumpPresent := fun _ _ => itemFades_label
    exact ⟨rfl, List.rel_map hitem hls⟩

end Payload

section Pipe

/-- What the host makes of a call that a context encodes and sends under a correlation id. -/
def transported? (correlation method : String) (params : List (String × Wire)) :
    Option (Except Failure Call) :=
  match Bridge.encode correlation (.text method) (.object params) with
  | .ok raw => (requestOf? raw).map fun r => Call.decode r.method r.params
  | .error _ => none

/-- What the host makes of a call of a function that plots, by a script with a heap. -/
def emitted? (correlation : String) (setting : EnvSpec) (kind : Kind) (args : List Script.Value)
    (heap : Script.Heap) : Option (Except Failure Call) :=
  match Script.Environment.call setting .plot kind.name args [] heap with
  | .ok (.request method params) next =>
    match next.transferAll params with
    | .ok fields => transported? correlation method fields
    | .error _ => none
  | _ => none

/-- The refusal of a plot call for a number that the item of an index lost. -/
def lostFailure (kind : Kind) (index : Nat) (name : String) : Failure :=
  .sandbox .capability
    ("Malformed params for " ++ plotMethod kind ++ ": " ++
      Wire.joinWith "." [plotMethod kind, itemsKey kind, toString index, name] ++ ": " ++
        "Input should be a valid number")

/-- A call is decoded with its parameters made finite. -/
theorem transported?_eq (correlation method : String) (params : List (String × Wire)) :
    transported? correlation method params = some (Call.decode method (Wire.finiteFields params)) := by
  unfold transported?
  rw [encode_eq]
  dsimp only
  rw [requestOf_view]
  rfl

/-- What a script sends is what its values hold. -/
theorem emitted?_eq (correlation : String) (setting : EnvSpec) {kind : Kind} {heap : Script.Heap}
    {idValue itemsValue optionsValue : Script.Value} {id : Wire} {items : List Wire}
    {options : List (String × Wire)} (hid : Holds heap 250 idValue id)
    (hitems : Holds heap 250 itemsValue (.list items)) (hoptions : Holds heap 250 optionsValue (.object options)) :
    emitted? correlation setting kind [idValue, itemsValue, optionsValue] heap =
      transported? correlation (plotMethod kind) (plotParams kind id (.list items) (.object options)) := by
  obtain ⟨params, next, hcall, hparams⟩ := Script.call_plot setting kind hid hitems hoptions
  unfold emitted?
  rw [hcall]
  dsimp only
  rw [Script.transferAll_of_holds hparams]
  dsimp only
  rw [transported?_eq, transported?_eq, Wire.finiteFields_finiteFields]

/-- The capability of a plot call. -/
theorem ofMethod?_plotMethod (kind : Kind) : Capability.ofMethod? (plotMethod kind) = some (.plot kind) := by
  cases kind <;> decide

/-- A plot call is decoded by the check of its kind. -/
theorem decode_plot (kind : Kind) (params : List (String × Wire)) :
    Call.decode (plotMethod kind) params =
      match checkPlot kind ⟨Assoc.put params "method" (.text (plotMethod kind))⟩ with
      | .valid call => .ok call
      | .invalid vs => .error (malformedParams (plotMethod kind) vs) := by
  unfold Call.decode
  rw [ofMethod?_plotMethod]
  rfl

/-- The way to the number that the items of a plot call lose. -/
theorem lostField?_plotParams (kind : Kind) (id options : Wire) (items : List Wire) :
    lostField? (lostAmong kind) [itemsKey kind]
        ⟨Assoc.put (plotParams kind id (.list items) options) "method" (.text (plotMethod kind))⟩ =
      (firstLost? kind 0 items).map fun found =>
        [.field (itemsKey kind), .item found.1, .field found.2] := by
  have hfound : Schema.Source.find?
      ⟨Assoc.put (plotParams kind id (.list items) options) "method" (.text (plotMethod kind))⟩
      [itemsKey kind] = some (itemsKey kind, .list items) := by
    cases kind <;> rfl
  unfold lostField?
  rw [hfound, Option.bind_some]
  unfold lostAmong
  dsimp only
  rw [lostItem?_lostIn]
  cases firstLost? kind 0 items <;> rfl

/-- A plot call that is accepted has the given options and is of its kind. -/
theorem plot_of_check {kind : Kind} {id items : Wire} {options : List (String × Wire)} {call : Call}
    (h : checkPlot kind
      ⟨Assoc.put (plotParams kind id items (.object options)) "method" (.text (plotMethod kind))⟩ =
        .valid call) :
    ∃ name drawing, call = .plot name options drawing ∧ drawing.kind = kind := by
  obtain ⟨ofItems, drawing, hitems, hdrawing, rfl⟩ := Schema.Checked.seq_eq_valid h
  obtain ⟨ofOptions, found, hoptions, hfound, rfl⟩ := Schema.Checked.seq_eq_valid hitems
  obtain ⟨name, -, rfl⟩ := Schema.Checked.map_eq_valid hoptions
  obtain ⟨w, hw⟩ := Schema.Source.required_eq_valid hdrawing
  have hgiven : found = options := by
    cases kind <;> · cases hfound; rfl
  exact ⟨name, drawing, by rw [hgiven], Drawing.kind_of_check hw⟩

/-- The parameters of a plot call with its mark are made finite one by one. -/
theorem put_finiteFields_plotParams (kind : Kind) (id items options : Wire) (mark : String) :
    Assoc.put (Wire.finiteFields (plotParams kind id items options)) "method" (.text mark) =
      Wire.finiteFields (Assoc.put (plotParams kind id items options) "method" (.text mark)) := by
  cases kind <;> rfl

/-- What becomes of a plot call of a name, with options and what it draws, by what its items are
made of. -/
structure Arrives (kind : Kind) (items : List Wire) (name : String) (options : List (String × Wire))
    (drawing : Drawing) (outcome : Option (Except Failure Call)) : Prop where
  /-- If no item lost a number that it must have, the call is accepted, with the same kind and name
  and with its items and options up to numbers that are null now. -/
  kept : firstLost? kind 0 items = none → ∃ arrived,
    outcome = some (.ok (.plot name (Wire.finiteFields options) arrived)) ∧ arrived.kind = kind ∧
      List.Forall₂ (ItemFades kind) drawing.payload arrived.payload
  /-- Otherwise it is refused for the first number that was lost. -/
  refused : ∀ index number, firstLost? kind 0 items = some (index, number) →
    outcome = some (.error (lostFailure kind index number))

/-- A plot call that would be accepted as it was made arrives as far as none of its items lost a
number that it must have, whether it is encoded from its data or made by a script whose values
hold that data. -/
theorem arrives_of_decode (kind : Kind) (id : Wire) (items : List Wire) (options : List (String × Wire))
    {call : Call}
    (h : Call.decode (plotMethod kind) (plotParams kind id (.list items) (.object options)) = .ok call) :
    ∃ name drawing, call = .plot name options drawing ∧ drawing.kind = kind ∧
      (∀ correlation, Arrives kind items name options drawing
        (transported? correlation (plotMethod kind) (plotParams kind id (.list items) (.object options)))) ∧
      ∀ correlation setting heap idValue itemsValue optionsValue,
        Holds heap 250 idValue id → Holds heap 250 itemsValue (.list items) →
          Holds heap 250 optionsValue (.object options) →
            Arrives kind items name options drawing
              (emitted? correlation setting kind [idValue, itemsValue, optionsValue] heap) := by
  rw [decode_plot] at h
  cases hcheck : checkPlot kind ⟨Assoc.put (plotParams kind id (.list items) (.object options)) "method"
      (.text (plotMethod kind))⟩ with
  | invalid vs =>
    rw [hcheck] at h
    cases h
  | valid accepted =>
    rw [hcheck] at h
    cases h
    obtain ⟨name, drawing, rfl, hkind⟩ := plot_of_check hcheck
    have hsurvives := weathers_plot kind _ _ hcheck
    rw [lostField?_plotParams] at hsurvives
    unfold Schema.Source.finite at hsurvives
    have harrives (correlation : String) : Arrives kind items name options drawing
        (transported? correlation (plotMethod kind) (plotParams kind id (.list items) (.object options))) := by
      rw [transported?_eq, decode_plot, put_finiteFields_plotParams]
      constructor
      · intro hlost
        rw [hlost] at hsurvives
        obtain ⟨arrived, hvalid, hfades⟩ := hsurvives
        rw [hvalid]
        cases hfades with
        | plot _ _ hdrawing =>
          obtain ⟨hsame, hpayload⟩ := hdrawing.payload
          exact ⟨_, rfl, hsame.trans hkind, hkind ▸ hpayload⟩
      · intro index number hlost
        rw [hlost] at hsurvives
        obtain ⟨more, hinvalid⟩ := hsurvives
        rw [hinvalid]
        rfl
    refine ⟨name, drawing, rfl, hkind, harrives, ?_⟩
    intro correlation setting heap idValue itemsValue optionsValue hid hitems hoptions
    rw [emitted?_eq correlation setting hid hitems hoptions]
    exact harrives correlation

/-- A sample of bands at a time when there is no mean yet. -/
def unsettledBands : List Wire :=
  [.object [("time", .int 1), ("upper", .float Number.nan), ("basis", .float Number.nan),
    ("lower", .float Number.nan)]]

/-- Bands that would be accepted as they were made are refused when they arrive. -/
theorem arrives_of_decode_unsettledBands :
    Call.decode (plotMethod .bands) (plotParams .bands (.text "b") (.list unsettledBands) (.object [])) =
        .ok (.plot "b" [] (.bands [⟨1, Number.nan, Number.nan, Number.nan⟩])) ∧
      transported? "1" (plotMethod .bands)
          (plotParams .bands (.text "b") (.list unsettledBands) (.object [])) =
        some (.error (.sandbox .capability
          "Malformed params for plot:bands: plot:bands.points.0.upper: Input should be a valid number")) := by
  have hdecode : Call.decode (plotMethod .bands)
      (plotParams .bands (.text "b") (.list unsettledBands) (.object [])) =
        .ok (.plot "b" [] (.bands [⟨1, Number.nan, Number.nan, Number.nan⟩])) := rfl
  obtain ⟨name, drawing, -, -, harrives, -⟩ :=
    arrives_of_decode .bands (.text "b") unsettledBands [] hdecode
  have hrefused := (harrives "1").refused 0 "upper" rfl
  exact ⟨hdecode, hrefused⟩

end Pipe

end Message

end ChartScript
