import ChartScript.Proofs.Plot.Transport
import ChartScript.Proofs.Schema.Recovery
/-!
# The normal form of plots

What a sink keeps of a plot call is the normal form of what was given for it. Numbers may come as
texts, truth values or whole floating point numbers, a box may name its start in two ways and a
label may spell out its null fields: the payload of the call that they decode to has one form for
each call. Given as parameters it is accepted again, as the same call, NaN included.
-/

namespace ChartScript

namespace Plot

open Schema (Recovers RecordView)

/-- A mark that need not be there. -/
theorem recovers_mark : Recovers (Schema.optional Mark.check) fun m => Wire.ofText? (m.map Mark.name) := by
  intro m
  cases m with
  | none => rfl
  | some m => cases m <;> rfl

/-- A sample of a line. -/
theorem recovers_linePoint : Recovers LinePoint.check fun p => p.view.dump := by
  rintro ⟨time, value⟩
  cases value <;> rfl

/-- A sample of bands. -/
theorem recovers_bandPoint : Recovers BandPoint.check fun p => p.view.dump := fun _ => rfl

/-- A box, which is written by the name of its start on the wire. -/
theorem recovers_box : Recovers Box.check fun b => b.view.byAlias := fun _ => rfl

/-- A label, of which null fields are not written. -/
theorem recovers_label : Recovers Label.check fun l => l.view.dumpPresent := by
  intro l
  have hnames : (l.view.fields.map Schema.FieldView.name).Nodup := by
    have hlist : l.view.fields.map Schema.FieldView.name =
      ["time", "price", "text", "color", "background", "shape", "size"] := rfl
    rw [hlist]
    decide
  have htime := RecordView.required_shown hnames
    (by simp [Label.view] : .plain "time" (.int l.time) ∈ l.view.fields) rfl
      (rfl : Schema.integer _ = .valid l.time)
  have hprice := RecordView.required_shown hnames
    (by simp [Label.view] : .plain "price" (.float l.price) ∈ l.view.fields) rfl
      (rfl : Schema.number _ = .valid l.price)
  have htext := RecordView.withDefault_shown hnames
    (by simp [Label.view] : .plain "text" (.text l.text) ∈ l.view.fields)
      (rfl : Schema.text _ = .valid l.text) (nofun : _ → "" = l.text)
  have hcolor := RecordView.withDefault_optional_shown hnames
    (by simp [Label.view] : .plain "color" _ ∈ l.view.fields) (Schema.recovers_ofText? l.color)
  have hbackground := RecordView.withDefault_optional_shown hnames
    (by simp [Label.view] : .plain "background" _ ∈ l.view.fields)
      (Schema.recovers_ofText? l.background)
  have hshape := RecordView.withDefault_optional_shown hnames
    (by simp [Label.view] : .plain "shape" _ ∈ l.view.fields) (recovers_mark l.shape)
  have hsize := RecordView.withDefault_optional_shown hnames
    (by simp [Label.view] : .plain "size" _ ∈ l.view.fields) (Schema.recovers_ofFloat? l.size)
  dsimp only
  rw [RecordView.dumpPresent_eq]
  unfold Label.check Schema.record Schema.recordOr
  dsimp only
  rw [htime, hprice, htext, hcolor, hbackground, hshape, hsize]
  rfl

end Plot

namespace Message

open Plot (Kind)
open Schema (RecordView)

/-- What is drawn is recovered from what a sink keeps of it. -/
theorem Drawing.check_payload (drawing : Drawing) :
    Drawing.check drawing.kind (.list drawing.payload) = .valid drawing := by
  cases drawing with
  | line points => exact congrArg (Schema.Checked.map Drawing.line) (Plot.recovers_linePoint.listOf points)
  | bands points => exact congrArg (Schema.Checked.map Drawing.bands) (Plot.recovers_bandPoint.listOf points)
  | histogram points =>
    exact congrArg (Schema.Checked.map Drawing.histogram) (Plot.recovers_linePoint.listOf points)
  | boxes items => exact congrArg (Schema.Checked.map Drawing.boxes) (Plot.recovers_box.listOf items)
  | labels items => exact congrArg (Schema.Checked.map Drawing.labels) (Plot.recovers_label.listOf items)

/-- A plot call that is accepted has an id that is not empty, and draws something of its kind. -/
theorem plot_of_checkPlot {kind : Kind} {o : Schema.Source} {call : Call}
    (h : checkPlot kind o = .valid call) :
    ∃ id options drawing, call = .plot id options drawing ∧ id.isEmpty = false ∧
      drawing.kind = kind := by
  obtain ⟨ofItems, drawing, hitems, hdrawing, rfl⟩ := Schema.Checked.seq_eq_valid h
  obtain ⟨ofOptions, options, hoptions, -, rfl⟩ := Schema.Checked.seq_eq_valid hitems
  obtain ⟨id, hid, rfl⟩ := Schema.Checked.map_eq_valid hoptions
  obtain ⟨w, hw⟩ := Schema.Source.required_eq_valid hid
  obtain ⟨v, hv⟩ := Schema.Source.required_eq_valid hdrawing
  exact ⟨id, options, drawing, rfl, by simpa using Schema.of_ensuring hw, Drawing.kind_of_check hv⟩

/-- The parameters that a plot call is rebuilt from. -/
def Drawing.params (drawing : Drawing) (id : String) (options : List (String × Wire)) :
    List (String × Wire) :=
  plotParams drawing.kind (.text id) (.list drawing.payload) (.object options)

/-- A plot call whose id is not empty is accepted from what it is rebuilt from. -/
theorem decode_params {id : String} (hid : id.isEmpty = false) (options : List (String × Wire))
    (drawing : Drawing) :
    Call.decode (plotMethod drawing.kind) (drawing.params id options) =
      .ok (.plot id options drawing) := by
  have htext : Schema.ensuring Schema.text (fun s => !s.isEmpty) (.tooShort 1) (.text id) =
      .valid id := by
    simp [Schema.ensuring, Schema.text, Schema.Checked.ensure, hid]
  have hcheck : checkPlot drawing.kind
      ⟨Assoc.put (drawing.params id options) "method" (.text (plotMethod drawing.kind))⟩ =
        ((((Schema.ensuring Schema.text (fun s => !s.isEmpty) (.tooShort 1) (.text id)).under
          (.field "id")).map Call.plot).ap (.valid options)).ap
            ((Drawing.check drawing.kind (.list drawing.payload)).under
              (.field (itemsKey drawing.kind))) := by
    cases drawing <;> rfl
  rw [decode_plot, hcheck, htext, drawing.check_payload]
  rfl

/-- The names of the fields of an item of a kind of plot, in order. -/
def fieldNames : Kind → List String
  | .line => ["time", "value"]
  | .bands => ["time", "upper", "basis", "lower"]
  | .histogram => ["time", "value"]
  | .boxes => ["from", "to", "top", "bottom"]
  | .labels => ["time", "price", "text", "color", "background", "shape", "size"]

/-- An item in normal form has all fields of its kind, in order. Of a label only those are there
that are not null. -/
def NormalItem (kind : Kind) (item : Wire) : Prop :=
  ∃ fields, item = .object fields ∧
    if kind = .labels then
      (Assoc.keys fields).Sublist (fieldNames kind) ∧
        ∀ f ∈ fields, RecordView.isNull f.2 = false
    else Assoc.keys fields = fieldNames kind

/-- A label without its null fields. -/
theorem normalItem_label (l : Plot.Label) : NormalItem .labels l.view.dumpPresent := by
  refine ⟨RecordView.shown l.view.fields, rfl, ?_⟩
  rw [if_pos rfl]
  constructor
  · have hkeys : Assoc.keys (RecordView.shown l.view.fields) =
        (l.view.fields.filter fun f => !RecordView.isNull f.value).map Schema.FieldView.name :=
      List.map_map
    rw [hkeys]
    exact List.filter_sublist.map _
  · intro f hf
    obtain ⟨view, hview, rfl⟩ := List.mem_map.mp hf
    simpa using (List.mem_filter.mp hview).2

/-- The items that a sink keeps are in normal form. -/
theorem Drawing.normalItem (drawing : Drawing) :
    ∀ item ∈ drawing.payload, NormalItem drawing.kind item := by
  intro item hitem
  cases drawing with
  | labels items =>
    obtain ⟨l, -, rfl⟩ := List.mem_map.mp hitem
    exact normalItem_label l
  | _ =>
    obtain ⟨p, -, rfl⟩ := List.mem_map.mp hitem
    exact ⟨_, rfl, rfl⟩

/-- A plot call in normal form. -/
structure Normal (kind : Kind) (id : String) (options : List (String × Wire)) (drawing : Drawing) :
    Prop where
  /-- It draws something of the kind. -/
  kind_eq : drawing.kind = kind
  /-- Rebuilt from its own output it is accepted, as the call that it is. -/
  rebuilt : Call.decode (plotMethod kind) (drawing.params id options) = .ok (.plot id options drawing)
  /-- Items of all kinds are written in one form. -/
  items : ∀ item ∈ drawing.payload, NormalItem kind item

/-- Every plot call that is accepted, in whatever form its numbers, its fields and its options
were given, is the call that its own output is accepted as. -/
theorem Call.normal_of_decode (kind : Kind) (params : List (String × Wire)) {call : Call}
    (h : Call.decode (plotMethod kind) params = .ok call) :
    ∃ id options drawing, call = .plot id options drawing ∧ Normal kind id options drawing := by
  rw [decode_plot] at h
  cases hcheck : checkPlot kind ⟨Assoc.put params "method" (.text (plotMethod kind))⟩ with
  | invalid vs =>
    rw [hcheck] at h
    cases h
  | valid accepted =>
    rw [hcheck] at h
    cases h
    obtain ⟨id, options, drawing, rfl, hid, rfl⟩ := plot_of_checkPlot hcheck
    exact ⟨id, options, drawing, rfl, rfl, decode_params hid options drawing, drawing.normalItem⟩

/-- The parameters of boxes that come in another form: the start under its own name and as a
text, the end and the lower price as truth values, and a field that boxes do not have. -/
def looseBoxes : List (String × Wire) :=
  plotParams .boxes (.text "zone")
    (.list [.object [("note", .null), ("from_", .text "5"), ("to", .bool true),
      ("top", .float Number.nan), ("bottom", .bool false)]])
    (.object [])

/-- Boxes in another form are accepted, and their normal form is accepted as the same call. -/
theorem normal_of_decode_looseBoxes :
    Call.decode (plotMethod .boxes) looseBoxes =
        .ok (.plot "zone" [] (.boxes [⟨5, 1, Number.nan, 0⟩])) ∧
      Call.decode (plotMethod .boxes)
          (plotParams .boxes (.text "zone")
            (.list [.object [("from", .int 5), ("to", .int 1), ("top", .float Number.nan),
              ("bottom", .float 0)]])
            (.object [])) =
        .ok (.plot "zone" [] (.boxes [⟨5, 1, Number.nan, 0⟩])) := by
  have hdecode : Call.decode (plotMethod .boxes) looseBoxes =
      .ok (.plot "zone" [] (.boxes [⟨5, 1, Number.nan, 0⟩])) := rfl
  obtain ⟨id, options, drawing, hcall, hnormal⟩ := Call.normal_of_decode .boxes looseBoxes hdecode
  cases hcall
  exact ⟨hdecode, hnormal.rebuilt⟩

end Message

end ChartScript
