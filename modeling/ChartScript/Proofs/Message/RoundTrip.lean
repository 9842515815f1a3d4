import ChartScript.Proofs.Bridge.Correlation
import ChartScript.Proofs.Data.Assoc
import ChartScript.Proofs.Schema.Recovery
import ChartScript.Proofs.Wire.Finite
import ChartScript.Session.Event
/-!
# Messages there and back

A message is encoded on one side and decoded on the other by code of its own. What arrives is
what was sent, with the numbers inside made finite: the messages of a context, the instruction
that it is given, and the reply that settles a call.
-/

namespace ChartScript

namespace Schema.RecordView

/-- The fields of a record that are not null, by wire names and made finite. -/
def present (fields : List FieldView) : List (String × Wire) :=
  (fields.filter fun f => !isNull f.value).map fun f => (f.wireName, f.value.finite)

/-- A field that is looked up in present fields, made finite. A null field is not found, and
is as good as null. -/
theorem get?_present {fields : List FieldView} (h : (fields.map FieldView.wireName).Nodup)
    {f : FieldView} (hf : f ∈ fields) :
    (Assoc.get? (present fields) f.wireName).getD .null = f.value.finite := by
  unfold present
  rw [Assoc.get?_map_filter FieldView.wireName (fun g => g.value.finite) (fun g => !isNull g.value) h hf]
  split
  · rfl
  · rename_i hn
    have hnull : f.value = .null := eq_null_of_isNull (by simpa using hn)
    rw [hnull]
    rfl

/-- A field of an encoded record, made finite. -/
theorem field?_toWire (r : RecordView) (h : (r.fields.map FieldView.wireName).Nodup) {f : FieldView}
    (hf : f ∈ r.fields) : (r.toWire.field? f.wireName).getD .null = f.value.finite :=
  get?_present h hf

end Schema.RecordView

namespace Message

open Schema (FieldView)

/-- A message as it arrives. -/
def FromContext.arrived : FromContext → FromContext
  | .request r => .request { r with params := Wire.finiteFields r.params }
  | m => m

/-- Whether all numbers in what a message carries freely are finite. -/
def FromContext.IsFinite : FromContext → Prop
  | .request r => Wire.fieldsNonFinite r.params = false
  | _ => True

/-- A message of a context is decoded as it was encoded. -/
theorem FromContext.decode_view (m : FromContext) :
    FromContext.decode? m.view.toWire = some m.arrived := by
  cases m with
  | started => rfl
  | log line =>
    obtain ⟨level, text⟩ := line
    cases level <;> rfl
  | done report => exact decode_done report
  | request r => rfl

/-- A message with finite numbers arrives as it is. -/
theorem FromContext.arrived_eq_self {m : FromContext} (h : m.IsFinite) : m.arrived = m := by
  cases m with
  | started => rfl
  | log line => rfl
  | done report => rfl
  | request r =>
    have hparams : Wire.finiteFields r.params = r.params := Wire.finiteFields_eq_self r.params h
    unfold arrived
    dsimp only
    rw [hparams]

/-- An instruction is decoded as it was encoded. -/
theorem Instruction.check_view (i : Instruction) : Instruction.check i.view.toWire = .valid i := rfl

namespace Reply

/-- What a reply settles the call with that it is for. -/
def settlement (r : Reply) : Settlement :=
  match r.error with
  | none => .ok r.result
  | some text => .error (.sandbox ((r.errorKind.map SandboxKind.ofWireName).getD .capability) text)

section Fields

variable (r : Reply)

/-- A field of an encoded reply, made finite. -/
theorem field?_view {f : FieldView} (hf : f ∈ r.view.fields) :
    (r.view.toWire.field? f.wireName).getD .null = f.value.finite := by
  have hnames : (r.view.fields.map FieldView.wireName).Nodup := by
    have hlist : r.view.fields.map FieldView.wireName = ["rpc", "id", "result", "error", "errorKind"] := rfl
    rw [hlist]
    decide
  exact r.view.field?_toWire hnames hf

/-- A text stays as it is when it is made finite, and so does its absence. -/
theorem finite_ofText? (text : Option String) : (Wire.ofText? text).finite = Wire.ofText? text := by
  cases text <;> rfl

/-- The result of an encoded reply. -/
theorem result_view : (r.view.toWire.field? "result").getD .null = r.result.finite :=
  r.field?_view (f := .plain "result" r.result) (by simp [view])

/-- The error of an encoded reply. -/
theorem error_view : (r.view.toWire.field? "error").getD .null = Wire.ofText? r.error := by
  rw [← finite_ofText? r.error]
  exact r.field?_view (f := .plain "error" (Wire.ofText? r.error)) (by simp [view])

/-- The kind of error of an encoded reply. -/
theorem errorKind_view : (r.view.toWire.field? "errorKind").getD .null = Wire.ofText? r.errorKind := by
  rw [← finite_ofText? r.errorKind]
  exact r.field?_view (f := ⟨"error_kind", "errorKind", Wire.ofText? r.errorKind⟩) (by simp [view])

/-- An encoded reply names the kind of its error by a text, if at all. -/
theorem namesKind_view : Bridge.namesKind r.view.toWire = true := by
  unfold Bridge.namesKind
  rw [errorKind_view]
  cases r.errorKind <;> rfl

/-- What is carried by an encoded reply. -/
theorem carried_view : Bridge.carried r.view.toWire = { r with result := r.result.finite }.settlement := by
  unfold Bridge.carried settlement
  rw [result_view, error_view, errorKind_view]
  dsimp only
  cases r.error with
  | none => rfl
  | some text => cases r.errorKind <;> rfl

end Fields

end Reply

end Message

end ChartScript
