import ChartScript.Host.Dispatch
import ChartScript.Proofs.Bridge.Correlation
import ChartScript.Proofs.Artifact.Draft
import ChartScript.Proofs.Data.Basic
/-!
# Answers

What a request is answered with and what becomes of the answer. A request is decoded into the
call of its own method or refused as no capability, and a decoded call is served by the part of
the host that is meant for it: only a collaborator can still refuse it as no capability. The
reply carries the answer back to the bridge that waits for it. A result arrives made finite. A
failure arrives with its text and under its kind, if that is one of the table.
-/

namespace ChartScript

open Message (Call Reply Request replyId?)
open Artifact (Stage)

namespace Schema

variable {α β γ δ : Type}

/-- A field that was accepted holds an accepted value. -/
theorem Source.required_eq_valid {o : Source} {names : List String} {check : Check α} {a : α}
    (h : o.required names check = .valid a) : ∃ w, check w = .valid a := by
  unfold required at h
  split at h
  · rename_i name w _
    refine ⟨w, ?_⟩
    cases hc : check w with
    | valid b =>
      rw [hc] at h
      exact h
    | invalid vs =>
      rw [hc] at h
      cases h
  · cases h

/-- A record of one field that was accepted. -/
theorem Checked.map_eq_valid {f : α → β} {x : Checked α} {b : β} (h : f <$> x = .valid b) :
    ∃ a, x = .valid a ∧ b = f a := by
  cases x with
  | valid a =>
    cases h
    exact ⟨a, rfl, rfl⟩
  | invalid vs => cases h

/-- A record of more fields that was accepted. -/
theorem Checked.seq_eq_valid {f : Checked (α → β)} {x : Checked α} {b : β}
    (h : f <*> x = .valid b) : ∃ g a, f = .valid g ∧ x = .valid a ∧ b = g a := by
  cases f with
  | valid g =>
    cases x with
    | valid a =>
      cases h
      exact ⟨g, a, rfl, rfl, rfl⟩
    | invalid vs => cases h
  | invalid vs => cases x <;> cases h

/-- A value that was accepted meets the further condition. -/
theorem of_ensuring {check : Check α} {ok : α → Bool} {cause : Cause} {w : Wire} {a : α}
    (h : ensuring check ok cause w = .valid a) : ok a = true := by
  unfold ensuring at h
  cases hc : check w with
  | invalid vs =>
    rw [hc] at h
    cases h
  | valid b =>
    rw [hc] at h
    unfold Checked.ensure at h
    dsimp only at h
    split at h
    · rename_i hok
      cases h
      exact hok
    · cases h

end Schema

namespace Message

/-- What a plot call of a kind draws is of that kind. -/
theorem Drawing.kind_of_check {kind : Plot.Kind} {w : Wire} {d : Drawing}
    (h : Drawing.check kind w = .valid d) : d.kind = kind := by
  cases kind with
  | line =>
    obtain ⟨points, -, rfl⟩ := Schema.Checked.map_eq_valid h
    rfl
  | bands =>
    obtain ⟨points, -, rfl⟩ := Schema.Checked.map_eq_valid h
    rfl
  | histogram =>
    obtain ⟨points, -, rfl⟩ := Schema.Checked.map_eq_valid h
    rfl
  | boxes =>
    obtain ⟨points, -, rfl⟩ := Schema.Checked.map_eq_valid h
    rfl
  | labels =>
    obtain ⟨points, -, rfl⟩ := Schema.Checked.map_eq_valid h
    rfl

/-- The parameters of a capability make a call of its method. -/
theorem Capability.method_of_check {capability : Capability} {o : Schema.Source} {call : Call}
    (h : capability.check o = .valid call) : call.method = capability.method := by
  cases capability with
  | bars =>
    obtain ⟨ofTimeframe, timeframe, hsymbol, -, rfl⟩ := Schema.Checked.seq_eq_valid h
    obtain ⟨symbol, -, rfl⟩ := Schema.Checked.map_eq_valid hsymbol
    rfl
  | plot kind =>
    obtain ⟨ofItems, drawing, hitems, hdrawing, rfl⟩ := Schema.Checked.seq_eq_valid h
    obtain ⟨ofOptions, options, hoptions, -, rfl⟩ := Schema.Checked.seq_eq_valid hitems
    obtain ⟨id, -, rfl⟩ := Schema.Checked.map_eq_valid hoptions
    obtain ⟨w, hw⟩ := Schema.Source.required_eq_valid hdrawing
    exact congrArg plotMethod (Drawing.kind_of_check hw)
  | attachmentNames =>
    cases h
    rfl
  | attachment =>
    obtain ⟨name, -, rfl⟩ := Schema.Checked.map_eq_valid h
    rfl

/-- A request is decoded into a call of exactly its method. -/
theorem Call.method_of_decode {method : String} {params : List (String × Wire)} {call : Call}
    (h : Call.decode method params = .ok call) : call.method = method := by
  unfold Call.decode at h
  cases hc : Capability.ofMethod? method with
  | none =>
    rw [hc] at h
    cases h
  | some capability =>
    have hmethod : capability.method = method := by simpa using List.find?_some hc
    rw [hc] at h
    dsimp only at h
    cases hp : capability.check ⟨Assoc.put params "method" (.text method)⟩ with
    | valid decoded =>
      rw [hp] at h
      cases h
      exact (Capability.method_of_check hp).trans hmethod
    | invalid vs =>
      rw [hp] at h
      cases h

/-- A request that cannot be decoded is refused as no capability. -/
theorem Call.kind_of_decode {method : String} {params : List (String × Wire)} {f : Failure}
    (h : Call.decode method params = .error f) : f.kind = .sandbox .capability := by
  unfold Call.decode at h
  split at h
  · cases h
    rfl
  · split at h
    · cases h
    · cases h
      unfold malformedParams
      split <;> rfl

/-- A parameter named like the method mark has no effect. -/
theorem Call.decode_put (method : String) (params : List (String × Wire)) (w : Wire) :
    Call.decode method (Assoc.put params "method" w) = Call.decode method params := by
  unfold Call.decode
  rw [Assoc.put_put]

/-- The reply that carries an answer. -/
def Reply.of (id : String) : Except Failure Wire → Reply
  | .ok w => .success id w
  | .error f => .failure id f

end Message

namespace Host

/-- The answer to a request: the refusal to decode it, or what dispatching the decoded call
gives, for collaborators that bring `fetched`. -/
def answerTo (hasAttachments : Bool) (r : Request) (stage : Stage) (fetched : Except Failure Wire) :
    Except Failure Wire :=
  match Call.decode r.method r.params with
  | .error f => .error f
  | .ok call => (dispatch ⟨fun _ => fetched, hasAttachments⟩ call stage).2

/-- Data that is refused by a check is refused as such. -/
theorem kind_of_checkedData {α : Type} {check : Schema.Check α} {view : α → Schema.RecordView}
    {w : Wire} {f : Failure} (h : checkedData check view w = .error f) : f.kind = .validation := by
  unfold checkedData at h
  split at h
  · cases h
  · cases h
    rfl

/-- Data without elements is refused as being of the wrong type. -/
theorem kind_of_elementsOf {w : Wire} {f : Failure} (h : elementsOf w = .error f) :
    f.kind = .type := by
  unfold elementsOf Wire.elements at h
  split at h
  · cases h
  · cases h
    rfl

/-- A list of which some item is refused by a check. -/
theorem kind_of_mapM {α : Type} {check : Schema.Check α} {view : α → Schema.RecordView}
    {items : List Wire} {f : Failure} (h : items.mapM (checkedData check view) = .error f) :
    f.kind = .validation := by
  induction items with
  | nil => cases h
  | cons w rest ih =>
    rw [List.mapM_cons] at h
    rcases error_of_bind h with hw | ⟨dumped, -, h⟩
    · exact kind_of_checkedData hw
    · rcases error_of_bind h with hr | ⟨more, -, h⟩
      · exact ih hr
      · cases h

/-- What a fetch leads to is a refusal as no capability only if the collaborator refused it so. -/
theorem Fetch.eq_of_answer {fetch : Fetch} {fetched : Except Failure Wire} {f : Failure}
    (h : fetch.answer fetched = .error f) (hf : f.kind = .sandbox .capability) :
    fetched = .error f := by
  cases fetch with
  | bars symbol timeframe =>
    cases fetched with
    | error g => exact h
    | ok w =>
      change (if w.truthy then (do
        let items ← elementsOf w
        return Wire.list (← items.mapM (checkedData Market.Bar.check Market.Bar.view)))
        else return Wire.list []) = Except.error f at h
      split at h
      · rcases error_of_bind h with hi | ⟨items, -, h⟩
        · cases (kind_of_elementsOf hi).symm.trans hf
        · rcases error_of_bind h with hm | ⟨dumped, -, h⟩
          · cases (kind_of_mapM hm).symm.trans hf
          · cases h
      · cases h
  | names =>
    cases fetched with
    | error g => exact h
    | ok w =>
      change (do return Wire.list (← elementsOf w)) = Except.error f at h
      rcases error_of_bind h with hi | ⟨items, -, h⟩
      · cases (kind_of_elementsOf hi).symm.trans hf
      · cases h
  | table name =>
    cases fetched with
    | error g =>
      change Except.error (if saysAbsent g then Attachment.notFound name else g) = Except.error f at h
      split at h
      · cases h
        cases hf
      · exact h
    | ok w =>
      cases w with
      | null =>
        cases h
        cases hf
      | _ =>
        unfold Fetch.answer at h
        dsimp only at h
        cases (kind_of_checkedData h).symm.trans hf

/-- A decoded call is refused as no capability only by a collaborator. -/
theorem eq_of_dispatch {hasAttachments : Bool} {call : Call} {stage : Stage}
    {fetched : Except Failure Wire} {f : Failure}
    (h : (dispatch ⟨fun _ => fetched, hasAttachments⟩ call stage).2 = .error f)
    (hf : f.kind = .sandbox .capability) : fetched = .error f := by
  cases call with
  | getBars symbol timeframe =>
    change (Fetch.bars symbol timeframe).answer fetched = _ at h
    exact Fetch.eq_of_answer h hf
  | plot id options drawing =>
    unfold dispatch serve at h
    dsimp only at h
    cases ho : stage.isOpen with
    | true =>
      have hput := stage.put_of_isOpen ho ⟨drawing.kind, id, ⟨drawing.payload, options⟩⟩
      dsimp only at hput
      rw [hput] at h
      cases h
    | false =>
      rw [stage.put_of_closed ho] at h
      cases h
      cases hf
  | listAttachments =>
    cases hasAttachments with
    | true =>
      change Fetch.names.answer fetched = _ at h
      exact Fetch.eq_of_answer h hf
    | false => cases h
  | readAttachment name =>
    cases hasAttachments with
    | true =>
      change (Fetch.table name).answer fetched = _ at h
      exact Fetch.eq_of_answer h hf
    | false =>
      cases h
      cases hf

end Host

namespace Bridge

/-- What a future is settled with by an answer: the result made finite, or a failure. One of a
kind of the table keeps its kind, one of any other kind with a name on the wire is refused as no
capability, and both keep their text. Any other failure is one of the run, and is named by its
type if it has no text. -/
def received : Except Failure Wire → Settlement
  | .ok w => .ok w.finite
  | .error f =>
    match f.kind.wireName? with
    | some name => .error (.sandbox (SandboxKind.ofWireName name) f.text)
    | none => .error (.sandbox .runtime f.describe)

/-- A reply names the id that it is for, and its kind of error by a text. -/
theorem replyId?_of (id : String) (answer : Except Failure Wire) :
    replyId? (Reply.of id answer).view.toWire = some id ∧
      namesKind (Reply.of id answer).view.toWire = true := by
  cases answer with
  | ok w =>
    refine ⟨Message.replyId_reply _, ?_⟩
    cases w <;> rfl
  | error f =>
    refine ⟨Message.replyId_failure id f, ?_⟩
    change namesKind (Reply.failure id f).view.toWire = true
    unfold Reply.failure
    split <;> rfl

/-- A reply settles its call with what is received of the answer. -/
theorem carried_of (id : String) (answer : Except Failure Wire) :
    carried (Reply.of id answer).view.toWire = received answer := by
  cases answer with
  | ok w => cases w <;> rfl
  | error f =>
    change carried (Reply.failure id f).view.toWire = _
    unfold Reply.failure received
    dsimp only
    cases f.kind.wireName? <;> rfl

/-- A failure of one of the sandbox's kinds is received as it is. -/
theorem received_sandbox (kind : SandboxKind) (text : String) :
    received (.error (.sandbox kind text)) = .error (.sandbox kind text) := by
  unfold received
  change Except.error (Failure.sandbox (SandboxKind.ofWireName kind.wireName) text) = _
  rw [SandboxKind.ofWireName_wireName]

/-- A failure of a kind that is not in the table is received as a refusal as no capability. -/
theorem received_added {name : String} (typeName text : String)
    (h : ∀ kind : SandboxKind, kind.wireName ≠ name) :
    received (.error ⟨.added name typeName, text⟩) = .error (.sandbox .capability text) := by
  have hunknown : SandboxKind.ofWireName name = .capability := by
    unfold SandboxKind.ofWireName
    rw [List.find?_eq_none.mpr fun kind _ hk => h kind (of_decide_eq_true hk)]
    rfl
  unfold received
  change Except.error (Failure.sandbox (SandboxKind.ofWireName name) text) = _
  rw [hunknown]

/-- A failure that is not one of the sandbox is received as one of the run. -/
theorem received_other {f : Failure} (h : f.kind.wireName? = none) :
    received (.error f) = .error (.sandbox .runtime f.describe) := by
  unfold received
  dsimp only
  rw [h]

end Bridge

end ChartScript
