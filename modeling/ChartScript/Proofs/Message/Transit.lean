import ChartScript.Bridge.Basic
import ChartScript.Message.Call
/-!
# Messages on their way

What becomes of a message on its way between a context and its process. A request arrives
with its id and method and with its parameters made finite, a report arrives as it is, and
no other message is taken for a request or for the report of a successful end. On the way
back a reply is known by its correlation id.
-/

namespace ChartScript.Message

/-- The request that a message of a process carries. -/
def requestOf? (raw : Wire) : Option Request :=
  match FromContext.decode? raw with
  | some (.request r) => some r
  | _ => none

/-- A message that ends a run well: no error, and not out of time. -/
def IsSuccess (raw : Wire) : Prop :=
  ∃ report, FromContext.decode? raw = some (.done report) ∧ report.timedOut ≠ some true ∧
    report.error = none

/-- The messages of a process that are neither requests nor reports of a successful end. -/
structure IsPlain (raw : Wire) : Prop where
  /-- It carries no request. -/
  request : requestOf? raw = none
  /-- It does not end the run well. -/
  success : ¬IsSuccess raw

/-- The correlation id that a message of a context names, if it is marked as a reply. -/
def replyId? (raw : Wire) : Option String :=
  match raw with
  | .object fields =>
    if isMark (Assoc.get? fields "rpc") then some ((Assoc.get? fields "id").getD .null).display
    else none
  | _ => none

/-- A message that decodes to something else than a request or a report is plain. -/
theorem isPlain_of_decode {raw : Wire} {m : FromContext} (h : FromContext.decode? raw = some m)
    (hr : ∀ r, m ≠ .request r) (hd : ∀ d, m ≠ .done d) : IsPlain raw := by
  constructor
  · unfold requestOf?
    rw [h]
    cases m with
    | request r => exact absurd rfl (hr r)
    | _ => rfl
  · rintro ⟨d, hdone, -⟩
    rw [h] at hdone
    cases hdone
    exact hd d rfl

/-- The report that the script starts is plain. -/
theorem isPlain_started : IsPlain startedView.toWire := by
  have hd : FromContext.decode? startedView.toWire = some .started := rfl
  exact isPlain_of_decode hd (fun _ => nofun) fun _ => nofun

/-- A line of the log is plain. -/
theorem isPlain_log (line : LogLine) : IsPlain line.view.toWire := by
  have hd : FromContext.decode? line.view.toWire = some (.log line) := by
    obtain ⟨level, text⟩ := line
    cases level <;> rfl
  exact isPlain_of_decode hd (fun _ => nofun) fun _ => nofun

/-- A report arrives as it is. -/
theorem decode_done (report : Done) :
    FromContext.decode? report.view.toWire = some (.done report) := by
  obtain ⟨error, timedOut⟩ := report
  cases error <;> rcases timedOut with _ | _ | _ <;> rfl

/-- A report of a failure or of a timeout is plain. -/
theorem isPlain_done {report : Done} (h : report.error ≠ none ∨ report.timedOut = some true) :
    IsPlain report.view.toWire := by
  constructor
  · unfold requestOf?
    rw [decode_done]
  · rintro ⟨d, hd, ht, he⟩
    rw [decode_done] at hd
    cases hd
    rcases h with h | h
    · exact h he
    · exact ht h

/-- A request arrives with its parameters made finite. -/
theorem requestOf_view (r : Request) :
    requestOf? r.view.toWire = some { r with params := Wire.finiteFields r.params } := rfl

/-- A request is no report. -/
theorem not_isSuccess_view (r : Request) : ¬IsSuccess r.view.toWire := by
  rintro ⟨d, hd, -⟩
  have hr : FromContext.decode? r.view.toWire =
    some (.request { r with params := Wire.finiteFields r.params }) := rfl
  rw [hr] at hd
  cases hd

/-- The encoded request of a call. -/
theorem encode_eq (id method : String) (params : List (String × Wire)) :
    Bridge.encode id (.text method) (.object params) =
      .ok (Request.view ⟨id, method, params⟩).toWire := by
  unfold Bridge.encode
  cases params <;> rfl

/-- What a context is told to run is no reply. -/
theorem replyId_instruction (i : Instruction) : replyId? i.view.toWire = none := rfl

/-- A reply names the id that it is for. -/
theorem replyId_reply (r : Reply) : replyId? r.view.toWire = some r.id := by
  obtain ⟨id, result, error, kind⟩ := r
  rfl

/-- Every reply to a request names its id, also that of a failure. -/
theorem replyId_failure (id : String) (f : Failure) :
    replyId? (Reply.failure id f).view.toWire = some id := by
  unfold Reply.failure
  split <;> rfl

end ChartScript.Message
