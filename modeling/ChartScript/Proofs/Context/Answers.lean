import ChartScript.Proofs.Context.Errands
/-!
# From a request to what is received

The way of a request through a context and back. A context that hears it serves it under a number
of its own and sends exactly one reply to it, with the answer that decoding it and dispatching
its call give, and the bridge that waits for the id settles its call with that answer.
-/

namespace ChartScript.Context

open Artifact (SinkOps Sink)
open Message (Call Request replyId? requestOf?)

variable {κ σ : Type} [DecidableEq κ] (ops : SinkOps σ) (hasAttachments : Bool)

/-- What becomes of a request that a context has heard under a number. -/
structure Answers (number : Nat) (r : Request) (c : Context) (later : List (Moment κ σ)) : Prop where
  /-- As long as its call is served no reply to it is sent. -/
  waiting : (lived ops hasAttachments c later).errand? number ≠ none →
    postedFor ops hasAttachments number c later = []
  /-- When its call has been served exactly one was: the answer that the stage gives at the look
  at it, and what was fetched for it if it waited for a fetch. -/
  answered : (lived ops hasAttachments c later).errand? number = none → ∃ stage fetched,
    LookedAt ops hasAttachments number c later stage ∧
      ((∃ m ∈ later, m.event = .fetched number fetched) ∨ ∀ other,
        Host.answerTo hasAttachments r stage other = Host.answerTo hasAttachments r stage fetched) ∧
      postedFor ops hasAttachments number c later =
        [replyTo r (Host.answerTo hasAttachments r stage fetched)]
  /-- After a look at it its call has been served or waits for a fetch. -/
  looks : ∀ m : Moment κ σ, m.event = .serve number →
    (lived ops hasAttachments c (later ++ [m])).errand? number ≠ some ⟨number, r, none⟩
  /-- Once what it waits for has come its call has been served. -/
  brings : ∀ (m : Moment κ σ) fetch fetched,
    (lived ops hasAttachments c later).errand? number = some ⟨number, r, some fetch⟩ →
      m.event = .fetched number fetched →
        (lived ops hasAttachments c (later ++ [m])).errand? number = none
  /-- At a moment that is about no call no reply is sent. -/
  silent : ∀ m : Moment κ σ, (∀ k, m.event.handles k = false) →
    ∀ w ∈ told ops hasAttachments (lived ops hasAttachments c later) m, replyId? w = none
  /-- Its call is one of exactly its method. -/
  tagged : ∀ call, Call.decode r.method r.params = .ok call → call.method = r.method
  /-- If it cannot be decoded it is refused as no capability. -/
  refused : ∀ f, Call.decode r.method r.params = .error f → f.kind = .sandbox .capability
  /-- A parameter named like the method mark has no effect. -/
  unmarked : ∀ w, Call.decode r.method (Assoc.put r.params "method" w) = Call.decode r.method r.params
  /-- Dispatching its call never refuses it as no capability, unless a collaborator does. -/
  reached : ∀ call stage fetched f, Call.decode r.method r.params = .ok call →
    (Host.dispatch ⟨fun _ => fetched, hasAttachments⟩ call stage).2 = .error f →
      f.kind = .sandbox .capability → fetched = .error f
  /-- A bridge in which a call waits under its id settles this call with what is received of the
  answer. -/
  received : ∀ (b : Bridge) (p : PendingCall) answer, b.Consistent → p ∈ b.pending → p.id = r.id →
    (b.deliver (replyTo r answer)).2 = .ok true ∧
      (b.deliver (replyTo r answer)).1.settlement? p.future = some (Bridge.received answer)
  /-- A failure of a kind of the table is received as it is. -/
  kept : ∀ kind text,
    Bridge.received (.error (.sandbox kind text)) = .error (.sandbox kind text)
  /-- One of a kind outside the table is received as a refusal as no capability, with its text. -/
  outside : ∀ name typeName text, (∀ kind : SandboxKind, kind.wireName ≠ name) →
    Bridge.received (.error ⟨.added name typeName, text⟩) = .error (.sandbox .capability text)
  /-- Any other one is received as a failure of the run, which has its text or names its type. -/
  wrapped : ∀ f : Failure, f.kind.wireName? = none →
    Bridge.received (.error f) = .error (.sandbox .runtime f.describe)

variable {ops hasAttachments} {number : Nat} {r : Request} {c : Context} {later : List (Moment κ σ)}

omit [DecidableEq κ] in
/-- A context that begins serves no call. -/
theorem counted_begin {s : Scene κ σ} (instanceId : String) (spec : Run.Spec)
    (hs : s.context = create instanceId spec) : Counted (begin s).context := by
  rw [begin_context instanceId spec hs]
  exact fun e he => absurd he List.not_mem_nil

variable (ops hasAttachments) in
/-- A request that is heard is served under the next number. -/
theorem progress_heard {m : Moment κ σ} {raw : Wire} (hc : Counted c) (hm : m.event = .message raw)
    (hr : requestOf? raw = some r) (ha : c.attached = true) (ht : c.status ≠ .terminated) :
    Progress ops hasAttachments c.calls r (meet ops hasAttachments c m).context
        ([] : List (Moment κ σ)) ∧
      c.calls < (meet ops hasAttachments c m).context.calls := by
  have hdecode : Message.FromContext.decode? raw = some (.request r) := by
    unfold requestOf? at hr
    split at hr
    · rename_i request he
      rw [he, Option.some.inj hr]
    · cases hr
  have hadmits : (m.scene c).context.admits (.message raw) = true := ha
  have hliving : ¬(m.scene c).context.status = .terminated := ht
  have hmeet : (meet ops hasAttachments c m).context =
      { c with errands := c.errands ++ [⟨c.calls, r, none⟩], calls := c.calls + 1 } := by
    unfold meet happen
    rw [hm, if_pos hadmits]
    unfold step onMessage
    dsimp only
    rw [if_neg hliving, hdecode]
    rfl
  have hnone : c.errands.find? (fun e => e.number = c.calls) = none := by
    refine List.find?_eq_none.mpr fun e he hn => ?_
    have hlt := hc e he
    have hn := of_decide_eq_true hn
    omega
  constructor
  · refine .unseen ?_ rfl
    change (meet ops hasAttachments c m).context.errand? c.calls = _
    rw [hmeet]
    unfold errand?
    dsimp only
    rw [List.find?_append, hnone]
    simp
  · rw [hmeet]
    exact Nat.lt_succ_self _

/-- What has become of the call of a request is what is guaranteed. -/
theorem Progress.answers (h : Progress ops hasAttachments number r c later) (hs : Sound c) :
    Answers ops hasAttachments number r c later where
  waiting hserved := by
    cases h with
    | unseen _ posted => exact posted
    | waits _ _ _ _ posted => exact posted
    | served _ _ _ _ errand => exact absurd errand hserved
  answered hnone := by
    cases h with
    | unseen errand => cases errand.symm.trans hnone
    | waits _ _ _ errand => cases errand.symm.trans hnone
    | served stage looked fetched brought _ posted => exact ⟨stage, fetched, looked, brought, posted⟩
  looks m hm := by
    rw [lived_concat, meet_serve ops hasAttachments _ hm]
    intro hunseen
    have hidle : (∀ request, (lived ops hasAttachments c later).errand? number ≠
        some ⟨number, request, none⟩) → False := by
      intro hother
      rw [serve_idle (s := m.scene (lived ops hasAttachments c later)) hasAttachments hother] at hunseen
      exact hother r hunseen
    cases h with
    | unseen errand =>
      rcases serve_answers (s := m.scene (lived ops hasAttachments c later)) hasAttachments errand
        with ⟨hnone, -⟩ | ⟨fetch, hwaits, -⟩
      · cases hnone.symm.trans hunseen
      · cases hwaits.symm.trans hunseen
    | waits _ _ _ errand => exact hidle (by rw [errand]; exact fun _ => nofun)
    | served _ _ _ _ errand => exact hidle (by rw [errand]; exact fun _ => nofun)
  brings m fetch fetched hwaits hm := by
    rw [lived_concat, meet_fetched ops hasAttachments _ hm]
    exact (fetched_answers (s := m.scene (lived ops hasAttachments c later)) fetched hwaits).1
  silent m hm w hw := by
    have hdeed := deed_meet ops hasAttachments (sound_lived ops hasAttachments hs later) m
    rcases hdeed.sent_eq hm with hsent | ⟨message, hnone, hsent⟩
    · have htold : told ops hasAttachments (lived ops hasAttachments c later) m = [] := told_of_eq hsent
      rw [htold] at hw
      cases hw
    · have htold : told ops hasAttachments (lived ops hasAttachments c later) m = [message] :=
        told_of_append hsent
      rw [htold, List.mem_singleton] at hw
      rw [hw]
      exact hnone
  tagged _ hd := Call.method_of_decode hd
  refused _ hd := Call.kind_of_decode hd
  unmarked w := Call.decode_put r.method r.params w
  reached _ _ _ _ _ hd hf := Host.eq_of_dispatch hd hf
  received b p answer hb hp hid := by
    obtain ⟨hreply, hkind⟩ := Bridge.replyId?_of r.id answer
    obtain ⟨htrue, -, hsettled, -⟩ := hb.deliver_answer hp (hid ▸ hreply) hkind
    refine ⟨htrue, ?_⟩
    rw [← Bridge.carried_of r.id answer]
    exact hsettled
  kept := Bridge.received_sandbox
  outside _ typeName text h := Bridge.received_added typeName text h
  wrapped _ h := Bridge.received_other h

/-- In every state that a context can come to, a request that it hears has exactly one answer once
its call has been served, if the context is not killed and the way to the process stays intact
until then. -/
theorem answers_heard (instanceId : String) (spec : Run.Spec) (first : Moment κ σ)
    (past : List (Moment κ σ)) {m : Moment κ σ} {raw : Wire} (hm : m.event = .message raw)
    (hr : requestOf? raw = some r)
    (ha : (lived ops hasAttachments (begin (first.scene (create instanceId spec))).context
      past).attached = true)
    (ht : (lived ops hasAttachments (begin (first.scene (create instanceId spec))).context
      past).status ≠ .terminated)
    (hopen : OpenFor ops hasAttachments
      (lived ops hasAttachments (begin (first.scene (create instanceId spec))).context past).calls
      (meet ops hasAttachments (lived ops hasAttachments
        (begin (first.scene (create instanceId spec))).context past) m).context later) :
    Answers ops hasAttachments
      (lived ops hasAttachments (begin (first.scene (create instanceId spec))).context past).calls r
      (meet ops hasAttachments (lived ops hasAttachments
        (begin (first.scene (create instanceId spec))).context past) m).context later := by
  have hbegin : Sound (begin (first.scene (create instanceId spec))).context :=
    sound_begin (s := first.scene (create instanceId spec)) instanceId spec rfl
  have hcounted : Counted (begin (first.scene (create instanceId spec))).context :=
    counted_begin (s := first.scene (create instanceId spec)) instanceId spec rfl
  have hsound := sound_lived ops hasAttachments hbegin past
  have hpast := (hcounted.lived ops hasAttachments hbegin past).1
  generalize lived ops hasAttachments (begin (first.scene (create instanceId spec))).context past = c
    at *
  have hdeed := deed_meet ops hasAttachments hsound m
  have hheard := sound_meet ops hasAttachments hsound m
  obtain ⟨hprogress, hlt⟩ := progress_heard ops hasAttachments hpast hm hr ha ht
  exact (hprogress.run later hheard (hdeed.counted hpast).1 hlt hopen).answers hheard

/-- A request for bars. -/
def barsRequest : Request := ⟨"7", "getBars", [("symbol", .text "SPY"), ("timeframe", .text "1d")]⟩

/-- A moment at which nothing but the event matters. -/
def plainly (e : Event) : Moment Nat Sink := ⟨0, ⟨.empty, .empty⟩, none, 0, e⟩

/-- When the bars have come the request for them has its one answer. -/
theorem answers_heard_bars :
    let c := (begin ((plainly .created).scene (create "a" ⟨"S", "1h", "", 2000⟩))).context
    let heard := plainly (.message barsRequest.view.toWire)
    let later := [plainly (.serve 0), plainly (.fetched 0 (.ok (.list [])))]
    let d := (meet Sink.ops false (lived Sink.ops false c [plainly .created]) heard).context
    Answers Sink.ops false 0 barsRequest d later ∧
      postedFor Sink.ops false 0 d later = [replyTo barsRequest (.ok (.list []))] := by
  refine ⟨?_, by rfl⟩
  refine answers_heard "a" ⟨"S", "1h", "", 2000⟩ (plainly .created) [plainly .created]
    (m := plainly (.message barsRequest.view.toWire)) rfl (by rfl) (by rfl) (by decide) ?_
  exact ⟨fun _ => ⟨rfl, by decide⟩, fun _ => ⟨rfl, by decide⟩, trivial⟩

end ChartScript.Context
