import Mathlib.Data.List.Induction
import ChartScript.Proofs.Context.Calls
import ChartScript.Proofs.Context.Deed
import ChartScript.Proofs.Host.Answer
/-!
# Every request has its answer

A context numbers the requests that it hears. The call of a number is looked at, and then it is
answered at once or waits for what it fetches. As long as it is served no reply to it is sent,
and when it has been served exactly one was, unless the context was killed or the way to the
process broke before. No reply is sent at any other event.
-/

namespace ChartScript

open Artifact (SinkOps Stage)
open Message (Call Reply Request replyId? requestOf?)

namespace Context

variable {κ σ : Type} {s : Scene κ σ}

section Calls

/-- The call of a number among calls of which one is dropped. -/
theorem find?_filter_number (errands : List Errand) {number n : Nat} (hn : n ≠ number) :
    (errands.filter fun e => e.number ≠ number).find? (fun e => e.number = n) =
      errands.find? fun e => e.number = n := by
  rw [List.find?_filter]
  congr 1
  funext e
  by_cases he : e.number = n
  · simp [he, hn]
  · simp [he]

/-- A call that was dropped is not found. -/
theorem find?_filter_self (errands : List Errand) (number : Nat) :
    (errands.filter fun e => e.number ≠ number).find? (fun e => e.number = number) = none := by
  refine List.find?_eq_none.mpr fun e he hn => ?_
  exact of_decide_eq_true (List.mem_filter.mp he).2 (of_decide_eq_true hn)

/-- The call of a number among calls of which one waits for a fetch. -/
theorem find?_map_number (errands : List Errand) (number : Nat) (fetch : Host.Fetch) (n : Nat) :
    (errands.map fun e => if e.number = number then { e with fetch := some fetch } else e).find?
        (fun e => e.number = n) =
      (errands.find? fun e => e.number = n).map fun e =>
        if e.number = number then { e with fetch := some fetch } else e := by
  rw [List.find?_map]
  congr 2
  funext e
  dsimp only [Function.comp_apply]
  split <;> rfl

variable {c d : Context} {e : Event} {number : Nat}

/-- When a call is handled the other ones are as they were. -/
theorem errand?_of_handle
    (h : d.errands = c.errands.filter (fun e => e.number ≠ number) ∨
      ∃ fetch, d.errands = c.errands.map fun e =>
        if e.number = number then { e with fetch := some fetch } else e)
    {n : Nat} (hn : n ≠ number) : d.errand? n = c.errand? n := by
  unfold errand?
  rcases h with hd | ⟨fetch, hd⟩
  · rw [hd]
    exact find?_filter_number c.errands hn
  · rw [hd, find?_map_number]
    cases hf : c.errands.find? fun e => e.number = n with
    | none => rfl
    | some old =>
      have hnumber : old.number = n := by simpa using List.find?_some hf
      have hother : ¬old.number = number := by rwa [hnumber]
      rw [Option.map_some, if_neg hother]

/-- Whether every call that is served has a number below that of the next one. -/
def Counted (c : Context) : Prop := ∀ e ∈ c.errands, e.number < c.calls

/-- Calls that are all among those that there were are counted. -/
theorem Counted.mono (h : Counted c) (hcalls : d.calls = c.calls)
    (herrands : ∀ e ∈ d.errands, ∃ old ∈ c.errands, old.number = e.number) : Counted d := by
  intro new hnew
  obtain ⟨old, hold, hsame⟩ := herrands new hnew
  have hlt := h old hold
  omega

/-- Numbers are counted upwards. -/
theorem Deed.counted (k : Deed c d e) (h : Counted c) : Counted d ∧ c.calls ≤ d.calls := by
  have hsame : d.errands = c.errands → d.calls = c.calls → Counted d ∧ c.calls ≤ d.calls := by
    intro herrands hcalls
    refine ⟨h.mono hcalls fun e he => ⟨e, ?_, rfl⟩, Nat.le_of_eq hcalls.symm⟩
    rwa [← herrands]
  cases k with
  | aside same => exact hsame same.errands same.calls
  | kill marked same status eq =>
    have hnone : d.errands = [] := by rw [eq, kill_errands, same.errands]
    have hcalls : d.calls = c.calls := by rw [eq, kill_calls, same.calls]
    refine ⟨h.mono hcalls fun e he => ?_, Nat.le_of_eq hcalls.symm⟩
    rw [hnone] at he
    cases he
  | create event unread eq =>
    obtain ⟨herrands, hcalls⟩ := launched_calls c
    rw [← eq] at herrands hcalls
    exact hsame herrands hcalls
  | die code before eq => exact hsame (by rw [eq]) (by rw [eq])
  | hear r eq =>
    rw [eq]
    refine ⟨fun new hnew => ?_, Nat.le_succ c.calls⟩
    dsimp only at hnew ⊢
    rcases List.mem_append.mp hnew with hold | hlast
    · have hlt := h new hold
      omega
    · rw [List.mem_singleton.mp hlast]
      exact Nat.lt_succ_self c.calls
  | handle number event errands calls =>
    refine ⟨h.mono calls fun new hnew => ?_, Nat.le_of_eq calls.symm⟩
    rcases errands with hd | ⟨fetch, hd⟩
    · rw [hd] at hnew
      exact ⟨new, List.mem_of_mem_filter hnew, rfl⟩
    · rw [hd] at hnew
      obtain ⟨old, hold, rfl⟩ := List.mem_map.mp hnew
      refine ⟨old, hold, ?_⟩
      split <;> rfl

/-- The call of a number is as it was after an event that is not about it, unless the context was
killed and has abandoned it. -/
theorem Deed.errand?_eq (k : Deed c d e) (he : e.handles number = false) (hlt : number < c.calls) :
    d.errand? number = c.errand? number ∨ d.errand? number = none ∧ d.status = .terminated := by
  have hsame : d.errands = c.errands → d.errand? number = c.errand? number := by
    intro herrands
    unfold errand?
    rw [herrands]
  cases k with
  | aside same => exact .inl (hsame same.errands)
  | kill marked same status eq =>
    have hnone : d.errands = [] := by rw [eq, kill_errands, same.errands]
    right
    unfold errand?
    rw [hnone, eq, kill_status]
    exact ⟨rfl, status⟩
  | create event unread eq => exact .inl (hsame (by rw [eq, (launched_calls c).1]))
  | die code before eq => exact .inl (hsame (by rw [eq]))
  | hear r eq =>
    have hnew : ¬c.calls = number := by omega
    left
    rw [eq]
    unfold errand?
    rw [List.find?_append]
    simp [hnew]
  | handle n event errands =>
    refine .inl (errand?_of_handle errands fun hn => ?_)
    rw [hn, event] at he
    cases he

/-- At an event that is about no call nothing is sent, or only what to run. -/
theorem Deed.sent_eq (k : Deed c d e) (he : ∀ n, e.handles n = false) :
    d.sent = c.sent ∨ ∃ message, replyId? message = none ∧ d.sent = c.sent ++ [message] := by
  cases k with
  | aside same => exact .inl same.sent
  | kill marked same status eq => exact .inl (by rw [eq, kill_sent, same.sent])
  | create event unread eq =>
    rw [eq]
    exact (launched_sent c).imp_right fun hs => ⟨_, Message.replyId_instruction _, hs⟩
  | die code before eq => exact .inl (by rw [eq])
  | hear r eq => exact .inl (by rw [eq])
  | handle n event => cases (he n).symm.trans event

end Calls

section Handling

/-- An answer, as it is sent. -/
theorem reply_eq (errand : Errand) (answer : Except Failure Wire) (s : Scene κ σ) :
    reply errand answer s = s.mapContext fun c =>
      if c.status = .terminated then c.dropErrand errand.number
      else (c.dropErrand errand.number).send (Reply.of errand.request.id answer).view.toWire := by
  cases answer <;> rfl

/-- The calls of a context that has answered one. -/
theorem reply_errands (errand : Errand) (answer : Except Failure Wire) (s : Scene κ σ) :
    (reply errand answer s).context.errands =
        s.context.errands.filter (fun e => e.number ≠ errand.number) ∧
      (reply errand answer s).context.calls = s.context.calls := by
  rw [reply_eq]
  dsimp only [Scene.mapContext]
  split
  · exact ⟨rfl, rfl⟩
  · unfold send
    split <;> exact ⟨rfl, rfl⟩

variable {number : Nat} {r : Request}

/-- The reply to a request. -/
def replyTo (r : Request) (answer : Except Failure Wire) : Wire := (Reply.of r.id answer).view.toWire

/-- An answer is sent, if the context was not killed and the way to the process is intact. -/
theorem reply_sends (fetch : Option Host.Fetch) (answer : Except Failure Wire)
    (ht : s.context.status ≠ .terminated) (hi : s.context.link = .intact) :
    (reply ⟨number, r, fetch⟩ answer s).context.sent = s.context.sent ++ [replyTo r answer] := by
  have hlink : (s.context.dropErrand number).link = .intact := hi
  rw [reply_eq]
  dsimp only [Scene.mapContext]
  rw [if_neg ht]
  unfold send
  rw [if_pos hlink]
  rfl

/-- An answered call is served no more. -/
theorem reply_closes (fetch : Option Host.Fetch) (answer : Except Failure Wire) (s : Scene κ σ) :
    (reply ⟨number, r, fetch⟩ answer s).context.errand? number = none := by
  unfold errand?
  rw [(reply_errands ⟨number, r, fetch⟩ answer s).1]
  exact find?_filter_self s.context.errands number

/-- What a look at a call comes to: an answer that is that to the request whatever would be
fetched, or a call that waits for a fetch. -/
theorem attend_answers (hasAttachments : Bool) (errand : Errand) (s : Scene κ σ) :
    (∃ answer draft, attend hasAttachments errand s = reply errand answer (withOffer s draft) ∧
        ∀ fetched, Host.answerTo hasAttachments errand.request s.context.stage fetched = answer) ∨
      ∃ fetch, (attend hasAttachments errand s = s.mapContext fun c =>
          { c with errands := c.errands.map fun e =>
              if e.number = errand.number then { e with fetch := some fetch } else e }) ∧
        ∀ fetched, Host.answerTo hasAttachments errand.request s.context.stage fetched =
          fetch.answer fetched := by
  unfold attend Host.answerTo
  cases hd : Call.decode errand.request.method errand.request.params with
  | error f => exact .inl ⟨.error f, none, rfl, fun _ => rfl⟩
  | ok call =>
    dsimp only
    unfold Host.dispatch
    rcases serve_stage hasAttachments call s.context.stage with ⟨answer, he⟩ | ⟨fetch, he, -⟩
    · rw [he]
      refine .inl ⟨answer, Artifact.Draft.ofCall? call, rfl, fun fetched => ?_⟩
      dsimp only
      rw [he]
    · rw [he]
      refine .inr ⟨fetch, rfl, fun fetched => ?_⟩
      dsimp only
      rw [he]

/-- A call that is looked at is answered, or waits for a fetch that its answer depends on. -/
theorem serve_answers (hasAttachments : Bool)
    (h : s.context.errand? number = some ⟨number, r, none⟩) :
    ((serve hasAttachments number s).context.errand? number = none ∧
        ∃ answer, (∀ fetched, Host.answerTo hasAttachments r s.context.stage fetched = answer) ∧
          (s.context.status ≠ .terminated → s.context.link = .intact →
            (serve hasAttachments number s).context.sent = s.context.sent ++ [replyTo r answer])) ∨
      ∃ fetch, (serve hasAttachments number s).context.errand? number =
          some ⟨number, r, some fetch⟩ ∧
        (serve hasAttachments number s).context.sent = s.context.sent ∧
        ∀ fetched, Host.answerTo hasAttachments r s.context.stage fetched = fetch.answer fetched := by
  unfold serve
  rw [h]
  dsimp only
  rcases attend_answers hasAttachments ⟨number, r, none⟩ s with
    ⟨answer, draft, he, hanswer⟩ | ⟨fetch, he, hanswer⟩
  · rw [he]
    refine .inl ⟨reply_closes none answer _, answer, hanswer, fun ht hi => ?_⟩
    exact reply_sends none answer ht hi
  · rw [he]
    refine .inr ⟨fetch, ?_, rfl, hanswer⟩
    have hfound : s.context.errands.find? (fun e => e.number = number) = some ⟨number, r, none⟩ := h
    unfold errand?
    dsimp only [Scene.mapContext]
    rw [find?_map_number, hfound]
    simp

/-- What comes for a call that waits for it answers the call. -/
theorem fetched_answers {fetch : Host.Fetch} (result : Except Failure Wire)
    (h : s.context.errand? number = some ⟨number, r, some fetch⟩) :
    (fetched number result s).context.errand? number = none ∧
      (s.context.status ≠ .terminated → s.context.link = .intact →
        (fetched number result s).context.sent =
          s.context.sent ++ [replyTo r (fetch.answer result)]) := by
  unfold fetched
  rw [h]
  exact ⟨reply_closes _ _ s, fun ht hi => reply_sends _ _ ht hi⟩

/-- A look at a call that was looked at before, or that is served no more, does nothing. -/
theorem serve_idle (hasAttachments : Bool)
    (h : ∀ request, s.context.errand? number ≠ some ⟨number, request, none⟩) :
    serve hasAttachments number s = s := by
  unfold serve
  split
  · rename_i same request he
    rw [show same = number by simpa using List.find?_some he] at he
    exact absurd he (h request)
  · rfl

/-- What comes for a call that does not wait for it does nothing. -/
theorem fetched_idle (result : Except Failure Wire)
    (h : ∀ request fetch, s.context.errand? number ≠ some ⟨number, request, some fetch⟩) :
    fetched number result s = s := by
  unfold fetched
  split
  · rename_i same request fetch he
    rw [show same = number by simpa using List.find?_some he] at he
    exact absurd he (h request fetch)
  · rfl

end Handling

section Life

variable [DecidableEq κ] (ops : SinkOps σ) (hasAttachments : Bool)

/-- What is sent to the process at a moment. -/
def told (c : Context) (m : Moment κ σ) : List Wire :=
  (meet ops hasAttachments c m).context.sent.drop c.sent.length

/-- What is sent to the process at the moments that are about the call of a number. -/
def postedFor (number : Nat) : Context → List (Moment κ σ) → List Wire
  | _, [] => []
  | c, m :: rest =>
    (if m.event.handles number then told ops hasAttachments c m else []) ++
      postedFor number (meet ops hasAttachments c m).context rest

/-- Whether the context is not killed, and the way to the process is intact, as long as the call
of a number is served. -/
def OpenFor (number : Nat) : Context → List (Moment κ σ) → Prop
  | _, [] => True
  | c, m :: rest =>
    (c.errand? number ≠ none →
      c.link = .intact ∧ (meet ops hasAttachments c m).context.status ≠ .terminated) ∧
      OpenFor number (meet ops hasAttachments c m).context rest

/-- Whether the call of a number is looked at while the stage is this one. -/
def LookedAt (number : Nat) (c : Context) (moments : List (Moment κ σ)) (stage : Stage) : Prop :=
  ∃ before m after, moments = before ++ m :: after ∧ m.event = .serve number ∧
    stage = (lived ops hasAttachments c before).stage

/-- What has become of the call of a request. -/
inductive Progress (number : Nat) (r : Request) (c : Context) (moments : List (Moment κ σ)) : Prop
  where
  /-- It was not looked at. -/
  | unseen
      (errand : (lived ops hasAttachments c moments).errand? number = some ⟨number, r, none⟩)
      (posted : postedFor ops hasAttachments number c moments = [])
  /-- It waits for a fetch. -/
  | waits (fetch : Host.Fetch) (stage : Stage) (looked : LookedAt ops hasAttachments number c moments stage)
      (errand : (lived ops hasAttachments c moments).errand? number = some ⟨number, r, some fetch⟩)
      (posted : postedFor ops hasAttachments number c moments = [])
      (answer : ∀ fetched, Host.answerTo hasAttachments r stage fetched = fetch.answer fetched)
  /-- It has been served, and was answered once. -/
  | served (stage : Stage) (looked : LookedAt ops hasAttachments number c moments stage)
      (fetched : Except Failure Wire)
      (brought : (∃ m ∈ moments, m.event = .fetched number fetched) ∨
        ∀ other, Host.answerTo hasAttachments r stage other = Host.answerTo hasAttachments r stage fetched)
      (errand : (lived ops hasAttachments c moments).errand? number = none)
      (posted : postedFor ops hasAttachments number c moments =
        [replyTo r (Host.answerTo hasAttachments r stage fetched)])

/-- What is sent over one more moment. -/
theorem postedFor_concat (number : Nat) (c : Context) (moments : List (Moment κ σ))
    (m : Moment κ σ) :
    postedFor ops hasAttachments number c (moments ++ [m]) =
      postedFor ops hasAttachments number c moments ++
        if m.event.handles number then
          told ops hasAttachments (lived ops hasAttachments c moments) m
        else [] := by
  induction moments generalizing c with
  | nil =>
    change _ ++ [] = [] ++ _
    rw [List.append_nil, List.nil_append]
    rfl
  | cons first rest ih =>
    change _ ++ postedFor ops hasAttachments number _ (rest ++ [m]) = _
    rw [ih, ← List.append_assoc]
    rfl

/-- The way was open before one more moment, and is at it. -/
theorem openFor_concat (number : Nat) (c : Context) (moments : List (Moment κ σ)) (m : Moment κ σ) :
    OpenFor ops hasAttachments number c (moments ++ [m]) ↔
      OpenFor ops hasAttachments number c moments ∧
        ((lived ops hasAttachments c moments).errand? number ≠ none →
          (lived ops hasAttachments c moments).link = .intact ∧
            (meet ops hasAttachments (lived ops hasAttachments c moments) m).context.status ≠
              .terminated) := by
  induction moments generalizing c with
  | nil =>
    change (_ ∧ True) ↔ True ∧ _
    rw [and_true, true_and]
    rfl
  | cons first rest ih =>
    change (_ ∧ OpenFor ops hasAttachments number _ (rest ++ [m])) ↔ _
    rw [ih, ← and_assoc]
    rfl

section Steps

/-- A moment at which a call is looked at. -/
theorem meet_serve (c : Context) {m : Moment κ σ} {number : Nat} (hm : m.event = .serve number) :
    meet ops hasAttachments c m = serve hasAttachments number (m.scene c) := by
  unfold meet
  rw [hm]
  rfl

/-- A moment at which something comes for a call. -/
theorem meet_fetched (c : Context) {m : Moment κ σ} {number : Nat} {result : Except Failure Wire}
    (hm : m.event = .fetched number result) :
    meet ops hasAttachments c m = fetched number result (m.scene c) := by
  unfold meet
  rw [hm]
  rfl

/-- The calls of a context are counted for life. -/
theorem Counted.lived {c : Context} (h : Counted c) (hs : Sound c) (moments : List (Moment κ σ)) :
    Counted (lived ops hasAttachments c moments) ∧
      c.calls ≤ (lived ops hasAttachments c moments).calls := by
  induction moments generalizing c with
  | nil => exact ⟨h, Nat.le_refl _⟩
  | cons m rest ih =>
    obtain ⟨hnext, hle⟩ := (deed_meet ops hasAttachments hs m).counted h
    obtain ⟨hlast, hrest⟩ := ih hnext (sound_meet ops hasAttachments hs m)
    exact ⟨hlast, Nat.le_trans hle hrest⟩

variable {ops hasAttachments} {number : Nat} {r : Request} {c : Context}
  {moments : List (Moment κ σ)} {m : Moment κ σ}

/-- A call that was looked at was looked at also one moment later. -/
theorem LookedAt.concat {stage : Stage} (h : LookedAt ops hasAttachments number c moments stage)
    (m : Moment κ σ) : LookedAt ops hasAttachments number c (moments ++ [m]) stage := by
  obtain ⟨before, look, after, rfl, hlook⟩ := h
  exact ⟨before, look, after ++ [m], by simp, hlook⟩

/-- A call that is looked at now. -/
theorem lookedAt_concat (hm : m.event = .serve number) : LookedAt ops hasAttachments number c
    (moments ++ [m]) (lived ops hasAttachments c moments).stage := ⟨moments, m, [], rfl, hm, rfl⟩

/-- A moment at which nothing happens to the calls. -/
theorem told_of_eq (h : (meet ops hasAttachments c m).context.sent = c.sent) :
    told ops hasAttachments c m = [] := by
  unfold told
  rw [h]
  exact List.drop_length

/-- What is sent at a moment, when it comes after what was sent. -/
theorem told_of_append {message : Wire}
    (h : (meet ops hasAttachments c m).context.sent = c.sent ++ [message]) :
    told ops hasAttachments c m = [message] := by
  unfold told
  rw [h]
  exact List.drop_left

/-- A moment that is not about the call of a number posts nothing for it. -/
theorem postedFor_of_not_handles (hm : m.event.handles number = false) :
    postedFor ops hasAttachments number c (moments ++ [m]) =
      postedFor ops hasAttachments number c moments := by
  rw [postedFor_concat, hm]
  exact List.append_nil _

/-- A moment that is about the call of a number posts what is sent at it. -/
theorem postedFor_of_handles (hm : m.event.handles number = true) :
    postedFor ops hasAttachments number c (moments ++ [m]) =
      postedFor ops hasAttachments number c moments ++
        told ops hasAttachments (lived ops hasAttachments c moments) m := by
  rw [postedFor_concat, if_pos hm]

/-- The call of a request after a moment that is not about it. -/
theorem Progress.other (h : Progress ops hasAttachments number r c moments)
    (hs : Sound (lived ops hasAttachments c moments))
    (hlt : number < (lived ops hasAttachments c moments).calls)
    (hopen : (lived ops hasAttachments c moments).errand? number ≠ none →
      (meet ops hasAttachments (lived ops hasAttachments c moments) m).context.status ≠ .terminated)
    (hm : m.event.handles number = false) :
    Progress ops hasAttachments number r c (moments ++ [m]) := by
  have hposted : postedFor ops hasAttachments number c (moments ++ [m]) =
      postedFor ops hasAttachments number c moments := postedFor_of_not_handles hm
  have herrand := (deed_meet ops hasAttachments hs m).errand?_eq hm hlt
  rw [← lived_concat] at herrand hopen
  have hkeeps : ∀ e, (lived ops hasAttachments c moments).errand? number = some e →
      (lived ops hasAttachments c (moments ++ [m])).errand? number = some e := by
    intro e he
    rcases herrand with hsame | ⟨-, hkilled⟩
    · exact hsame.trans he
    · exact absurd hkilled (hopen (by rw [he]; exact Option.some_ne_none e))
  cases h with
  | unseen errand posted => exact .unseen (hkeeps _ errand) (hposted.trans posted)
  | waits fetch stage looked errand posted answer =>
    exact .waits fetch stage (looked.concat m) (hkeeps _ errand) (hposted.trans posted) answer
  | served stage looked fetched brought errand posted =>
    refine .served stage (looked.concat m) fetched ?_ ?_ (hposted.trans posted)
    · exact brought.imp_left fun ⟨n, hn, he⟩ => ⟨n, List.mem_append_left _ hn, he⟩
    · rcases herrand with hsame | ⟨hnone, -⟩
      · exact hsame.trans errand
      · exact hnone

/-- The call of a request after a moment at which nothing happens. -/
theorem Progress.idle (h : Progress ops hasAttachments number r c moments)
    (hm : meet ops hasAttachments (lived ops hasAttachments c moments) m =
      m.scene (lived ops hasAttachments c moments)) :
    Progress ops hasAttachments number r c (moments ++ [m]) := by
  have hlived : lived ops hasAttachments c (moments ++ [m]) = lived ops hasAttachments c moments := by
    rw [lived_concat, hm]
    rfl
  have hquiet : told ops hasAttachments (lived ops hasAttachments c moments) m = [] := by
    refine told_of_eq ?_
    rw [hm]
    rfl
  have hposted : postedFor ops hasAttachments number c (moments ++ [m]) =
      postedFor ops hasAttachments number c moments := by
    rw [postedFor_concat, hquiet, ite_self, List.append_nil]
  cases h with
  | unseen errand posted => exact .unseen (hlived ▸ errand) (hposted.trans posted)
  | waits fetch stage looked errand posted answer =>
    exact .waits fetch stage (looked.concat m) (hlived ▸ errand) (hposted.trans posted) answer
  | served stage looked fetched brought errand posted =>
    refine .served stage (looked.concat m) fetched ?_ (hlived ▸ errand) (hposted.trans posted)
    exact brought.imp_left fun ⟨n, hn, he⟩ => ⟨n, List.mem_append_left _ hn, he⟩

/-- The call of a request after a moment at which it is looked at. -/
theorem Progress.look (h : Progress ops hasAttachments number r c moments)
    (hopen : (lived ops hasAttachments c moments).errand? number ≠ none →
      (lived ops hasAttachments c moments).link = .intact ∧
        (lived ops hasAttachments c moments).status ≠ .terminated)
    (hm : m.event = .serve number) : Progress ops hasAttachments number r c (moments ++ [m]) := by
  have hhandles : m.event.handles number = true := by
    rw [hm]
    exact Event.handles_serve number
  have hmeet := meet_serve ops hasAttachments (lived ops hasAttachments c moments) hm
  by_cases hunseen : (lived ops hasAttachments c moments).errand? number = some ⟨number, r, none⟩
  · obtain ⟨hintact, hliving⟩ := hopen (by rw [hunseen]; exact Option.some_ne_none _)
    have hposted : postedFor ops hasAttachments number c moments = [] := by
      cases h with
      | unseen _ posted => exact posted
      | waits _ _ _ _ posted => exact posted
      | served _ _ _ _ errand => cases errand.symm.trans hunseen
    have hserve := serve_answers (s := m.scene (lived ops hasAttachments c moments)) hasAttachments
      hunseen
    rw [← hmeet, ← lived_concat] at hserve
    rcases hserve with ⟨hclosed, answer, hanswer, hsends⟩ | ⟨fetch, hwaits, hquiet, hanswer⟩
    · -- it is answered at once, whatever would be fetched
      have htold : told ops hasAttachments (lived ops hasAttachments c moments) m =
          [replyTo r answer] := by
        refine told_of_append ?_
        rw [← lived_concat]
        exact hsends hliving hintact
      refine .served _ (lookedAt_concat hm) (.ok .null) (.inr fun other => ?_) hclosed ?_
      · exact (hanswer other).trans (hanswer (.ok .null)).symm
      · rw [postedFor_of_handles hhandles, hposted, htold]
        exact congrArg (fun answer => [replyTo r answer]) (hanswer (.ok .null)).symm
    · have htold : told ops hasAttachments (lived ops hasAttachments c moments) m = [] := by
        refine told_of_eq ?_
        rw [← lived_concat]
        exact hquiet
      refine .waits fetch _ (lookedAt_concat hm) hwaits ?_ hanswer
      rw [postedFor_of_handles hhandles, hposted, htold]
      rfl
  · refine h.idle (hmeet.trans (serve_idle hasAttachments fun request he => ?_))
    have hlooked : (lived ops hasAttachments c moments).errand? number =
        some ⟨number, request, none⟩ := he
    cases h with
    | unseen errand => exact hunseen errand
    | waits _ _ _ errand => cases errand.symm.trans hlooked
    | served _ _ _ _ errand => cases errand.symm.trans hlooked

/-- The call of a request after a moment at which something comes for it. -/
theorem Progress.bring (h : Progress ops hasAttachments number r c moments)
    (hopen : (lived ops hasAttachments c moments).errand? number ≠ none →
      (lived ops hasAttachments c moments).link = .intact ∧
        (lived ops hasAttachments c moments).status ≠ .terminated)
    {result : Except Failure Wire} (hm : m.event = .fetched number result) :
    Progress ops hasAttachments number r c (moments ++ [m]) := by
  have hhandles : m.event.handles number = true := by
    rw [hm]
    exact Event.handles_fetched number result
  have hmeet := meet_fetched ops hasAttachments (lived ops hasAttachments c moments) hm
  have hidle : (∀ request fetch, (lived ops hasAttachments c moments).errand? number ≠
      some ⟨number, request, some fetch⟩) → Progress ops hasAttachments number r c (moments ++ [m]) := by
    intro hnone
    exact h.idle (hmeet.trans (fetched_idle result hnone))
  cases h with
  | unseen errand => exact hidle (by rw [errand]; exact fun _ _ => nofun)
  | waits fetch stage looked errand posted answer =>
    obtain ⟨hintact, hliving⟩ := hopen (by rw [errand]; exact Option.some_ne_none _)
    have hfetched := fetched_answers (s := m.scene (lived ops hasAttachments c moments)) result errand
    rw [← hmeet, ← lived_concat] at hfetched
    obtain ⟨hclosed, hsends⟩ := hfetched
    have htold : told ops hasAttachments (lived ops hasAttachments c moments) m =
        [replyTo r (fetch.answer result)] := by
      refine told_of_append ?_
      rw [← lived_concat]
      exact hsends hliving hintact
    refine .served stage (looked.concat m) result (.inl ⟨m, by simp, hm⟩) hclosed ?_
    rw [postedFor_of_handles hhandles, posted, htold, answer result]
    rfl
  | served _ _ _ _ errand => exact hidle (by rw [errand]; exact fun _ _ => nofun)

/-- The call of a request after one more moment. -/
theorem Progress.step (h : Progress ops hasAttachments number r c moments)
    (hs : Sound (lived ops hasAttachments c moments))
    (hlt : number < (lived ops hasAttachments c moments).calls)
    (hopen : (lived ops hasAttachments c moments).errand? number ≠ none →
      (lived ops hasAttachments c moments).link = .intact ∧
        (meet ops hasAttachments (lived ops hasAttachments c moments) m).context.status ≠
          .terminated) :
    Progress ops hasAttachments number r c (moments ++ [m]) := by
  have hbefore : (lived ops hasAttachments c moments).errand? number ≠ none →
      (lived ops hasAttachments c moments).link = .intact ∧
        (lived ops hasAttachments c moments).status ≠ .terminated := by
    intro hserved
    obtain ⟨hintact, hliving⟩ := hopen hserved
    exact ⟨hintact, fun hk => hliving ((course_meet ops hasAttachments hs m).terminated hs hk)⟩
  cases hm : m.event.handles number with
  | false => exact h.other hs hlt (fun hserved => (hopen hserved).2) hm
  | true =>
    rcases Event.of_handles hm with he | ⟨result, he⟩
    · exact h.look hbefore he
    · exact h.bring hbefore he

/-- The call of a request after moments, however many. -/
theorem Progress.run (later : List (Moment κ σ))
    (h : Progress ops hasAttachments number r c ([] : List (Moment κ σ)))
    (hs : Sound c) (hc : Counted c) (hlt : number < c.calls)
    (hopen : OpenFor ops hasAttachments number c later) :
    Progress ops hasAttachments number r c later := by
  induction later using List.reverseRecOn with
  | nil => exact h
  | append_singleton before m ih =>
    obtain ⟨hearlier, hnow⟩ := (openFor_concat ops hasAttachments number c before m).mp hopen
    have hcounted := (hc.lived ops hasAttachments hs before).2
    exact (ih hearlier).step (sound_lived ops hasAttachments hs before)
      (Nat.lt_of_lt_of_le hlt hcounted) hnow

end Steps

end Life

end Context

end ChartScript
