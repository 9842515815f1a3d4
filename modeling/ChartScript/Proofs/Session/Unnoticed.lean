import Mathlib.Data.List.Find
import ChartScript.Proofs.Bridge.Blank
import ChartScript.Proofs.Session.Gathering
/-!
# Replies that nothing looks at

A call is taken from the waiting ones as soon as its reply is looked at, so that it is not
among the open calls at the end. Unless the program waits for the call or asks something of
it, what it has come to makes no difference from then on: not to what the program does, nor
to what the host is told.
-/

namespace ChartScript.Session

open Message (Done replyId?)
open Script (Effect Answer FutureQuery)

variable {π : Type} {s t : Session π} {k : Nat}

/-- The call that an effect waits for or asks something of. -/
def lookedAt? : Effect → Option Nat
  | .wait call => some call
  | .query call _ => some call
  | _ => none

/-- Whether the program leaves a call alone at an event. -/
def LeavesAlone (k : Nat) (s : Session π) (e : Event) : Prop :=
  e = .turn → ∀ effect rest, s.phase = .active (.asks effect rest) → lookedAt? effect ≠ some k

/-- Whether the program leaves a call alone at every one of some events. -/
def LeavesAloneAll (p : Program π) (k : Nat) : Session π → List Event → Prop
  | _, [] => True
  | s, e :: rest => LeavesAlone k s e ∧ LeavesAloneAll p k (step p s e) rest

/-- Whether neither the program nor the end of the run waits for a call. -/
def Phase.Avoids (k : Nat) : Phase π → Prop
  | .waiting call _ => call ≠ k
  | .gathering calls _ => k ∉ calls
  | _ => True

/-- A session in which a call was made that nothing waits for. -/
structure Spent (k : Nat) (s : Session π) : Prop where
  /-- No reply to it is waited for. -/
  bridge : s.bridge.Spent k
  /-- Nothing else waits for it. -/
  phase : s.phase.Avoids k

/-- The session without what a call has come to. -/
def blank (k : Nat) (s : Session π) : Session π := { s with bridge := s.bridge.blank k }

/-- The program of the session is where it is. -/
@[simp] theorem phase_blank (k : Nat) (s : Session π) : (s.blank k).phase = s.phase := rfl

/-- What the host was told is the same. -/
@[simp] theorem sent_blank (k : Nat) (s : Session π) : (s.blank k).sent = s.sent := rfl

/-- Messages are looked at at the same moments. -/
@[simp] theorem canReceive_blank (k : Nat) (s : Session π) : (s.blank k).canReceive = s.canReceive := rfl

/-- A message is sent all the same. -/
theorem send_blank (k : Nat) (message : Wire) (s : Session π) :
    (s.blank k).send message = (s.send message).map (blank k) := by
  have hconnected : (s.blank k).connected = s.connected := rfl
  unfold send
  rw [hconnected]
  split <;> rfl

/-- The end is reported all the same. -/
theorem report_blank (k : Nat) (done : Done) (s : Session π) :
    (s.blank k).report done = (s.report done).blank k := by
  cases hf : s.finished with
  | true => simp [report, finish, blank, leave, hf]
  | false => cases hc : s.connected <;> simp [report, finish, send, blank, leave, hf, hc]

/-- What a report does leaves the calls alone. -/
theorem bridge_report (done : Done) (s : Session π) : (s.report done).bridge = s.bridge :=
  (Account.report_cases done s).2.1

/-- Other calls have come to the same. -/
theorem map_settlement?_blank {calls : List Nat} (hk : k ∉ calls) :
    calls.map (s.blank k).bridge.settlement? = calls.map s.bridge.settlement? :=
  List.map_congr_left fun _ hc => Bridge.settlement?_blank (ne_of_mem_of_not_mem hc hk)

/-- The first failure among other calls is the same. -/
theorem findSome?_blank {calls : List Nat} (hk : k ∉ calls) :
    (calls.findSome? fun c => failureOf? ((s.blank k).bridge.settlement? c)) =
      calls.findSome? fun c => failureOf? (s.bridge.settlement? c) := by
  have hfirst := congrArg (List.findSome? failureOf?) (map_settlement?_blank (s := s) hk)
  rw [List.findSome?_map, List.findSome?_map] at hfirst
  exact hfirst

/-- What the first failed one of other calls was settled with can be told as before. -/
theorem obstacle?_blank {calls : List Nat} (hk : k ∉ calls) :
    (s.blank k).obstacle? calls = s.obstacle? calls := by
  have hfirst : (calls.find? fun c => (failureOf? ((s.blank k).bridge.settlement? c)).isSome) =
      calls.find? fun c => (failureOf? (s.bridge.settlement? c)).isSome := by
    refine List.find?_congr fun c hc => ?_
    have hsettlement : (s.blank k).bridge.settlement? c = s.bridge.settlement? c :=
      Bridge.settlement?_blank (ne_of_mem_of_not_mem hc hk)
    rw [hsettlement]
  unfold obstacle?
  rw [hfirst]
  rfl

/-- Something is asked of another call all the same. -/
theorem touch_blank {call : Nat} (hne : call ≠ k) (what : FutureQuery) (s : Session π) :
    (s.blank k).touch call what = (s.touch call what).blank k := by
  have hsettlement : (s.blank k).bridge.settlement? call = s.bridge.settlement? call :=
    Bridge.settlement?_blank hne
  have hgranted : (s.blank k).granted = s.granted := rfl
  unfold touch
  rw [hsettlement, hgranted]
  split
  · cases hv : settlementOf? what with
    | none => rfl
    | some v =>
      have hbridge : (s.blank k).bridge.settle call v = (s.bridge.settle call v).blank k :=
        (Bridge.settle_blank hne v).symm
      dsimp only
      rw [hbridge]
      rfl
  · rfl

/-- Other calls have all come to something at the same moments. -/
theorem all_blank {calls : List Nat} (hk : k ∉ calls) :
    (calls.all fun c => ((s.blank k).bridge.settlement? c).isSome) =
      calls.all fun c => (s.bridge.settlement? c).isSome := by
  have hall := congrArg (List.all · Option.isSome) (map_settlement?_blank (s := s) hk)
  rw [List.all_map, List.all_map] at hall
  exact hall

namespace Spent

/-- A spent call is spent in every phase in which nothing waits for it. -/
theorem enter (h : Spent k s) {phase : Phase π} (hp : phase.Avoids k) :
    Spent k { s with phase } := ⟨h.bridge, hp⟩

/-- The run closes all the same without a spent call. -/
theorem close_blank (h : Spent k s) : (s.blank k).close = s.close.blank k :=
  congrArg (fun b => ({ s with budget := none, bridge := b } : Session π))
    (h.bridge.close_blank Bridge.defaultReason).symm

/-- A session that reports its end has the calls that it had. -/
theorem report (hb : s.bridge.Spent k) (done : Done) : Spent k (s.report done) := by
  obtain ⟨ending, hp⟩ := phase_of_isOver (Account.report_cases done s).1
  refine ⟨?_, ?_⟩
  · rw [bridge_report]
    exact hb
  · rw [hp]
    trivial

/-- A run fails all the same without a spent call. -/
theorem fail (h : Spent k s) (f : Failure) :
    Spent k (Session.fail f s) ∧ Session.fail f (s.blank k) = (Session.fail f s).blank k := by
  have hclosed : s.close.bridge.Spent k := h.bridge.close Bridge.defaultReason
  unfold Session.fail
  rw [h.close_blank, report_blank]
  split
  · exact ⟨⟨hclosed, trivial⟩, rfl⟩
  · exact ⟨report hclosed _, rfl⟩

/-- A run breaks off all the same without a spent call. -/
theorem breakOff (h : Spent k s) (obstacle : Failure) : Spent k (Session.breakOff obstacle s) ∧
    Session.breakOff obstacle (s.blank k) = (Session.breakOff obstacle s).blank k := by
  unfold Session.breakOff
  rw [h.close_blank]
  exact ⟨⟨h.bridge.close Bridge.defaultReason, trivial⟩, rfl⟩

/-- A run ends well all the same without a spent call. -/
theorem succeed (h : Spent k s) :
    Spent k (Session.succeed s) ∧ Session.succeed (s.blank k) = (Session.succeed s).blank k := by
  unfold Session.succeed
  rw [h.close_blank, report_blank]
  exact ⟨report (h.bridge.close Bridge.defaultReason) _, rfl⟩

/-- What a program asks for comes to the same without a spent call that it leaves alone. -/
theorem perform (h : Spent k s) (p : Program π) {effect : Effect} (rest : π)
    (hk : lookedAt? effect ≠ some k) : Spent k (Session.perform p effect rest s) ∧
      Session.perform p effect rest (s.blank k) = (Session.perform p effect rest s).blank k := by
  have hlog : ∀ level text, Spent k (Session.perform p (.log level text) rest s) ∧
      Session.perform p (.log level text) rest (s.blank k) =
        (Session.perform p (.log level text) rest s).blank k := by
    intro level text
    unfold Session.perform
    dsimp only
    rw [send_blank]
    rcases Account.send_cases (logMessage level text) s with ⟨hs, -⟩ | ⟨hs, -⟩
    · rw [hs]
      exact ⟨⟨h.bridge, trivial⟩, rfl⟩
    · rw [hs]
      exact ⟨⟨h.bridge, trivial⟩, rfl⟩
  cases effect with
  | print text => exact hlog "info" text
  | log level text => exact hlog level text
  | request method params =>
    have hcall := fun message post => h.bridge.call (callId s.requests) message post
    unfold Session.perform request blank
    dsimp only
    rw [(hcall _ _).2]
    exact ⟨⟨(hcall _ _).1, trivial⟩, rfl⟩
  | wait call =>
    have hne : call ≠ k := fun he => hk (congrArg some he)
    have hsettlement : (s.blank k).bridge.settlement? call = s.bridge.settlement? call :=
      Bridge.settlement?_blank hne
    unfold Session.perform
    dsimp only
    rw [hsettlement]
    split
    · exact ⟨h.enter trivial, rfl⟩
    · exact ⟨h.enter hne, rfl⟩
  | query call what =>
    have hne : call ≠ k := fun he => hk (congrArg some he)
    have hsettlement : (s.blank k).bridge.settlement? call = s.bridge.settlement? call :=
      Bridge.settlement?_blank hne
    have htouched : (s.touch call what).bridge.Spent k := by
      rcases touch_cases call what s with he | ⟨v, untold, -, -, -, he⟩
      · rw [he]
        exact h.bridge
      · rw [he]
        exact h.bridge.settle call v
    unfold Session.perform
    dsimp only
    rw [hsettlement, touch_blank hne]
    exact ⟨⟨htouched, trivial⟩, rfl⟩
  | sleep seconds => exact ⟨h.enter trivial, rfl⟩

/-- A turn of the program comes to the same without a spent call that it leaves alone. -/
theorem turn (h : Spent k s) (p : Program π) (hk : LeavesAlone k s .turn) :
    Spent k (Session.turn p s) ∧ Session.turn p (s.blank k) = (Session.turn p s).blank k := by
  have havoids := h.phase
  unfold Session.turn
  rw [phase_blank]
  cases hp : s.phase with
  | active next =>
    cases next with
    | asks effect rest => exact h.perform p rest (hk rfl effect rest hp)
    | entered rest =>
      have hbanner : (s.blank k).banner = s.banner := rfl
      dsimp only
      rw [send_blank, hbanner]
      rcases Account.send_cases (logMessage "info" s.banner) s with ⟨hs, -⟩ | ⟨hs, -⟩
      · rw [hs]
        exact ⟨⟨h.bridge, trivial⟩, rfl⟩
      · rw [hs]
        exact h.fail _
    | ended =>
      have hout : (s.blank k).bridge.outstanding = s.bridge.outstanding := rfl
      dsimp only
      rw [hout]
      split
      · exact h.succeed
      · have hquiet := h.bridge.quiet
        rw [findSome?_blank hquiet, obstacle?_blank hquiet]
        split
        · exact ⟨h.enter trivial, rfl⟩
        · exact ⟨h.enter hquiet, rfl⟩
    | failed f => exact h.fail f
    | untold obstacle => exact h.breakOff obstacle
  | waiting call rest =>
    rw [hp] at havoids
    have hsettlement : (s.blank k).bridge.settlement? call = s.bridge.settlement? call :=
      Bridge.settlement?_blank havoids
    dsimp only
    rw [hsettlement]
    split
    · exact ⟨h.enter trivial, rfl⟩
    · exact ⟨h, rfl⟩
  | gathering calls failure =>
    cases failure with
    | some f => exact h.fail f
    | none =>
      rw [hp] at havoids
      dsimp only
      rw [all_blank havoids]
      split
      · exact h.succeed
      · exact ⟨h, rfl⟩
  | idle => exact ⟨h, rfl⟩
  | sleeping seconds rest => exact ⟨h, rfl⟩
  | «over» ending => exact ⟨h, rfl⟩

/-- A message that is looked at comes to the same without a spent call. -/
theorem deliver (h : Spent k s) (raw : Wire) :
    Spent k (Session.deliver raw s) ∧
      Session.deliver raw (s.blank k) = (Session.deliver raw s).blank k := by
  have hnext : Spent k { s with bridge := (s.bridge.deliver raw).1 } :=
    ⟨h.bridge.deliver raw, h.phase⟩
  have hblank : ({ s.blank k with bridge := ((s.blank k).bridge.deliver raw).1 } : Session π) =
      ({ s with bridge := (s.bridge.deliver raw).1 } : Session π).blank k :=
    congrArg (fun b => ({ s with bridge := b } : Session π)) (h.bridge.deliver_blank raw).symm
  unfold Session.deliver
  rw [canReceive_blank, hblank]
  split
  · generalize ({ s with bridge := (s.bridge.deliver raw).1 } : Session π) = next at hnext
    have havoids := hnext.phase
    dsimp only
    rw [phase_blank]
    split
    · rename_i calls failure hp
      rw [hp] at havoids
      rw [findSome?_blank havoids]
      exact ⟨⟨hnext.bridge, havoids⟩, rfl⟩
    · exact ⟨hnext, rfl⟩
  · exact ⟨h, rfl⟩

/-- An instruction comes to the same without a spent call. -/
theorem instruct (h : Spent k s) (p : Program π) (raw : Wire) :
    Spent k (Session.instruct p raw s) ∧
      Session.instruct p raw (s.blank k) = (Session.instruct p raw s).blank k := by
  unfold Session.instruct
  rw [phase_blank]
  cases hp : s.phase with
  | idle =>
    dsimp only
    split
    · rw [report_blank]
      exact ⟨report h.bridge _, rfl⟩
    · split
      · exact ⟨h.enter trivial, rfl⟩
      · rw [send_blank]
        rcases Account.send_cases Message.startedView.toWire s with ⟨hs, -⟩ | ⟨hs, -⟩
        · rw [hs]
          exact ⟨⟨h.bridge, trivial⟩, rfl⟩
        · rw [hs]
          exact ⟨h.enter trivial, rfl⟩
  | _ => exact ⟨h, rfl⟩

/-- The timer comes to the same without a spent call. -/
theorem onTimer (h : Spent k s) :
    Spent k (Session.onTimer s) ∧ Session.onTimer (s.blank k) = (Session.onTimer s).blank k := by
  obtain ⟨hphase, hbridge, -⟩ := onTimer_keeps s
  refine ⟨⟨hbridge ▸ h.bridge, hphase ▸ h.phase⟩, ?_⟩
  cases hb : s.budget with
  | none => simp [Session.onTimer, blank, hb]
  | some ms =>
    cases hf : s.finished with
    | true => simp [Session.onTimer, finish, blank, hb, hf]
    | false => cases hc : s.connected <;> simp [Session.onTimer, finish, send, blank, hb, hf, hc]

/-- Every event comes to the same without a spent call that the program leaves alone. -/
theorem step (h : Spent k s) (p : Program π) {e : Event} (hk : LeavesAlone k s e) :
    Spent k (Session.step p s e) ∧ Session.step p (s.blank k) e = (Session.step p s e).blank k := by
  cases e with
  | instruct raw => exact h.instruct p raw
  | turn => exact h.turn p hk
  | deliver raw => exact h.deliver raw
  | timer => exact h.onTimer
  | disconnect => exact ⟨⟨h.bridge, h.phase⟩, rfl⟩
  | hangUp =>
    unfold Session.step
    dsimp only
    rw [phase_blank]
    split
    · exact ⟨h.enter trivial, rfl⟩
    · exact ⟨h, rfl⟩
  | wake =>
    unfold Session.step
    dsimp only
    rw [phase_blank]
    split
    · exact ⟨h.enter trivial, rfl⟩
    · exact ⟨h, rfl⟩

/-- A run comes to the same without a spent call that the program leaves alone. -/
theorem run (h : Spent k s) (p : Program π) {events : List Event} (hk : LeavesAloneAll p k s events) :
    Session.run p (s.blank k) events = (Session.run p s events).blank k := by
  induction events generalizing s with
  | nil => rfl
  | cons e rest ih =>
    obtain ⟨hnext, he⟩ := h.step p hk.1
    change Session.run p (Session.step p (s.blank k) e) rest = _
    rw [he]
    exact ih hnext hk.2

end Spent

/-- Two sessions that differ only in what a call has come to are the same for the program and
for the host. -/
structure Alike (p : Program π) (k : Nat) (s t : Session π) : Prop where
  /-- As long as the program leaves the call alone, it is where it would have been. -/
  phase : ∀ events, LeavesAloneAll p k s events → (run p s events).phase = (run p t events).phase
  /-- The host is told what it would have been told. -/
  sent : ∀ events, LeavesAloneAll p k s events → (run p s events).sent = (run p t events).sent

/-- Whether a call is spent does not depend on what it has come to. -/
theorem Spent.of_blank_eq (h : Spent k s) (he : s.blank k = t.blank k) : Spent k t := by
  have hphase : s.phase = t.phase := by simpa using congrArg Session.phase he
  have hbridge : s.bridge.blank k = t.bridge.blank k := congrArg Session.bridge he
  exact ⟨h.bridge.of_blank_eq hbridge, hphase ▸ h.phase⟩

/-- A program that leaves a call alone in a session leaves it alone in one that is the same
without the call. -/
theorem Spent.leavesAloneAll (h : Spent k s) (he : s.blank k = t.blank k) (p : Program π)
    {events : List Event} (hk : LeavesAloneAll p k s events) : LeavesAloneAll p k t events := by
  induction events generalizing s t with
  | nil => trivial
  | cons e rest ih =>
    have hphase : s.phase = t.phase := by simpa using congrArg Session.phase he
    have halone : LeavesAlone k t e := by
      intro hturn effect next hp
      exact hk.1 hturn effect next (hphase.trans hp)
    obtain ⟨hnext, hs⟩ := h.step p hk.1
    obtain ⟨-, ht⟩ := (h.of_blank_eq he).step p halone
    have hsame : (Session.step p s e).blank k = (Session.step p t e).blank k := by
      rw [← hs, ← ht, he]
    exact ⟨halone, ih hnext hsame hk.2⟩

/-- Sessions that are the same without a spent call are alike. -/
theorem Spent.alike (h : Spent k s) (he : s.blank k = t.blank k) (p : Program π) :
    Alike p k s t := by
  have hrun : ∀ events, LeavesAloneAll p k s events →
      (Session.run p s events).blank k = (Session.run p t events).blank k := by
    intro events hk
    rw [← h.run p hk, ← (h.of_blank_eq he).run p (h.leavesAloneAll he p hk), he]
  refine ⟨fun events hk => ?_, fun events hk => ?_⟩
  · simpa using congrArg Session.phase (hrun events hk)
  · simpa using congrArg Session.sent (hrun events hk)

/-- Whether a program that has not ended waits, and for something else than a call. -/
def WaitsElsewhere (k : Nat) (s : Session π) : Prop :=
  (∃ seconds rest, s.phase = .sleeping seconds rest) ∨ ∃ call rest, s.phase = .waiting call rest ∧ call ≠ k

/-- It makes no difference which reply to a call is looked at while the program waits for
something else. -/
theorem alike_deliver {own : List Nat} {q : PendingCall} {raw other : Wire} (hs : s.bridge.Sound own)
    (hp : WaitsElsewhere q.future s) (hq : s.bridge.find? q.id = some q)
    (hid : replyId? raw = some q.id) (ho : replyId? other = some q.id) (p : Program π) :
    Alike p q.future (deliver raw s) (deliver other s) := by
  have hsession : ∀ raw, deliver raw s = { s with bridge := (s.bridge.deliver raw).1 } := by
    intro raw
    unfold deliver canReceive
    rcases hp with ⟨seconds, rest, hphase⟩ | ⟨call, rest, hphase, -⟩
    · rw [hphase]
      rfl
    · rw [hphase]
      rfl
  have havoids : s.phase.Avoids q.future := by
    rcases hp with ⟨seconds, rest, hphase⟩ | ⟨call, rest, hphase, hne⟩
    · rw [hphase]
      trivial
    · rw [hphase]
      exact hne
  have hraw := Bridge.blank_deliver hid hq
  have hother := Bridge.blank_deliver ho hq
  have hspent : Bridge.Spent q.future (s.bridge.deliver raw).1 :=
    (hs.spent_forget (List.mem_of_find?_eq_some hq)).of_blank_eq hraw.symm
  have hblank : (deliver raw s).blank q.future = (deliver other s).blank q.future := by
    rw [hsession, hsession]
    exact congrArg (fun b => ({ s with bridge := b } : Session π)) (hraw.trans hother.symm)
  refine Spent.alike ?_ hblank p
  rw [hsession]
  exact ⟨hspent, havoids⟩

end ChartScript.Session
