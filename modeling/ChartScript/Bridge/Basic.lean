import ChartScript.Message.Rpc
/-!
# The bridge

The context's side of capability calls. Every call gets a fresh correlation id and a
future, is posted as a request and settled by the reply of the same id. Closing the
bridge rejects what is pending and makes every later call fail at once.
-/

namespace ChartScript

open Message (Request Reply)

/-- What a future is settled with. -/
abbrev Settlement := Except Failure Wire

/-- A posted call that waits for its reply. -/
structure PendingCall where
  /-- The correlation id. -/
  id : String
  /-- The number of the future. -/
  future : Nat
  deriving Repr, DecidableEq

/-- The state of a bridge. -/
structure Bridge where
  /-- The calls that wait, oldest first. -/
  pending : List PendingCall
  /-- Every future so far with its settlement, by number. -/
  futures : List (Option Settlement)
  /-- Whether the bridge is closed. -/
  closed : Bool

namespace Bridge

/-- A bridge before its first call. -/
def empty : Bridge := ⟨[], [], false⟩

/-- The failure of a call on a closed bridge. -/
def closedFailure : Failure := .sandbox .contextTerminated "execution context is closed"

/-- The failure of calls that are pending when the bridge closes without a reason. -/
def defaultReason : String := "execution context terminated"

/-- Whether a failure to post means that the connection is lost. -/
def isConnectionLoss (kind : FailureKind) : Bool := kind = .endOfInput || kind.isSystem

/-- The failure of a call whose request could not be posted. -/
def lostFailure (f : Failure) : Failure :=
  .sandbox .contextTerminated ("host connection lost: " ++ f.text)

/-- Settles a future unless it is settled. -/
def settle (b : Bridge) (future : Nat) (s : Settlement) : Bridge :=
  { b with
    futures := b.futures.mapIdx fun i old => if i = future then some (old.getD s) else old }

/-- Drops the calls with an id. -/
def forget (b : Bridge) (id : String) : Bridge :=
  { b with pending := b.pending.filter fun p => p.id ≠ id }

/-- The call that waits under an id. -/
def find? (b : Bridge) (id : String) : Option PendingCall := b.pending.find? fun p => p.id = id

/-- The encoded request for a call; parameters that count as false are none. -/
def encode (id : String) (method params : Wire) : Except Failure Wire :=
  let params := if params.truthy then params else .object []
  match Request.check (.object [("id", .text id), ("method", method), ("params", params)]) with
  | .valid request => .ok request.view.toWire
  | .invalid vs => .error (.ofViolations vs)

/-- Begins a call: a new future, already failed when the bridge is closed and waiting under
the fresh id otherwise. Gives the number of the future. -/
def register (b : Bridge) (id : String) : Bridge × Nat :=
  let future := b.futures.length
  if b.closed then ({ b with futures := b.futures ++ [some (.error closedFailure)] }, future)
  else
    ({ b with
        pending := b.pending ++ [⟨id, future⟩]
        futures := b.futures ++ [none] }, future)

/-- What happened to the request of a call. -/
inductive Posting where
  /-- It went out. -/
  | posted
  /-- It could not be encoded or posted. -/
  | failed (f : Failure)

/-- Ends a call by what happened to its request. A lost connection rejects the future; any
other failure leaves the call waiting and is raised. -/
def conclude (b : Bridge) (id : String) (future : Nat) : Posting → Bridge × Except Failure Nat
  | .posted => (b, .ok future)
  | .failed f =>
    if isConnectionLoss f.kind then
      ((b.forget id).settle future (.error (lostFailure f)), .ok future)
    else (b, .error f)

/-- A call under a fresh id, whose encoded request is handed to `post`. Gives the bridge
afterwards, the message that went out and the number of the future or what was raised. -/
def call (b : Bridge) (id : String) (message : Except Failure Wire) (post : Wire → Posting) :
    Bridge × Option Wire × Except Failure Nat :=
  let (registered, future) := b.register id
  if b.closed then (registered, none, .ok future)
  else
    match message with
    | .error f =>
      let (next, result) := registered.conclude id future (.failed f)
      (next, none, result)
    | .ok w =>
      match post w with
      | .posted => (registered, some w, .ok future)
      | .failed f =>
        let (next, result) := registered.conclude id future (.failed f)
        (next, none, result)

/-- The failure that a reply carries: its text, of the named kind. A kind that is a nonempty
collection cannot be looked up. -/
def replyFailure (kind : Wire) (error : Wire) : Except Failure Failure :=
  match kind with
  | .text name => .ok (.sandbox (SandboxKind.ofWireName name) error.display)
  | .list (_ :: _) => .error (.type "unhashable type: 'list'")
  | .object (_ :: _) => .error (.type "unhashable type: 'dict'")
  | _ => .ok (.sandbox .capability error.display)

/-- Delivers raw data. A reply to a waiting call settles its future; the answer says
whether there was such a call. -/
def deliver (b : Bridge) (raw : Wire) : Bridge × Except Failure Bool :=
  match raw with
  | .object fields =>
    if Message.isMark (Assoc.get? fields "rpc") then
      let value (name : String) : Wire := (Assoc.get? fields name).getD .null
      match b.find? (value "id").display with
      | none => (b, .ok false)
      | some p =>
        let rest := b.forget p.id
        match value "error" with
        | .null => (rest.settle p.future (.ok (value "result")), .ok true)
        | error =>
          match replyFailure (value "errorKind") error with
          | .ok f => (rest.settle p.future (.error f), .ok true)
          | .error f => (rest, .error f)
    else (b, .ok false)
  | _ => (b, .ok false)

/-- The futures of the waiting calls, oldest first. -/
def outstanding (b : Bridge) : List Nat := b.pending.map PendingCall.future

/-- Closes the bridge and rejects what is pending. -/
def close (b : Bridge) (reason : String) : Bridge :=
  let rejected := b.outstanding.foldl
    (fun acc future => acc.settle future (.error (.sandbox .contextTerminated reason))) b
  { rejected with pending := [], closed := true }

/-- The settlement of a future. -/
def settlement? (b : Bridge) (future : Nat) : Option Settlement := (b.futures[future]?).join

end Bridge

end ChartScript
