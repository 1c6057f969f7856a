/-
**One Mercedes session: push frames and REST pulls feed one published payload.**

Two acquisition paths share the client. A push frame is merged into the session's buffer and the
buffer is published; a REST reply is merged in a buffer of its own, and published as it is unless
an initialised live stream owns the rest of the vehicle — then its attributes are merged into the
session's buffer too.

* `takeFrame`, `takeReply` — the handling of one update, as programs over `Session`.
* `runSession` — a session as a sequence of frames, replies, connects and disconnects; a raised
  frame ends the connection, a raised pull is logged.
* `history` — the payloads accepted so far, newest first, each with the buffer it came from, and a
  mark where a full update replaced the buffer.
-/

import DbusEv.Lib.Exec
import DbusEv.Mercedes.Snapshot

set_option autoImplicit false
set_option linter.unusedSectionVars false

namespace DbusEv.Mercedes

/-- An entry of the history of a session. -/
inductive Entry
  /-- A push frame with `full_update` replaced the session's buffer. -/
  | full
  /-- A payload was accepted; `buffered` when it is a snapshot of the session's buffer. -/
  | accepted (payload : Payload) (buffered : Bool)

/-- The client, the session's `Protocol`, and the history of what was accepted. -/
structure Session where
  client : Client
  protocol : Protocol
  history : List Entry

/-- A client that has just been built. -/
def Session.new (config : Config) : Session := ⟨Client.new config, Protocol.new config.vin, []⟩

variable [PyText]

/-! ### Handling one update -/

/-- `protocol.merge(update)`. -/
def mergeUpdate (wall : ℚ) (update : Dict PyValue) : Exec Session Exn (Option Payload) := fun s =>
  let (protocol, payload) := s.protocol.merge wall update
  let full := (incomingOf update).isSome && isFullUpdate update
  (.ok payload,
    { s with protocol := protocol, history := if full then .full :: s.history else s.history })

/-- `self._accept(payload, source)`. -/
def acceptPayload (vendor : Vendor) (mono : ℚ) (payload : Payload) (source : Source)
    (buffered : Bool) : Exec Session Exn Unit := fun s =>
  match s.client.accept vendor mono payload source with
  | .error e => (.error e, s)
  | .ok client =>
    (.ok (), { s with
      client := client
      history := (client.payload.map fun stored => .accepted stored buffered).toList ++
        s.history })

/-- The update of a frame is merged only if it is not empty (`if update`). -/
def decodePush (wall : ℚ) (update : Dict PyValue) : Exec Session Exn (Option Payload) :=
  if update.isEmpty then pure none else mergeUpdate wall update

/-- What `_stream` does with the update of a push frame: merge it, send the acknowledgement,
accept it. -/
def takeFrame (vendor : Vendor) (clock : Clock) (update : Dict PyValue) (acknowledged : Bool) :
    Exec Session Exn Unit := do
  let payload ← decodePush clock.wall update
  if acknowledged then
    match payload with
    | none => pure ()
    | some payload => acceptPayload vendor clock.mono payload .push true
  else Exec.raise (.other .client)

/-- `_accept` of what `protocol.merge(update)` returns; `ignored` when that is `None`. -/
def mergeThenAccept (vendor : Vendor) (clock : Clock) (update : Dict PyValue)
    (ignored : Exec Session Exn Unit) : Exec Session Exn Unit := do
  match ← mergeUpdate clock.wall update with
  | none => ignored
  | some payload => acceptPayload vendor clock.mono payload .push true

/-- An initialised live stream owns the fields a REST reply leaves out. -/
def Session.supplements (session : Session) : Bool :=
  session.client.connected && session.protocol.fullReceived

/-- The update a REST payload becomes when it supplements the live stream. -/
def supplement (payload : Payload) : Dict PyValue :=
  [("attributes", .dict (payload.attributes.map fun item => (item.1, .dict item.2)))]

/-- What `_pull` does with a parsed REST reply. -/
def takeReply (vendor : Vendor) (clock : Clock) (reply : Reply) : Exec Session Exn Unit := do
  let s ← Exec.read
  match decodeRest s.client.vin clock.wall reply with
  | .error e => Exec.raise e
  | .ok none => Exec.raise (.other .value)
  | .ok (some payload) =>
    -- `_accept(None)` raises.
    if s.supplements then
      mergeThenAccept vendor clock (supplement payload) (Exec.raise (.other .type))
    else acceptPayload vendor clock.mono payload .pull false

/-! ### Runs -/

/-- What can happen to a session. -/
inductive SessionEvent
  /-- A push frame with an update for this vehicle; `acknowledged` when its acknowledgement can be
  sent. -/
  | push (update : Dict PyValue) (acknowledged : Bool)
  | reply (reply : Reply)
  | connect
  | disconnect

/-- `self._connected = connected`. -/
def Session.setConnected (session : Session) (connected : Bool) : Session :=
  { session with client := { session.client with connected := connected } }

/-- One event: an exception from a frame ends the connection, one from a pull is logged. -/
def Session.step (vendor : Vendor) (session : Session) (clock : Clock) :
    SessionEvent → Session
  | .push update acknowledged =>
    match takeFrame vendor clock update acknowledged session with
    | (.ok _, next) => next
    | (.error _, next) => next.setConnected false
  | .reply reply => (takeReply vendor clock reply session).2
  | .connect => session.setConnected true
  | .disconnect => session.setConnected false

/-- A run of a session. -/
def runSession (vendor : Vendor) (session : Session) (events : List (Clock × SessionEvent)) :
    Session :=
  events.foldl (fun s event => s.step vendor event.1 event.2) session

/-! ### What one update does -/

section Steps

variable {vendor : Vendor}

theorem mergeUpdate_none {wall : ℚ} {update : Dict PyValue} {s : Session}
    (ignored : incomingOf update = none) : mergeUpdate wall update s = (.ok none, s) := by
  unfold mergeUpdate
  rw [Protocol.merge_none ignored, ignored]
  rfl

/-- The session after its buffer took an update. -/
def Session.merged (s : Session) (update incoming : Dict PyValue) : Session :=
  { s with
    protocol := s.protocol.mergedWith update incoming
    history := if isFullUpdate update then .full :: s.history else s.history }

theorem mergeUpdate_some {wall : ℚ} {update incoming : Dict PyValue} {s : Session}
    (taken : incomingOf update = some incoming) :
    mergeUpdate wall update s =
      (.ok (some ((s.protocol.mergedWith update incoming).payloadAt wall)),
        s.merged update incoming) := by
  unfold mergeUpdate Session.merged
  rw [Protocol.merge_some taken, taken]
  simp

/-- An acceptance that raises leaves the session as it was. -/
theorem acceptPayload_error {mono : ℚ} {payload : Payload} {source : Source} {buffered : Bool}
    {s t : Session} {e : Exn}
    (raised : acceptPayload vendor mono payload source buffered s = (.error e, t)) : t = s := by
  unfold acceptPayload at raised
  split at raised <;> cases raised
  rfl

/-- An acceptance adds the payload that is stored to the history and leaves the buffer alone. -/
theorem acceptPayload_ok {mono : ℚ} {payload : Payload} {source : Source} {buffered : Bool}
    {s t : Session} (accepted : acceptPayload vendor mono payload source buffered s = (.ok (), t)) :
    t.protocol = s.protocol ∧ ∃ stored, s.client.taken payload source = .ok stored ∧
      t.history = .accepted stored buffered :: s.history := by
  unfold acceptPayload at accepted
  split at accepted
  · cases accepted
  · rename_i client took
    obtain ⟨stored, snapshot, taken, -, rfl⟩ := accept_ok took
    cases accepted
    exact ⟨rfl, stored, taken, rfl⟩

end Steps

end DbusEv.Mercedes
