/-
**The telemetry task in its environment.**

The task is one coroutine: between two awaits it runs alone, at one instant of both clocks. What the
environment does is fixed by `Env`, indexed by the number of awaits and saves so far, so an
environment and a state determine the run; the results hold for every environment.

* An await takes time, during which another thread may set the stop event. It may be the last: the
  task is cancelled there (`finally` blocks still run), or the process is killed.
* A wait lasts at least its timeout.
* A save of the limits persists them, raises, or the process is killed before or after it.
* `trace` — what happened, newest first.
-/

import DbusEv.Lib.Exec
import DbusEv.Lib.Trace
import DbusEv.Mercedes.Session
import DbusEv.Mercedes.Traffic

set_option autoImplicit false
set_option linter.unusedSectionVars false

namespace DbusEv.Mercedes

/-! ### The environment -/

/-- What becomes of the task at an await. -/
inductive Fate
  | proceeds
  | cancelled
  | killed
  deriving DecidableEq

/-- What becomes of a save. -/
inductive SaveOutcome
  | persisted
  | raised (error : Exn)
  | killedBefore
  | killedAfter

/-- A binary frame: it has an acknowledgement, and an update for this vehicle, empty when it has
none. -/
structure Frame where
  acknowledged : Bool
  update : Dict PyValue

/-- What a reader of the socket gets: the end of the stream, an exception, an `ERROR` message, a
`BINARY` one, which may not decode, or another one. -/
inductive Message
  | closed
  | raised (error : Exn)
  | error
  | binary (frame : Except Exn Frame)
  | other

/-- The environment, by the number of awaits and saves so far. -/
structure Env where
  /-- How long an await takes; for a wait that times out, how late. -/
  takes : ℕ → ℚ≥0
  /-- The stop event is set during the await. -/
  stops : ℕ → Bool
  fate : ℕ → Fate
  save : ℕ → SaveOutcome
  /-- `versions.async_refresh`. -/
  refresh : ℕ → Except Exn Unit
  /-- `auth.async_get_cached_token`: there is a token. -/
  token : ℕ → Except Exn Bool
  /-- `_metadata`. -/
  metadata : ℕ → Except Exn (Dict PyValue)
  /-- `session.ws_connect`. -/
  handshake : ℕ → Except Exn Unit
  /-- The next message, if it is there before the timeout. -/
  message : ℕ → Option Message
  /-- `ws.send_bytes`. -/
  acknowledge : ℕ → Except Exn Unit
  /-- The REST reply, after `raise_for_status`. -/
  reply : ℕ → Except Exn Reply
  /-- `recovery._credentials`. -/
  credentials : ℕ → Except Exn Unit
  /-- `auth.async_login_new`: it returned an access token. -/
  login : ℕ → Except Exn Bool

/-! ### What happens -/

/-- A step of an attempt, of a pull or of a recovery. -/
inductive Step
  | refresh
  | token
  | metadata
  | handshake
  | stream
  | reply
  | credentials
  | login
  deriving DecidableEq

/-- The operation that saves the limits. -/
inductive LimitsWrite
  | pause
  | rateLimited
  | healthy
  | reserveLogin
  | loginFailed
  | manualLogin
  deriving DecidableEq

/-- An event. Attempts, pulls and recoveries are numbered: `owner`. -/
inductive Event
  | serveStarted (mono : ℚ)
  | attemptStarted (mono : ℚ)
  /-- An attempt is over: the delay `_cooldown` is called with, and what is left of the pause. -/
  | attemptEnded (mono retry remaining : ℚ)
  | pullStarted (mono remaining : ℚ)
  /-- A pull is over; the delay computed from its failure if it failed. -/
  | pullEnded (mono : ℚ) (delay : Option ℚ)
  | accepted (mono : ℚ)
  /-- A step starts: its request leaves, or the stream opens. -/
  | requested (owner : ℕ) (step : Step) (remaining : ℚ)
  /-- A step raised. -/
  | raised (owner : ℕ) (step : Step) (error : Exn)
  /-- The limits were persisted. -/
  | saved (write : LimitsWrite) (wall : ℚ≥0) (remaining : ℚ) (data : LimitsData)
  /-- A save raised, inside the `try` of `_serve` or outside it. -/
  | saveRaised (inside : Bool)
  /-- An operator's login succeeded. -/
  | operatorLogin
  /-- The recovery credentials are read, with this limits file on disk. -/
  | credentialsRead (file : PyValue)
  /-- The recovery credentials are sent, with this limits file on disk. -/
  | credentialsSent (file : PyValue)

/-- How a run of the task ends early. -/
inductive Halt
  | error (e : Exn)
  | cancelled
  | killed

/-- `finally` blocks run, unless the process is gone. -/
def Halt.unwinds : Halt → Bool
  | .killed => false
  | _ => true

/-! ### The state -/

/-- The state of the task. -/
structure World where
  session : Session
  limits : TrafficLimits
  /-- `recovery.failed`. -/
  recoveryFailed : Bool
  /-- The local `retry` of `_serve`. -/
  retry : ℚ
  stop : Bool
  clock : Clock
  /-- The limits file. -/
  file : PyValue
  /-- Control is inside the `try` of `_serve`. -/
  inside : Bool
  steps : ℕ
  owners : ℕ
  trace : List Event

namespace World

def mono (w : World) : ℚ := w.clock.mono

/-- `self.limits.remaining()`. -/
def remaining (w : World) : ℚ := w.limits.remaining w.clock

/-- The local `due` of `_pull_delay`. -/
def pullDue (w : World) : ℚ :=
  match w.session.client.received with
  | some received => max w.session.client.nextPull (received + pullInterval)
  | none => w.session.client.nextPull

/-- `_pull_delay()`. -/
def pullDelay (w : World) : ℚ := max (max 0 (w.pullDue - w.mono)) w.remaining

/-- An event is recorded. -/
def note (w : World) (event : Event) : World := { w with trace := event :: w.trace }

/-- Time passes, and the stop event may be set. -/
def pass (w : World) (time : ℚ≥0) (stops : Bool) : World :=
  { w with clock := w.clock.elapse time, stop := w.stop || stops }

/-- The environment has answered. -/
def answered (w : World) : World := { w with steps := w.steps + 1 }

def setClient (w : World) (client : Client) : World :=
  { w with session := { w.session with client := client } }

def setLimits (w : World) (limits : TrafficLimits) : World := { w with limits := limits }

/-- The limits reach the disk. -/
def persist (w : World) (write : LimitsWrite) : World :=
  { w with
    file := w.limits.data.encode
    trace := .saved write w.clock.wall w.remaining w.limits.data :: w.trace }

end World

/-! ### Primitive programs -/

/-- A program of the telemetry task. -/
abbrev Serve (α : Type) := Exec World Halt α

def emit (event : World → Event) : Serve Unit := Exec.change fun w => w.note (event w)

/-- `raise`. -/
def throw {α : Type} (e : Exn) : Serve α := Exec.raise (.error e)

/-- `try: body except Exception as e: handler`. -/
def tryExcept {α : Type} (body : Serve α) (handler : Exn → Serve α) : Serve α :=
  Exec.handle body fun halt =>
    match halt with
    | .error e => some (handler e)
    | _ => none

/-- `try: body finally: final`. -/
def tryFinally {α : Type} (body : Serve α) (final : Serve Unit) : Serve α :=
  Exec.ensure body Halt.unwinds final

/-- Await something that takes at least `atLeast`. -/
def await (env : Env) (atLeast : ℚ) : Serve Unit := do
  let w ← Exec.read
  let time := env.takes w.steps
  let stops := env.stops w.steps
  match env.fate w.steps with
  | .proceeds => Exec.change fun w => (w.pass (atLeast.toNNRat + time) stops).answered
  | .cancelled => do
    Exec.change fun w => (w.pass time stops).answered
    Exec.raise .cancelled
  | .killed => Exec.raise .killed

/-- A step of `owner` raises. -/
def fail {α : Type} (owner : ℕ) (step : Step) (e : Exn) : Serve α := do
  emit fun _ => .raised owner step e
  throw e

/-- Await a step of `owner`. -/
def awaitStep {α : Type} (env : Env) (owner : ℕ) (step : Step) (outcome : ℕ → Except Exn α) :
    Serve α := do
  let w ← Exec.read
  await env 0
  match outcome w.steps with
  | .ok value => pure value
  | .error e => fail owner step e

/-- Send a request and await its reply. -/
def request {α : Type} (env : Env) (owner : ℕ) (step : Step) (outcome : ℕ → Except Exn α) :
    Serve α := do
  emit fun w => .requested owner step w.remaining
  awaitStep env owner step outcome

/-- `self.limits.store.save(self.limits.data)`. -/
def save (env : Env) (write : LimitsWrite) : Serve Unit := do
  let w ← Exec.read
  Exec.change World.answered
  match env.save w.steps with
  | .persisted => Exec.change fun w => w.persist write
  | .raised e => do
    emit fun w => .saveRaised w.inside
    throw e
  | .killedBefore => Exec.raise .killed
  | .killedAfter => do
    Exec.change fun w => w.persist write
    Exec.raise .killed

/-- A new attempt, pull or recovery. -/
def newOwner : Serve ℕ := do
  let w ← Exec.read
  Exec.change fun w => { w with owners := w.owners + 1 }
  pure w.owners

/-- The session's part of a step of `owner`. -/
def onSession {α : Type} (owner : ℕ) (step : Step) (x : Exec Session Exn α) : Serve α := do
  let w ← Exec.read
  Exec.change fun w => { w with session := (x w.session).2 }
  match (x w.session).1 with
  | .ok value => pure value
  | .error e => fail owner step e

end DbusEv.Mercedes
