/-
**The evcc client** (`dbus_ev/providers/evcc.py`) **over its state file**
(`dbus_ev/mercedes/store.py`).

Any number of processes share the state file and its lock. A process runs `poll` and `close` step by
step: between two steps another process may run, time may pass, or the process may die.

* `EvccClient`, `Host` — what a process owns, and what the processes share.
* `Answer` — what the environment decides at a step: which file operation raises, what the engine
  replies.
* `Event` — the uses of the engine, each with the admission instant of its poll and the state file
  at that moment, the saves, the engines that could not be closed, the acquisitions, and those of
  them that could not be saved.
-/

import DbusEv.Lib.Clock
import DbusEv.Lib.Threads
import DbusEv.Vehicle

set_option autoImplicit false
set_option linter.unusedSectionVars false

namespace DbusEv.Evcc

/-- `MIN_INTERVAL` and `LOGIN_INTERVAL`, in seconds. -/
def minInterval : ℚ := 1800
def loginInterval : ℚ := 21600

/-- The configuration of a process; `interval` is the configured one. -/
structure Config where
  template : String
  vin : Option String
  interval : ℚ
  staleTimeout : ℚ
  capacity : PyValue
  home : Site

/-- `self.interval`. -/
def Config.pollInterval (config : Config) : ℚ :=
  let interval := max minInterval config.interval
  if config.template = "cardata" then max 3600 interval else interval

/-! ### The state -/

/-- What happens to the upstream provider and to the state file. -/
inductive Event
  /-- An engine is constructed, in a poll admitted at wall time `admitted`. -/
  | constructed (process : ℕ) (admitted : ℚ) (file : Option (Dict PyValue))
  /-- An engine is polled. -/
  | polled (process : ℕ) (admitted : ℚ) (file : Option (Dict PyValue))
  | saved (data : Dict PyValue)
  /-- `engine.close()` raised: whether a handler of `_poll_engine` waits for it, and whether the
  saved state is blocked. -/
  | stopRaised (guarded blocked : Bool) (error : PyError)
  /-- A reading replaced the snapshot. -/
  | acquired (startedAt : ℚ) (vehicle : Vehicle)
  /-- The save that follows a reading raised. -/
  | unsaved (error : PyError)

/-- What the processes share. -/
structure Host where
  clock : Clock
  /-- The state file, a JSON object once it exists. -/
  file : Option (Dict PyValue)
  /-- The process that holds the lock. -/
  holder : Option ℕ
  /-- Newest first. -/
  trace : List Event

namespace Host

def wall (host : Host) : ℚ := host.clock.wall

def mono (host : Host) : ℚ := host.clock.mono

def note (host : Host) (event : Event) : Host := { host with trace := event :: host.trace }

/-- A process lets go of the lock. -/
def release (host : Host) (process : ℕ) : Host :=
  { host with holder := if host.holder = some process then none else host.holder }

/-- Time passes. -/
def elapse (host : Host) (mono wall : ℚ≥0) : Host :=
  { host with clock := ⟨host.clock.mono + mono, host.clock.wall + wall⟩ }

end Host

/-- The attributes of an `EvccClient`, with the data of its store. -/
structure EvccClient where
  data : Dict PyValue
  started : Bool
  /-- `self.engine is not None`. -/
  engine : Bool
  /-- Nothing but `ok` before the first acquisition. -/
  snapshot : Option Vehicle
  received : Option ℚ
  sampledAt : Option ℚ

/-- A client reads the state file when it is built, before it owns it. -/
def EvccClient.new (host : Host) : EvccClient where
  data := host.file.getD []
  started := false
  engine := false
  snapshot := none
  received := none
  sampledAt := none

/-- What the environment decides at a step. -/
structure Answer where
  /-- Opening the lock file. -/
  opens : Option PyError
  /-- Reading the state file. -/
  loads : Option PyError
  saves : Option PyError
  /-- Starting an engine. -/
  builds : Option PyError
  closes : Option PyError
  /-- `engine.poll()`. -/
  reply : Except PyError (Dict PyValue)

/-- Nothing raises, and the engine replies so. -/
def Answer.plain (reply : Dict PyValue) : Answer := ⟨none, none, none, none, none, .ok reply⟩

abbrev State := EvccClient × Host

/-- A program of a process. -/
abbrev Program (α : Type) := Thread Answer State PyError α

/-! ### The steps -/

/-- Read the state. -/
def look : Program State := Thread.atomic fun _ => Exec.read

/-- Change the state. -/
def alter (f : State → State) : Program Unit := Thread.atomic fun _ => Exec.change f

/-- A call that may raise; if it returns, the state changes. -/
def attempt (raises : Answer → Option PyError) (f : State → State) : Program Unit :=
  Thread.atomic fun answer =>
    match raises answer with
    | some e => Exec.raise e
    | none => Exec.change f

/-- `except (OSError, RuntimeError, ValueError, subprocess.SubprocessError)`. -/
def isCaught : PyError → Bool
  | .os => true
  | .runtime => true
  | .value => true
  | .subprocess => true
  | _ => false

/-- A value that could not be computed raises. -/
def ofExcept {α : Type} : Except PyError α → Program α
  | .ok value => pure value
  | .error e => Thread.raise e

/-! ### The store -/

/-- A lock file is opened; an older one of this process is closed. -/
def openLock (process : ℕ) (state : State) : State := (state.1, state.2.release process)

/-- `fcntl.flock(self._lock, LOCK_EX | LOCK_NB)`. -/
def flock (process : ℕ) : Program Unit :=
  Thread.atomic fun _ => do
    let (_, host) ← Exec.read
    match host.holder with
    | some _ => Exec.raise .runtime
    | none => Exec.change fun state => (state.1, { state.2 with holder := some process })

/-- The state file is read again under the lock. -/
def reload (state : State) : State :=
  match state.2.file with
  | some data => ({ state.1 with data := data }, state.2)
  | none => state

/-- `store.acquire()`. -/
def acquire (process : ℕ) : Program Unit := do
  attempt Answer.opens (openLock process)
  flock process
  attempt Answer.loads reload

/-- The state after `store.save(data)`. -/
def stored (data : Dict PyValue) (state : State) : State :=
  ({ state.1 with data := data }, { state.2.note (.saved data) with file := some data })

/-- `_save(**changes)`. -/
def save (changes : Dict PyValue) : Program Unit :=
  attempt Answer.saves fun state => stored (state.1.data.update changes) state

/-- `start()`. -/
def start (process : ℕ) : Program Unit := do
  let (client, _) ← look
  if client.started then pure ()
  else do
    acquire process
    alter fun state => ({ state.1 with started := true }, state.2)

/-! ### The engine -/

/-- `state.get("blocked")`. -/
def blocked (data : Dict PyValue) : Bool := ((data.get "blocked").getD .none).truthy

/-- `engine.close()`; `guarded` when the call is made inside the `try` of `_poll_engine`. -/
def closeEngine (guarded : Bool) : Program Unit :=
  Thread.atomic fun answer =>
    match answer.closes with
    | some e => do
      Exec.change fun state =>
        (state.1, state.2.note (.stopRaised guarded (blocked state.1.data) e))
      Exec.raise e
    | none => Exec.change fun state => ({ state.1 with engine := false }, state.2)

/-- `_stop_engine()`. -/
def stopEngine (guarded : Bool) : Program Unit := do
  let (client, _) ← look
  if client.engine then closeEngine guarded else pure ()

/-- `self.factory(…)`. -/
def construct (process : ℕ) (now : ℚ) : Program Unit :=
  Thread.atomic fun answer => do
    Exec.change fun state => (state.1, state.2.note (.constructed process now state.2.file))
    match answer.builds with
    | some e => Exec.raise e
    | none => Exec.change fun state => ({ state.1 with engine := true }, state.2)

/-- `if self.engine is None: self.engine = self.factory(…)`. -/
def ensureEngine (process : ℕ) (now : ℚ) : Program Unit := do
  let (client, _) ← look
  if client.engine then pure () else construct process now

/-- `self.engine.poll()`. -/
def askEngine (process : ℕ) (now : ℚ) : Program (Dict PyValue) :=
  Thread.atomic fun answer => do
    Exec.change fun state => (state.1, state.2.note (.polled process now state.2.file))
    match answer.reply with
    | .ok reply => pure reply
    | .error e => Exec.raise e

variable [PyText]

/-! ### A poll -/

/-- The failure count `_failure` saves. -/
def failureCount (data : Dict PyValue) : Except PyError ℤ :=
  match toInt ((data.get "failures").getD (.int 0)) with
  | .ok failures => .ok (min 5 (failures + 1))
  | .error e => .error e

/-- The delay `_failure` saves, for a failure count and the reply's `retry_after`. -/
def failureDelay (config : Config) (failures : ℤ) (retryAfter : Option ℚ) : ℚ :=
  max (max config.pollInterval (min loginInterval (1800 * (2 : ℚ) ^ (failures - 1))))
    (retryAfter.getD 0)

/-- `kind in ("auth", "configuration", "storage")`. -/
def needsOperator : PyValue → Bool
  | .str kind => kind ∈ ["auth", "configuration", "storage"]
  | _ => false

/-- `kind == "rate_limit"`. -/
def isRateLimit : PyValue → Bool
  | .str kind => kind = "rate_limit"
  | _ => false

/-- `_failure(response)`. -/
def failure (config : Config) (guarded : Bool) (response : Dict PyValue) : Program Unit := do
  let kind := (response.get "error").getD (.str "provider")
  let (client, _) ← look
  let failures ← ofExcept (failureCount client.data)
  let retryAfter ← ofExcept (numberAt response "retry_after" atLeastZero)
  let (_, host) ← look
  save [("next_poll", .float (.finite (host.wall + failureDelay config failures retryAfter))),
    ("failures", .int failures), ("blocked", .bool (needsOperator kind))]
  if needsOperator kind || isRateLimit kind then stopEngine guarded else pure ()

/-- The data of a reply that is a reading. -/
def readingOf (response : Dict PyValue) : Option (Dict PyValue) :=
  match response.get "ok", response.get "data" with
  | some (.bool true), some (.dict data) => some data
  | _, _ => none

/-- The candidate replaces the snapshot. -/
def acquired (startedAt now : ℚ) (candidate : Vehicle) (state : State) : State :=
  ({ state.1 with
      snapshot := some candidate
      received := some startedAt
      sampledAt := some now },
    state.2.note (.acquired startedAt candidate))

/-- `_save(**changes)` after a reading. -/
def saveReading (changes : Dict PyValue) : Program Unit :=
  Thread.atomic fun answer =>
    match answer.saves with
    | some e => do
      Exec.change fun state => (state.1, state.2.note (.unsaved e))
      Exec.raise e
    | none => Exec.change fun state => stored (state.1.data.update changes) state

/-- What the `try` of `_poll_engine` does with a reading. -/
def takeReading (config : Config) (startedAt now : ℚ) (data : Dict PyValue) : Program Unit := do
  let candidate ← ofExcept (normalize data config.vin config.capacity config.home)
  match candidate.soc with
  | none => Thread.raise .value
  | some _ => do
    alter (acquired startedAt now candidate)
    let (_, host) ← look
    saveReading
      [("failures", .int 0), ("next_poll", .float (.finite (host.wall + config.pollInterval)))]

/-- What the `try` of `_poll_engine` does with a reply. -/
def takeReply (config : Config) (startedAt now : ℚ) (response : Dict PyValue) : Program Unit :=
  match readingOf response with
  | some data => takeReading config startedAt now data
  | none => failure config true response

/-- The `try` of `_poll_engine`. -/
def useEngine (config : Config) (process : ℕ) (startedAt now : ℚ) : Program Unit := do
  ensureEngine process now
  let response ← askEngine process now
  takeReply config startedAt now response

/-- The handler of `_poll_engine`. -/
def engineFailed (config : Config) (e : PyError) : Option (Program Unit) :=
  if isCaught e then
    some do
      stopEngine false
      failure config false [("error", .str "transport")]
  else none

/-- `if self.engine is None: self._save(next_login=…)`. -/
def reserveLogin (now : ℚ) : Program Unit := do
  let (client, _) ← look
  if client.engine then pure ()
  else save [("next_login", .float (.finite (now + loginInterval)))]

/-- `_poll_engine(now)`. -/
def pollEngine (config : Config) (process : ℕ) (now : ℚ) : Program Unit := do
  save [("next_poll", .float (.finite (now + config.pollInterval)))]
  reserveLogin now
  let (_, host) ← look
  (useEngine config process host.mono now).handle (engineFailed config)

/-- `now >= state.get(key, 0)`. -/
def due (data : Dict PyValue) (key : String) (now : ℚ) : Except PyError Bool :=
  ((data.get key).getD (.int 0)).reachedAt now

/-- The condition of `poll`. -/
def EvccClient.admits (client : EvccClient) (now : ℚ) : Except PyError Bool :=
  if blocked client.data then .ok false
  else
    match due client.data "next_poll" now with
    | .ok true => if client.engine then .ok true else due client.data "next_login" now
    | other => other

/-- What `poll` returns. -/
structure Polled where
  snapshot : Option Vehicle
  ok : Bool
  sourceSampleStartedAt : Option ℚ
  sampledAt : Option ℚ
  source : String

/-- The snapshot at monotonic time `mono`. -/
def EvccClient.polled (client : EvccClient) (config : Config) (mono : ℚ) : Polled where
  snapshot := client.snapshot
  ok :=
    match client.received with
    | some received => 0 ≤ mono - received && mono - received < config.staleTimeout
    | none => false
  sourceSampleStartedAt := client.received
  sampledAt := client.sampledAt
  source := "evcc:" ++ config.template

/-- `if …: self._poll_engine(now)`. -/
def pollIfAdmitted (config : Config) (process : ℕ) (admitted : Bool) (now : ℚ) : Program Unit :=
  if admitted then pollEngine config process now else pure ()

/-- `poll()`. -/
def poll (config : Config) (process : ℕ) : Program Polled := do
  start process
  let (client, host) ← look
  let admitted ← ofExcept (client.admits host.wall)
  pollIfAdmitted config process admitted host.wall
  let (client, host) ← look
  pure (client.polled config host.mono)

/-- `close()`. -/
def close (process : ℕ) : Program Unit := do
  stopEngine false
  alter fun state => ({ state.1 with started := false }, state.2.release process)

/-! ### The processes -/

/-- What a process is asked to do. -/
inductive Call
  | poll
  | close

/-- A move of the world: time passes. -/
structure Passing where
  mono : ℚ≥0
  wall : ℚ≥0

/-- The clients of one state file, each process with its own configuration. -/
def service (config : ℕ → Config) : Service ℕ Call Passing Answer EvccClient Host PyError where
  launch _ host := EvccClient.new host
  program process
    | .poll => do
      let _ ← poll (config process) process
      pure ()
    | .close => close process
  crash process host := host.release process
  world passing host := host.elapse passing.mono passing.wall

/-- A run of the processes, from a state file. -/
def run (config : ℕ → Config) (clock : Clock) (file : Option (Dict PyValue))
    (moves : List (Move ℕ Call Passing Answer)) : Host :=
  ((service config).run ⟨clock, file, none, []⟩ moves).shared

end DbusEv.Evcc
