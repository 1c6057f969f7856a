/-
**The telemetry loop** (`dbus_ev/mercedes/client.py`, `recovery.py`), statement by statement.

* `_pull`, `_stream`, `_cooldown`, `_wait_for_api`, `_failure_delay`, `_connection_failure`,
  `_websocket_headers` and `SessionRecovery.recover` keep their names and their order of effects;
  `attempt` is the body of the loop of `_serve` up to its cooldown.
* A loop takes fuel and is killed when it runs out, so the runs of `serve` are all the finite
  prefixes of a run.
* `retry` and the deadlines live in the state, as an exception leaves them where it finds them.
-/

import DbusEv.Mercedes.World

set_option autoImplicit false
set_option linter.unusedSectionVars false

namespace DbusEv.Mercedes

/-! ### The limits -/

/-- `self.limits.pause(delay)`. -/
def pauseLimits (env : Env) (delay : ℚ) : Serve ℚ := do
  let w ← Exec.read
  let (delay, limits) := w.limits.pause w.clock delay
  Exec.change fun w => w.setLimits limits
  save env .pause
  pure delay

/-- `self.limits.rate_limited(error)`. -/
def rateLimitedBy (env : Env) (e : Exn) : Serve ℚ := do
  let w ← Exec.read
  let (delay, limits) := w.limits.rateLimited w.clock e.retryAfter
  Exec.change fun w => w.setLimits limits
  save env .rateLimited
  pure delay

/-- `self.limits.healthy()`. -/
def healthyStream (env : Env) : Serve Unit := do
  let w ← Exec.read
  match w.limits.healthy w.clock with
  | none => pure ()
  | some limits => do
    Exec.change fun w => w.setLimits limits
    save env .healthy

/-- `self.limits.reserve_login()`. -/
def reserveLogin (env : Env) : Serve Bool := do
  let w ← Exec.read
  match w.limits.reserveLogin w.clock with
  | none => pure false
  | some limits => do
    Exec.change fun w => w.setLimits limits
    save env .reserveLogin
    pure true

/-- `self.limits.login_failed()`. -/
def recordLoginFailure (env : Env) : Serve Unit := do
  Exec.change fun w => w.setLimits w.limits.loginFailed
  save env .loginFailed

/-- `_failure_delay(error, minimum)`. -/
def failureDelay (env : Env) (e : Exn) (minimum : ℚ) : Serve ℚ := do
  let w ← Exec.read
  if e.status = some 429 then rateLimitedBy env e
  else if e.status = some 401 ∨ e.status = some 403 ∨ e.isAuth then
    pauseLimits env (retryDelay w.clock.wall e.retryAfter loginInterval)
  else if e.retryAfter.isSome then
    pauseLimits env (retryDelay w.clock.wall e.retryAfter minimum)
  else pure (retryDelay w.clock.wall e.retryAfter minimum)

/-- What `_failure_delay` decides: the delay it returns, and the limits it saves if it pauses. -/
def World.failurePlan (w : World) (e : Exn) (minimum : ℚ) :
    ℚ × Option (LimitsWrite × TrafficLimits) :=
  let paused (delay : ℚ) :=
    let (delay, limits) := w.limits.pause w.clock delay
    (delay, some (LimitsWrite.pause, limits))
  if e.status = some 429 then
    let (delay, limits) := w.limits.rateLimited w.clock e.retryAfter
    (delay, some (.rateLimited, limits))
  else if e.status = some 401 ∨ e.status = some 403 ∨ e.isAuth then
    paused (retryDelay w.clock.wall e.retryAfter loginInterval)
  else if e.retryAfter.isSome then paused (retryDelay w.clock.wall e.retryAfter minimum)
  else (retryDelay w.clock.wall e.retryAfter minimum, none)

/-- `_wait_for_api()`. -/
def waitForApi (env : Env) : ℕ → Serve Unit
  | 0 => Exec.raise .killed
  | fuel + 1 => do
    let w ← Exec.read
    if w.stop ∨ w.remaining = 0 then pure ()
    else do
      await env w.remaining
      waitForApi env fuel

/-! ### A REST pull -/

variable [PyText]

/-- The session accepts what it takes. -/
def accepting (owner : ℕ) (step : Step) (x : Exec Session Exn Unit) : Serve Unit := do
  onSession owner step x
  emit fun w => .accepted w.mono

/-- The steps in the `try` of `_pull`. -/
def pullBody (env : Env) (vendor : Vendor) (owner : ℕ) : Serve Unit := do
  request env owner .refresh env.refresh
  let token ← request env owner .token env.token
  if token then do
    let reply ← request env owner .reply env.reply
    let w ← Exec.read
    accepting owner .reply (takeReply vendor w.clock reply)
    Exec.change fun w => w.setClient { w.session.client with pullRetry := pullInterval }
  else fail owner .token .auth

/-- The handler of `_pull`. If the save of its pause raises, the pull is over too. -/
def pullFailed (env : Env) (e : Exn) : Serve ℚ := do
  let w ← Exec.read
  let minimum := min (w.session.client.pullRetry * 2) reconnectMax
  let delay ← tryExcept (failureDelay env e minimum) fun e' => do
    emit fun t => .pullEnded t.mono (some (w.failurePlan e minimum).1)
    throw e'
  Exec.change fun w => w.setClient { w.session.client with pullRetry := delay }
  pure delay

/-- `self._next_pull = time.monotonic() + self._pull_retry`. -/
def World.planPull (w : World) : World :=
  w.setClient { w.session.client with nextPull := w.mono + w.session.client.pullRetry }

/-- `_pull(session, auth, versions, protocol)`. -/
def pull (env : Env) (vendor : Vendor) : Serve Unit := do
  let w ← Exec.read
  if w.remaining ≠ 0 then pure ()
  else do
    let owner ← newOwner
    emit fun w => .pullStarted w.mono w.remaining
    let delay ← tryExcept (do pullBody env vendor owner; pure none) fun e => do
      let delay ← pullFailed env e
      pure (some delay)
    Exec.change World.planPull
    emit fun w => .pullEnded w.mono delay

/-! ### The stream -/

/-- `if ack is not None: await ws.send_bytes(ack)`. -/
def acknowledge (env : Env) (owner : ℕ) (frame : Frame) : Serve Unit :=
  if frame.acknowledged then awaitStep env owner .stream env.acknowledge else pure ()

/-- One message of the stream: whether the stream goes on. -/
def takeMessage (env : Env) (vendor : Vendor) (owner : ℕ) : Message → Serve Bool
  | .closed => pure false
  | .error => pure false
  | .raised e => fail owner .stream e
  | .other => pure true
  | .binary (.error e) => fail owner .stream e
  | .binary (.ok frame) => do
    let w ← Exec.read
    let payload ← onSession owner .stream (decodePush w.clock.wall frame.update)
    acknowledge env owner frame
    match payload with
    | none => pure true
    | some payload => do
      let w ← Exec.read
      accepting owner .stream (acceptPayload vendor w.clock.mono payload .push true)
      pure true

/-- The loop of `_stream`. -/
def streamLoop (env : Env) (vendor : Vendor) (owner : ℕ) : ℕ → Serve Unit
  | 0 => Exec.raise .killed
  | fuel + 1 => do
    let w ← Exec.read
    if w.stop then pure ()
    else
      match env.message w.steps with
      | none => do
        await env w.pullDelay
        pull env vendor
        streamLoop env vendor owner fuel
      | some message => do
        await env 0
        let goesOn ← takeMessage env vendor owner message
        if goesOn then streamLoop env vendor owner fuel else pure ()

/-- `_stream(ws, session, auth, versions, protocol)`; the pending reader is gathered at the end. -/
def stream (env : Env) (vendor : Vendor) (owner fuel : ℕ) : Serve Unit :=
  tryFinally (streamLoop env vendor owner fuel) (await env 0)

/-! ### An attempt -/

/-- `_websocket_headers(session, auth, versions)`. -/
def websocketHeaders (env : Env) (owner : ℕ) : Serve Unit := do
  request env owner .refresh env.refresh
  let token ← request env owner .token env.token
  if token then do
    let w ← Exec.read
    match w.session.client.vehicle with
    | some _ => pure ()
    | none => do
      let vehicle ← request env owner .metadata env.metadata
      Exec.change fun w => w.setClient { w.session.client with vehicle := some vehicle }
  else fail owner .token .auth

def World.setConnected (w : World) (connected : Bool) : World :=
  { w with session := w.session.setConnected connected }

/-- The body of `async with session.ws_connect(…) as ws`. -/
def connection (env : Env) (vendor : Vendor) (owner fuel : ℕ) : Serve Unit := do
  Exec.change fun w => w.setConnected true
  let connected ← Exec.read
  stream env vendor owner fuel
  let w ← Exec.read
  if healthyStreamTime ≤ w.mono - connected.mono then do
    Exec.change fun w => { w with retry := reconnectMin }
    healthyStream env
  else pure ()

/-- The `try` body of `_serve`: the socket is closed when its block is left. -/
def attemptBody (env : Env) (vendor : Vendor) (owner fuel : ℕ) : Serve Unit := do
  websocketHeaders env owner
  request env owner .handshake env.handshake
  emit fun w => .requested owner .stream w.remaining
  tryFinally (connection env vendor owner fuel) (await env 0)

/-- `retry = delay`. -/
def setRetry (delay : ℚ) : Serve Unit := Exec.change fun w => { w with retry := delay }

/-- `_connection_failure(exc, retry)`: whether the session is blocked. -/
def connectionFailure (env : Env) (e : Exn) : Serve Bool := do
  let w ← Exec.read
  let delay ← failureDelay env e w.retry
  setRetry delay
  pure (e.status = some 429 && e.isHandshake)

/-- The handlers of the `try` of `_serve`. -/
def attemptFailed (env : Env) (e : Exn) : Serve Bool := do
  Exec.change fun w => { w with inside := false }
  if e.isAuth then do
    let delay ← pauseLimits env loginInterval
    setRetry delay
    pure false
  else connectionFailure env e

/-- The body of the loop of `_serve` up to the cooldown: whether the session is blocked. -/
def attempt (env : Env) (vendor : Vendor) (fuel : ℕ) : Serve Bool := do
  let owner ← newOwner
  Exec.change fun w => { w with inside := true }
  tryFinally
    (tryExcept (do attemptBody env vendor owner fuel; pure false) (attemptFailed env))
    (Exec.change fun w => { w.setConnected false with inside := false })

/-! ### Between two attempts -/

/-- The loop of `_cooldown`. -/
def cooldownLoop (env : Env) (vendor : Vendor) (deadline : ℚ) : ℕ → Serve Unit
  | 0 => Exec.raise .killed
  | fuel + 1 => do
    let w ← Exec.read
    let remaining := deadline - w.mono
    if w.stop ∨ remaining ≤ 0 then pure ()
    else if w.pullDelay ≤ 0 then do
      pull env vendor
      cooldownLoop env vendor deadline fuel
    else do
      await env (min remaining w.pullDelay)
      cooldownLoop env vendor deadline fuel

/-- `_cooldown(session, auth, versions, protocol, delay)`. -/
def cooldown (env : Env) (vendor : Vendor) (fuel : ℕ) (delay : ℚ) : Serve Unit := do
  let w ← Exec.read
  if w.remaining ≠ 0 then waitForApi env fuel
  else cooldownLoop env vendor (w.mono + delay) fuel

/-- The `try` body of `recover`. -/
def loginAgain (env : Env) (owner : ℕ) : Serve Unit := do
  emit fun w => .credentialsRead w.file
  awaitStep env owner .credentials env.credentials
  emit fun w => .credentialsSent w.file
  let token ← request env owner .login env.login
  if token then pure () else fail owner .login (.other .value)

/-- `if status == 429: self.limits.rate_limited(exc)`. -/
def recordRateLimit (env : Env) (e : Exn) : Serve Unit :=
  if e.status = some 429 then do
    let _ ← rateLimitedBy env e
    pure ()
  else pure ()

/-- The handler of `recover`. -/
def recoveryFails (env : Env) (e : Exn) : Serve Unit := do
  Exec.change fun w => { w with recoveryFailed := true }
  recordLoginFailure env
  recordRateLimit env e
  let w ← Exec.read
  let _ ← pauseLimits env (retryDelay w.clock.wall e.retryAfter loginInterval)
  pure ()

/-- `SessionRecovery.recover(auth)`; `credentialsFile` when one is configured. -/
def recover (env : Env) (credentialsFile : Bool) : Serve Bool := do
  let w ← Exec.read
  if !credentialsFile || w.recoveryFailed then pure false
  else do
    let reserved ← reserveLogin env
    if reserved then do
      let owner ← newOwner
      tryExcept (do loginAgain env owner; pure true) fun e => do
        recoveryFails env e
        pure false
    else pure false

/-! ### The loop -/

/-- A new login starts a new server session: a new buffer, and the metadata is read again. -/
def World.newSession (w : World) : World :=
  { w with session := { w.session with
      client := { w.session.client with vehicle := none }
      protocol := Protocol.new w.session.client.vin } }

/-- `blocked and not self._stop.is_set() and await self.recovery.recover(auth)`. -/
def recoverBlocked (env : Env) (credentialsFile blocked : Bool) : Serve Bool := do
  let w ← Exec.read
  if blocked && !w.stop then recover env credentialsFile else pure false

/-- What follows the cooldown. -/
def afterCooldown (env : Env) (credentialsFile blocked : Bool) : Serve Unit := do
  let recovered ← recoverBlocked env credentialsFile blocked
  if recovered then Exec.change World.newSession
  else Exec.change fun w => { w with retry := min (w.retry * 2) reconnectMax }

/-- The loop of `_serve`. -/
def serveLoop (env : Env) (vendor : Vendor) (credentialsFile : Bool) (inner : ℕ) : ℕ → Serve Unit
  | 0 => Exec.raise .killed
  | fuel + 1 => do
    let w ← Exec.read
    if w.stop then pure ()
    else do
      waitForApi env inner
      let w ← Exec.read
      if w.stop then pure ()
      else do
        emit fun w => .attemptStarted w.mono
        let blocked ← attempt env vendor inner
        let w ← Exec.read
        emit fun w => .attemptEnded w.mono w.retry w.remaining
        cooldown env vendor inner w.retry
        afterCooldown env credentialsFile blocked
        serveLoop env vendor credentialsFile inner fuel

/-- The state in which `_serve` enters its loop. -/
def World.served (w : World) : World :=
  ({ w with
    session := { w.session with
      client := { w.session.client with nextPull := w.mono + initialPullDelay }
      protocol := Protocol.new w.session.client.vin }
    retry := reconnectMin
    inside := false }).note (.serveStarted w.mono)

/-- `_serve()`. -/
def serve (env : Env) (vendor : Vendor) (credentialsFile : Bool) (inner fuel : ℕ) :
    Serve Unit := do
  Exec.change World.served
  serveLoop env vendor credentialsFile inner fuel

/-- A client that starts: its limits are read from the file. -/
def World.start (config : Config) (limits : TrafficLimits) (file : PyValue) (clock : Clock) :
    World where
  session := Session.new config
  limits := limits
  recoveryFailed := false
  retry := reconnectMin
  stop := false
  clock := clock
  file := file
  inside := false
  steps := 0
  owners := 0
  trace := []

/-- A stream whose pull is rate limited, and whose socket breaks 1790 s into that pause. -/
def breaksLate : Env where
  takes n := if n = 9 then 1790 else 0
  stops _ := false
  fate _ := .proceeds
  save _ := .persisted
  refresh _ := .ok ()
  token _ := .ok true
  metadata _ := .ok []
  handshake _ := .ok ()
  message n := if n = 9 then some (.raised (.other .os)) else none
  acknowledge _ := .ok ()
  reply _ := .error (.response false 429 none)
  credentials _ := .ok ()
  login _ := .ok true

end DbusEv.Mercedes
