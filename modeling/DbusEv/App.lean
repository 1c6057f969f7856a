/-
**The bridge from a vehicle backend to its outputs** (`dbus_ev/main.py`, `worker.py`).

* `Sample` — a snapshot as the clients return it, with the two time stamps it may carry.
* `App`, `PollWorker` — the state of the main loop, and what it shares with the worker thread.
* `Bridge` — the whole: the app, the worker, the client of each backend, and what was published.
-/

import DbusEv.HaClient
import DbusEv.Mercedes.Snapshot
import DbusEv.Providers.Evcc

set_option autoImplicit false
set_option linter.unusedSectionVars false

namespace DbusEv

/-! ### Snapshots -/

namespace PyValue

/-- A value, or `None`. -/
def ofOption {α : Type} (f : α → PyValue) (value : Option α) : PyValue := (value.map f).getD .none

/-- A finite float, or `None`. -/
def ofNumber : Option ℚ → PyValue := ofOption fun number => .float (.finite number)

/-- A float, or `None`. -/
def ofFloat : Option PyFloat → PyValue := ofOption .float

/-- A text, or `None`. -/
def ofText : Option String → PyValue := ofOption .str

/-- An enum number, or `None`. -/
def ofNat : Option ℕ → PyValue := ofOption fun number => .int number

/-- A truth value, or `None`. -/
def ofBool : Option Bool → PyValue := ofOption .bool

end PyValue

/-- The vehicle fields the app reads; a missing key is `None`. -/
structure Fields where
  soc : PyValue
  targetSoc : PyValue
  vin : PyValue
  batteryCapacity : PyValue
  chargingState : PyValue
  odometer : PyValue
  rangeToGo : PyValue
  latitude : PyValue
  longitude : PyValue
  atSite : PyValue
  power : PyValue

/-- No field is there. -/
def Fields.missing : Fields :=
  ⟨.none, .none, .none, .none, .none, .none, .none, .none, .none, .none, .none⟩

/-- A snapshot: `sourceSampleStartedAt` is absent where the client has no such key. -/
structure Sample where
  fields : Fields
  ok : Bool
  sourceSampleStartedAt : Option (Option ℚ)
  sampleStartedAt : Option ℚ

namespace Sample

/-- `{"ok": False}`. -/
def failed : Sample := ⟨.missing, false, none, none⟩

/-- `dict(snapshot, _sample_started_at=started_at)`. -/
def startedAt (sample : Sample) (mono : ℚ) : Sample := { sample with sampleStartedAt := some mono }

/-- The time stamp `apply_snapshot` uses at time `now`. -/
def stamp (sample : Sample) (now : ℚ) : Option ℚ :=
  match sample.sourceSampleStartedAt with
  | some source => source
  | none => some (sample.sampleStartedAt.getD now)

/-- A result of `HaClient.poll`. -/
def ofHa (polled : HaPolled) : Sample where
  fields :=
    { soc := .ofNumber polled.fields.soc
      targetSoc := .ofNumber polled.fields.targetSoc
      vin := .ofText polled.fields.vin
      batteryCapacity := .ofNumber polled.fields.batteryCapacity
      chargingState := .ofNat polled.fields.chargingState
      odometer := .ofNumber polled.fields.odometer
      rangeToGo := .ofNumber polled.fields.rangeToGo
      latitude := .ofNumber polled.fields.latitude
      longitude := .ofNumber polled.fields.longitude
      atSite := .ofBool polled.fields.atSite
      power := .ofNumber polled.fields.power }
  ok := polled.ok
  sourceSampleStartedAt := none
  sampleStartedAt := none

/-- The fields of a Mercedes snapshot. -/
def mercedesFields (snapshot : Mercedes.Snapshot) : Fields where
  soc := .ofNumber snapshot.soc
  targetSoc := .ofNumber snapshot.targetSoc
  vin := .str snapshot.vin
  batteryCapacity := .ofNumber snapshot.batteryCapacity
  chargingState := .ofNat snapshot.chargingState
  odometer := .ofFloat snapshot.odometer
  rangeToGo := .ofFloat snapshot.rangeToGo
  latitude := .ofNumber snapshot.latitude
  longitude := .ofNumber snapshot.longitude
  atSite := .ofBool snapshot.atSite
  power := .ofFloat snapshot.power

/-- A result of `MercedesClient.cached_snapshot`. -/
def ofMercedes (cached : Mercedes.Cached) : Sample where
  fields := (cached.snapshot.map mercedesFields).getD .missing
  ok := cached.ok
  sourceSampleStartedAt := some cached.sourceSampleStartedAt
  sampleStartedAt := none

/-- The fields of a normalized snapshot. -/
def vehicleFields (vehicle : Vehicle) : Fields where
  soc := .ofNumber vehicle.soc
  targetSoc := .ofNumber vehicle.targetSoc
  vin := .ofText vehicle.vin
  batteryCapacity := .ofNumber vehicle.batteryCapacity
  chargingState := .ofNat vehicle.chargingState
  odometer := .ofNumber vehicle.odometer
  rangeToGo := .ofNumber vehicle.rangeToGo
  latitude := .ofNumber vehicle.latitude
  longitude := .ofNumber vehicle.longitude
  atSite := .ofBool vehicle.atSite
  power := .ofNumber vehicle.power

/-- A result of `EvccClient.poll`. -/
def ofEvcc (polled : Evcc.Polled) : Sample where
  fields := (polled.snapshot.map vehicleFields).getD .missing
  ok := polled.ok
  sourceSampleStartedAt := some polled.sourceSampleStartedAt
  sampleStartedAt := none

end Sample

/-! ### The state -/

/-- `DATA_SOURCE`. -/
inductive DataSource
  | ha
  | mercedes
  | evcc
  deriving DecidableEq

/-- The part of the configuration the bridge reads. -/
structure BridgeConfig where
  dataSource : DataSource
  sensorStaleTimeout : ℚ
  mercedesStaleTimeout : ℚ
  evccStaleTimeout : ℚ
  /-- `float(config.HA_BATTERY_CAPACITY_ENTITY)`, if it does not raise. -/
  capacityLiteral : Option PyFloat
  /-- `config.BATTERY_CAPACITY_KWH`. -/
  capacity : PyValue
  /-- There is an MQTT client, and a charger service. -/
  mqtt : Bool
  charger : Bool
  evcc : Evcc.Config
  vendor : Mercedes.Vendor

/-- `self.stale_timeout`. -/
def BridgeConfig.staleTimeout (config : BridgeConfig) : ℚ :=
  match config.dataSource with
  | .ha => config.sensorStaleTimeout
  | .mercedes => config.mercedesStaleTimeout
  | .evcc => config.evccStaleTimeout

/-- The main loop's part of the app, and the vehicle service's `/Connected` and properties. -/
structure App where
  lastOkTime : Option ℚ
  latest : Sample
  connected : Bool
  properties : Fields

/-- What is in the worker's queue: the callback of a poll, or the end. -/
inductive Job
  | apply
  | quit
  deriving DecidableEq

/-- What the main loop and the worker thread share, with the deliveries waiting on the main loop. -/
structure PollWorker where
  queue : Option Job
  pending : Bool
  stopping : Bool
  exited : Bool
  deliveries : List Sample

/-- A worker that has just started. -/
def PollWorker.new : PollWorker := ⟨none, false, false, false, []⟩

/-- An output that is handed snapshots. -/
inductive Output
  | mqtt
  | charger
  deriving DecidableEq

/-- What happens to the bridge. -/
inductive BridgeEvent
  /-- A Home Assistant poll that started then read this state of charge. -/
  | fetched (startedAt soc : ℚ)
  /-- The Mercedes client accepted a payload. -/
  | accepted (mono : ℚ) (snapshot : Mercedes.Snapshot)
  /-- What happened in the evcc client. -/
  | engine (event : Evcc.Event)
  /-- A client's poll begins. -/
  | polling
  /-- It returned a snapshot, with this `ok`, or raised. -/
  | ended (ok : Option Bool)
  /-- `/Connected` was written, at this clock reading. -/
  | connected (now : ℚ) (value : Bool)
  /-- An output was handed a snapshot, at this clock reading. -/
  | handed (output : Output) (now : ℚ) (sample : Sample)

/-- The bridge. -/
structure Bridge where
  app : App
  /-- There is none in a dry run, or where the snapshots are read from a cache. -/
  worker : Option PollWorker
  ha : HaClient
  mercedes : Mercedes.Client
  /-- `_stop` of the Mercedes client. -/
  stopped : Bool
  evcc : Evcc.EvccClient
  host : Evcc.Host
  /-- Newest first. -/
  trace : List BridgeEvent

namespace Bridge

def mono (bridge : Bridge) : ℚ := bridge.host.mono

def note (bridge : Bridge) (event : BridgeEvent) : Bridge :=
  { bridge with trace := event :: bridge.trace }

/-- The evcc client with its host; what it does there is recorded in the trace of the bridge. -/
def evccState (bridge : Bridge) : Evcc.State := (bridge.evcc, { bridge.host with trace := [] })

def setEvccState (bridge : Bridge) (state : Evcc.State) : Bridge :=
  { bridge with
    evcc := state.1
    host := { state.2 with trace := [] }
    trace := state.2.trace.map .engine ++ bridge.trace }

end Bridge

/-- `0 <= now - stamp < timeout`. -/
def isFresh (stamp : Option ℚ) (now timeout : ℚ) : Bool :=
  match stamp with
  | some stamp => 0 ≤ now - stamp && now - stamp < timeout
  | none => false

/-! ### The programs -/

/-- What the environment decides at a step of a client's poll. -/
structure BridgeAnswer where
  ha : HaOutcome
  evcc : Evcc.Answer

/-- A program of a thread of the bridge. -/
abbrev Routine (α : Type) := Thread BridgeAnswer (Unit × Bridge) PyError α

namespace Routine

def look : Routine Bridge := Thread.atomic fun _ => do
  let (_, bridge) ← Exec.read
  pure bridge

def alter (f : Bridge → Bridge) : Routine Unit :=
  Thread.atomic fun _ => Exec.change fun state => ((), f state.2)

/-- One step that returns a value. -/
def act {α : Type} (f : BridgeAnswer → Bridge → Except PyError α × Bridge) : Routine α :=
  Thread.atomic fun answer => Exec.once fun state =>
    ((f answer state.2).1, (), (f answer state.2).2)

end Routine

open Routine

variable [PyText]

/-! ### The outputs -/

/-- `_update_connected()`. -/
def updateConnected (config : BridgeConfig) (bridge : Bridge) : Bridge :=
  let value := isFresh bridge.app.lastOkTime bridge.mono config.staleTimeout
  { bridge.note (.connected bridge.mono value) with
    app := { bridge.app with connected := value } }

/-- The snapshot `_update_outputs` hands out. -/
def App.current (app : App) (now timeout : ℚ) : Sample :=
  { app.latest with ok := app.latest.ok && isFresh app.lastOkTime now timeout }

/-- An output is handed the current snapshot, if there is one. -/
def handTo (configured : Bool) (output : Output) (now : ℚ) (sample : Sample) (bridge : Bridge) :
    Bridge :=
  if configured then bridge.note (.handed output now sample) else bridge

/-- `_update_outputs()`. -/
def updateOutputs (config : BridgeConfig) (bridge : Bridge) : Bridge :=
  let sample := bridge.app.current bridge.mono config.staleTimeout
  handTo config.charger .charger bridge.mono sample
    (handTo config.mqtt .mqtt bridge.mono sample bridge)

/-- `now_ok` of `apply_snapshot`. -/
def nowOk (config : BridgeConfig) (sample : Sample) (now : ℚ) : Bool :=
  sample.ok && isFresh (sample.stamp now) now config.staleTimeout

/-- `apply_snapshot` up to its outputs. -/
def take (config : BridgeConfig) (sample : Sample) (bridge : Bridge) : Bridge :=
  let ok := nowOk config sample bridge.mono
  { bridge with
    app := { bridge.app with
      lastOkTime :=
        if ok then sample.stamp bridge.mono
        else if config.dataSource = .ha then bridge.app.lastOkTime
        else none
      latest := { sample with ok := ok } } }

/-- The fields `apply_snapshot` gives to the vehicle service. -/
def serviceFields (config : BridgeConfig) (fields : Fields) : Fields :=
  { fields with
    batteryCapacity :=
      match fields.batteryCapacity with
      | .none =>
        match config.capacityLiteral with
        | some literal => .float literal
        | none => config.capacity
      | found => found }

/-- `if now_ok: self.services.update_…`. -/
def publish (config : BridgeConfig) (ok : Bool) (fields : Fields) (bridge : Bridge) : Bridge :=
  if ok then { bridge with app := { bridge.app with properties := serviceFields config fields } }
  else bridge

/-- `apply_snapshot(snapshot)`. -/
def applySnapshot (config : BridgeConfig) (sample : Sample) : Routine Unit := do
  let ok ← act fun _ bridge => (.ok (nowOk config sample bridge.mono), take config sample bridge)
  alter (updateConnected config)
  alter (updateOutputs config)
  alter (publish config ok sample.fields)

/-! ### The clients -/

/-- `HaClient.poll()`, started at `startedAt`. -/
def pollHa (startedAt : ℚ) : Routine Sample := do
  let sends ← act fun _ bridge =>
    let (sends, ha) := bridge.ha.begin bridge.mono
    (.ok sends, { bridge with ha := ha })
  if sends then
    act fun answer bridge =>
      let (polled, ha) := bridge.ha.finish bridge.mono answer.ha
      let bridge := { bridge with ha := ha }
      match polled with
      | .error e => (.error e, bridge)
      | .ok polled =>
        match polled.ok, polled.fields.soc with
        | true, some soc => (.ok (.ofHa polled), bridge.note (.fetched startedAt soc))
        | _, _ => (.ok (.ofHa polled), bridge)
  else act fun _ bridge => (.ok (.ofHa bridge.ha.refused), bridge)

/-- `MercedesClient.cached_snapshot()`. -/
def readCache : Routine Sample := act fun _ bridge =>
  (.ok (.ofMercedes (bridge.mercedes.cachedSnapshot bridge.stopped bridge.mono)), bridge)

/-- A program of the evcc client, on the bridge. -/
def onEvcc {α : Type} (program : Evcc.Program α) : Routine α :=
  program.zoom BridgeAnswer.evcc (fun state => state.2.evccState)
    fun part state => ((), state.2.setEvccState part)

/-- `EvccClient.poll()`. -/
def pollEvcc (config : BridgeConfig) : Routine Sample := do
  let polled ← onEvcc (Evcc.poll config.evcc 0)
  pure (.ofEvcc polled)

/-- The poll of the backend, started at `startedAt`. -/
def pollBackend (config : BridgeConfig) (startedAt : ℚ) : Routine Sample :=
  match config.dataSource with
  | .ha => pollHa startedAt
  | .mercedes => readCache
  | .evcc => pollEvcc config

/-- The end of a poll is recorded. -/
def recordEnd (ok : Option Bool) : Routine Unit := alter fun bridge => bridge.note (.ended ok)

/-- `self.client.poll()`, started at `startedAt`; its begin and its end are recorded. -/
def pollClient (config : BridgeConfig) (startedAt : ℚ) : Routine Sample := do
  alter fun bridge => bridge.note .polling
  let sample ← (pollBackend config startedAt).handle fun e =>
    some do
      recordEnd none
      Thread.raise e
  recordEnd (some sample.ok)
  pure sample

/-- `self.client.close()`. -/
def closeClient (config : BridgeConfig) : Routine Unit :=
  match config.dataSource with
  | .ha => pure ()
  | .mercedes => alter fun bridge => { bridge with stopped := true }
  | .evcc => onEvcc (Evcc.close 0)

/-! ### The worker -/

/-- Change the worker. -/
def Bridge.setWorker (bridge : Bridge) (worker : PollWorker) : Bridge :=
  { bridge with worker := some worker }

/-- `PollWorker.poll(callback)`. -/
def requestPoll (bridge : Bridge) : Bridge :=
  match bridge.worker with
  | none => bridge
  | some worker =>
    if worker.pending || worker.stopping then bridge
    else bridge.setWorker { worker with queue := some .apply, pending := true }

/-- `self._queue.get()`; nothing while the queue is empty, or after the end. -/
def takeJob : Routine (Option Job) := act fun _ bridge =>
  match bridge.worker with
  | none => (.ok none, bridge)
  | some worker =>
    if worker.exited then (.ok none, bridge)
    else (.ok worker.queue, bridge.setWorker { worker with queue := none })

/-- `self.dispatch(self._deliver, callback, snapshot)`. -/
def dispatch (sample : Sample) (bridge : Bridge) : Bridge :=
  match bridge.worker with
  | none => bridge
  | some worker => bridge.setWorker { worker with deliveries := worker.deliveries ++ [sample] }

/-- One poll of the worker. -/
def workOnce (config : BridgeConfig) : Routine Unit := do
  let bridge ← look
  let sample ← (pollClient config bridge.mono).handle fun _ => some (pure .failed)
  alter (dispatch (sample.startedAt bridge.mono))

/-- The worker leaves its loop. -/
def quit (config : BridgeConfig) : Routine Unit := do
  closeClient config
  alter fun bridge =>
    match bridge.worker with
    | none => bridge
    | some worker => bridge.setWorker { worker with exited := true }

/-- `self._stopping.is_set()`. -/
def Bridge.stopping (bridge : Bridge) : Bool := bridge.worker.any PollWorker.stopping

/-- `if self._stopping.is_set(): continue`, else a poll. -/
def workUnlessStopping (config : BridgeConfig) : Routine Unit := do
  let bridge ← look
  if bridge.stopping then pure () else workOnce config

/-- What the queue held. -/
def perform (config : BridgeConfig) : Option Job → Routine Unit
  | none => pure ()
  | some .quit => quit config
  | some .apply => workUnlessStopping config

/-- One turn of the loop of `_run`. -/
def work (config : BridgeConfig) : Routine Unit := do
  let job ← takeJob
  perform config job

/-! ### The main loop -/

/-- The next delivery, if there is one; no poll is pending any more. -/
def takeDelivery : Routine (Option Sample) := act fun _ bridge =>
  match bridge.worker with
  | none => (.ok none, bridge)
  | some worker =>
    match worker.deliveries with
    | [] => (.ok none, bridge)
    | sample :: rest =>
      (.ok (if worker.stopping then none else some sample),
        bridge.setWorker { worker with pending := false, deliveries := rest })

/-- `_deliver(callback, snapshot)`. -/
def deliver (config : BridgeConfig) : Routine Unit := do
  match ← takeDelivery with
  | none => pure ()
  | some sample => applySnapshot config sample

/-- `snapshot_reader or client.poll`. -/
def readSnapshot (config : BridgeConfig) (startedAt : ℚ) : Routine Sample :=
  if config.dataSource = .mercedes then readCache else pollClient config startedAt

/-- `tick()` with a worker. -/
def tickWithWorker (config : BridgeConfig) : Routine Unit := do
  alter (updateConnected config)
  alter (updateOutputs config)
  alter requestPoll

/-- `tick()` without a worker. -/
def tickAlone (config : BridgeConfig) : Routine Unit := do
  let bridge ← look
  let sample ← readSnapshot config bridge.mono
  applySnapshot config (sample.startedAt bridge.mono)

/-- `tick()`. -/
def tick (config : BridgeConfig) : Routine Unit := do
  let bridge ← look
  if bridge.worker.isSome then tickWithWorker config else tickAlone config

/-- `PollWorker.stop()`: queued work is dropped. -/
def stopWorker (bridge : Bridge) : Bridge :=
  match bridge.worker with
  | none => bridge
  | some worker =>
    if worker.stopping then bridge
    else bridge.setWorker { worker with stopping := true, queue := some .quit }

/-- `shutdown()`. -/
def shutdown (config : BridgeConfig) : Routine Unit := do
  let bridge ← look
  if bridge.worker.isSome then alter stopWorker else closeClient config

/-! ### The threads -/

/-- The main loop and the worker thread. -/
inductive Role
  | main
  | worker
  deriving DecidableEq

/-- What the main loop, or the worker thread, is about to run. -/
inductive Duty
  | tick
  | deliver
  | shutdown
  | work

/-- What happens to the clients from outside. -/
inductive Outside
  /-- Time passes. -/
  | elapse (mono wall : ℚ≥0)
  /-- The Mercedes client is given a payload, by a push or by a pull. -/
  | accept (payload : Mercedes.Payload) (source : Mercedes.Source)
  /-- The Mercedes stream connects or disconnects. -/
  | connect (connected : Bool)
  /-- Metadata of the Mercedes vehicle is read, or forgotten. -/
  | vehicle (metadata : Option (Dict PyValue))
  /-- Other processes work with the evcc state file and its lock. -/
  | stateFile (file : Option (Dict PyValue)) (holder : Option ℕ)

/-- What the outside does. -/
def outside (config : BridgeConfig) (event : Outside) (bridge : Bridge) : Bridge :=
  match event with
  | .elapse mono wall => { bridge with host := bridge.host.elapse mono wall }
  | .accept payload source =>
    match bridge.mercedes.accept config.vendor bridge.mono payload source with
    | .error _ => bridge
    | .ok client =>
      match client.snapshot with
      | some snapshot =>
        Bridge.note { bridge with mercedes := client } (.accepted bridge.mono snapshot)
      | none => { bridge with mercedes := client }
  | .connect connected =>
    { bridge with mercedes := { bridge.mercedes with connected := connected } }
  | .vehicle metadata => { bridge with mercedes := { bridge.mercedes with vehicle := metadata } }
  | .stateFile file holder =>
    { bridge with host := { bridge.host with file := file, holder := holder } }

/-- The threads of a bridge. -/
def bridgeService (config : BridgeConfig) :
    Service Role Duty Outside BridgeAnswer Unit Bridge PyError where
  launch _ _ := ()
  program role duty :=
    match role, duty with
    | .main, .tick => tick config
    | .main, .deliver => deliver config
    | .main, .shutdown => shutdown config
    | .worker, .work => work config
    | _, _ => pure ()
  crash _ bridge := bridge
  world event bridge := outside config event bridge

/-- A bridge that starts; a dry run has no worker. -/
def Bridge.start (config : BridgeConfig) (dryRun : Bool) (ha : HaConfig) (breaker : CircuitBreaker)
    (mercedes : Mercedes.Config) (clock : Clock) (file : Option (Dict PyValue)) : Bridge :=
  let host : Evcc.Host := ⟨clock, file, none, []⟩
  { app := ⟨none, .failed, false, .missing⟩
    worker := if dryRun ∨ config.dataSource = .mercedes then none else some .new
    ha := ⟨ha, breaker, .unknown⟩
    mercedes := .new mercedes
    stopped := false
    evcc := .new host
    host := host
    trace := [] }

end DbusEv
