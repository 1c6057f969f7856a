/-
**The main loop and all its outputs** (`dbus_ev/main.py`, `App`): the vehicle on D-Bus, the MQTT
session and the charger.

* `Snapshot` — the dictionary a client returns; `ofMercedes` is that of the Mercedes client.
* `applySnapshot`, `tick` — the callbacks of the main loop, in which an output may raise.
* `InStep` — the vehicle on D-Bus is one snapshot, the one of the last good sample; `record_in_step`
  keeps it in every run.
* `apply_raises_iff` — when a snapshot is taken without being shown.
-/

import DbusEv.Meter
import DbusEv.VehicleService
import Mathlib.Data.List.Induction

set_option autoImplicit false
set_option linter.unusedSectionVars false

namespace DbusEv.Loop

open Exec EvService

/-! ### Snapshots -/

/-- A snapshot: the keys of which the main loop reads more than a value, and all the others. -/
structure Snapshot where
  ok : Bool
  entries : Dict PyValue
  mercedesPayload : Option Mercedes.Payload
  sampledAt : Option ℚ
  sourceSampleStartedAt : Option (Option ℚ)
  sampleStartedAt : Option ℚ

namespace Snapshot

/-- `{"ok": False}`. -/
def failed : Snapshot := ⟨false, [], none, none, none, none⟩

/-- `snapshot.get(key)`. -/
def get (snapshot : Snapshot) (key : String) : PyValue := (snapshot.entries.get key).getD .none

/-- The fields the vehicle service is told. -/
def fields (snapshot : Snapshot) : Fields where
  soc := snapshot.get "soc"
  targetSoc := snapshot.get "target_soc"
  vin := snapshot.get "vin"
  batteryCapacity := snapshot.get "battery_capacity"
  chargingState := snapshot.get "charging_state"
  odometer := snapshot.get "odometer"
  rangeToGo := snapshot.get "range_to_go"
  latitude := snapshot.get "latitude"
  longitude := snapshot.get "longitude"
  atSite := snapshot.get "at_site"
  power := snapshot.get "power"

/-- What `apply_snapshot` looks at. -/
def sample (snapshot : Snapshot) : Sample :=
  ⟨snapshot.fields, snapshot.ok, snapshot.sourceSampleStartedAt, snapshot.sampleStartedAt⟩

/-- What the outputs are handed. -/
def handed (snapshot : Snapshot) : Mqtt.Handed :=
  ⟨snapshot.ok, snapshot.mercedesPayload, snapshot.sampledAt, snapshot.entries⟩

/-- `dict(snapshot, _sample_started_at=started_at)`. -/
def startedAt (snapshot : Snapshot) (mono : ℚ) : Snapshot :=
  { snapshot with sampleStartedAt := some mono }

/-- The keys of `vehicle_snapshot`. -/
def mercedesEntries (snapshot : Mercedes.Snapshot) : Dict PyValue :=
  [("soc", .ofNumber snapshot.soc), ("target_soc", .ofNumber snapshot.targetSoc),
    ("vin", .str snapshot.vin), ("battery_capacity", .ofNumber snapshot.batteryCapacity),
    ("charging_state", .ofNat snapshot.chargingState),
    ("mercedes_charging_status", .ofNumber snapshot.mercedesChargingStatus),
    ("odometer", .ofFloat snapshot.odometer), ("range_to_go", .ofFloat snapshot.rangeToGo),
    ("latitude", .ofNumber snapshot.latitude), ("longitude", .ofNumber snapshot.longitude),
    ("at_site", .ofBool snapshot.atSite), ("power", .ofFloat snapshot.power), ("current", .none)]

/-- A result of `MercedesClient.cached_snapshot`. -/
def ofMercedes (cached : Mercedes.Cached) : Snapshot where
  ok := cached.ok
  entries := (cached.snapshot.map mercedesEntries).getD []
  mercedesPayload := cached.payload
  sampledAt := none
  sourceSampleStartedAt := some cached.sourceSampleStartedAt
  sampleStartedAt := none

theorem sample_ofMercedes (cached : Mercedes.Cached) :
    (ofMercedes cached).sample = .ofMercedes cached := by
  obtain ⟨_ | snapshot, ok, started, payload⟩ := cached <;> rfl

end Snapshot

/-! ### The state -/

/-- The configuration of the whole loop; `vedbus` is `VEDBUS_AVAILABLE`. -/
structure Config extends BridgeConfig where
  session : Mqtt.Config
  vedbus : Bool
  identity : Identity

/-- The app, and what it writes to. -/
structure MainLoop where
  lastOkTime : Option ℚ
  latest : Snapshot
  vehicle : Dict PyValue
  broker : Mqtt.Broker
  charger : Dict PyValue

/-- `build_app()`; the charger is updated with a failed snapshot once. -/
def MainLoop.new (config : Config) : MainLoop where
  lastOkTime := none
  latest := .failed
  vehicle := newPaths config.identity
  broker := .new
  charger := chargerWrites Snapshot.failed.handed [] false

/-- The clock readings of one callback, in their order. -/
structure Readings where
  taken : ℚ
  checked : ℚ
  handed : ℚ
  ticked : ℚ
  metered : ℚ

/-- A program of the main loop. -/
abbrev Program (α : Type) := Exec MainLoop PyError α

def onVehicle (x : EvService.Program Unit) : Program Unit :=
  zoom (fun s => s.vehicle) (fun vehicle s => { s with vehicle := vehicle }) x

def onBroker (x : Exec Mqtt.Broker PyError Unit) : Program Unit :=
  zoom (fun s => s.broker) (fun broker s => { s with broker := broker }) x

/-! ### The callbacks -/

section Callbacks

variable [PyText]

/-- The snapshot `_update_outputs` hands out. -/
def MainLoop.current (s : MainLoop) (now timeout : ℚ) : Snapshot :=
  { s.latest with ok := s.latest.ok && isFresh s.lastOkTime now timeout }

/-- `_update_connected()`. -/
def updateConnected (config : Config) (at_ : Readings) : Program Unit := do
  let s ← read
  onVehicle (setConnected (isFresh s.lastOkTime at_.checked config.staleTimeout))

/-- `if self.mqtt: self.mqtt.tick(snapshot)`. -/
def tickSession (config : Config) (at_ : Readings) (codes : Mqtt.Codes) (snapshot : Snapshot) :
    Program Unit :=
  if config.mqtt then onBroker (Mqtt.tick config.session at_.ticked codes snapshot.handed)
  else pure ()

/-- `if self.charger: self.charger.update(snapshot, …)`. -/
def updateCharger (config : Config) (at_ : Readings) (snapshot : Snapshot) : Program Unit :=
  if config.charger then
    change fun s =>
      let meter := if config.mqtt then s.broker.readings config.session at_.metered else []
      { s with
        charger := s.charger.update
          (chargerWrites snapshot.handed meter config.session.meterInstance.isSome) }
  else pure ()

/-- `_update_outputs()`. -/
def updateOutputs (config : Config) (at_ : Readings) (codes : Mqtt.Codes) : Program Unit := do
  let s ← read
  tickSession config at_ codes (s.current at_.handed config.staleTimeout)
  updateCharger config at_ (s.current at_.handed config.staleTimeout)

/-- `now_ok` of `apply_snapshot`. -/
def accepts (config : Config) (now : ℚ) (snapshot : Snapshot) : Bool :=
  nowOk config.toBridgeConfig snapshot.sample now

/-- `apply_snapshot` up to its outputs. -/
def take (config : Config) (now : ℚ) (snapshot : Snapshot) (s : MainLoop) : MainLoop :=
  { s with
    lastOkTime :=
      if accepts config now snapshot then snapshot.sample.stamp now
      else if config.dataSource = .ha then s.lastOkTime
      else none
    latest := { snapshot with ok := accepts config now snapshot } }

/-- `if now_ok: self.services.update_…`. -/
def showVehicle (config : Config) (at_ : Readings) (snapshot : Snapshot) : Program Unit :=
  if accepts config at_.taken snapshot then
    onVehicle
      (updateVehicle config.vedbus (serviceFields config.toBridgeConfig snapshot.fields))
  else pure ()

/-- `apply_snapshot(snapshot)`. -/
def applySnapshot (config : Config) (at_ : Readings) (codes : Mqtt.Codes) (snapshot : Snapshot) :
    Program Unit := do
  change (take config at_.taken snapshot)
  updateConnected config at_
  updateOutputs config at_ codes
  showVehicle config at_ snapshot

/-- `tick()` beside a worker, whose snapshots are delivered. -/
def tick (config : Config) (at_ : Readings) (codes : Mqtt.Codes) : Program Unit := do
  updateConnected config at_
  updateOutputs config at_ codes

/-- What the main loop runs: a tick, a snapshot that is delivered or that a tick has read itself;
and what the MQTT thread runs between them. -/
inductive Input
  | tick (at_ : Readings) (codes : Mqtt.Codes)
  | apply (at_ : Readings) (codes : Mqtt.Codes) (snapshot : Snapshot)
  | callback (called : Mqtt.Callback)

def perform (config : Config) : Input → Program Unit
  | .tick at_ codes => tick config at_ codes
  | .apply at_ codes snapshot => applySnapshot config at_ codes snapshot
  | .callback called =>
    onBroker (change fun broker => Mqtt.callback config.session broker called)

/-- An exception ends its callback. -/
def step (config : Config) (s : MainLoop) (input : Input) : MainLoop := (perform config input s).2

def run (config : Config) (inputs : List Input) : MainLoop :=
  inputs.foldl (step config) (.new config)

@[simp] theorem run_append (config : Config) (inputs : List Input) (input : Input) :
    run config (inputs ++ [input]) = step config (run config inputs) input := by
  unfold run
  rw [List.foldl_append]
  rfl

/-! ### What is said about a run -/

/-- The last clock reading that `/Connected` was written with. -/
def checkedAt (inputs : List Input) : Option ℚ :=
  inputs.foldl (fun last input =>
    match input with
    | .tick at_ _ => some at_.checked
    | .apply at_ _ _ => some at_.checked
    | .callback _ => last) none

/-- The MQTT payload that a snapshot may offer is JSON. -/
def Serializes (config : Config) (snapshot : Snapshot) : Prop :=
  ∀ offered ∈ Mqtt.offer config.session { snapshot.handed with ok := true },
    offered.payload.strict = true

/-- Every payload so far is JSON. -/
def Serial (config : Config) (inputs : List Input) : Prop :=
  ∀ at_ codes snapshot, .apply at_ codes snapshot ∈ inputs → Serializes config snapshot

/-- **The whole of one snapshot is shown**, which was good when it was taken. While every payload is
JSON, the last good sample is that one, if it is not forgotten. -/
def Shows (config : Config) (inputs : List Input) (s : MainLoop) : Prop :=
  ∃ at_ codes snapshot written, .apply at_ codes snapshot ∈ inputs ∧
    accepts config at_.taken snapshot = true ∧
    record config.vedbus (serviceFields config.toBridgeConfig snapshot.fields) = .ok written ∧
    Proper written ∧ (∀ item ∈ written, s.vehicle.get item.1 = some item.2) ∧
    (Serial config inputs → ∀ stamp, s.lastOkTime = some stamp →
      snapshot.sample.stamp at_.taken = some stamp)

/-- Nothing has been shown yet. -/
def Blank (config : Config) (inputs : List Input) (s : MainLoop) : Prop :=
  (Serial config inputs → s.lastOkTime = none) ∧ ∀ path ∈ recordPaths,
    s.vehicle.get path = (newPaths config.identity).get path

/-- What `/Connected` says when it was checked last. -/
def connectedAt (config : Config) (inputs : List Input) (s : MainLoop) : Bool :=
  (checkedAt inputs).any fun now => isFresh s.lastOkTime now config.staleTimeout

/-- **The vehicle on D-Bus is in step with the app.** -/
structure InStep (config : Config) (inputs : List Input) (s : MainLoop) : Prop where
  paths : s.vehicle.map Prod.fst = (newPaths config.identity).map Prod.fst
  shown : Blank config inputs s ∨ Shows config inputs s
  connected : s.vehicle.get "/Connected" =
    some (.int (if connectedAt config inputs s then 1 else 0))
  serializes : Serial config inputs → Serializes config s.latest

/-- The fields of a snapshot are as the clients report them. -/
def Input.Sound : Input → Prop
  | .apply _ _ snapshot => Typed snapshot.fields
  | _ => True

variable {config : Config} {at_ : Readings} {codes : Mqtt.Codes} {snapshot : Snapshot}
  {s : MainLoop}

/-! ### The outputs -/

/-- An offer is made by a snapshot that is `ok`. -/
theorem offer_iff {session : Mqtt.Config} {handed : Mqtt.Handed} {offered : Mqtt.Offer} :
    offered ∈ Mqtt.offer session handed ↔
      handed.ok = true ∧ offered ∈ Mqtt.offer session { handed with ok := true } := by
  obtain ⟨_ | _, payload, sampled, fields⟩ := handed
  · have nothing : Mqtt.offer session ⟨false, payload, sampled, fields⟩ = none := by
      unfold Mqtt.offer Mqtt.offerMercedes Mqtt.offerVehicle
      exact ite_self none
    rw [nothing]
    exact ⟨nofun, fun offers => nomatch offers.1⟩
  · exact ⟨fun offers => ⟨rfl, offers⟩, fun offers => offers.2⟩

/-- What the vehicle is shown with depends on nothing but these. -/
structure Keeps (s t : MainLoop) : Prop where
  lastOkTime : t.lastOkTime = s.lastOkTime
  latest : t.latest = s.latest
  vehicle : t.vehicle = s.vehicle

theorem Keeps.refl (s : MainLoop) : Keeps s s := ⟨rfl, rfl, rfl⟩

/-- The outputs are handed a snapshot whose payload is new to the session, and not JSON. -/
def Refused (config : Config) (at_ : Readings) (s : MainLoop) : Prop :=
  config.mqtt = true ∧ s.broker.connected = true ∧ config.session.publishHa = true ∧
    ∃ offered ∈ Mqtt.offer config.session (s.current at_.handed config.staleTimeout).handed,
      s.broker.publishedRevision ≠ some offered.revision ∧ offered.payload.strict = false

theorem Refused.not_serializes (refused : Refused config at_ s) : ¬ Serializes config s.latest := by
  obtain ⟨-, -, -, offered, offers, -, loose⟩ := refused
  intro serializes
  have strict := serializes offered (offer_iff.mp offers).2
  rw [loose] at strict
  cases strict

/-- **The outputs** leave the vehicle alone; they raise where a payload is refused. -/
theorem wp_updateOutputs :
    wp (updateOutputs config at_ codes) (fun _ t => Keeps s t ∧ ¬ Refused config at_ s)
      (fun _ t => Keeps s t ∧ Refused config at_ s) s := by
  unfold updateOutputs
  rw [wp_bind, wp_read, wp_bind]
  refine wp_mono (Q := fun _ t => Keeps s t ∧ ¬ Refused config at_ s)
    (X := fun _ t => Keeps s t ∧ Refused config at_ s) ?_ ?_ fun _ _ raised => raised
  · unfold tickSession
    rw [wp_ite]
    refine ⟨fun mqtt => ?_, fun off => ⟨Keeps.refl s, fun refused => off refused.1⟩⟩
    unfold onBroker
    rw [wp_zoom]
    have raises : (Mqtt.tick config.session at_.ticked codes
        (s.current at_.handed config.staleTimeout).handed s.broker).1 ≠ .ok () ↔ _ :=
      Mqtt.tick_raises_iff
    rcases ended : Mqtt.tick config.session at_.ticked codes
      (s.current at_.handed config.staleTimeout).handed s.broker with ⟨e | value, broker⟩
    · rw [wp_of_error ended]
      rw [ended] at raises
      exact ⟨⟨rfl, rfl, rfl⟩, mqtt, raises.mp nofun⟩
    · rw [wp_of_ok ended]
      rw [ended] at raises
      exact ⟨⟨rfl, rfl, rfl⟩, fun refused => raises.mpr refused.2 rfl⟩
  · rintro _ t ⟨kept, accepted⟩
    unfold updateCharger
    rw [wp_ite]
    exact ⟨fun _ => ⟨⟨kept.lastOkTime, kept.latest, kept.vehicle⟩, accepted⟩,
      fun _ => ⟨kept, accepted⟩⟩

/-! ### The vehicle -/

/-- The app after `_update_connected()`. -/
def MainLoop.checked (s : MainLoop) (config : Config) (now : ℚ) : MainLoop :=
  { s with
    vehicle := s.vehicle.set "/Connected"
      (.int (if isFresh s.lastOkTime now config.staleTimeout then 1 else 0)) }

theorem wp_updateConnected {Q : Unit → MainLoop → Prop} {X : PyError → MainLoop → Prop} :
    wp (updateConnected config at_) Q X s ↔ Q () (s.checked config at_.checked) := Iff.rfl

/-- A record is written to paths of the service, `/Connected` not among them. -/
theorem recordPaths_registered (identity : Identity) :
    ∀ path ∈ recordPaths, path ∈ (newPaths identity).map Prod.fst ∧ path ≠ "/Connected" := by
  intro path member
  have registered : path ∈ (newPaths ⟨"", 0, "", "", 0, ""⟩).map Prod.fst ∧
      path ≠ "/Connected" := by
    revert path
    decide
  exact registered

theorem connected_registered (identity : Identity) :
    "/Connected" ∈ (newPaths identity).map Prod.fst := by
  have registered : "/Connected" ∈ (newPaths ⟨"", 0, "", "", 0, ""⟩).map Prod.fst := by decide
  exact registered

theorem recordPaths_nodup : recordPaths.Nodup := by decide

/-- What a check leaves of a vehicle that is in step: its paths and its record. -/
theorem get_checked (now : ℚ) {path : String} (shown : path ∈ recordPaths) :
    (s.checked config now).vehicle.get path = s.vehicle.get path :=
  Dict.get_set_ne _ _ (recordPaths_registered ⟨"", 0, "", "", 0, ""⟩ path shown).2

theorem keys_checked (now : ℚ)
    (paths : s.vehicle.map Prod.fst = (newPaths config.identity).map Prod.fst) :
    (s.checked config now).vehicle.map Prod.fst = (newPaths config.identity).map Prod.fst := by
  have there : "/Connected" ∈ s.vehicle.map Prod.fst := by
    rw [paths]
    exact connected_registered config.identity
  exact (Dict.keys_set _ there).trans paths

variable {inputs : List Input}

theorem Serial.before {more : List Input} (serial : Serial config (inputs ++ more)) :
    Serial config inputs := fun at_ codes snapshot member =>
  serial at_ codes snapshot (List.mem_append_left _ member)

/-- A vehicle that was shown stays so, while the last good sample stays or is forgotten. -/
theorem Shows.later {t : MainLoop} (shows : Shows config inputs s) (input : Input)
    (same : ∀ path ∈ recordPaths, t.vehicle.get path = s.vehicle.get path)
    (last : Serial config (inputs ++ [input]) →
      t.lastOkTime = s.lastOkTime ∨ t.lastOkTime = none) :
    Shows config (inputs ++ [input]) t := by
  obtain ⟨at_, codes, snapshot, written, member, good, shown, proper, values, stamp⟩ := shows
  refine ⟨at_, codes, snapshot, written, List.mem_append_left _ member, good, shown, proper,
    fun item inside => ?_, fun serial found held => ?_⟩
  · rw [same item.1 (proper.path inside)]
    exact values item inside
  · rcases last serial with kept | forgotten
    · exact stamp serial.before found (kept ▸ held)
    · rw [forgotten] at held
      cases held

theorem Blank.later {t : MainLoop} (blank : Blank config inputs s) (input : Input)
    (same : ∀ path ∈ recordPaths, t.vehicle.get path = s.vehicle.get path)
    (last : Serial config (inputs ++ [input]) →
      t.lastOkTime = s.lastOkTime ∨ t.lastOkTime = none) :
    Blank config (inputs ++ [input]) t := by
  refine ⟨fun serial => ?_, fun path member => (same path member).trans (blank.2 path member)⟩
  rcases last serial with kept | forgotten
  · exact kept.trans (blank.1 serial.before)
  · exact forgotten

@[simp] theorem checkedAt_append (input : Input) : checkedAt (inputs ++ [input]) =
    match input with
    | .tick at_ _ => some at_.checked
    | .apply at_ _ _ => some at_.checked
    | .callback _ => checkedAt inputs := by
  unfold checkedAt
  rw [List.foldl_append]
  cases input <;> rfl

/-! ### One callback -/

/-- A check, and outputs that leave the vehicle alone. -/
theorem InStep.checked {t u : MainLoop} {input : Input} (inStep : InStep config inputs s)
    (vehicle : u.vehicle = s.vehicle)
    (last : Serial config (inputs ++ [input]) →
      u.lastOkTime = s.lastOkTime ∨ u.lastOkTime = none)
    (serializes : Serial config (inputs ++ [input]) → Serializes config u.latest)
    (when_ : checkedAt (inputs ++ [input]) = some at_.checked)
    (kept : Keeps (u.checked config at_.checked) t) :
    InStep config (inputs ++ [input]) t := by
  have same : ∀ path ∈ recordPaths, t.vehicle.get path = s.vehicle.get path := by
    intro path member
    rw [kept.vehicle, ← vehicle]
    exact get_checked at_.checked member
  have later : Serial config (inputs ++ [input]) →
      t.lastOkTime = s.lastOkTime ∨ t.lastOkTime = none := by
    rw [kept.lastOkTime]
    exact last
  refine ⟨?_, ?_, ?_, ?_⟩
  · rw [kept.vehicle]
    exact keys_checked at_.checked (vehicle ▸ inStep.paths)
  · exact inStep.shown.imp (fun blank => blank.later input same later)
      fun shows => shows.later input same later
  · unfold connectedAt
    rw [kept.vehicle, when_, kept.lastOkTime]
    exact Dict.get_set_self _ _ _
  · rw [kept.latest]
    exact serializes

theorem wp_tick (inStep : InStep config inputs s) :
    wp (tick config at_ codes) (fun _ => InStep config (inputs ++ [.tick at_ codes]))
      (fun _ t => InStep config (inputs ++ [.tick at_ codes]) t ∧
        ¬ Serial config (inputs ++ [.tick at_ codes])) s := by
  have kept : ∀ t, Keeps (s.checked config at_.checked) t →
      InStep config (inputs ++ [.tick at_ codes]) t := fun t kept =>
    inStep.checked rfl (fun _ => .inl rfl) (fun serial => inStep.serializes serial.before)
      (checkedAt_append _) kept
  unfold tick
  rw [wp_bind, wp_updateConnected]
  refine wp_mono wp_updateOutputs (fun _ t both => kept t both.1) ?_
  rintro e t ⟨keeps, refused⟩
  exact ⟨kept t keeps, fun serial =>
    refused.not_serializes (inStep.serializes serial.before)⟩

/-- The app before the outputs of an accepted snapshot, and once it is shown. -/
def MainLoop.taken (s : MainLoop) (config : Config) (at_ : Readings) (snapshot : Snapshot) :
    MainLoop :=
  (take config at_.taken snapshot s).checked config at_.checked

theorem lastOkTime_taken : (s.taken config at_ snapshot).lastOkTime =
    if accepts config at_.taken snapshot then snapshot.sample.stamp at_.taken
    else if config.dataSource = .ha then s.lastOkTime
    else none := rfl

/-- **A snapshot that is accepted** is shown as a whole. -/
theorem InStep.shows {t : MainLoop} {written : Dict PyValue} (inStep : InStep config inputs s)
    (kept : Keeps (s.taken config at_ snapshot) t)
    (good : accepts config at_.taken snapshot = true)
    (shown : record config.vedbus (serviceFields config.toBridgeConfig snapshot.fields) =
      .ok written)
    (proper : Proper written) :
    InStep config (inputs ++ [.apply at_ codes snapshot])
      { t with vehicle := t.vehicle.update written } := by
  have paths : t.vehicle.map Prod.fst = (newPaths config.identity).map Prod.fst := by
    rw [kept.vehicle]
    exact keys_checked at_.checked inStep.paths
  have registered : ∀ item ∈ written, item.1 ∈ t.vehicle.map Prod.fst := by
    intro item member
    rw [paths]
    exact (recordPaths_registered config.identity _ (proper.path member)).1
  have once : (written.map Prod.fst).Nodup := by
    rw [proper.paths]
    exact recordPaths_nodup
  refine ⟨(Dict.keys_update registered).trans paths, .inr ?_, ?_, ?_⟩
  · refine ⟨at_, codes, snapshot, written, List.mem_append_right _ List.mem_cons_self, good, shown,
      proper, fun item member => Dict.get_update once member, fun _ stamp held => ?_⟩
    have last : t.lastOkTime = snapshot.sample.stamp at_.taken := by
      rw [kept.lastOkTime, lastOkTime_taken, if_pos good]
    exact last.symm.trans held
  · have apart : ∀ item ∈ written, item.1 ≠ "/Connected" := fun item member =>
      (recordPaths_registered config.identity _ (proper.path member)).2
    unfold connectedAt
    rw [checkedAt_append]
    refine (Dict.get_update_ne apart).trans ?_
    rw [kept.vehicle]
    refine (Dict.get_set_self _ _ _).trans ?_
    show _ = some (PyValue.int (if isFresh t.lastOkTime at_.checked config.staleTimeout then 1
      else 0))
    rw [kept.lastOkTime]
    rfl
  · intro serial
    show Serializes config t.latest
    rw [kept.latest]
    exact serial at_ codes snapshot (List.mem_append_right _ List.mem_cons_self)

/-- **A snapshot that is refused** leaves the vehicle as it was; so does one that is not good. -/
theorem InStep.unshown {t : MainLoop} (inStep : InStep config inputs s)
    (kept : Keeps (s.taken config at_ snapshot) t)
    (unshown : Serial config (inputs ++ [.apply at_ codes snapshot]) →
      accepts config at_.taken snapshot = false) :
    InStep config (inputs ++ [.apply at_ codes snapshot]) t := by
  have vehicle : (take config at_.taken snapshot s).vehicle = s.vehicle := rfl
  refine inStep.checked vehicle (fun serial => ?_)
    (fun serial => serial at_ codes snapshot (List.mem_append_right _ List.mem_cons_self))
    (checkedAt_append _) kept
  have held : (take config at_.taken snapshot s).lastOkTime =
      if config.dataSource = .ha then s.lastOkTime else none :=
    if_neg (Bool.not_eq_true _ ▸ unshown serial)
  rw [held]
  by_cases ha : config.dataSource = .ha
  · exact .inl (if_pos ha)
  · exact .inr (if_neg ha)

theorem wp_applySnapshot (capacity : IsFloat config.capacity) (inStep : InStep config inputs s)
    (typed : Typed snapshot.fields) :
    wp (applySnapshot config at_ codes snapshot)
      (fun _ => InStep config (inputs ++ [.apply at_ codes snapshot]))
      (fun _ t => InStep config (inputs ++ [.apply at_ codes snapshot]) t ∧
        ¬ Serial config (inputs ++ [.apply at_ codes snapshot])) s := by
  unfold applySnapshot
  rw [wp_bind, wp_change, wp_bind, wp_updateConnected, wp_bind]
  refine wp_mono wp_updateOutputs ?_ ?_
  · rintro _ t ⟨kept, -⟩
    unfold showVehicle
    rw [wp_ite]
    refine ⟨fun good => ?_, fun bad => ?_⟩
    · obtain ⟨written, shown, proper⟩ :=
        record_of_typed config.vedbus (typed_serviceFields capacity typed)
      unfold onVehicle
      rw [wp_zoom, wp_of_ok (updateVehicle_ok shown)]
      exact inStep.shows kept good shown proper
    · exact inStep.unshown kept fun _ => Bool.not_eq_true _ ▸ bad
  · rintro e t ⟨kept, refused⟩
    have loose : ¬ Serial config (inputs ++ [.apply at_ codes snapshot]) := fun serial =>
      refused.not_serializes
        (serial at_ codes snapshot (List.mem_append_right _ List.mem_cons_self))
    exact ⟨inStep.unshown kept fun serial => absurd serial loose, loose⟩

/-- The callbacks of the MQTT thread. -/
theorem wp_callback (called : Mqtt.Callback) (inStep : InStep config inputs s) :
    wp (perform config (.callback called)) (fun _ => InStep config (inputs ++ [.callback called]))
      (fun _ _ => False) s := by
  have connected : connectedAt config (inputs ++ [.callback called]) s =
      connectedAt config inputs s := by
    unfold connectedAt
    rw [checkedAt_append]
  refine ⟨inStep.paths, ?_, ?_, fun serial => inStep.serializes serial.before⟩
  · exact inStep.shown.imp (fun blank => blank.later _ (fun _ _ => rfl) fun _ => .inl rfl)
      fun shows => shows.later _ (fun _ _ => rfl) fun _ => .inl rfl
  · exact inStep.connected.trans (congrArg (fun value : Bool => some (PyValue.int
      (if value then 1 else 0))) connected.symm)

/-- **One callback** of the main loop or of the MQTT thread. -/
theorem wp_perform (capacity : IsFloat config.capacity) (inStep : InStep config inputs s)
    {input : Input} (sound : input.Sound) :
    wp (perform config input) (fun _ => InStep config (inputs ++ [input]))
      (fun _ t => InStep config (inputs ++ [input]) t ∧ ¬ Serial config (inputs ++ [input])) s := by
  cases input with
  | tick at_ codes => exact wp_tick inStep
  | apply at_ codes snapshot => exact wp_applySnapshot capacity inStep sound
  | callback called =>
    exact wp_mono (wp_callback called inStep) (fun _ _ kept => kept) fun _ _ never => never.elim

end Callbacks

/-! ### A snapshot that is not shown -/

section Shown

variable [PyText] {config : Config} {at_ : Readings} {codes : Mqtt.Codes} {snapshot : Snapshot}

/-- **A snapshot is taken but not shown** exactly when it is accepted, the session is asked to
publish its payload, and the payload is new and not JSON: the app then has the time of the new
sample, and the vehicle shows the old one. -/
theorem apply_raises_iff (capacity : IsFloat config.capacity) (typed : Typed snapshot.fields)
    (s : MainLoop) :
    ((applySnapshot config at_ codes snapshot s).1 ≠ .ok () ↔
      config.mqtt = true ∧ s.broker.connected = true ∧ config.session.publishHa = true ∧
        accepts config at_.taken snapshot = true ∧
        isFresh (snapshot.sample.stamp at_.taken) at_.handed config.staleTimeout = true ∧
        ∃ offered ∈ Mqtt.offer config.session { snapshot.handed with ok := true },
          s.broker.publishedRevision ≠ some offered.revision ∧
            offered.payload.strict = false) ∧
      ((applySnapshot config at_ codes snapshot s).1 ≠ .ok () →
        (applySnapshot config at_ codes snapshot s).2.lastOkTime =
            snapshot.sample.stamp at_.taken ∧
          ∀ path ∈ recordPaths, (applySnapshot config at_ codes snapshot s).2.vehicle.get path =
            s.vehicle.get path) := by
  have outcome : wp (applySnapshot config at_ codes snapshot)
      (fun _ _ => ¬ Refused config at_ (s.taken config at_ snapshot))
      (fun _ t => Keeps (s.taken config at_ snapshot) t ∧
        Refused config at_ (s.taken config at_ snapshot)) s := by
    unfold applySnapshot
    rw [wp_bind, wp_change, wp_bind, wp_updateConnected, wp_bind]
    refine wp_mono wp_updateOutputs ?_ fun _ _ raised => raised
    rintro _ t ⟨-, accepted⟩
    unfold showVehicle
    rw [wp_ite]
    refine ⟨fun _ => ?_, fun _ => accepted⟩
    obtain ⟨written, shown, -⟩ :=
      record_of_typed config.vedbus (typed_serviceFields capacity typed)
    unfold onVehicle
    rw [wp_zoom, wp_of_ok (updateVehicle_ok shown)]
    exact accepted
  have refused_iff : Refused config at_ (s.taken config at_ snapshot) ↔
      config.mqtt = true ∧ s.broker.connected = true ∧ config.session.publishHa = true ∧
        accepts config at_.taken snapshot = true ∧
        isFresh (snapshot.sample.stamp at_.taken) at_.handed config.staleTimeout = true ∧
        ∃ offered ∈ Mqtt.offer config.session { snapshot.handed with ok := true },
          s.broker.publishedRevision ≠ some offered.revision ∧ offered.payload.strict = false := by
    constructor
    · rintro ⟨mqtt, connected, publishes, offered, offers, fresh, loose⟩
      obtain ⟨live, offers⟩ := offer_iff.mp offers
      obtain ⟨good, within⟩ := (Bool.and_eq_true _ _).mp live
      have good : accepts config at_.taken snapshot = true := good
      rw [lastOkTime_taken, if_pos good] at within
      exact ⟨mqtt, connected, publishes, good, within, offered, offers, fresh, loose⟩
    · rintro ⟨mqtt, connected, publishes, good, within, offered, offers, fresh, loose⟩
      refine ⟨mqtt, connected, publishes, offered, offer_iff.mpr ⟨?_, offers⟩, fresh, loose⟩
      refine (Bool.and_eq_true _ _).mpr ⟨good, ?_⟩
      rw [lastOkTime_taken, if_pos good]
      exact within
  rcases result : applySnapshot config at_ codes snapshot s with ⟨e | value, t⟩
  · rw [wp_of_error result] at outcome
    obtain ⟨kept, refused⟩ := outcome
    obtain ⟨mqtt, connected, publishes, good, rest⟩ := refused_iff.mp refused
    refine ⟨⟨fun _ => refused_iff.mp refused, fun _ => nofun⟩, fun _ => ⟨?_, fun path shown => ?_⟩⟩
    · show t.lastOkTime = _
      rw [kept.lastOkTime, lastOkTime_taken, if_pos good]
    · show t.vehicle.get path = _
      rw [kept.vehicle]
      exact get_checked at_.checked shown
  · rw [wp_of_ok result] at outcome
    exact ⟨⟨fun raised => absurd rfl raised, fun stated => absurd (refused_iff.mpr stated) outcome⟩,
      fun raised => absurd rfl raised⟩

end Shown

/-- A Mercedes that is published. -/
def someLoop : Config where
  dataSource := .mercedes
  sensorStaleTimeout := 120
  mercedesStaleTimeout := 900
  evccStaleTimeout := 7200
  capacityLiteral := none
  capacity := .float (.finite 66)
  mqtt := true
  charger := true
  evcc := ⟨"hyundai", none, 3600, 7500, .none, ⟨.none, .none, .none, fun _ _ _ _ => 0⟩⟩
  vendor := Mercedes.blindVendor
  session := ⟨"portal", true, none, 15, true, "car"⟩
  vedbus := true
  identity := ⟨"service.py", 90, "1.0", "EV", 0, "evcharger:91"⟩

/-- A snapshot whose payload holds a value. -/
def someSnapshot (value : PyFloat) : Snapshot where
  ok := true
  entries :=
    [("soc", .float (.finite 50)), ("charging_state", .int 3), ("power", .float (.finite 7400))]
  mercedesPayload :=
    some ⟨1, "WDD0000000000TEST", 1, 95, true, [("soc", [("double_value", .float value)])], none,
      none⟩
  sampledAt := none
  sourceSampleStartedAt := some (some 90)
  sampleStartedAt := none

def someReadings : Readings := ⟨100, 100, 100, 100, 100⟩

theorem typed_someSnapshot (value : PyFloat) : Typed (someSnapshot value).fields :=
  ⟨trivial, trivial, trivial, trivial, (by decide : (3 : ℤ) ∈ venusStates), trivial, trivial,
    trivial, trivial, trivial, trivial⟩

/-- A payload that is not JSON. -/
theorem someSnapshot_raises : letI := plainText
    (applySnapshot someLoop someReadings .accepted (someSnapshot .nan)
      (run someLoop [.callback (.connect 0)])).1 ≠ .ok () := by
  refine (@apply_raises_iff plainText someLoop someReadings .accepted (someSnapshot .nan) trivial
    (typed_someSnapshot _) _).1.mpr ⟨rfl, rfl, rfl, ?_, ?_, _, rfl, nofun, rfl⟩
  · decide +kernel
  · decide +kernel

/-! ### Every run -/

section Runs

variable [PyText] {config : Config}

theorem inStep_new : InStep config [] (.new config) := by
  refine ⟨rfl, .inl ⟨fun _ => rfl, fun _ _ => rfl⟩, rfl, fun _ offered offers => ?_⟩
  unfold Mqtt.offer Mqtt.offerMercedes Mqtt.offerVehicle at offers
  by_cases mercedes : config.session.mercedes = true
  · rw [if_pos mercedes] at offers
    cases offers
  · rw [if_neg mercedes] at offers
    cases offers

theorem inStep_run (capacity : IsFloat config.capacity) (inputs : List Input)
    (sound : ∀ input ∈ inputs, input.Sound) : InStep config inputs (run config inputs) := by
  induction inputs using List.reverseRecOn with
  | nil => exact inStep_new
  | append_singleton inputs input ih =>
    obtain ⟨earlier, last⟩ := List.forall_mem_append.mp sound
    have performs := wp_perform capacity (ih earlier) (last input List.mem_cons_self)
    rw [run_append]
    exact final_of_wp (wp_mono performs (fun _ _ kept => kept) fun _ _ both => both.1)

/-- **In every run the vehicle on D-Bus is in step with the app**: it is one whole snapshot, or none
yet, and `/Connected` is the freshness of the last good sample. While every payload is JSON, the
snapshot is that of the last good sample, and every callback returns. -/
theorem record_in_step (capacity : IsFloat config.capacity) (inputs : List Input)
    (sound : ∀ input ∈ inputs, input.Sound) :
    InStep config inputs (run config inputs) ∧
      (Serial config inputs → ∀ before input after, inputs = before ++ input :: after →
        (perform config input (run config before)).1 = .ok ()) := by
  refine ⟨inStep_run capacity inputs sound, ?_⟩
  rintro serial before input after rfl
  obtain ⟨earlier, later⟩ := List.forall_mem_append.mp sound
  have performs := wp_perform capacity (inStep_run capacity before earlier)
    (later input List.mem_cons_self)
  have json : Serial config (before ++ [input]) := by
    rw [List.append_cons] at serial
    exact serial.before
  rcases result : perform config input (run config before) with ⟨e | value, t⟩
  · rw [wp_of_error result] at performs
    exact absurd json performs.2
  · rfl

end Runs

/-- The session connects, the snapshot is delivered, and a tick follows. -/
def someInputs (value : PyFloat) : List Input :=
  [.callback (.connect 0), .apply someReadings .accepted (someSnapshot value),
    .tick someReadings .accepted]

theorem someInputs_in_step : letI := plainText
    InStep someLoop (someInputs (.finite 50)) (run someLoop (someInputs (.finite 50))) ∧
      (Serial someLoop (someInputs (.finite 50)) → ∀ before input after,
        someInputs (.finite 50) = before ++ input :: after →
          (perform someLoop input (run someLoop before)).1 = .ok ()) := by
  refine @record_in_step plainText someLoop trivial (someInputs (.finite 50)) fun input member => ?_
  simp only [someInputs, List.mem_cons, List.not_mem_nil, or_false] at member
  rcases member with rfl | rfl | rfl
  · trivial
  · exact typed_someSnapshot _
  · trivial

end DbusEv.Loop
