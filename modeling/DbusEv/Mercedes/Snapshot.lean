/-
**From a payload to the published snapshot** (`dbus_ev/mercedes/client.py`).

* `decoded` — what the decoder leaves of a payload: one that was pulled may get its overall window
  state, in the payload itself.
* `vehicleSnapshot`, `atSite` — the projection of an attribute map, over the vendored decoder and
  the distance formula, which may raise.
* `accept` — the client takes a payload: projection first, then payload, snapshot and acquisition
  time together (`accept_ok`, `accept_push_error`).
* `cachedSnapshot` — a read of the cache, which never touches it.
-/

import DbusEv.ChargingState
import DbusEv.Lib.Clock
import DbusEv.Mercedes.Protocol
import DbusEv.Mercedes.Windows

set_option autoImplicit false
set_option linter.unusedSectionVars false

namespace DbusEv.Mercedes

/-! ### The projection -/

/-- An attribute of the decoded car. -/
structure CarAttribute where
  value : PyValue
  retrievalstatus : PyValue
  unit : Option PyValue

/-- `getattr(getattr(car, group, None), field, None)`. -/
abbrev Car := String → String → Option CarAttribute

/-- What the client asks of the vendored decoder, `decoder.cars[payload["vin"]]` (`DbusEv.Decoder`
has the decoder itself), and the distance in metres between two positions. -/
structure Vendor where
  car : Payload → Except Exn Car
  distance : ℚ → ℚ → ℚ → ℚ → Except Exn ℚ

/-- The projected vehicle fields; `current` is always unknown. -/
structure Snapshot where
  soc : Option ℚ
  targetSoc : Option ℚ
  vin : String
  batteryCapacity : Option ℚ
  chargingState : Option ℕ
  mercedesChargingStatus : Option ℚ
  odometer : Option PyFloat
  rangeToGo : Option PyFloat
  latitude : Option ℚ
  longitude : Option ℚ
  atSite : Option Bool
  power : Option PyFloat

variable [PyText]

/-- `value(group, field)`: `None` unless the attribute is `VALID`. -/
def readingOf (car : Car) (group field : String) : PyValue :=
  match car group field with
  | none => .none
  | some found => if PyText.str found.retrievalstatus ≠ "VALID" then .none else found.value

/-- The double `1.609344`. -/
def kilometresPerMile : ℚ := 226495032459717 / 140737488355328

/-- `distance(field)`. -/
def distanceOf (car : Car) (field : String) : Option PyFloat :=
  let group := if field = "odo" then "odometer" else "electric"
  let unit := match car group field with
    | some found => (found.unit.map PyText.str).getD ""
    | none => ""
  (finite (readingOf car group field)).map fun number =>
    if PyText.upper unit = "MILES" then .mul number kilometresPerMile else .finite number

/-- The projection of a decoded car. -/
def snapshotOf (car : Car) (vin : String) (capacity : Option ℚ) : Snapshot :=
  let rawStatus := readingOf car "electric" "chargingstatus"
  let power := finite (readingOf car "electric" "chargingPower")
  -- A missing power is zero only when the cable is explicitly unplugged.
  let power := if power = none ∧ finite rawStatus = some 3 then some 0 else power
  { soc := finite (readingOf car "electric" "soc")
    targetSoc := finite (readingOf car "electric" "max_soc")
    vin := vin
    batteryCapacity := capacity
    chargingState := match rawStatus with
      | .none => none
      | status => some (mapChargingState (PyText.str status))
    mercedesChargingStatus := finite rawStatus
    odometer := distanceOf car "odo"
    rangeToGo := distanceOf car "rangeelectric"
    latitude := finite (readingOf car "location" "positionLat")
    longitude := finite (readingOf car "location" "positionLong")
    atSite := none
    power := power.map fun kilowatt => .mul kilowatt 1000 }

/-- The payload after `_build_car`, which completes the attributes of one that was pulled in
place. -/
def decoded (payload : Payload) : Except Exn Payload :=
  match Decoder.completed (payload.dataMode = some .pull) payload.attributes with
  | .ok attributes => .ok { payload with attributes := attributes }
  | .error e => .error e.exn

/-- `vehicle_snapshot(payload, capacity)`: what it returns. -/
def vehicleSnapshot (vendor : Vendor) (payload : Payload) (capacity : Option ℚ) :
    Except Exn Snapshot :=
  match vendor.car payload with
  | .ok car => .ok (snapshotOf car payload.vin capacity)
  | .error e => .error e

/-- The configured home: latitude, longitude and radius. -/
structure Home where
  latitude : PyValue
  longitude : PyValue
  radius : PyValue

/-- `at_site(snapshot, home)`. -/
def atSite (vendor : Vendor) (snapshot : Snapshot) (home : Home) : Except Exn (Option Bool) :=
  match finite home.latitude, finite home.longitude, finite home.radius, snapshot.latitude,
    snapshot.longitude with
  | some lat, some lon, some radius, some currentLat, some currentLon =>
    match vendor.distance lat lon currentLat currentLon with
    | .ok distance => .ok (some (decide (distance ≤ radius)))
    | .error e => .error e
  | _, _, _, _, _ => .ok none

/-- The snapshot with its site, as `_accept` computes it. -/
def project (vendor : Vendor) (payload : Payload) (capacity : Option ℚ) (home : Home) :
    Except Exn Snapshot :=
  match vehicleSnapshot vendor payload capacity with
  | .error e => .error e
  | .ok snapshot =>
    match atSite vendor snapshot home with
    | .error e => .error e
    | .ok site => .ok { snapshot with atSite := site }

/-- A decoder that finds no attribute. -/
def blindVendor : Vendor := ⟨fun _ => .ok fun _ _ => none, fun _ _ _ _ => .ok 0⟩

/-! ### The client -/

/-- `RECONNECT_MIN` … `INITIAL_PULL_DELAY`, in seconds. -/
def pullInterval : ℚ := 600
def initialPullDelay : ℚ := 120
def reconnectMin : ℚ := 60
def reconnectMax : ℚ := 3600
def healthyStreamTime : ℚ := 300

/-- The configuration of a client. -/
structure Config where
  vin : String
  capacity : Option ℚ
  home : Home
  staleTimeout : ℚ

/-- A car without a configured home. -/
def someConfig : Config := ⟨"WDD0000000000TEST", none, ⟨.none, .none, .none⟩, 900⟩

/-- The attributes of `MercedesClient` that hold telemetry and pace the REST pulls. -/
structure Client extends Config where
  snapshot : Option Snapshot
  payload : Option Payload
  received : Option ℚ
  connected : Bool
  source : Source
  vehicle : Option (Dict PyValue)
  nextPull : ℚ
  pullRetry : ℚ

/-- `MercedesClient.__init__`. -/
def Client.new (config : Config) : Client where
  toConfig := config
  snapshot := none
  payload := none
  received := none
  connected := false
  source := .push
  vehicle := none
  nextPull := 0
  pullRetry := pullInterval

namespace Client

/-- The payload as `_accept` completes it. -/
def complete (client : Client) (payload : Payload) (source : Source) : Payload :=
  { payload with vehicle := some (client.vehicle.getD []), dataMode := some source }

/-- The payload that `_accept` stores: the decoder has completed it. -/
def taken (client : Client) (payload : Payload) (source : Source) : Except Exn Payload :=
  decoded (client.complete payload source)

/-- `_accept(payload, source)` at monotonic time `mono`. -/
def accept (vendor : Vendor) (client : Client) (mono : ℚ) (payload : Payload) (source : Source) :
    Except Exn Client :=
  match client.taken payload source with
  | .error e => .error e
  | .ok payload =>
    match project vendor payload client.capacity client.home with
    | .error e => .error e
    | .ok snapshot => .ok { client with
        snapshot := some snapshot
        payload := some payload
        received := some mono
        source := source }

/-- The acquisition is fresh: `0 <= time.monotonic() - self._received < self.stale_timeout`. -/
def fresh (client : Client) (mono : ℚ) : Bool :=
  match client.received with
  | none => false
  | some received => 0 ≤ mono - received && mono - received < client.staleTimeout

end Client

/-- What `cached_snapshot` returns. -/
structure Cached where
  snapshot : Option Snapshot
  ok : Bool
  sourceSampleStartedAt : Option ℚ
  payload : Option Payload

/-- `cached_snapshot()` at monotonic time `mono`. -/
def Client.cachedSnapshot (client : Client) (stop : Bool) (mono : ℚ) : Cached where
  snapshot := client.snapshot
  ok := !stop && client.fresh mono && (client.snapshot.bind (·.soc)).isSome
  sourceSampleStartedAt := client.received
  payload := client.payload

/-! ### One acceptance -/

section Acceptance

variable {vendor : Vendor} {client next : Client} {mono : ℚ} {payload found : Payload}
  {source : Source}

/-- A payload that was decoded needs no completing. -/
theorem decoded_settled (made : decoded payload = .ok found) :
    Decoder.completed (found.dataMode = some .pull) found.attributes = .ok found.attributes := by
  unfold decoded at made
  rcases completed : Decoder.completed (payload.dataMode = some .pull) payload.attributes with
    e | attributes
  · rw [completed] at made
    cases made
  · rw [completed] at made
    cases made
    exact Decoder.completed_completed completed

/-- Decoding changes the attributes alone. -/
theorem decoded_same (made : decoded payload = .ok found) :
    found = { payload with attributes := found.attributes } := by
  unfold decoded at made
  split at made <;> cases made
  rfl

/-- A payload of the live stream is stored as it is. -/
theorem taken_push (client : Client) (payload : Payload) :
    client.taken payload .push = .ok (client.complete payload .push) := by
  have pushed : decide ((client.complete payload .push).dataMode = some .pull) = false := rfl
  unfold Client.taken decoded
  rw [pushed, Decoder.completed_pushed]

theorem accept_ok (accepted : client.accept vendor mono payload source = .ok next) :
    ∃ stored snapshot, client.taken payload source = .ok stored ∧
      project vendor stored client.capacity client.home = .ok snapshot ∧
        next = { client with
          snapshot := some snapshot
          payload := some stored
          received := some mono
          source := source } := by
  unfold Client.accept at accepted
  rcases taken : client.taken payload source with e | stored
  · simp only [taken] at accepted
    cases accepted
  · rcases projected : project vendor stored client.capacity client.home with e | snapshot
    · simp only [taken, projected] at accepted
      cases accepted
    · simp only [taken, projected] at accepted
      cases accepted
      exact ⟨stored, snapshot, rfl, projected, rfl⟩

/-- A payload of the live stream is rejected exactly when the projection raises. -/
theorem accept_push_error {e : Exn} :
    client.accept vendor mono payload .push = .error e ↔
      project vendor (client.complete payload .push) client.capacity client.home = .error e := by
  unfold Client.accept
  rw [taken_push]
  rcases projected : project vendor (client.complete payload .push) client.capacity client.home
    with e' | snapshot <;> simp [projected]

end Acceptance

end DbusEv.Mercedes
