/-
**Common vehicle fields** (`dbus_ev/vehicle.py`).

* `number` — the one conversion of a reading: a finite number within its bounds, or nothing. It
  raises only for an integer no double can hold.
* `normalize` — the projection of the data of an engine.
-/

import DbusEv.Python.Value

set_option autoImplicit false

namespace DbusEv

/-- The bounds of a reading. -/
structure Bounds where
  minimum : Option ℚ
  maximum : Option ℚ

/-- A number within the bounds. -/
def Bounds.admit (bounds : Bounds) (value : ℚ) : Bool :=
  bounds.minimum.all (fun minimum => minimum ≤ value) &&
    bounds.maximum.all (fun maximum => value ≤ maximum)

def anyNumber : Bounds := ⟨none, none⟩
def atLeastZero : Bounds := ⟨some 0, none⟩
def percentage : Bounds := ⟨some 0, some 100⟩
def latitudes : Bounds := ⟨some (-90), some 90⟩
def longitudes : Bounds := ⟨some (-180), some 180⟩

/-- `number(value, minimum, maximum)`. -/
def number (value : PyValue) (bounds : Bounds) : Except PyError (Option ℚ) :=
  match value with
  | .int value =>
    match PyFloat.ofRat value with
    | .finite rounded => .ok (if bounds.admit value then some rounded else none)
    | _ => .error .overflow
  | .float (.finite value) => .ok (if bounds.admit value then some value else none)
  | _ => .ok none

/-- `number(items.get(key), …)`. -/
def numberAt (items : Dict PyValue) (key : String) (bounds : Bounds) : Except PyError (Option ℚ) :=
  number ((items.get key).getD .none) bounds

/-- The fields `normalize` returns. -/
structure Vehicle where
  soc : Option ℚ
  targetSoc : Option ℚ
  vin : Option String
  batteryCapacity : Option ℚ
  chargingState : Option ℕ
  chargerStatus : Option ℕ
  chargingStatus : Option String
  odometer : Option ℚ
  rangeToGo : Option ℚ
  latitude : Option ℚ
  longitude : Option ℚ
  power : Option ℚ
  atSite : Option Bool

/-- `{"A": a, "B": b, "C": c}.get(state)`; a list or an object cannot be looked up. -/
def byStatus {α : Type} (a b c : α) : PyValue → Except PyError (Option α)
  | .str "A" => .ok (some a)
  | .str "B" => .ok (some b)
  | .str "C" => .ok (some c)
  | .list _ => .error .type
  | .dict _ => .error .type
  | _ => .ok none

/-- The configured home, and the distance in metres between two positions, which this development
does not look into. -/
structure Site where
  latitude : PyValue
  longitude : PyValue
  radius : PyValue
  distance : ℚ → ℚ → ℚ → ℚ → ℚ

/-- `at_site(snapshot, home)`, from the coordinates of the snapshot. -/
def Site.contains (site : Site) (currentLat currentLon : Option ℚ) :
    Except PyError (Option Bool) := do
  let lat ← number site.latitude latitudes
  let lon ← number site.longitude longitudes
  let radius ← number site.radius atLeastZero
  match lat, lon, radius, currentLat, currentLon with
  | some lat, some lon, some radius, some currentLat, some currentLon =>
    pure (some (decide (site.distance lat lon currentLat currentLon ≤ radius)))
  | _, _, _, _, _ => pure none

/-- `normalize(data, vin, capacity, home)`. -/
def normalize (data : Dict PyValue) (vin : Option String) (capacity : PyValue) (site : Site) :
    Except PyError Vehicle := do
  let state := (data.get "status").getD .none
  let soc ← numberAt data "soc" percentage
  let targetSoc ← numberAt data "target_soc" percentage
  let reported ← numberAt data "battery_capacity" atLeastZero
  -- A reported capacity of zero counts as missing.
  let batteryCapacity ←
    if reported.any (· ≠ 0) then pure reported else number capacity atLeastZero
  let chargingState ← byStatus 0 0 3 state
  let chargerStatus ← byStatus 0 1 2 state
  let chargingStatus ← byStatus "unplugged" "connected" "charging" state
  let odometer ← numberAt data "odometer" atLeastZero
  let rangeToGo ← numberAt data "range_to_go" atLeastZero
  let latitude ← numberAt data "latitude" latitudes
  let longitude ← numberAt data "longitude" longitudes
  let power ← numberAt data "power" anyNumber
  let atSite ← site.contains latitude longitude
  pure {
    soc := soc
    targetSoc := targetSoc
    vin := vin
    batteryCapacity := batteryCapacity
    chargingState := chargingState
    chargerStatus := chargerStatus
    chargingStatus := chargingStatus
    odometer := odometer
    rangeToGo := rangeToGo
    latitude := latitude
    longitude := longitude
    power := power
    atSite := atSite }

end DbusEv
