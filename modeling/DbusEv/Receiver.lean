/-
**The Home Assistant receiver** (`ha/custom_components/mbapi2020/coordinator.py`).

* `check` — the checks `_message` makes before it decodes a payload; a message that fails one is
  ignored, or logged as malformed.
* `Coordinator.take` — what follows them. The decoder is the upstream integration's own: here it
  only returns or raises.
* `receive` — the messages of a topic, in the order of their arrival.
-/

import DbusEv.Charger

set_option autoImplicit false
set_option linter.unusedSectionVars false

namespace DbusEv.Ha

/-! ### The checks -/

/-- What `_message` takes from a payload that passed its checks. -/
structure Reading where
  receivedAt : ℚ
  attributes : Dict PyValue
  isRestData : Bool
  vehicle : Dict PyValue

/-- Why `_message` takes nothing from a message. -/
inductive Refusal
  | ignored
  | malformed
  | raised (e : PyError)

/-- The car attributes `_message` sets beside the decoder's. -/
structure Car where
  licenseplate : PyValue
  baumusterDescription : PyValue
  vehicleInformation : PyValue
  isOwner : PyValue

/-- The attributes of the coordinator; `vehicleName` is `entry.data.get("vehicle_name")`. -/
structure Coordinator where
  vin : String
  vehicleName : PyValue
  receivedAt : ℚ
  data : Option (Dict PyValue)
  car : Option Car

/-- `MBAPI2020DataUpdateCoordinator.__init__`. -/
def Coordinator.new (vin : String) (vehicleName : PyValue) : Coordinator :=
  ⟨vin, vehicleName, 0, none, none⟩

/-- What the handler of `_message` makes of an exception. -/
def refusalOf (e : PyError) : Refusal :=
  if e = .value ∨ e = .type ∨ e = .overflow then .malformed else .raised e

/-- `isinstance(value, dict)`. -/
def isDict : PyValue → Bool
  | .dict _ => true
  | _ => false

/-- `value.get(key, {})`, when it is an object. -/
def objectAt (value : Dict PyValue) (key : String) : Except Refusal (Dict PyValue) :=
  match (Dict.get value key).getD (.dict []) with
  | .dict items => .ok items
  | _ => .error .ignored

/-- The attribute map, when it is an object of objects. -/
def attributesOf (payload : Dict PyValue) : Except Refusal (Dict PyValue) :=
  match Dict.get payload "attributes" with
  | some (.dict attributes) =>
    if attributes.all fun item => isDict item.2 then .ok attributes else .error .ignored
  | _ => .error .ignored

/-- `payload.get("schema") != 1 or payload.get("vin") != self.vin` fails. -/
def isMine (vin : String) (payload : Dict PyValue) : Bool :=
  ((Dict.get payload "schema").getD .none).isNumber 1 &&
    match Dict.get payload "vin" with
    | some (.str found) => found = vin
    | _ => false

/-- `payload.get("data_mode") == "pull"`. -/
def isPulled (payload : Dict PyValue) : Bool :=
  match Dict.get payload "data_mode" with
  | some (.str found) => found = "pull"
  | _ => false

section Messages

variable [PyText]

/-- `received_at`, when it is finite, in order and not of the future. -/
def receivedOf (receivedAt now : ℚ) (payload : Dict PyValue) : Except Refusal ℚ :=
  match Dict.get payload "received_at" with
  -- `KeyError`
  | none => .error .malformed
  | some value =>
    match floatOf value with
    | .error e => .error (refusalOf e)
    | .ok (.finite found) =>
      if found < receivedAt ∨ now + 30 < found then .error .ignored else .ok found
    | .ok _ => .error .ignored

/-- The checks of an object, in their order. -/
def checkPayload (coordinator : Coordinator) (now : ℚ) (payload : Dict PyValue) :
    Except Refusal Reading := do
  if isMine coordinator.vin payload then do
    let receivedAt ← receivedOf coordinator.receivedAt now payload
    let attributes ← attributesOf payload
    let vehicle ← objectAt payload "vehicle"
    let _ ← objectAt vehicle "information"
    pure ⟨receivedAt, attributes, isPulled payload, vehicle⟩
  else .error .ignored

/-- What `_message` sets on the car. -/
def carOf (coordinator : Coordinator) (reading : Reading) : Car where
  licenseplate :=
    let name := (reading.vehicle.get "name").getD .none
    if coordinator.vehicleName.truthy then coordinator.vehicleName
    else if name.truthy then name else .str coordinator.vin
  baumusterDescription := (reading.vehicle.get "model").getD (.str "Mercedes-Benz")
  vehicleInformation := (reading.vehicle.get "information").getD (.dict [])
  isOwner := (reading.vehicle.get "is_owner").getD (.bool false)

/-- What follows the checks; `decoder` is `_build_car`. -/
def Coordinator.take (decoder : Dict PyValue → Bool → Except PyError Unit)
    (payload : Dict PyValue) (reading : Reading) (coordinator : Coordinator) : Coordinator :=
  match decoder payload reading.isRestData with
  | .error _ => coordinator
  | .ok _ =>
    let shown := { coordinator with car := some (carOf coordinator reading) }
    -- `int(received_at * 1000)`
    match toInt (.float (.mul reading.receivedAt 1000)) with
    | .error _ => shown
    | .ok _ => { shown with receivedAt := reading.receivedAt, data := some payload }

/-- `_message(message)` at wall time `now`; `parsed` is `json.loads(message.payload)`. -/
def message (decoder : Dict PyValue → Bool → Except PyError Unit) (now : ℚ)
    (parsed : Except PyError PyValue) (coordinator : Coordinator) :
    Except Refusal Reading × Coordinator :=
  match parsed with
  | .error e => (.error (refusalOf e), coordinator)
  | .ok (.dict payload) =>
    match checkPayload coordinator now payload with
    | .error refusal => (.error refusal, coordinator)
    | .ok reading => (.ok reading, coordinator.take decoder payload reading)
  | .ok _ => (.error .ignored, coordinator)

/-- Messages in the order of their arrival, each with its text and the time of its handling: what
each check ended in. -/
def receive (decoder : Dict PyValue → Bool → Except PyError Unit)
    (loads : String → Except PyError PyValue) :
    Coordinator → List (String × ℚ) → List (Except Refusal Reading)
  | _, [] => []
  | coordinator, (text, now) :: rest =>
    let handled := message decoder now (loads text) coordinator
    handled.1 :: receive decoder loads handled.2 rest

/-! ### What a message changes -/

variable {decoder : Dict PyValue → Bool → Except PyError Unit} {coordinator : Coordinator}

/-- Whatever the decoder does, the coordinator stays that of its VIN, and its time is that of the
message or the one before. -/
theorem take_keeps (payload : Dict PyValue) (reading : Reading) :
    (coordinator.take decoder payload reading).vin = coordinator.vin ∧
      ((coordinator.take decoder payload reading).receivedAt = coordinator.receivedAt ∨
        (coordinator.take decoder payload reading).receivedAt = reading.receivedAt) := by
  unfold Coordinator.take
  split
  · exact ⟨rfl, Or.inl rfl⟩
  · dsimp only
    split
    · exact ⟨rfl, Or.inl rfl⟩
    · exact ⟨rfl, Or.inr rfl⟩

end Messages

end DbusEv.Ha
