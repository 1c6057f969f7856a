/-
**The Home Assistant client** (`dbus_ev/ha_client.py`).

* `CircuitBreaker` — opens after `threshold` failures, and lets one request through after
  `resetTimeout`.
* `readFields` — the twelve fields of a reply.
* `HaClient.begin`, `HaClient.finish` — `poll` up to its request, and from its outcome on.
-/

import DbusEv.ChargingState

set_option autoImplicit false

namespace DbusEv

/-! ### The circuit breaker -/

structure CircuitBreaker where
  threshold : ℤ
  resetTimeout : ℚ
  failures : ℤ
  openedAt : Option ℚ

namespace CircuitBreaker

/-- `is_open` at monotonic time `mono`: half-open, it lets one attempt through. -/
def isOpen (breaker : CircuitBreaker) (mono : ℚ) : Bool × CircuitBreaker :=
  match breaker.openedAt with
  | none => (false, breaker)
  | some openedAt =>
    if breaker.resetTimeout ≤ mono - openedAt then
      (false, { breaker with openedAt := none, failures := breaker.threshold - 1 })
    else (true, breaker)

/-- `record_success()`. -/
def recordSuccess (breaker : CircuitBreaker) : CircuitBreaker :=
  { breaker with failures := 0, openedAt := none }

/-- `record_failure()`. -/
def recordFailure (breaker : CircuitBreaker) (mono : ℚ) : CircuitBreaker :=
  let failures := breaker.failures + 1
  { breaker with
    failures := failures
    openedAt :=
      if breaker.openedAt = none ∧ breaker.threshold ≤ failures then some mono
      else breaker.openedAt }

end CircuitBreaker

/-! ### Entity states -/

/-- `1000.0` and the double `1.609344`. -/
def wattsPerKilowatt : ℚ := 1000
def kilometresPerMile : ℚ := 226495032459717 / 140737488355328

section States

variable [PyText]

/-- `str(value)`. -/
def toStr : PyValue → String
  | .str text => text
  | value => PyText.str value

/-- `_state_text(s)`. -/
def stateText : PyValue → Option String
  | .none => none
  | value =>
    let text := PyText.strip (toStr value)
    if text = "" ∨ PyText.lower text ∈ ["none", "unknown", "unavailable"] then none else some text

/-- `_state_float(s)`. -/
def stateFloat (value : PyValue) : Option ℚ :=
  match (stateText value).bind PyText.float with
  | some (.finite number) => some number
  | _ => none

/-- `state_is_on(state)`. -/
def stateIsOn : PyValue → Option Bool
  | .none => none
  | value =>
    let text := PyText.lower (PyText.strip (toStr value))
    if text ∈ ["unavailable", "unknown", "", "none"] then none
    else some (text ∈ ["on", "true", "yes"])

/-- A product that is finite. -/
def converted (value factor : ℚ) : Option ℚ :=
  match PyFloat.mul value factor with
  | .finite product => some product
  | _ => none

/-- `_normalize_unit(value, entity, unit_map, accepted, unit)`; `accepted` decides only a
warning. -/
def normalizeUnit (value : Option ℚ) (entity : String) (unitMap : Dict ℚ)
    (accepted : List String)
    (unit : PyValue) : Option ℚ :=
  match value with
  | none => none
  | some number =>
    if entity = "" then some number
    else
      let unit := PyText.lower (if unit.truthy then toStr unit else "")
      match unitMap.get unit with
      | some factor => converted number factor
      | none =>
        if unit = "" ∨ unit ∉ accepted then
          match unitMap.get "kw" with
          | some factor => converted number factor
          | none => some number
        else some number

end States

/-! ### The client -/

/-- The values `last_known` holds. -/
structure HaFields where
  soc : Option ℚ
  targetSoc : Option ℚ
  vin : Option String
  batteryCapacity : Option ℚ
  chargingState : Option ℕ
  odometer : Option ℚ
  rangeToGo : Option ℚ
  latitude : Option ℚ
  longitude : Option ℚ
  atSite : Option Bool
  current : Option ℚ
  power : Option ℚ

/-- Nothing is known yet. -/
def HaFields.unknown : HaFields :=
  ⟨none, none, none, none, none, none, none, none, none, none, none, none⟩

/-- The part of the configuration `poll` reads; `configured` when there are a URL and a token. -/
structure HaConfig where
  configured : Bool
  powerEntity : String
  odometerEntity : String
  rangeToGoEntity : String

structure HaClient where
  config : HaConfig
  breaker : CircuitBreaker
  lastKnown : HaFields

/-- What a request comes to. A response has a status, and a body if its text is JSON. -/
inductive HaOutcome
  | timeout
  | requestError
  | response (status : ℤ) (body : Option PyValue)
  /-- An exception `poll` does not handle. -/
  | raised (error : PyError)

/-- What `poll` returns. -/
structure HaPolled where
  fields : HaFields
  ok : Bool

section Polls

variable [PyText]

/-- The fields of a reply. -/
def readFields (config : HaConfig) (data : Dict PyValue) : HaFields :=
  let state (key : String) := (data.get key).getD .none
  let distance (key : String) (entity : String) (unit : String) :=
    normalizeUnit (stateFloat (state key)) entity
      [("mi", kilometresPerMile), ("mile", kilometresPerMile), ("miles", kilometresPerMile)]
      ["mi", "mile", "miles", "km", "kilometer", "kilometre", "kilo"] (state unit)
  { soc := stateFloat (state "soc")
    targetSoc := stateFloat (state "target_soc")
    vin := stateText (state "vin")
    batteryCapacity := stateFloat (state "battery_capacity")
    chargingState := (stateText (state "charging_state")).map mapChargingState
    odometer := distance "odometer" config.odometerEntity "odometer_unit"
    rangeToGo := distance "range_to_go" config.rangeToGoEntity "range_to_go_unit"
    latitude := stateFloat (state "latitude")
    longitude := stateFloat (state "longitude")
    atSite := stateIsOn (state "at_site")
    current := stateFloat (state "current")
    power := normalizeUnit (stateFloat (state "power")) config.powerEntity
      [("kw", wattsPerKilowatt)] ["kw", "w", "watt"] (state "power_unit") }

namespace HaClient

/-- The fields a request brings, if `poll` does not fail. -/
def received (client : HaClient) : HaOutcome → Option HaFields
  | .response status (some (.dict data)) =>
    if status = 200 then some (readFields client.config data) else none
  | _ => none

/-- `poll` up to its request, which it may not send. -/
def begin (client : HaClient) (mono : ℚ) : Bool × HaClient :=
  if !client.config.configured then (false, client)
  else
    let (open_, breaker) := client.breaker.isOpen mono
    (!open_, { client with breaker := breaker })

/-- What `poll` returns without a request, or after one that failed. -/
def refused (client : HaClient) : HaPolled := ⟨client.lastKnown, false⟩

/-- `poll` from the outcome of its request on. -/
def finish (client : HaClient) (mono : ℚ) (outcome : HaOutcome) :
    Except PyError HaPolled × HaClient :=
  match outcome with
  | .raised e => (.error e, client)
  | outcome =>
    match client.received outcome with
    | some fields =>
      (.ok ⟨fields, fields.soc.isSome⟩,
        { client with lastKnown := fields, breaker := client.breaker.recordSuccess })
    | none =>
      (.ok client.refused, { client with breaker := client.breaker.recordFailure mono })

end HaClient

end Polls

end DbusEv
