/-
**The decoder of the Home Assistant integration** (`ha/custom_components/mbapi2020/decoder.py`),
value by value.

* `optionHandlers` — what each attribute of a message becomes; a handler may raise.
* `getCarValues`, `buildCar` — the loops that assign the values, one after the other, to the car
  that the entities read.
* `wp_buildCar` — they end with every value assigned if every handler returns, and with a car
  already changed if one raises.
-/

import DbusEv.Receiver
import DbusEv.Lib.Exec
import DbusEv.Mercedes.Windows

set_option autoImplicit false
set_option linter.unusedSectionVars false

namespace DbusEv.Decoder

open Exec

/-! ### Values -/

structure CarAttribute where
  value : PyValue
  retrievalstatus : PyValue
  timestamp : PyValue
  displayValue : PyValue
  unit : PyValue

/-- What the decoder takes from the clock, the calendar and the text functions. -/
structure Surroundings where
  /-- `int(round(time.time() * 1000))`. -/
  millis : ℤ
  /-- `datetime.now().timestamp()`. -/
  stamp : PyValue
  /-- `_predicted_charge_end_value(predicted_end_time)`. -/
  predictedEnd : PyValue → Option PyValue
  /-- `_legacy_charge_end(attributes, vin)`, which handles every exception. -/
  legacyEnd : Attributes → Option CarAttribute
  /-- `text.lstrip("-").isdigit()`. -/
  isNumeral : String → Bool

/-- `value.get(key, default)`. -/
def getOr (value : PyValue) (key : String) (default : PyValue) : Except Raised PyValue :=
  match value with
  | .dict items => .ok ((Dict.get items key).getD default)
  | _ => .error .noAttribute

/-- `values[index]`. -/
def subscript (values : PyValue) (index : ℕ) : Except Raised PyValue :=
  match values with
  | .list items =>
    match items[index]? with
    | some item => .ok item
    | none => .error (.other .other)
  | .str text =>
    match text.toList[index]? with
    | some letter => .ok (.str (String.singleton letter))
    | none => .error (.other .other)
  | .dict _ => .error .key
  | _ => .error (.other .type)

/-- `list(values)`. -/
def itemsOf : PyValue → Except Raised (List PyValue)
  | .list items => .ok items
  | .str text => .ok (text.toList.map fun letter => .str (String.singleton letter))
  | .dict items => .ok (items.map fun item => .str item.1)
  | _ => .error (.other .type)

/-- `len(values)`. -/
def lengthOf (values : PyValue) : Except Raised ℕ := (itemsOf values).map List.length

/-- The attribute of this name; it is empty when there is none, and both are false. -/
def attributeOf (attributes : Attributes) (name : String) : Dict PyValue :=
  (attributes.get name).getD []

/-- The first of these keys that an attribute has. -/
def firstOf (curr : Dict PyValue) (keys : List String) (default : PyValue) : PyValue :=
  (keys.findSome? curr.get).getD default

def statusOf (curr : Dict PyValue) : PyValue := (curr.get "status").getD (.str "VALID")
def displayOf (curr : Dict PyValue) : PyValue := (curr.get "display_value").getD .none

section Handlers

variable [PyText]

/-- `int(value)`. -/
def intOf (value : PyValue) : Except Raised ℤ := (toInt value).mapError .other

/-! ### The handlers of the options -/

/-- `_get_car_values_handle_generic`, of a full message. -/
def handleGeneric (attributes : Attributes) (option : String) : CarAttribute :=
  let curr := attributeOf attributes option
  if curr.isEmpty then ⟨.int 0, .int 4, .int 0, .none, .none⟩
  else
    { value := firstOf curr ["value", "int_value", "double_value", "bool_value"] (.int 0)
      retrievalstatus := statusOf curr
      timestamp := stampOf curr
      displayValue := displayOf curr
      unit := firstOf curr ["distance_unit", "ratio_unit", "clock_hour_unit",
        "gas_consumption_unit", "pressure_unit", "electricity_consumption_unit",
        "combustion_consumption_unit", "speed_unit"] .none }

/-- `_max_soc_from_programs`. -/
def maxSocFromPrograms (programs : Dict PyValue) (instance_ : Dict CarAttribute) :
    Except Raised (Option CarAttribute) := do
  let value := (programs.get "charge_programs_value").getD (.dict [])
  let parameters ← getOr value "charge_program_parameters" (.list [])
  let selected ← intOf (((instance_.get "selectedChargeProgram").map (·.value)).getD (.int 0))
  if selected < 0 then pure none
  else do
    let length ← lengthOf parameters
    if selected < length then do
      let program ← subscript parameters selected.toNat
      match ← getOr program "max_soc" .none with
      | .none => pure none
      | limit =>
        pure (some ⟨limit, .str "VALID", stampOf programs, limit, .str "PERCENT"⟩)
    else pure none

/-- `_get_car_values_handle_max_soc`. -/
def handleMaxSoc (attributes lastFull : Attributes) (instance_ : Dict CarAttribute) :
    Except Raised (Option CarAttribute) :=
  let programs := attributeOf attributes "chargePrograms"
  if programs.isEmpty then
    if (attributeOf attributes "selectedChargeProgram").isEmpty then pure none
    else
      -- `use_last_full_message`
      let programs := attributeOf lastFull "chargePrograms"
      if programs.isEmpty then pure none else maxSocFromPrograms programs instance_
  else maxSocFromPrograms programs instance_

/-- The state of the first entry of an attribute, by its name. -/
def handleFirstEntry (attributes : Attributes) (name object state : String)
    (names : Dict String) : Except Raised (Option CarAttribute) := do
  let curr := attributeOf attributes name
  if curr.isEmpty then pure none
  else do
    let values ← getOr ((curr.get object).getD (.dict [])) "entries" (.list [])
    if !values.truthy then pure none
    else do
      let entry ← subscript values 0
      match ← getOr entry state .none with
      | .none => pure none
      | .str text =>
        let shown := (names.get text).getD "unknown"
        pure (some ⟨.str shown, statusOf curr, stampOf curr, .none, .none⟩)
      | _ => pure (some ⟨.str "unknown", statusOf curr, stampOf curr, .none, .none⟩)

def handleChargeflap (attributes : Attributes) : Except Raised (Option CarAttribute) :=
  handleFirstEntry attributes "chargeFlaps" "charge_flaps" "position_state"
    [("CHARGE_FLAPS_POSITION_STATE_OPEN", "open"),
      ("CHARGE_FLAPS_POSITION_STATE_CLOSED", "closed"),
      ("CHARGE_FLAPS_POSITION_STATE_FLAP_PRESSED", "pressed"),
      ("CHARGE_FLAPS_POSITION_STATE_UNKNOWN", "unknown")]

def handleChargeinletcoupler (attributes : Attributes) : Except Raised (Option CarAttribute) :=
  handleFirstEntry attributes "chargeInlets" "charge_inlets" "coupler_state"
    [("CHARGE_INLETS_COUPLER_STATE_PLUGGED", "plugged"),
      ("CHARGE_INLETS_COUPLER_STATE_VEHICLE_PLUGGED", "vehicle plugged"),
      ("CHARGE_INLETS_COUPLER_STATE_VEHICLE_NOT_PLUGGED", "vehicle not plugged"),
      ("CHARGE_INLETS_COUPLER_STATE_DEFECT", "defect"),
      ("CHARGE_INLETS_COUPLER_STATE_UNKNOWN", "unknown")]

def handleChargeinletlock (attributes : Attributes) : Except Raised (Option CarAttribute) :=
  handleFirstEntry attributes "chargeInlets" "charge_inlets" "lock_state"
    [("CHARGE_INLETS_LOCK_STATE_UNLOCKED", "unlocked"),
      ("CHARGE_INLETS_LOCK_STATE_LOCKED", "locked"),
      ("CHARGE_INLETS_LOCK_STATE_LOCK_STATE_NOT_CLEAR", "state not clear"),
      ("CHARGE_INLETS_LOCK_STATE_NOT_AVAILABLE", "state not available"),
      ("CHARGE_INLETS_LOCK_STATE_UNKNOWN", "unknown")]

/-- `_get_car_values_handle_charge_programs`. -/
def handleChargePrograms (attributes : Attributes) (option : String) :
    Except Raised (Option CarAttribute) := do
  let curr := attributeOf attributes option
  if curr.isEmpty then pure none
  else do
    let value ← getOr ((curr.get "charge_programs_value").getD (.dict []))
      "charge_program_parameters" (.list [])
    if !value.truthy then pure none
    else pure (some ⟨value, statusOf curr, stampOf curr, .none, .none⟩)

/-- `_get_car_values_handle_charging_break_clock_timer`. -/
def handleChargingBreakClockTimer (attributes : Attributes) (option : String) :
    Except Raised (Option CarAttribute) := do
  let curr := attributeOf attributes option
  if curr.isEmpty then pure none
  else
    match ← getOr ((curr.get "chargingbreak_clocktimer_value").getD (.dict []))
      "chargingbreak_clocktimer_entry" .none with
    | .none => pure none
    | value => pure (some ⟨value, statusOf curr, stampOf curr, displayOf curr, .none⟩)

/-- `item.replace("CHARGING_POWER_RESTRICTION_", "")`. -/
def restrictionOf : PyValue → Except Raised String
  | .str text => .ok (text.replace "CHARGING_POWER_RESTRICTION_" "")
  | _ => .error .noAttribute

/-- `_get_car_values_handle_charging_power_restriction`. -/
def handleChargingPowerRestriction (attributes : Attributes) :
    Except Raised (Option CarAttribute) := do
  let curr := attributeOf attributes "chargingPowerRestriction"
  if curr.isEmpty then pure none
  else do
    let values ← getOr ((curr.get "charging_power_restrictions").getD (.dict []))
      "charging_power_restriction" (.list [])
    if !values.truthy then pure none
    else do
      let items ← itemsOf values
      let names ← items.mapM restrictionOf
      pure (some ⟨.str (", ".intercalate names), statusOf curr, stampOf curr, .none, .none⟩)

/-- `_get_car_values_handle_endofchargetime`, of a full message. -/
def handleEndofchargetime (around : Surroundings) (attributes lastFull : Attributes) :
    Except Raised (Option CarAttribute) := do
  let prediction := attributeOf attributes "chargingPredictionMaxSoc"
  let predicted ← getOr ((prediction.get "charging_prediction_soc").getD (.dict []))
    "predicted_end_time" .none
  let ends :=
    match predicted with
    | .none => none
    | predicted => around.predictedEnd predicted
  match ends with
  | some value => pure (some ⟨value, statusOf prediction, stampOf prediction, value, .none⟩)
  | none =>
    if !predicted.truthy && (attributeOf attributes "endofchargetime").isEmpty &&
        (attributeOf lastFull "endofchargetime").isEmpty then
      pure (some ⟨.str "unknown", .str "VALID", around.stamp, .str "unknown", .none⟩)
    else pure (around.legacyEnd attributes)

/-- The end of `_preconditioning_attr_to_bool`. -/
def intValueToBool (attr : Dict PyValue) : Except Raised Bool :=
  match (attr.get "int_value").getD .none with
  | .none => .ok false
  | raw =>
    match toInt raw with
    | .ok number => .ok (decide (0 < number))
    | .error e => if e = .type ∨ e = .value then .ok false else .error (.other e)

/-- `_preconditioning_attr_to_bool(attr)`. -/
def preconditioningAttrToBool (around : Surroundings) (attr : Dict PyValue) :
    Except Raised Bool :=
  if attr.isEmpty then .ok false
  else
    match attr.get "bool_value" with
    | some value => .ok value.truthy
    | none =>
      match (attr.get "value").getD .none with
      | .bool raw => .ok raw
      | .int raw => .ok (decide (0 < raw))
      | .str raw =>
        if PyText.lower raw = "true" then .ok true
        else if PyText.lower raw = "false" then .ok false
        else if around.isNumeral raw then (intOf (.str raw)).map fun number => decide (0 < number)
        else intValueToBool attr
      | _ => intValueToBool attr

/-- `_get_car_values_handle_precond_status`, of a full message. -/
def handlePrecondStatus (around : Surroundings) (attributes : Attributes) :
    Except Raised (Option CarAttribute) := do
  let now := attributeOf attributes "precondNow"
  let active := attributeOf attributes "precondActive"
  let mode := attributeOf attributes "precondOperatingMode"
  let state := attributeOf attributes "precondState"
  let isNow ← preconditioningAttrToBool around now
  let isActive ← preconditioningAttrToBool around active
  let operating ← intOf ((mode.get "int_value").getD (.int 0))
  let activation :=
    match (state.get "value").getD (.dict []) with
    | .dict value => ((Dict.get value "activation_state").getD (.bool false)).truthy
    | _ => false
  let value := isNow || isActive || decide (0 < operating) || activation
  if !now.isEmpty || !active.isEmpty || !mode.isEmpty || !state.isEmpty then do
    let nowStamp ← intOf (stampOf now)
    let activeStamp ← intOf (stampOf active)
    let modeStamp ← intOf (stampOf mode)
    let stateStamp ← intOf (stampOf state)
    pure (some
      { value := .bool value
        retrievalstatus := .str "VALID"
        timestamp := .int (max (max nowStamp activeStamp) (max modeStamp stateStamp))
        displayValue := .str (if value then "True" else "False")
        unit := .none })
  else pure (some ⟨.bool false, .int 4, .int 0, .none, .none⟩)

/-- The loop of `_get_car_values_handle_temperature_points`. -/
def firstPoint (curr : Dict PyValue) (zone : String) :
    List PyValue → Except Raised (Option CarAttribute)
  | [] => .ok none
  | .dict point :: rest =>
    let given := (Dict.get point "zone").getD .none
    match if given.truthy then given else .str "FRONT_LEFT" with
    | .str text =>
      if PyText.lower (text.replace "_" "") ≠ PyText.lower zone then firstPoint curr zone rest
      else
        match (Dict.get point "temperature").getD .none with
        | .dict temperature =>
          .ok (some
            { value := (Dict.get temperature "value").getD (.int 0)
              retrievalstatus := .str "VALID"
              timestamp := stampOf curr
              displayValue := (Dict.get temperature "display_value").getD .none
              unit := (Dict.get temperature "unit").getD .none })
        | temperature =>
          .ok (some
            { value := match temperature with
                | .none => .int 0
                | value => value
              retrievalstatus := .str "VALID"
              timestamp := stampOf curr
              displayValue := (Dict.get point "temperature_display_value").getD .none
              unit := (curr.get "temperature_unit").getD .none })
    | _ => .error .noAttribute
  | _ :: _ => .error .noAttribute

/-- `_get_car_values_handle_temperature_points`. -/
def handleTemperaturePoints (attributes : Attributes) (option : String) :
    Except Raised (Option CarAttribute) := do
  let curr := attributeOf attributes "temperaturePoints"
  if curr.isEmpty then pure none
  else do
    let points ← getOr ((curr.get "temperature_points_value").getD (.dict []))
      "temperature_points" (.list [])
    let points ← itemsOf points
    firstPoint curr (option.replace "temperature_points_" "") points

/-- A handler, of the message, the instance it is for and the option. -/
abbrev Handler := Attributes → Dict CarAttribute → String → Except Raised (Option CarAttribute)

/-- `option_handlers`; `last_full_message` is the message itself. -/
def optionHandlers (around : Surroundings) : Dict Handler :=
  [("max_soc", fun attributes instance_ _ => handleMaxSoc attributes attributes instance_),
    ("chargeflap", fun attributes _ _ => handleChargeflap attributes),
    ("chargeinletcoupler", fun attributes _ _ => handleChargeinletcoupler attributes),
    ("chargeinletlock", fun attributes _ _ => handleChargeinletlock attributes),
    ("chargePrograms", fun attributes _ option => handleChargePrograms attributes option),
    ("chargingBreakClockTimer", fun attributes _ option =>
      handleChargingBreakClockTimer attributes option),
    ("chargingPowerRestriction", fun attributes _ _ => handleChargingPowerRestriction attributes),
    ("endofchargetime", fun attributes _ _ => handleEndofchargetime around attributes attributes),
    ("ignitionstate", fun attributes _ option => .ok (some (handleGeneric attributes option))),
    ("precondStatus", fun attributes _ _ => handlePrecondStatus around attributes),
    ("temperature_points_frontLeft", fun attributes _ option =>
      handleTemperaturePoints attributes option),
    ("temperature_points_frontRight", fun attributes _ option =>
      handleTemperaturePoints attributes option),
    ("temperature_points_rearLeft", fun attributes _ option =>
      handleTemperaturePoints attributes option),
    ("temperature_points_rearRight", fun attributes _ option =>
      handleTemperaturePoints attributes option)]

/-- `option_handlers.get(option, self._get_car_values_handle_generic)`. -/
def handlerOf (around : Surroundings) (option : String) : Handler :=
  ((optionHandlers around).get option).getD fun attributes _ option =>
    .ok (some (handleGeneric attributes option))

end Handlers

/-! ### The car -/

def odometerOptions : List String :=
  ["odo", "distanceReset", "distanceStart", "averageSpeedReset", "averageSpeedStart",
    "drivenTimeZEReset", "drivenTimeReset", "drivenTimeStart", "ecoscoretotal",
    "ecoscorefreewhl", "ecoscorebonusrange", "ecoscoreconst", "ecoscoreaccel",
    "gasconsumptionstart", "gasconsumptionreset", "gasTankRange", "gasTankLevel",
    "gasTankLevelPercent", "liquidconsumptionstart", "liquidconsumptionreset",
    "liquidRangeSkipIndication", "outsideTemperature", "rangeliquid", "remoteStartTemperature",
    "serviceintervaldays", "serviceintervaldistance", "tanklevelpercent", "tankReserveLamp",
    "batteryState", "tankLevelAdBlue", "vehicleDataConnectionState", "ignitionstate",
    "oilLevel", "departuretime", "departureTimeWeekday"]

def tireOptions : List String :=
  ["tirepressureRearLeft", "tirepressureRearRight", "tirepressureFrontRight",
    "tirepressureFrontLeft", "tirewarninglamp", "tirewarningsrdk", "tirewarningsprw",
    "tireMarkerFrontRight", "tireMarkerFrontLeft", "tireMarkerRearLeft", "tireMarkerRearRight",
    "tireWarningRollup", "lastTirepressureTimestamp", "tireTemperatureRearLeft",
    "tireTemperatureFrontRight", "tireTemperatureRearRight", "tireTemperatureFrontLeft"]

def wiperOptions : List String :=
  ["wiperLifetimeExceeded", "wiperHealthPercent"]

def doorOptions : List String :=
  ["decklidstatus", "doorStatusOverall", "doorLockStatusOverall", "doorlockstatusgas",
    "doorlockstatusvehicle", "doorlockstatusfrontleft", "doorlockstatusfrontright",
    "doorlockstatusrearright", "doorlockstatusrearleft", "doorlockstatusdecklid",
    "doorstatusrearleft", "doorstatusfrontright", "doorstatusrearright", "doorstatusfrontleft",
    "rooftopstatus", "sunroofstatus", "engineHoodStatus", "chargeFlapDCStatus",
    "chargeFlapACStatus"]

def locationOptions : List String :=
  ["positionLat", "positionLong", "positionHeading"]

def binarySensorOptions : List String :=
  ["warningwashwater", "warningenginelight", "warningbrakefluid", "warningcoolantlevellow",
    "parkbrakestatus", "warningBrakeLiningWear", "warninglowbattery", "starterBatteryState",
    "liquidRangeCritical", "tankCapOpenLamp", "remoteStartActive", "engineState"]

def windowOptions : List String :=
  ["windowstatusrearleft", "windowstatusrearright", "windowstatusfrontright",
    "windowstatusfrontleft", "windowStatusOverall", "flipWindowStatus"]

def electricOptions : List String :=
  ["rangeelectric", "chargeflap", "chargeinletcoupler", "chargeinletlock",
    "chargeCouplerACStatus", "chargeCouplerDCStatus", "chargeCouplerACLockStatus",
    "chargeCouplerDCLockStatus", "chargePrograms", "chargingactive", "chargingBreakClockTimer",
    "chargingstatus", "chargingPower", "chargingPowerEcoLimit", "chargingPowerRestriction",
    "departureTimeMode", "distanceElectricalReset", "distanceElectricalStart",
    "distanceZEReset", "distanceZEStart", "ecoElectricBatteryTemperature",
    "electricconsumptionstart", "electricconsumptionreset", "electricRatioStart",
    "electricRatioReset", "electricRatioOverall", "endofchargetime", "endofChargeTimeWeekday",
    "selectedChargeProgram", "maxrange", "maxSocLowerLimit", "maxSoc", "max_soc", "soc"]

def auxHeatOptions : List String :=
  ["auxheatActive", "auxheatwarnings", "auxheatruntime", "auxheatstatus",
    "auxheatwarningsPush", "auxheattimeselection", "auxheattime1", "auxheattime2",
    "auxheattime3"]

def preCondOptions : List String :=
  ["precondStatus", "precondOperatingMode", "precondState", "precondActive", "precondError",
    "precondNow", "precondNowError", "precondDuration", "precondatdeparture",
    "precondAtDepartureDisable", "precondSeatFrontLeft", "precondSeatFrontRight",
    "precondSeatRearLeft", "precondSeatRearRight", "temperature_points_frontLeft",
    "temperature_points_frontRight", "temperature_points_rearLeft",
    "temperature_points_rearRight"]

def carAlarmOptions : List String :=
  ["carAlarm", "carAlarmLastTime", "carAlarmReason", "collisionAlarmTimestamp",
    "interiorSensor", "lastParkEvent", "lastTheftWarning", "lastTheftWarningReason",
    "parkEventLevel", "parkEventType", "theftAlarmActive", "theftSystemArmed",
    "towProtectionSensorStatus", "towSensor", "interiorProtectionSensorStatus",
    "exteriorProtectionSensorStatus"]

/-- The parts of a car. -/
inductive Section
  | odometer
  | tires
  | wipers
  | doors
  | location
  | binarysensors
  | windows
  | electric
  | auxheat
  | precond
  | caralarm
  deriving DecidableEq

/-- The parts in the order of `_update_car_sections`. -/
def Section.all : List Section :=
  [.odometer, .tires, .wipers, .doors, .location, .binarysensors, .windows, .electric, .auxheat,
    .precond, .caralarm]

def Section.options : Section → List String
  | .odometer => odometerOptions
  | .tires => tireOptions
  | .wipers => wiperOptions
  | .doors => doorOptions
  | .location => locationOptions
  | .binarysensors => binarySensorOptions
  | .windows => windowOptions
  | .electric => electricOptions
  | .auxheat => auxHeatOptions
  | .precond => preCondOptions
  | .caralarm => carAlarmOptions

/-- A car: what the coordinator shows of it, its counters, and its parts; a part is `None` until it
is decoded. -/
structure Car where
  shown : Ha.Car
  /-- `messages_received["f"]`. -/
  full : ℕ
  /-- `_last_message_received`, in milliseconds. -/
  lastMessageReceived : ℤ
  dataCollectionMode : String
  dataCollectionModeTs : PyValue
  /-- `rcp_options.rcp_supported`. -/
  rcpSupported : Option CarAttribute
  sections : Section → Option (Dict CarAttribute)

/-- `Car(vin)`, with the licence plate of a car that was not known. -/
def Car.new (vin : String) : Car where
  shown := ⟨.str vin, .str "", .dict [], .bool false⟩
  full := 0
  lastMessageReceived := 0
  dataCollectionMode := "push"
  dataCollectionModeTs := .int 0
  rcpSupported := none
  sections _ := none

def Car.setSection (car : Car) (part : Section) (values : Option (Dict CarAttribute)) : Car :=
  { car with sections := Function.update car.sections part values }

section Programs

variable [PyText]

/-- The loop of `_get_car_values`, which assigns to the instance as it goes. -/
def assignOptions (around : Surroundings) (attributes : Attributes) :
    List String → Exec (Dict CarAttribute) Raised Unit :=
  Exec.each fun option => do
    let instance_ ← Exec.read
    let status ← Exec.ofExcept (handlerOf around option attributes instance_ option)
    match status with
    | none => pure ()
    | some status => Exec.change fun instance_ => Dict.set instance_ option status

/-- `_get_car_values(car_detail, vin, class_instance, options, update)`: it returns the instance. -/
def getCarValues (around : Surroundings) (attributes : Attributes) (options : List String) :
    Exec (Dict CarAttribute) Raised (Dict CarAttribute) := do
  if attributes.isEmpty then Exec.read
  else do
    assignOptions around attributes options
    Exec.read

/-- One assignment of `_update_car_sections`. The instance that is filled is the one the car holds,
if it holds one; a new one is the car's when it is complete. -/
def updateSection (around : Surroundings) (attributes : Attributes) (part : Section) :
    Exec Car Raised Unit := do
  let values ← Exec.zoom (fun car : Car => (car.sections part).getD [])
    (fun values car => car.setSection part ((car.sections part).map fun _ => values))
    (getCarValues around attributes part.options)
  Exec.change fun car => car.setSection part (some values)

/-- `_build_car(received_car_data, update_mode=False, is_rest_data)`, for a car that is stored. -/
def buildCar (around : Surroundings) (isRestData : Bool) (attributes : Attributes) :
    Exec Car Raised Attributes := do
  Exec.change fun car => { car with full := car.full + 1 }
  Exec.change fun car => { car with lastMessageReceived := around.millis }
  Exec.change fun car =>
    { car with
      dataCollectionMode := if isRestData then "pull" else "push"
      dataCollectionModeTs := around.stamp }
  let attributes ← Exec.ofExcept (completed isRestData attributes)
  Exec.each (updateSection around attributes) Section.all
  pure attributes

/-! ### What a handler gives -/

/-- A computation that raises nothing. -/
def Returns {α : Type} (outcome : Except Raised α) : Prop := ∃ value, outcome = .ok value

/-- What an option becomes: its handler sees no more of the instance than the selected programme of
this message. -/
def given (around : Surroundings) (attributes : Attributes) (option : String) :
    Except Raised (Option CarAttribute) :=
  handlerOf around option attributes
    [("selectedChargeProgram", handleGeneric attributes "selectedChargeProgram")] option

/-- An instance that holds the selected programme of this message. -/
def Selected (attributes : Attributes) (values : Dict CarAttribute) : Prop :=
  values.get "selectedChargeProgram" = some (handleGeneric attributes "selectedChargeProgram")

/-- The selected programme is assigned before `max_soc` is. -/
def selectedFirst : List String → Bool
  | [] => true
  | option :: rest =>
    if option = "selectedChargeProgram" then true
    else decide (option ≠ "max_soc") && selectedFirst rest

variable {around : Surroundings} {attributes : Attributes}

/-- Every handler reads the instance at the selected programme only, and only that of `max_soc`
reads it. -/
theorem handlerOf_congr {option : String} {values values' : Dict CarAttribute}
    (same : option = "max_soc" →
      values.get "selectedChargeProgram" = values'.get "selectedChargeProgram") :
    handlerOf around option attributes values option =
      handlerOf around option attributes values' option := by
  unfold handlerOf
  cases found : (optionHandlers around).get option with
  | none => rfl
  | some handler =>
    have member := Dict.mem_of_get found
    simp only [optionHandlers, List.mem_cons, Prod.mk.injEq, List.not_mem_nil, or_false] at member
    rcases member with ⟨rfl, rfl⟩ | ⟨rfl, rfl⟩ | ⟨rfl, rfl⟩ | ⟨rfl, rfl⟩ | ⟨rfl, rfl⟩ | ⟨rfl, rfl⟩ |
      ⟨rfl, rfl⟩ | ⟨rfl, rfl⟩ | ⟨rfl, rfl⟩ | ⟨rfl, rfl⟩ | ⟨rfl, rfl⟩ | ⟨rfl, rfl⟩ | ⟨rfl, rfl⟩ |
      ⟨rfl, rfl⟩
    · simp only [Option.getD_some, handleMaxSoc, maxSocFromPrograms, same rfl]
    all_goals rfl

/-- In an instance with the selected programme every handler gives what the message says. -/
theorem handlerOf_selected {values : Dict CarAttribute} (selected : Selected attributes values)
    (option : String) : handlerOf around option attributes values option =
      given around attributes option := by
  apply handlerOf_congr
  intro _
  rw [selected, Dict.get_cons, if_pos rfl]

theorem given_selected : given around attributes "selectedChargeProgram" =
    .ok (some (handleGeneric attributes "selectedChargeProgram")) := rfl

/-- The value of an option, after its handler. -/
def after : Except Raised (Option CarAttribute) → Option CarAttribute → Option CarAttribute
  | .ok (some status), _ => some status
  | _, before => before

/-- An instance after one round of the loop. -/
def assign (values : Dict CarAttribute) (option : String) : Option CarAttribute → Dict CarAttribute
  | none => values
  | some status => values.set option status

theorem get_assign (values : Dict CarAttribute) (first : String) (status : Option CarAttribute)
    (option : String) : (assign values first status).get option =
      if option = first then after (.ok status) (values.get option) else values.get option := by
  by_cases same : option = first
  · subst same
    cases status with
    | none => simp only [assign, after, if_true]
    | some status => simp only [assign, after, if_true, Dict.get_set_self]
  · cases status with
    | none => simp only [assign, same, if_false]
    | some status => simp only [assign, same, if_false, Dict.get_set_ne _ _ same]

/-- The selected programme stays, or is still to come. -/
theorem selected_assign {first : String} {rest : List String} {values : Dict CarAttribute}
    {status : Option CarAttribute} (gives : given around attributes first = .ok status)
    (ready : Selected attributes values ∨ selectedFirst (first :: rest) = true) :
    Selected attributes (assign values first status) ∨ selectedFirst rest = true := by
  by_cases chosen : first = "selectedChargeProgram"
  · subst chosen
    rw [given_selected] at gives
    cases gives
    exact .inl (Dict.get_set_self ..)
  · rcases ready with selected | order
    · refine .inl ?_
      unfold Selected
      rw [get_assign, if_neg (Ne.symm chosen)]
      exact selected
    · unfold selectedFirst at order
      rw [if_neg chosen] at order
      exact .inr (Bool.and_eq_true_iff.mp order).2

/-! ### Every value, or an exception part way -/

/-- **The loop**: it ends with every option assigned, if every handler returns. -/
theorem wp_assignOptions (options : List String) (values : Dict CarAttribute)
    (ready : Selected attributes values ∨ selectedFirst options = true) :
    wp (assignOptions around attributes options)
      (fun _ t => (∀ option ∈ options, Returns (given around attributes option)) ∧
        ∀ option, t.get option =
          if option ∈ options then after (given around attributes option) (values.get option)
          else values.get option)
      (fun _ _ => ∃ option ∈ options, ¬ Returns (given around attributes option)) values := by
  induction options generalizing values with
  | nil => exact ⟨fun _ never => absurd never List.not_mem_nil, fun _ => rfl⟩
  | cons first rest ih =>
    have same : handlerOf around first attributes values first = given around attributes first := by
      rcases ready with selected | order
      · exact handlerOf_selected selected first
      · apply handlerOf_congr
        rintro rfl
        cases order
    unfold assignOptions Exec.each
    simp only [wp_bind, wp_read, wp_ofExcept, same]
    cases gives : given around attributes first with
    | error e =>
      refine ⟨first, List.mem_cons_self, ?_⟩
      rintro ⟨status, returns⟩
      rw [gives] at returns
      cases returns
    | ok status =>
      have round : wp (assignOptions around attributes rest)
          (fun _ t => (∀ option ∈ first :: rest, Returns (given around attributes option)) ∧
            ∀ option, t.get option =
              if option ∈ first :: rest then
                after (given around attributes option) (values.get option)
              else values.get option)
          (fun _ _ => ∃ option ∈ first :: rest, ¬ Returns (given around attributes option))
          (assign values first status) := by
        refine wp_mono (ih _ (selected_assign gives ready)) ?_ ?_
        · rintro _ t ⟨returns, shows⟩
          refine ⟨List.forall_mem_cons.mpr ⟨⟨_, gives⟩, returns⟩, fun option => ?_⟩
          rw [shows option, get_assign]
          by_cases here : option = first
          · subst here
            simp only [List.mem_cons, true_or, if_true, gives]
            split
            · cases status <;> rfl
            · rfl
          · simp only [List.mem_cons, here, false_or, if_false]
        · rintro e t ⟨option, member, raises⟩
          exact ⟨option, List.mem_cons_of_mem _ member, raises⟩
      cases status with
      | none => exact round
      | some status => exact round

/-- What a part shows of an option after a message. -/
def shownOf (around : Surroundings) (attributes : Attributes) (part : Section) (option : String)
    (before : Option CarAttribute) : Option CarAttribute :=
  if attributes.isEmpty = false ∧ option ∈ part.options then
    after (given around attributes option) before
  else before

/-- No handler of a part raises. -/
def Decodes (around : Surroundings) (attributes : Attributes) (part : Section) : Prop :=
  attributes.isEmpty = true ∨
    ∀ option ∈ part.options, Returns (given around attributes option)

/-- In every part the selected programme comes first. -/
theorem selectedFirst_options (part : Section) : selectedFirst part.options = true := by
  cases part <;> rfl

theorem wp_getCarValues (part : Section) (values : Dict CarAttribute) :
    wp (getCarValues around attributes part.options)
      (fun instance_ t => t = instance_ ∧ Decodes around attributes part ∧
        ∀ option, instance_.get option =
          shownOf around attributes part option (values.get option))
      (fun _ _ => ¬ Decodes around attributes part) values := by
  unfold getCarValues Decodes shownOf
  rw [wp_ite]
  refine ⟨fun empty => ?_, fun some_ => ?_⟩
  · simp only [wp_read, empty]
    simp
  · rw [wp_bind]
    refine wp_mono (wp_assignOptions part.options values (.inr (selectedFirst_options part))) ?_ ?_
    · rintro _ t ⟨returns, shows⟩
      refine ⟨rfl, .inr returns, fun option => ?_⟩
      rw [shows option]
      simp only [Bool.not_eq_true] at some_
      simp only [some_, true_and]
    · rintro e t ⟨option, member, raises⟩ (empty | returns)
      · exact some_ empty
      · exact raises (returns option member)

/-- The value of an option of a part. -/
def Car.value (car : Car) (part : Section) (option : String) : Option CarAttribute :=
  (car.sections part).bind (·.get option)

@[simp] theorem Car.value_setSection (car : Car) (part other : Section)
    (values : Option (Dict CarAttribute)) (option : String) :
    (car.setSection part values).value other option =
      if other = part then values.bind (·.get option) else car.value other option := by
  unfold Car.value Car.setSection
  by_cases same : other = part
  · subst same
    simp only [Function.update_self, if_true]
  · simp only [Function.update_of_ne same, same, if_false]

/-- Only the parts of a car differ. -/
def SameBody (car car' : Car) : Prop := ∃ sections, car' = { car with sections := sections }

theorem wp_updateSection (part : Section) (car : Car) :
    wp (updateSection around attributes part)
      (fun _ car' => SameBody car car' ∧ Decodes around attributes part ∧
        ∀ other option, car'.value other option =
          if other = part then shownOf around attributes part option (car.value part option)
          else car.value other option)
      (fun _ car' => SameBody car car' ∧ ¬ Decodes around attributes part) car := by
  unfold updateSection
  rw [wp_bind, wp_zoom]
  refine wp_mono (wp_getCarValues part _) ?_ ?_
  · rintro instance_ t ⟨rfl, decodes, shows⟩
    rw [wp_change]
    refine ⟨⟨_, rfl⟩, decodes, fun other option => ?_⟩
    have held : Dict.get ((car.sections part).getD []) option = car.value part option := by
      unfold Car.value
      cases car.sections part <;> rfl
    rw [Car.value_setSection, Car.value_setSection, Option.bind_some, shows, held]
    by_cases same : other = part
    · rw [if_pos same, if_pos same]
    · rw [if_neg same, if_neg same, if_neg same]
  · rintro e t raises
    exact ⟨⟨_, rfl⟩, raises⟩

theorem SameBody.trans {car car' car'' : Car} (first : SameBody car car')
    (second : SameBody car' car'') : SameBody car car'' := by
  obtain ⟨_, rfl⟩ := first
  obtain ⟨_, rfl⟩ := second
  exact ⟨_, rfl⟩

/-- **The parts, one after the other.** -/
theorem wp_updateSections (parts : List Section) (once : parts.Nodup) (car : Car) :
    wp (Exec.each (updateSection around attributes) parts)
      (fun _ car' => SameBody car car' ∧ (∀ part ∈ parts, Decodes around attributes part) ∧
        ∀ part option, car'.value part option =
          if part ∈ parts then shownOf around attributes part option (car.value part option)
          else car.value part option)
      (fun _ car' => SameBody car car' ∧ ∃ part ∈ parts, ¬ Decodes around attributes part) car := by
  induction parts generalizing car with
  | nil => exact ⟨⟨_, rfl⟩, fun _ never => absurd never List.not_mem_nil, fun _ _ => rfl⟩
  | cons first rest ih =>
    obtain ⟨fresh, once⟩ := List.nodup_cons.mp once
    unfold Exec.each
    rw [wp_bind]
    refine wp_mono (wp_updateSection first car) ?_ ?_
    · rintro _ car' ⟨body, decodes, shows⟩
      refine wp_mono (ih once car') ?_ ?_
      · rintro _ car'' ⟨body', others, shows'⟩
        refine ⟨body.trans body', List.forall_mem_cons.mpr ⟨decodes, others⟩, fun part option => ?_⟩
        rw [shows' part option, shows part option]
        by_cases here : part = first
        · subst here
          simp only [fresh, List.mem_cons, true_or, if_true, if_false]
        · simp only [List.mem_cons, here, false_or, if_false]
      · rintro e car'' ⟨body', part, member, raises⟩
        exact ⟨body.trans body', part, List.mem_cons_of_mem _ member, raises⟩
    · rintro e car' ⟨body, raises⟩
      exact ⟨body, first, List.mem_cons_self, raises⟩

/-- The decoder raises nothing on these attributes: the overall window state of a pulled message
can be made, and every handler returns. -/
def Decodable (around : Surroundings) (isRestData : Bool) (attributes : Attributes) : Prop :=
  ∃ complete, completed isRestData attributes = .ok complete ∧
    ∀ part, Decodes around complete part

/-- The car after a message that was decoded as a whole. -/
structure Built (around : Surroundings) (isRestData : Bool) (complete : Attributes)
    (car car' : Car) : Prop where
  values : ∀ part option, car'.value part option =
    shownOf around complete part option (car.value part option)
  body : SameBody
    { car with
      full := car.full + 1
      lastMessageReceived := around.millis
      dataCollectionMode := if isRestData then "pull" else "push"
      dataCollectionModeTs := around.stamp } car'

theorem Section.mem_all (part : Section) : part ∈ Section.all := by cases part <;> decide

/-- **`_build_car`**: the whole message is decoded; or the decoder raises, when the car has counted
the message already. -/
theorem wp_buildCar (isRestData : Bool) (attributes : Attributes) (car : Car) :
    wp (buildCar around isRestData attributes)
      (fun complete car' => completed isRestData attributes = .ok complete ∧
        Decodable around isRestData attributes ∧ Built around isRestData complete car car')
      (fun _ car' => ¬ Decodable around isRestData attributes ∧ car'.full = car.full + 1) car := by
  unfold buildCar
  simp only [wp_bind, wp_change, wp_ofExcept]
  cases complete : completed isRestData attributes with
  | error e =>
    refine ⟨?_, trivial⟩
    rintro ⟨_, made, -⟩
    rw [complete] at made
    cases made
  | ok attributes' =>
    refine wp_mono (wp_updateSections Section.all (by decide) _) ?_ ?_
    · rintro _ car' ⟨body, decodes, shows⟩
      refine ⟨rfl, ⟨_, complete, fun part => decodes part part.mem_all⟩, ⟨?_, body⟩⟩
      intro part option
      rw [shows, if_pos part.mem_all]
      rfl
    · rintro e car' ⟨⟨_, rfl⟩, part, -, raises⟩
      refine ⟨?_, rfl⟩
      rintro ⟨_, made, decodes⟩
      rw [complete] at made
      cases made
      exact raises (decodes part)

end Programs

end DbusEv.Decoder
