/-
**The vehicle on D-Bus** (`dbus_ev/service.py`).

* `newPaths` — the paths of a service that has just been registered.
* `updateSoc` … `updateAcPower` — what the service is told of a vehicle, one property at a time;
  three of them convert what they are told, and may raise.
* `updateVehicle` — all of them, as `apply_snapshot` calls them; `record` — the properties that show
  a vehicle, all of them written at once (`updateVehicle_ok`).
-/

import DbusEv.App

set_option autoImplicit false
set_option linter.unusedSectionVars false

namespace DbusEv.EvService

open Exec

/-! ### The paths -/

/-- `VEHICLE_PROPS`. -/
def vehicleProps : List String :=
  ["/Soc", "/TargetSoc", "/VIN", "/BatteryCapacity", "/ChargingState", "/Odometer", "/RangeToGo",
    "/Position/Latitude", "/Position/Longitude", "/AtSite", "/Ac/Power", "/Ac/L1/Power"]

/-- The arguments of the constructor, and `__file__`. -/
structure Identity where
  file : String
  evInstance : ℤ
  version : String
  productName : String
  productId : ℤ
  connection : String

/-- `_identity_paths(…)`. -/
def identityPaths (identity : Identity) : Dict PyValue :=
  [("/Mgmt/ProcessName", .str identity.file), ("/Mgmt/ProcessVersion", .str identity.version),
    ("/Mgmt/Connection", .str identity.connection), ("/DeviceInstance", .int identity.evInstance),
    ("/ProductName", .str identity.productName), ("/ProductId", .int identity.productId),
    ("/FirmwareVersion", .str identity.version), ("/HardwareVersion", .str "n/a"),
    ("/Serial", .str ("dbev-" ++ toString identity.evInstance)),
    ("/CustomName", .str identity.productName), ("/Connected", .int 0)]

/-- `EVEvices.__init__`. -/
def newPaths (identity : Identity) : Dict PyValue :=
  identityPaths identity ++
    [("/Status", .int 0), ("/NrOfPhases", .int 1), ("/Position", .int 0),
      ("/PositionIsAdjustable", .int 0), ("/IsGenericEnergyMeter", .int 0), ("/Mode", .int 0),
      ("/StartStop", .int 0), ("/Ac/Power", .int 0), ("/Ac/Energy/Forward", .int 0),
      ("/Ac/L1/Power", .int 0), ("/Ac/L2/Power", .none), ("/Ac/L3/Power", .none),
      ("/Ac/L1/Voltage", .int 0), ("/Ac/L1/Current", .int 0), ("/Current", .int 0),
      ("/SetCurrent", .int 0), ("/MaxCurrent", .int 16), ("/ChargingTime", .int 0),
      ("/Session/Energy", .int 0), ("/Soc", .none), ("/TargetSoc", .none), ("/VIN", .none),
      ("/BatteryCapacity", .none), ("/ChargingState", .none), ("/Odometer", .none),
      ("/RangeToGo", .none), ("/Position/Latitude", .none), ("/Position/Longitude", .none),
      ("/AtSite", .none)]

/-! ### Conversions -/

/-- `dbus.Int32(value)`. -/
def int32 (value : ℤ) : Except PyError PyValue :=
  if -2 ^ 31 ≤ value ∧ value < 2 ^ 31 then .ok (.int value) else .error .overflow

/-- `math.isfinite(value)`; a number is given back, as a rational. -/
def finiteNumber : PyValue → Except PyError (Option ℚ)
  | .bool value => .ok (some (if value then 1 else 0))
  | .int value =>
    match PyFloat.ofRat value with
    | .finite _ => .ok (some value)
    | _ => .error .overflow
  | .float (.finite value) => .ok (some value)
  | .float _ => .ok none
  | _ => .error .type

section Conversions

variable [PyText]

/-- `value` of `update_battery_capacity`. -/
def batteryCapacity : PyValue → Except PyError PyValue
  | .none => .ok .none
  | capacity =>
    match floatOf capacity with
    | .ok (.finite value) => .ok (if value < 0 then .none else .float (.finite value))
    | .ok _ => .ok .none
    | .error e => if e = .type ∨ e = .value then .ok .none else .error e

/-- The value of `update_charging_state`; `vedbus` is `VEDBUS_AVAILABLE`. -/
def chargingState (vedbus : Bool) : PyValue → Except PyError PyValue
  | .none => .ok .none
  | state => if vedbus then toInt state >>= int32 else .ok state

/-- `p` of `update_ac_power`. -/
def acPower : PyValue → Except PyError PyValue
  | .none => .ok .none
  | power =>
    match finiteNumber power with
    | .error e => .error e
    | .ok none => .ok .none
    | .ok (some watts) =>
      if -2 ^ 31 ≤ watts ∧ watts < 2 ^ 31 then (toInt power).map .int else .ok .none

/-- The power of a phase that is not used: none, unless the total is not known. -/
def unusedPower : PyValue → PyValue
  | .none => .none
  | _ => .int 0

end Conversions

/-! ### Updates -/

/-- A program over the paths. -/
abbrev Program (α : Type) := Exec (Dict PyValue) PyError α

/-- `self.ev[path] = value`. -/
def put (path : String) (value : PyValue) : Program Unit := change fun paths => paths.set path value

def setConnected (connected : Bool) : Program Unit :=
  put "/Connected" (.int (if connected then 1 else 0))

def updateSoc (soc : PyValue) : Program Unit := put "/Soc" soc
def updateTargetSoc (targetSoc : PyValue) : Program Unit := put "/TargetSoc" targetSoc
def updateVin (vin : PyValue) : Program Unit := put "/VIN" vin
def updateOdometer (odometer : PyValue) : Program Unit := put "/Odometer" odometer
def updateRangeToGo (range : PyValue) : Program Unit := put "/RangeToGo" range
def updateLatitude (latitude : PyValue) : Program Unit := put "/Position/Latitude" latitude
def updateLongitude (longitude : PyValue) : Program Unit := put "/Position/Longitude" longitude
def updateAtSite (atSite : PyValue) : Program Unit := put "/AtSite" atSite

section Updates

variable [PyText]

def updateBatteryCapacity (capacity : PyValue) : Program Unit := do
  let value ← ofExcept (batteryCapacity capacity)
  put "/BatteryCapacity" value

def updateChargingState (vedbus : Bool) (state : PyValue) : Program Unit := do
  let value ← ofExcept (chargingState vedbus state)
  put "/ChargingState" value

/-- `update_ac_power(power_w)`. -/
def updateAcPower (power : PyValue) : Program Unit := do
  let p ← ofExcept (acPower power)
  put "/Ac/Power" p
  put "/Ac/L1/Power" p
  put "/Ac/L2/Power" (unusedPower p)
  put "/Ac/L3/Power" (unusedPower p)

/-- What `apply_snapshot` tells the service. -/
def updateVehicle (vedbus : Bool) (fields : Fields) : Program Unit := do
  updateSoc fields.soc
  updateTargetSoc fields.targetSoc
  updateVin fields.vin
  updateBatteryCapacity fields.batteryCapacity
  updateChargingState vedbus fields.chargingState
  updateOdometer fields.odometer
  updateRangeToGo fields.rangeToGo
  updateLatitude fields.latitude
  updateLongitude fields.longitude
  updateAtSite fields.atSite
  updateAcPower fields.power

end Updates

/-! ### What a program writes -/

/-- The program ends so, and writes these paths on its way. -/
def Does (x : Program Unit) (outcome : Except PyError Unit) (written : Dict PyValue) : Prop :=
  ∀ paths, x paths = (outcome, Dict.update paths written)

theorem does_put (path : String) (value : PyValue) :
    Does (put path value) (.ok ()) [(path, value)] := fun _ => rfl

theorem Does.next {x y : Program Unit} {outcome : Except PyError Unit} {first second : Dict PyValue}
    (one : Does x (.ok ()) first) (two : Does y outcome second) :
    Does (x >>= fun _ => y) outcome (first ++ second) := by
  intro paths
  rw [bind_ok (one paths), two]
  unfold Dict.update
  rw [List.foldl_append]

/-! ### The record of a vehicle -/

/-- The properties that show a vehicle, with its capacity, state and power as they are shown. -/
def properties (fields : Fields) (capacity state power : PyValue) : Dict PyValue :=
  [("/Soc", fields.soc), ("/TargetSoc", fields.targetSoc), ("/VIN", fields.vin),
    ("/BatteryCapacity", capacity), ("/ChargingState", state), ("/Odometer", fields.odometer),
    ("/RangeToGo", fields.rangeToGo), ("/Position/Latitude", fields.latitude),
    ("/Position/Longitude", fields.longitude), ("/AtSite", fields.atSite), ("/Ac/Power", power),
    ("/Ac/L1/Power", power), ("/Ac/L2/Power", unusedPower power),
    ("/Ac/L3/Power", unusedPower power)]

/-- The paths of a record. -/
def recordPaths : List String := vehicleProps ++ ["/Ac/L2/Power", "/Ac/L3/Power"]

section Record

variable [PyText]

/-- The record of a vehicle, or what telling it raises. -/
def record (vedbus : Bool) (fields : Fields) : Except PyError (Dict PyValue) := do
  let capacity ← batteryCapacity fields.batteryCapacity
  let state ← chargingState vedbus fields.chargingState
  let power ← acPower fields.power
  pure (properties fields capacity state power)

variable {vedbus : Bool} {fields : Fields} {paths written : Dict PyValue}

theorem does_updateBatteryCapacity {capacity value : PyValue}
    (shown : batteryCapacity capacity = .ok value) :
    Does (updateBatteryCapacity capacity) (.ok ()) [("/BatteryCapacity", value)] := by
  unfold updateBatteryCapacity
  rw [shown]
  exact fun _ => rfl

theorem does_updateChargingState {state value : PyValue}
    (shown : chargingState vedbus state = .ok value) :
    Does (updateChargingState vedbus state) (.ok ()) [("/ChargingState", value)] := by
  unfold updateChargingState
  rw [shown]
  exact fun _ => rfl

theorem does_updateAcPower {power value : PyValue} (shown : acPower power = .ok value) :
    Does (updateAcPower power) (.ok ()) [("/Ac/Power", value), ("/Ac/L1/Power", value),
      ("/Ac/L2/Power", unusedPower value), ("/Ac/L3/Power", unusedPower value)] := by
  unfold updateAcPower
  rw [shown]
  exact fun _ => rfl

/-- **The whole record is written**, in one go. -/
theorem updateVehicle_ok (shown : record vedbus fields = .ok written) :
    updateVehicle vedbus fields paths = (.ok (), paths.update written) := by
  unfold record at shown
  obtain ⟨capacity, capacities, shown⟩ := bind_eq_ok.mp shown
  obtain ⟨state, states, shown⟩ := bind_eq_ok.mp shown
  obtain ⟨power, powers, shown⟩ := bind_eq_ok.mp shown
  cases shown
  have first := does_updateBatteryCapacity capacities
  have second := does_updateChargingState states
  have third := does_updateAcPower powers
  have all : Does (updateVehicle vedbus fields) (.ok ()) (properties fields capacity state power) :=
    .next (does_put _ _) (.next (does_put _ _) (.next (does_put _ _) (.next first (.next second
      (.next (does_put _ _) (.next (does_put _ _) (.next (does_put _ _) (.next (does_put _ _)
        (.next (does_put _ _) third)))))))))
  exact all paths

end Record

/-! ### What is shown of a vehicle -/

/-- Nothing, or a finite number. -/
def IsReading : PyValue → Prop
  | .none => True
  | .float (.finite _) => True
  | _ => False

/-- Nothing, or a float. -/
def IsFloat : PyValue → Prop
  | .none => True
  | .float _ => True
  | _ => False

/-- Nothing, or a text. -/
def IsText : PyValue → Prop
  | .none => True
  | .str _ => True
  | _ => False

/-- Nothing, or a truth value. -/
def IsFlag : PyValue → Prop
  | .none => True
  | .bool _ => True
  | _ => False

/-- The states of the Venus enumeration that the clients report. -/
def venusStates : List ℤ := [0, 3, 244, 250, 255, 256]

/-- Nothing, or one of the states. -/
def IsState : PyValue → Prop
  | .none => True
  | .int state => state ∈ venusStates
  | _ => False

/-- **The fields of a vehicle**, as every client reports them. -/
structure Typed (fields : Fields) : Prop where
  soc : IsReading fields.soc
  targetSoc : IsReading fields.targetSoc
  vin : IsText fields.vin
  batteryCapacity : IsFloat fields.batteryCapacity
  chargingState : IsState fields.chargingState
  odometer : IsFloat fields.odometer
  rangeToGo : IsFloat fields.rangeToGo
  latitude : IsReading fields.latitude
  longitude : IsReading fields.longitude
  atSite : IsFlag fields.atSite
  power : IsFloat fields.power

/-- Nothing, or a finite number that is not negative. -/
def IsCapacity : PyValue → Prop
  | .none => True
  | .float (.finite value) => 0 ≤ value
  | _ => False

/-- Nothing, or an `INT32`. -/
def IsInt32 : PyValue → Prop
  | .none => True
  | .int value => -2 ^ 31 ≤ value ∧ value < 2 ^ 31
  | _ => False

/-- **A record that the consumers of the bus can read**: every path holds nothing or a value of its
kind, and the phases agree with the total. All numbers are finite but the distances: nobody checks
that a conversion from miles stays in the range of a double. -/
structure Proper (written : Dict PyValue) : Prop where
  paths : written.map Prod.fst = recordPaths
  vin : ∃ value, written.get "/VIN" = some value ∧ IsText value
  atSite : ∃ value, written.get "/AtSite" = some value ∧ IsFlag value
  distances : ∀ path ∈ ["/Odometer", "/RangeToGo"],
    ∃ value, written.get path = some value ∧ IsFloat value
  readings : ∀ path ∈ ["/Soc", "/TargetSoc", "/Position/Latitude", "/Position/Longitude"],
    ∃ value, written.get path = some value ∧ IsReading value
  capacity : ∃ value, written.get "/BatteryCapacity" = some value ∧ IsCapacity value
  state : ∃ value, written.get "/ChargingState" = some value ∧ IsState value
  power : ∃ value, written.get "/Ac/Power" = some value ∧
    written.get "/Ac/L1/Power" = some value ∧ IsInt32 value ∧
    written.get "/Ac/L2/Power" = some (unusedPower value) ∧
    written.get "/Ac/L3/Power" = some (unusedPower value)

theorem Proper.path {written : Dict PyValue} (proper : Proper written) {item : String × PyValue}
    (member : item ∈ written) : item.1 ∈ recordPaths := by
  rw [← proper.paths]
  exact List.mem_map_of_mem member

section Proper

variable [PyText]

theorem batteryCapacity_of_isFloat {capacity : PyValue} (typed : IsFloat capacity) :
    ∃ value, batteryCapacity capacity = .ok value ∧ IsCapacity value := by
  cases capacity with
  | none => exact ⟨.none, rfl, trivial⟩
  | float number =>
    cases number with
    | finite value =>
      by_cases negative : value < 0
      · exact ⟨.none, congrArg Except.ok (if_pos negative), trivial⟩
      · exact ⟨.float (.finite value), congrArg Except.ok (if_neg negative), not_lt.mp negative⟩
    | inf _ => exact ⟨.none, rfl, trivial⟩
    | nan => exact ⟨.none, rfl, trivial⟩
  | _ => exact absurd typed not_false

theorem chargingState_of_isState (vedbus : Bool) {state : PyValue} (typed : IsState state) :
    chargingState vedbus state = .ok state := by
  cases state with
  | none => rfl
  | int number =>
    have bounded : -2 ^ 31 ≤ number ∧ number < 2 ^ 31 := by
      have member : number ∈ venusStates := typed
      unfold venusStates at member
      simp only [List.mem_cons, List.not_mem_nil, or_false] at member
      omega
    cases vedbus with
    | false => rfl
    | true => exact if_pos bounded
  | _ => exact absurd typed not_false

/-- A number is cut off towards zero. -/
theorem tdiv_bounds {watts : ℚ} {bound : ℤ} (low : -(bound : ℚ) ≤ watts) (high : watts < bound) :
    -bound ≤ watts.num.tdiv watts.den ∧ watts.num.tdiv watts.den < bound := by
  have positive : (0 : ℤ) < watts.den := by exact_mod_cast watts.den_pos
  have above : (0 : ℚ) < watts.den := by exact_mod_cast watts.den_pos
  have split : watts * watts.den = watts.num := Rat.mul_den_eq_num watts
  have lower : -bound * watts.den ≤ watts.num := by
    have scaled := mul_le_mul_of_nonneg_right low above.le
    rw [split] at scaled
    exact_mod_cast scaled
  have upper : watts.num < bound * watts.den := by
    have scaled := mul_lt_mul_of_pos_right high above
    rw [split] at scaled
    exact_mod_cast scaled
  rcases Int.le_total 0 watts.num with forward | backward
  · rw [Int.tdiv_eq_ediv_of_nonneg forward]
    refine ⟨?_, Int.ediv_lt_of_lt_mul positive upper⟩
    have atLeast := Int.ediv_nonneg forward positive.le
    have room : 0 < bound := by
      by_contra none_
      have nothing : bound * (watts.den : ℤ) ≤ 0 :=
        mul_nonpos_of_nonpos_of_nonneg (not_lt.mp none_) positive.le
      omega
    omega
  · have mirrored : watts.num.tdiv watts.den = -((-watts.num) / watts.den) := by
      rw [← Int.tdiv_eq_ediv_of_nonneg (by omega), Int.neg_tdiv, neg_neg]
    rw [mirrored]
    have within : (-watts.num) / watts.den ≤ bound := by
      refine Int.ediv_le_of_le_mul positive ?_
      rw [neg_mul] at lower
      omega
    have atLeast : 0 ≤ (-watts.num) / (watts.den : ℤ) := Int.ediv_nonneg (by omega) positive.le
    refine ⟨by omega, ?_⟩
    by_contra none_
    have empty : bound ≤ 0 := by omega
    have zero : bound = 0 := by omega
    rw [zero, zero_mul] at upper
    rw [zero] at within lower
    rw [neg_zero, zero_mul] at lower
    omega

theorem acPower_of_isFloat {power : PyValue} (typed : IsFloat power) :
    ∃ value, acPower power = .ok value ∧ IsInt32 value := by
  cases power with
  | none => exact ⟨.none, rfl, trivial⟩
  | float number =>
    cases number with
    | finite watts =>
      by_cases bounded : -2 ^ 31 ≤ watts ∧ watts < 2 ^ 31
      · refine ⟨.int (watts.num.tdiv watts.den), if_pos bounded, ?_⟩
        exact tdiv_bounds (by push_cast; exact bounded.1) (by push_cast; exact bounded.2)
      · exact ⟨.none, if_neg bounded, trivial⟩
    | inf _ => exact ⟨.none, rfl, trivial⟩
    | nan => exact ⟨.none, rfl, trivial⟩
  | _ => exact absurd typed not_false

/-- **A vehicle as the clients report it is shown**, and the record is proper. -/
theorem record_of_typed (vedbus : Bool) {fields : Fields} (typed : Typed fields) :
    ∃ written, record vedbus fields = .ok written ∧ Proper written := by
  obtain ⟨capacity, capacities, isCapacity⟩ := batteryCapacity_of_isFloat typed.batteryCapacity
  have states := chargingState_of_isState vedbus typed.chargingState
  obtain ⟨power, powers, isInt32⟩ := acPower_of_isFloat typed.power
  refine ⟨properties fields capacity fields.chargingState power, ?_, ?_⟩
  · unfold record
    rw [capacities, states, powers]
    rfl
  · refine ⟨rfl, ⟨_, rfl, typed.vin⟩, ⟨_, rfl, typed.atSite⟩, ?_, ?_, ⟨capacity, rfl, isCapacity⟩,
      ⟨_, rfl, typed.chargingState⟩, power, rfl, rfl, isInt32, rfl, rfl⟩
    · intro path member
      simp only [List.mem_cons, List.not_mem_nil, or_false] at member
      rcases member with rfl | rfl
      · exact ⟨_, rfl, typed.odometer⟩
      · exact ⟨_, rfl, typed.rangeToGo⟩
    · intro path member
      simp only [List.mem_cons, List.not_mem_nil, or_false] at member
      rcases member with rfl | rfl | rfl | rfl
      · exact ⟨_, rfl, typed.soc⟩
      · exact ⟨_, rfl, typed.targetSoc⟩
      · exact ⟨_, rfl, typed.latitude⟩
      · exact ⟨_, rfl, typed.longitude⟩

/-- The configured capacity stands in for one that is not reported. -/
theorem typed_serviceFields {config : BridgeConfig} {fields : Fields}
    (capacity : IsFloat config.capacity) (typed : Typed fields) :
    Typed (serviceFields config fields) := by
  have known : IsFloat (serviceFields config fields).batteryCapacity := by
    obtain ⟨_, _, _, found, _⟩ := fields
    cases found with
    | none =>
      unfold serviceFields
      rcases config.capacityLiteral with _ | literal
      · exact capacity
      · exact trivial
    | _ => exact typed.batteryCapacity
  exact ⟨typed.soc, typed.targetSoc, typed.vin, known, typed.chargingState, typed.odometer,
    typed.rangeToGo, typed.latitude, typed.longitude, typed.atSite, typed.power⟩

end Proper

end DbusEv.EvService
