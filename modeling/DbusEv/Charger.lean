/-
**The charger service** (`dbus_ev/charger.py`).

* `chargerStatus` — the Venus status of a Mercedes charging status.
* `statusAndPower` — the charging evidence of a snapshot and of the meter.
* `chargerWrites` — what one `update` writes, in its order.
-/

import DbusEv.CerboMqtt

set_option autoImplicit false

namespace DbusEv

open Mqtt

/-- `value == number`: Python compares numbers by value. -/
def PyValue.isNumber (value : PyValue) (number : ℤ) : Bool :=
  match value with
  | .bool flag => (if flag then 1 else 0) = number
  | .int found => found = number
  | .float (.finite found) => found = number
  | _ => false

/-- `charger_status(raw)`. -/
def chargerStatus (raw : PyValue) : Option ℕ :=
  if [0, 5, 6, 9, 10, 11, 13, 14].any raw.isNumber then some 2
  else if raw.isNumber 1 then some 3
  else if raw.isNumber 3 then some 0
  else if [2, 8, 12, 15].any raw.isNumber then some 1
  else none

/-- `value is None`. -/
def PyValue.isNone : PyValue → Bool
  | .none => true
  | _ => false

/-- `value is False`. -/
def PyValue.isFalse : PyValue → Bool
  | .bool value => !value
  | _ => false

/-- `PyValue` of a status. -/
def statusValue : Option ℕ → PyValue
  | some status => .int status
  | none => .none

/-- A measured value. -/
def measured : Option ℚ → PyValue
  | some value => .float (.finite value)
  | none => .none

/-- `meter.get(path)`. -/
def meterAt (meter : Dict (Option ℚ)) (path : String) : Option ℚ := (meter.get path).join

/-- The status before the meter is looked at. -/
def snapshotStatus (fields : Dict PyValue) : PyValue :=
  let get (key : String) := (Dict.get fields key).getD .none
  let status := if (get "charger_status").isNone then
    statusValue (chargerStatus (get "mercedes_charging_status")) else get "charger_status"
  if (get "at_site").isFalse then .int 0 else status

/-- `_status_and_power(snapshot, meter, require_meter)`. -/
def statusAndPower (fields : Dict PyValue) (meter : Dict (Option ℚ)) (requireMeter : Bool) :
    PyValue × PyValue :=
  let get (key : String) := (Dict.get fields key).getD .none
  let status := snapshotStatus fields
  if requireMeter then
    let power := meterAt meter "/Ac/Power"
    if power.any fun power => 50 < power then (.int 2, measured power)
    else if (get "at_site").isNone && !status.isNumber 0 then (.none, measured power)
    else (status, measured power)
  else (status, get "power")

/-- The phase paths, which the charger and the meter name alike. -/
def phasePaths : List String :=
  ["/Ac/L1/Power", "/Ac/L1/Voltage", "/Ac/L1/Current", "/Ac/L1/PowerFactor",
    "/Ac/L2/Power", "/Ac/L2/Voltage", "/Ac/L2/Current", "/Ac/L2/PowerFactor",
    "/Ac/L3/Power", "/Ac/L3/Voltage", "/Ac/L3/Current", "/Ac/L3/PowerFactor"]

/-- The charger paths that are copied from the meter, each with the meter's path. -/
def copiedPaths : List (String × String) :=
  [("/Ac/Energy/Forward", "/Ac/Energy/Forward"), ("/Current", "/Ac/Current"),
    ("/Ac/Frequency", "/Ac/Frequency")] ++ phasePaths.map fun path => (path, path)

/-- `usable` of `update`. -/
def isUsable (meter : Dict (Option ℚ)) (requireMeter : Bool) (status power : PyValue) : Bool :=
  (if requireMeter then decide (meterAt meter "/Connected" ≠ some 0) else !status.isNone) &&
    !power.isNone

/-- The writes of `update`. -/
def writesOf (meter : Dict (Option ℚ)) (usable : Bool) (status power : PyValue) : Dict PyValue :=
  [("/Connected", .int (if usable then 1 else 0)), ("/Status", if usable then status else .int 0),
    ("/Ac/Power", if usable then power else .none)] ++
    (copiedPaths.map fun paths =>
      (paths.1, if usable then measured (meterAt meter paths.2) else .none)) ++
    [("/Session/Time", .none), ("/Session/Energy", .none)]

/-- `update(snapshot, meter, require_meter)`: what it writes. -/
def chargerWrites (snapshot : Handed) (meter : Dict (Option ℚ)) (requireMeter : Bool) :
    Dict PyValue :=
  let fields := if snapshot.ok then snapshot.fields else []
  let evidence := statusAndPower fields meter requireMeter
  writesOf meter (isUsable meter requireMeter evidence.1 evidence.2) evidence.1 evidence.2

/-- The electrical paths, each with the meter path its value comes from. -/
def electricalPaths : List (String × String) := ("/Ac/Power", "/Ac/Power") :: copiedPaths

/-! ### With a meter -/

/-- Whether a charger with a meter is usable: the meter alone decides. -/
def meterUsable (meter : Dict (Option ℚ)) : Bool :=
  meterAt meter "/Connected" ≠ some 0 && (meterAt meter "/Ac/Power").isSome

theorem statusAndPower_power (fields : Dict PyValue) (meter : Dict (Option ℚ)) :
    (statusAndPower fields meter true).2 = measured (meterAt meter "/Ac/Power") := by
  unfold statusAndPower
  rw [if_pos rfl]
  show (if _ then _ else _ : PyValue × PyValue).2 = _
  split
  · rfl
  · split <;> rfl

@[simp] theorem isNone_measured (value : Option ℚ) : (measured value).isNone = !value.isSome := by
  cases value <;> rfl

/-- **With a meter, the snapshot decides `/Status` and nothing else.** -/
theorem chargerWrites_meter (snapshot : Handed) (meter : Dict (Option ℚ)) :
    ∃ status, chargerWrites snapshot meter true =
      [("/Connected", .int (if meterUsable meter then 1 else 0)), ("/Status", status)] ++
        (electricalPaths.map fun paths =>
          (paths.1, if meterUsable meter then measured (meterAt meter paths.2) else .none)) ++
        [("/Session/Time", .none), ("/Session/Energy", .none)] := by
  unfold chargerWrites
  generalize (if snapshot.ok then snapshot.fields else []) = fields
  have usable : ∀ status, isUsable meter true status (measured (meterAt meter "/Ac/Power")) =
      meterUsable meter := by
    intro status
    unfold isUsable meterUsable
    rw [if_pos rfl, isNone_measured, Bool.not_not]
  simp only [statusAndPower_power, usable]
  exact ⟨_, rfl⟩

theorem electricalPaths_apart : ∀ paths ∈ electricalPaths,
    paths.1 ≠ "/Connected" ∧ paths.1 ≠ "/Status" ∧ paths.1 ≠ "/Session/Time" ∧
      paths.1 ≠ "/Session/Energy" := by
  decide

theorem electricalPaths_unique : ∀ one ∈ electricalPaths, ∀ two ∈ electricalPaths,
    one.1 = two.1 → one.2 = two.2 := by
  decide

section Writes

variable {snapshot : Handed} {meter : Dict (Option ℚ)} {path source : String} {value : PyValue}

/-- An electrical value comes from its meter path, if the charger is usable. -/
theorem electrical_write (listed : (path, source) ∈ electricalPaths)
    (written : (path, value) ∈ chargerWrites snapshot meter true) :
    value = if meterUsable meter then measured (meterAt meter source) else .none := by
  obtain ⟨status, writes⟩ := chargerWrites_meter snapshot meter
  obtain ⟨connected, state, time, energy⟩ := electricalPaths_apart _ listed
  rw [writes, List.mem_append, List.mem_append] at written
  rcases written with (header | copied) | session
  · simp [connected, state] at header
  · obtain ⟨paths, member, same⟩ := List.mem_map.mp copied
    rw [Prod.mk.injEq] at same
    rw [← same.2, electricalPaths_unique _ member _ listed same.1]
  · simp [time, energy] at session

theorem connected_write (written : ("/Connected", value) ∈ chargerWrites snapshot meter true) :
    value = .int (if meterUsable meter then 1 else 0) := by
  obtain ⟨status, writes⟩ := chargerWrites_meter snapshot meter
  rw [writes, List.mem_append, List.mem_append] at written
  rcases written with (header | copied) | session
  · simpa using header
  · obtain ⟨paths, member, same⟩ := List.mem_map.mp copied
    rw [Prod.mk.injEq] at same
    exact absurd same.1 (electricalPaths_apart paths member).1
  · simp at session

/-- Two snapshots, one meter: only `/Status` differs. -/
theorem chargerWrites_same (snapshot snapshot' : Handed) (meter : Dict (Option ℚ)) :
    (chargerWrites snapshot meter true).filter (·.1 ≠ "/Status") =
      (chargerWrites snapshot' meter true).filter (·.1 ≠ "/Status") := by
  obtain ⟨status, writes⟩ := chargerWrites_meter snapshot meter
  obtain ⟨status', writes'⟩ := chargerWrites_meter snapshot' meter
  rw [writes, writes']
  simp

end Writes

end DbusEv
