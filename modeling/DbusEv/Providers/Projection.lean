/-
**The engine's sample and the client's projection agree.**

* `readingWithin`, `reportedPosition` — what a vehicle reported, where it is in range.
* `Agrees` — a candidate holds what the vehicle reported, each field from its own reading.
* `agrees_of_projected` — `normalize` of the JSON of a sample does so.
* `sample_projected` — a poll that is answered with a sample replaces the reading by it.
-/

import DbusEv.Engine.Sample
import DbusEv.Normalize
import DbusEv.Providers.Answered

set_option autoImplicit false
set_option linter.unusedSectionVars false

namespace DbusEv.Evcc

open Engine (entryOf encodeItem encodeFloat)

/-! ### What a vehicle reported -/

/-- The number a capability returned, if it is finite and within the bounds. -/
def readingWithin (bounds : Bounds) :
    Option (Except Engine.ProviderError Float64) → Option ℚ
  | some (.ok ⟨.finite value, _⟩) => if bounds.admit value then some value else none
  | _ => none

/-- The position a vehicle returned, if both coordinates are in range. -/
def reportedPosition (v : Engine.Vehicle) : Option (ℚ × ℚ) :=
  match v.position with
  | some (.ok (⟨.finite lat, _⟩, ⟨.finite lon, _⟩)) =>
    if latitudes.admit lat && longitudes.admit lon then some (lat, lon) else none
  | _ => none

/-- The capacity a vehicle returned, if it is positive and finite. -/
def reportedCapacity (v : Engine.Vehicle) : Option ℚ :=
  match v.capacity.value with
  | .finite value => if 0 < value then some value else none
  | _ => none

/-- The status a vehicle returned. -/
def reportedStatus (v : Engine.Vehicle) : Option String :=
  match v.status with
  | some (.ok value) => some value
  | _ => none

/-- `{"A": a, "B": b, "C": c}` of a status. -/
def chargeOf {α : Type} (a b c : α) : Option String → Option α
  | some "A" => some a
  | some "B" => some b
  | some "C" => some c
  | _ => none

/-- The candidate is what the vehicle reported, each field from its own reading. -/
structure Agrees (v : Engine.Vehicle) (config : Config) (candidate : Vehicle) : Prop where
  soc : candidate.soc = readingWithin percentage (some v.soc)
  charged : candidate.soc ≠ none
  targetSoc : candidate.targetSoc =
    readingWithin percentage (v.limitSoc.map fun reading => reading.map Engine.float64Of)
  rangeToGo : candidate.rangeToGo =
    readingWithin atLeastZero (v.range.map fun reading => reading.map Engine.float64Of)
  odometer : candidate.odometer = readingWithin atLeastZero v.odometer
  power : candidate.power = readingWithin anyNumber v.power
  latitude : candidate.latitude = (reportedPosition v).map Prod.fst
  longitude : candidate.longitude = (reportedPosition v).map Prod.snd
  batteryCapacity : ∀ found, number config.capacity atLeastZero = .ok found →
    candidate.batteryCapacity = (reportedCapacity v).or found
  chargingState : candidate.chargingState = chargeOf 0 0 3 (reportedStatus v)
  chargerStatus : candidate.chargerStatus = chargeOf 0 1 2 (reportedStatus v)
  chargingStatus : candidate.chargingStatus =
    chargeOf "unplugged" "connected" "charging" (reportedStatus v)

/-! ### Its JSON -/

/-- The data of a reply hold the JSON of what the engine sampled. -/
def Carries (data : Dict PyValue) (v : Engine.Vehicle) (soc : PyFloat) : Prop :=
  ∀ key, data.get key = (Dict.get (Engine.sampled v soc) key).bind encodeItem

section Fields

variable {data : Dict PyValue} {v : Engine.Vehicle} {soc : Float64}

/-- A capability that is sampled under a key is read back. -/
theorem numberAt_entry {key : String} {bounds : Bounds} (small : bounds.IsSmall)
    {capability : Option (Except Engine.ProviderError Float64)}
    (holds : data.get key = (entryOf capability).bind encodeItem) :
    numberAt data key bounds = .ok (readingWithin bounds capability) := by
  unfold numberAt
  rw [holds]
  rcases capability with _ | e | ⟨value, isDouble⟩
  · rfl
  · rfl
  · cases value with
    | finite value => exact number_of_double small (Engine.encodeFloat_cases (isDouble value rfl))
    | inf negative => rfl
    | nan => rfl

/-- The engine and the client have the same bounds of a coordinate. -/
theorem admit_iff_abs_le (bound value : ℚ) :
    Bounds.admit ⟨some (-bound), some bound⟩ value = decide (|value| ≤ bound) := by
  unfold Bounds.admit
  simp only [Option.all_some, abs_le, Bool.decide_and]

/-- What `sampleTravel` takes of a position is what is in range. -/
theorem positionOf_eq (v : Engine.Vehicle) : Engine.positionOf v =
    (reportedPosition v).map fun found => (.finite found.1, .finite found.2) := by
  unfold Engine.positionOf reportedPosition
  rcases v.position with _ | e | ⟨⟨lat, _⟩, ⟨lon, _⟩⟩
  · rfl
  · rfl
  · cases lat with
    | finite lat =>
      cases lon with
      | finite lon =>
        have first : Engine.isWithin 90 (.finite lat) = latitudes.admit lat :=
          (admit_iff_abs_le 90 lat).symm
        have second : Engine.isWithin 180 (.finite lon) = longitudes.admit lon :=
          (admit_iff_abs_le 180 lon).symm
        show (if Engine.isWithin 90 (.finite lat) && Engine.isWithin 180 (.finite lon) then _
          else _) = Option.map _ (if latitudes.admit lat && longitudes.admit lon then _ else _)
        rw [first, second]
        by_cases inside : ( latitudes.admit lat && longitudes.admit lon) = true
        · rw [if_pos inside, if_pos inside]
          rfl
        · rw [if_neg inside, if_neg inside]
          rfl
      | inf negative => simp [Engine.isWithin]
      | nan => simp [Engine.isWithin]
    | inf negative => simp [Engine.isWithin]
    | nan => simp [Engine.isWithin]

/-- Its coordinates are doubles in range. -/
theorem reportedPosition_some {found : ℚ × ℚ} (reported : reportedPosition v = some found) :
    ( latitudes.admit found.1 = true ∧ PyFloat.ofRat found.1 = .finite found.1) ∧
      longitudes.admit found.2 = true ∧ PyFloat.ofRat found.2 = .finite found.2 := by
  unfold reportedPosition at reported
  split at reported
  · rename_i lat first lon second _
    split at reported
    · rename_i inside
      obtain ⟨near, close⟩ := Bool.and_eq_true_iff.mp inside
      cases reported
      exact ⟨⟨near, first lat rfl⟩, close, second lon rfl⟩
    · cases reported
  · cases reported

/-- A coordinate that is sampled is read back. -/
theorem numberAt_coordinate {key : String} {bounds : Bounds} (small : bounds.IsSmall)
    {coordinate : Option ℚ} (inside : ∀ x ∈ coordinate,
      bounds.admit x = true ∧ PyFloat.ofRat x = .finite x)
    (holds : data.get key =
      (coordinate.map fun x => Engine.Item.number (.finite x)).bind encodeItem) :
    numberAt data key bounds = .ok coordinate := by
  unfold numberAt
  rw [holds]
  rcases coordinate with _ | x
  · rfl
  · obtain ⟨within, isDouble⟩ := inside x rfl
    refine (number_of_double small (Engine.encodeFloat_cases isDouble)).trans ?_
    rw [if_pos within]

theorem capacityEntry_eq (v : Engine.Vehicle) : Engine.capacityEntry v =
    (reportedCapacity v).map fun x => Engine.Item.number (.finite x) := by
  unfold Engine.capacityEntry reportedCapacity
  rcases v.capacity.value with x | negative | _
  · by_cases positive : 0 < x <;> simp [Engine.isCapacity, positive]
  · rfl
  · rfl

/-- The capacity is a positive double. -/
theorem reportedCapacity_some {x : ℚ} (reported : reportedCapacity v = some x) :
    0 < x ∧ PyFloat.ofRat x = .finite x := by
  unfold reportedCapacity at reported
  split at reported
  · rename_i value same
    split at reported
    · rename_i positive
      cases reported
      exact ⟨positive, v.capacity.isDouble x same⟩
    · cases reported
  · cases reported

/-! ### The fields -/

/-- What the engine sampled under a key that nothing else is put under. -/
theorem sampled_get (v : Engine.Vehicle) (soc : PyFloat) :
    Dict.get (Engine.sampled v soc) "soc" = some (.number soc) ∧
    Dict.get (Engine.sampled v soc) "battery_capacity" = Engine.capacityEntry v ∧
    Dict.get (Engine.sampled v soc) "status" = Engine.statusEntry v ∧
    Dict.get (Engine.sampled v soc) "target_soc" =
      entryOf (v.limitSoc.map fun reading => reading.map Engine.float64Of) ∧
    Dict.get (Engine.sampled v soc) "range_to_go" =
      entryOf (v.range.map fun reading => reading.map Engine.float64Of) ∧
    Dict.get (Engine.sampled v soc) "odometer" = entryOf v.odometer ∧
    Dict.get (Engine.sampled v soc) "latitude" =
      (Engine.positionOf v).map (fun found => .number found.1) ∧
    Dict.get (Engine.sampled v soc) "longitude" =
      (Engine.positionOf v).map (fun found => .number found.2) ∧
    Dict.get (Engine.sampled v soc) "power" = entryOf v.power := by
  unfold Engine.sampled
  refine ⟨?_, ?_, ?_, ?_, ?_, ?_, ?_, ?_, ?_⟩
  all_goals simp [Engine.get_put_self, Engine.get_put_ne, Dict.get_cons]

/-- What the client reads back of a sample. -/
structure ReadBack (data : Dict PyValue) (v : Engine.Vehicle) : Prop where
  soc : numberAt data "soc" percentage = .ok (readingWithin percentage (some v.soc))
  targetSoc : numberAt data "target_soc" percentage = .ok (readingWithin percentage
    (v.limitSoc.map fun reading => reading.map Engine.float64Of))
  batteryCapacity : numberAt data "battery_capacity" atLeastZero = .ok (reportedCapacity v)
  status : reported data "status" = ((reportedStatus v).map PyValue.str).getD .none
  odometer : numberAt data "odometer" atLeastZero = .ok (readingWithin atLeastZero v.odometer)
  rangeToGo : numberAt data "range_to_go" atLeastZero = .ok (readingWithin atLeastZero
    (v.range.map fun reading => reading.map Engine.float64Of))
  latitude : numberAt data "latitude" latitudes = .ok ((reportedPosition v).map Prod.fst)
  longitude : numberAt data "longitude" longitudes = .ok ((reportedPosition v).map Prod.snd)
  power : numberAt data "power" anyNumber = .ok (readingWithin anyNumber v.power)

/-- **What the engine sampled is read back**, key by key. -/
theorem read_back (charge : v.soc = .ok soc) (valid : Engine.isSoc soc.value = true)
    (carries : Carries data v soc.value) : ReadBack data v := by
  obtain ⟨socAt, capacityAt, statusAt, targetAt, rangeAt, odometerAt, latitudeAt, longitudeAt,
    powerAt⟩ := sampled_get v soc.value
  refine ⟨numberAt_entry isSmall_percentage ?_,
    numberAt_entry isSmall_percentage (by rw [carries, targetAt]),
    numberAt_coordinate isSmall_atLeastZero (fun x found => ?_)
      (by rw [carries, capacityAt, capacityEntry_eq]), ?_,
    numberAt_entry isSmall_atLeastZero (by rw [carries, odometerAt]),
    numberAt_entry isSmall_atLeastZero (by rw [carries, rangeAt]),
    numberAt_coordinate isSmall_latitudes (fun x found => ?_) ?_,
    numberAt_coordinate isSmall_longitudes (fun x found => ?_) ?_,
    numberAt_entry isSmall_anyNumber (by rw [carries, powerAt])⟩
  · rw [carries, socAt, charge]
    rcases soc with ⟨_ | _ | _, isDouble⟩
    · rfl
    · cases valid
    · cases valid
  · obtain ⟨positive, isDouble⟩ := reportedCapacity_some found
    exact ⟨by simp [atLeastZero, Bounds.admit, positive.le], isDouble⟩
  · unfold reported
    rw [carries, statusAt]
    unfold Engine.statusEntry reportedStatus
    rcases v.status with _ | e | value <;> rfl
  · obtain ⟨position, here, rfl⟩ := Option.map_eq_some_iff.mp found
    exact (reportedPosition_some here).1
  · rw [carries, latitudeAt, positionOf_eq, Option.map_map, Option.map_map]
    rfl
  · obtain ⟨position, here, rfl⟩ := Option.map_eq_some_iff.mp found
    exact (reportedPosition_some here).2
  · rw [carries, longitudeAt, positionOf_eq, Option.map_map, Option.map_map]
    rfl

/-! ### The candidate -/

theorem byStatus_reported {α : Type} (a b c : α) (status : Option String) :
    byStatus a b c ((status.map PyValue.str).getD .none) = .ok (chargeOf a b c status) := by
  rcases status with _ | status
  · rfl
  · unfold chargeOf
    show byStatus a b c (.str status) = _
    unfold byStatus
    split <;> simp_all

/-- The capacity of the candidate. -/
theorem capacityOf_reported {capacity : PyValue} {found : Option ℚ} (back : ReadBack data v)
    (configured : number capacity atLeastZero = .ok found) :
    capacityOf data capacity = .ok ((reportedCapacity v).or found) := by
  unfold capacityOf
  rw [back.batteryCapacity]
  rcases reported : reportedCapacity v with _ | x
  · exact configured
  · have nonzero : x ≠ 0 := (reportedCapacity_some reported).1.ne'
    show (if (some x).any (· ≠ 0) then Except.ok (some x) else _) = _
    rw [if_pos (by simpa using nonzero)]
    rfl

/-- **The candidate agrees with the vehicle.** -/
theorem agrees_of_projected {config : Config} {candidate : Vehicle} (charge : v.soc = .ok soc)
    (valid : Engine.isSoc soc.value = true) (back : ReadBack data v)
    (projected : Projected data config.vin config.capacity config.home candidate) :
    Agrees v config candidate := by
  have state : ∀ {α : Type} {a b c : α} {found : Option α},
      byStatus a b c (reported data "status") = .ok found →
        found = chargeOf a b c (reportedStatus v) := by
    intro α a b c found read
    rw [back.status, byStatus_reported] at read
    exact (Except.ok.inj read).symm
  have same : candidate.soc = readingWithin percentage (some v.soc) :=
    Except.ok.inj (projected.soc.symm.trans back.soc)
  refine ⟨same, ?_, Except.ok.inj (projected.targetSoc.symm.trans back.targetSoc),
    Except.ok.inj (projected.rangeToGo.symm.trans back.rangeToGo),
    Except.ok.inj (projected.odometer.symm.trans back.odometer),
    Except.ok.inj (projected.power.symm.trans back.power),
    Except.ok.inj (projected.latitude.symm.trans back.latitude),
    Except.ok.inj (projected.longitude.symm.trans back.longitude), fun found configured => ?_,
    state projected.chargingState, state projected.chargerStatus, state projected.chargingStatus⟩
  · rw [same, charge]
    rcases soc with ⟨x | _ | _, isDouble⟩
    · have inside : percentage.admit x = true := valid
      simp [readingWithin, inside]
    · cases valid
    · cases valid
  · exact Except.ok.inj
      (projected.batteryCapacity.symm.trans (capacityOf_reported back configured))

/-- `normalize` takes what is read back. -/
theorem digestible_of_readBack {capacity : PyValue} {site : Site} (back : ReadBack data v)
    (configured : isConvertible capacity = true) (home : site.isConvertible = true) :
    Digestible data capacity site := by
  have convertible : ∀ {key bounds} {found : Option ℚ}, numberAt data key bounds = .ok found →
      isConvertible (reported data key) = true := fun read => (number_ok_iff _).mp ⟨_, read⟩
  refine ⟨?_, ?_, Or.inr configured, home⟩
  · simp only [readings, List.forall_mem_cons]
    exact ⟨convertible back.soc, convertible back.targetSoc, convertible back.batteryCapacity,
      convertible back.odometer, convertible back.rangeToGo, convertible back.latitude,
      convertible back.longitude, convertible back.power, List.forall_mem_nil _⟩
  · rw [back.status]
    rcases reportedStatus v with _ | status <;> rfl

end Fields

/-! ### The poll -/

section Poll

variable [PyText]

/-- The reply of a successful sample. -/
theorem encodeReply_sample {v : Engine.Vehicle} {now : ℤ}
    (succeeded : (Engine.sample now v).ok = true) :
    ∃ (soc : Float64) (response data : Dict PyValue), v.soc = .ok soc ∧
      Engine.isSoc soc.value = true ∧
      Engine.encodeReply (Engine.sample now v) = some response ∧
      response.get "schema" = some (.int 1) ∧ readingOf response = some data ∧
      Carries data v soc.value := by
  unfold Engine.sample at *
  rcases sampled : Engine.sampleData v with e | items
  · simp only [sampled] at succeeded
    unfold Engine.failure at succeeded
    split at succeeded <;> cases succeeded
  · obtain ⟨soc, charge, valid, rfl⟩ := Engine.sampleData_ok sampled
    obtain ⟨data, encoded, carries⟩ := Engine.encodeData_some (Engine.finite_sampled v valid)
    have filled : data ≠ [] := by
      rintro rfl
      have missing := carries "soc"
      rw [(sampled_get v soc.value).1] at missing
      rcases soc with ⟨x | _ | _, isDouble⟩
      · cases missing
      · cases valid
      · cases valid
    refine ⟨soc, [("schema", .int 1), ("ok", .bool true), ("data", .dict data)], data, charge,
      valid, ?_, rfl, rfl, carries⟩
    simp [Engine.encodeReply, encoded, filled]

/-- **A sample is projected.** For every vehicle whose sample succeeds the engine has a reply, and
an admitted poll that is answered with it replaces the reading by a candidate that agrees with the
vehicle, and records no failure. -/
theorem sample_projected {v : Engine.Vehicle} {now : ℤ}
    (succeeded : (Engine.sample now v).ok = true) {config : Config}
    (capacity : isConvertible config.capacity = true) (home : config.home.isConvertible = true)
    {process : ℕ} {s : State} (started : s.1.started = true)
    (admitted : s.1.admits s.2.wall = .ok true) :
    ∃ response, Engine.encodeReply (Engine.sample now v) = some response ∧
      response.get "schema" = some (.int 1) ∧
      ∀ {E : Type} {answers : E → Answer}, (∀ i, (answers i).saves = none) →
        (∀ i, (answers i).builds = none) → (∀ i, (answers i).reply = .ok response) →
        Ends answers (poll config process)
          (fun _ t => ∃ candidate, Agrees v config candidate ∧ Replaced candidate s t.1)
          (fun _ _ => False) s := by
  obtain ⟨soc, response, data, charge, valid, encoded, schema, reading, carries⟩ :=
    encodeReply_sample succeeded
  have back := read_back charge valid carries
  obtain ⟨candidate, normal⟩ :=
    (normalize_ok_iff config.vin).mpr (digestible_of_readBack back capacity home)
  have agrees := agrees_of_projected charge valid back (normalize_eq_ok.mp normal)
  obtain ⟨level, charged⟩ := Option.ne_none_iff_exists'.mp agrees.charged
  refine ⟨response, encoded, schema, fun saves builds reply => ?_⟩
  refine ends_poll (Q := fun client => ∃ candidate, Agrees v config candidate ∧
    Replaced candidate s client) started admitted saves builds reply
    fun u startedAt now before _ mono wall => ?_
  unfold takeReply
  simp only [reading]
  exact ends_mono (ends_takeReading saves normal charged mono wall)
    (fun _ t replaced => ⟨candidate, agrees, replaced⟩) fun _ _ thrown => thrown

end Poll

/-! ### A vehicle -/

/-- A double. -/
def double (value : ℚ) : Float64 := .ofRat value

/-- A vehicle with a long range, whose odometer and position are out of range, whose power is no
number and whose limit is not available. -/
def oddVehicle : Engine.Vehicle where
  soc := .ok (double (125 / 2))
  capacity := double 77
  status := some (.ok "C")
  limitSoc := some (.error ⟨true, none, false, none⟩)
  range := some (.ok (2 ^ 60 + 1))
  odometer := some (.ok (double (-1)))
  position := some (.ok (double 91, double 13))
  power := some (.ok ⟨.nan, nofun⟩)

/-- A configuration. -/
def plainConfig : Config where
  template := "hyundai"
  vin := some "WDD00000000000001"
  interval := 3600
  staleTimeout := 7500
  capacity := .float (.finite 64)
  home := ⟨.int 48, .int 11, .float (.finite 150), fun _ _ _ _ => 0⟩

/-- A client that is due, on a host. -/
def dueClient : State :=
  (⟨[], true, false, none, none, none⟩, ⟨⟨0, 100000⟩, none, some 0, []⟩)

theorem oddVehicle_projected : letI := plainText
    ∃ response, Engine.encodeReply (Engine.sample 0 oddVehicle) = some response ∧
      Ends (fun _ : Unit => .plain response) (poll plainConfig 0)
        (fun _ t => ∃ candidate, Agrees oddVehicle plainConfig candidate ∧
          Replaced candidate dueClient t.1) (fun _ _ => False) dueClient := by
  let := plainText
  obtain ⟨response, encoded, -, projected⟩ := @sample_projected plainText oddVehicle 0
    (by decide +kernel) plainConfig (by decide +kernel) (by decide +kernel) 0 dueClient rfl
    (by decide +kernel)
  exact ⟨response, encoded, projected (fun _ => rfl) (fun _ => rfl) fun _ => rfl⟩

end DbusEv.Evcc
