/-
**What `normalize` can digest, and what it makes of a number** (`dbus_ev/vehicle.py`).

* `isConvertible`, `isHashable` — the values `number` and the table of the charge states accept; any
  other raises.
* `normalize_ok_iff` — the data `normalize` returns on; `normalize_raises` — what it raises else.
* `number_of_double` — a number reads back as itself, be it a float or an integer that rounds to it.
-/

import DbusEv.Lib.Exec
import DbusEv.Python.Double
import DbusEv.Vehicle

set_option autoImplicit false

namespace DbusEv

/-! ### Numbers -/

/-- `math.isfinite(value)` does not raise: the value is no integer beyond the doubles. -/
def isConvertible : PyValue → Bool
  | .int value =>
    match PyFloat.ofRat value with
    | .finite _ => true
    | _ => false
  | _ => true

/-- `{…}.get(value)` does not raise. -/
def isHashable : PyValue → Bool
  | .list _ => false
  | .dict _ => false
  | _ => true

theorem not_isConvertible {value : ℤ} (huge : 2 ^ 1025 ≤ |value|) :
    isConvertible (.int value) = false := by
  have large : ((2 ^ 1025 : ℤ) : ℚ) ≤ ((|value| : ℤ) : ℚ) := Int.cast_le.mpr huge
  rw [Int.cast_pow, Int.cast_ofNat, Int.cast_abs] at large
  rcases rounds : PyFloat.ofRat value with rounded | negative | _
  · exact absurd rounds (PyFloat.ofRat_ne_finite large rounded)
  · simp [isConvertible, rounds]
  · simp [isConvertible, rounds]

theorem number_ok_iff {value : PyValue} (bounds : Bounds) :
    (∃ found, number value bounds = .ok found) ↔ isConvertible value = true := by
  cases value with
  | int value =>
    rcases rounds : PyFloat.ofRat value with rounded | negative | _
    · simp [number, isConvertible, rounds]
    · simp [number, isConvertible, rounds]
    · simp [number, isConvertible, rounds]
  | float value => cases value <;> exact ⟨fun _ => rfl, fun _ => ⟨_, rfl⟩⟩
  | _ => exact ⟨fun _ => rfl, fun _ => ⟨_, rfl⟩⟩

theorem byStatus_ok_iff {α : Type} {a b c : α} {value : PyValue} :
    (∃ found, byStatus a b c value = .ok found) ↔ isHashable value = true := by
  unfold byStatus
  split
  · exact ⟨fun _ => rfl, fun _ => ⟨_, rfl⟩⟩
  · exact ⟨fun _ => rfl, fun _ => ⟨_, rfl⟩⟩
  · exact ⟨fun _ => rfl, fun _ => ⟨_, rfl⟩⟩
  · exact ⟨nofun, nofun⟩
  · exact ⟨nofun, nofun⟩
  · rename_i list dict
    refine ⟨fun _ => ?_, fun _ => ⟨_, rfl⟩⟩
    cases value with
    | list items => exact absurd rfl (list items)
    | dict items => exact absurd rfl (dict items)
    | _ => rfl

/-- Bounds that are far from where the doubles leave gaps between the integers. -/
def Bounds.IsSmall (bounds : Bounds) : Prop :=
  (∀ bound ∈ bounds.minimum, |bound| < 2 ^ 52) ∧ ∀ bound ∈ bounds.maximum, |bound| < 2 ^ 52

theorem isSmall_anyNumber : anyNumber.IsSmall := ⟨nofun, nofun⟩

theorem isSmall_atLeastZero : atLeastZero.IsSmall := by
  refine ⟨?_, nofun⟩
  rintro bound ⟨⟩
  norm_num

theorem isSmall_percentage : percentage.IsSmall := by
  constructor <;> rintro bound ⟨⟩ <;> norm_num

theorem isSmall_latitudes : latitudes.IsSmall := by
  constructor <;> rintro bound ⟨⟩ <;> norm_num

theorem isSmall_longitudes : longitudes.IsSmall := by
  constructor <;> rintro bound ⟨⟩ <;> norm_num

/-- An integer that is not its own double is far above the bounds, or far below, and so is its
double. -/
theorem far_of_ofRat {n : ℤ} {x : ℚ} (rounds : PyFloat.ofRat n = .finite x) (differs : x ≠ n) :
    (2 : ℚ) ^ 52 ≤ n ∧ (2 : ℚ) ^ 52 ≤ x ∨ (n : ℚ) ≤ -2 ^ 52 ∧ x ≤ -2 ^ 52 := by
  have big : (2 : ℚ) ^ 53 < |(n : ℚ)| := by
    by_contra small
    have short : |n| ≤ 2 ^ 53 := by exact_mod_cast not_lt.mp small
    have inRange : |(n : ℚ)| < 2 ^ 1024 :=
      lt_of_le_of_lt (not_lt.mp small) (pow_lt_pow_right₀ one_lt_two (by norm_num))
    have exact_ := PyFloat.ofRat_exact n 0 (by rw [zpow_zero, mul_one]) short (by norm_num) inRange
    exact differs (PyFloat.finite.inj (rounds.symm.trans exact_))
  have half := PyFloat.half_le_of_ofRat (by linarith) rounds
  rcases le_total 0 (n : ℚ) with nonneg | nonpos
  · have sign := PyFloat.nonneg_of_ofRat rounds nonneg
    rw [abs_of_nonneg nonneg] at big half
    rw [abs_of_nonneg sign] at half
    exact Or.inl ⟨by linarith, by linarith⟩
  · have sign := PyFloat.nonpos_of_ofRat rounds nonpos
    rw [abs_of_nonpos nonpos] at big half
    rw [abs_of_nonpos sign] at half
    exact Or.inr ⟨by linarith, by linarith⟩

/-- **The bounds judge an integer as they judge its double.** -/
theorem admit_of_ofRat {n : ℤ} {x : ℚ} (rounds : PyFloat.ofRat n = .finite x) {bounds : Bounds}
    (small : bounds.IsSmall) : bounds.admit n = bounds.admit x := by
  by_cases same : x = n
  · rw [same]
  · obtain ⟨minimum, maximum⟩ := bounds
    obtain ⟨low, high⟩ := small
    have far := far_of_ofRat rounds same
    have least : ∀ bound ∈ minimum, decide (bound ≤ (n : ℚ)) = decide (bound ≤ x) := by
      intro bound member
      have close := abs_lt.mp (low bound member)
      rcases far with ⟨above, up⟩ | ⟨below, down⟩
      · rw [decide_eq_true (by linarith), decide_eq_true (by linarith)]
      · rw [decide_eq_false (by linarith), decide_eq_false (by linarith)]
    have greatest : ∀ bound ∈ maximum, decide ((n : ℚ) ≤ bound) = decide (x ≤ bound) := by
      intro bound member
      have close := abs_lt.mp (high bound member)
      rcases far with ⟨above, up⟩ | ⟨below, down⟩
      · rw [decide_eq_false (by linarith), decide_eq_false (by linarith)]
      · rw [decide_eq_true (by linarith), decide_eq_true (by linarith)]
    unfold Bounds.admit
    congr 1
    · cases minimum with
      | none => rfl
      | some bound => exact least bound rfl
    · cases maximum with
      | none => rfl
      | some bound => exact greatest bound rfl

/-- **A number reads back as itself.** -/
theorem number_of_double {value : PyValue} {x : ℚ} {bounds : Bounds} (small : bounds.IsSmall)
    (reads : value = .float (.finite x) ∨
      ∃ n : ℤ, value = .int n ∧ PyFloat.ofRat n = .finite x) :
    number value bounds = .ok (if bounds.admit x then some x else none) := by
  rcases reads with rfl | ⟨n, rfl, rounds⟩
  · rfl
  · simp only [number, rounds, admit_of_ofRat rounds small]

/-- What `number` returns is within the bounds. -/
theorem number_within {value : PyValue} {x : ℚ} {bounds : Bounds} (small : bounds.IsSmall)
    (found : number value bounds = .ok (some x)) : bounds.admit x = true := by
  unfold number at found
  split at found
  · split at found
    · rename_i n rounded rounds
      rw [admit_of_ofRat rounds small] at found
      split at found
      · rename_i inside
        cases found
        exact inside
      · cases found
    · cases found
  · split at found
    · rename_i inside
      cases found
      exact inside
    · cases found
  · cases found

/-! ### Computations that may raise -/

section Except

variable {ε α β : Type}

/-- Only exceptions of this kind are raised. -/
def Raises (P : ε → Prop) (x : Except ε α) : Prop := ∀ e, x = .error e → P e

theorem raises_bind {P : ε → Prop} {x : Except ε α} {f : α → Except ε β} (first : Raises P x)
    (next : ∀ a, Raises P (f a)) : Raises P (x >>= f) := by
  intro e raised
  rcases x with found | a
  · cases raised
    exact first _ rfl
  · exact next a e raised

theorem raises_pure {P : ε → Prop} (a : α) : Raises P (pure a : Except ε α) := nofun

end Except

/-! ### The projection -/

/-- A value passes for a number within the bounds. -/
def isNumber (bounds : Bounds) : PyValue → Bool
  | .int value => bounds.admit value
  | .float (.finite value) => bounds.admit value
  | _ => false

theorem isSome_number {value : PyValue} {bounds : Bounds} {found : Option ℚ}
    (read : number value bounds = .ok found) : found.isSome = isNumber bounds value := by
  cases value with
  | int value =>
    rcases rounds : PyFloat.ofRat value with rounded | negative | _
    · simp only [number, rounds] at read
      cases read
      unfold isNumber
      split <;> simp_all
    · simp [number, rounds] at read
    · simp [number, rounds] at read
  | float value =>
    cases value with
    | finite value =>
      cases read
      unfold isNumber
      split <;> simp_all
    | inf negative =>
      cases read
      rfl
    | nan =>
      cases read
      rfl
  | _ =>
    cases read
    rfl

/-- A value passes for a number above zero. -/
def isPositive : PyValue → Bool
  | .int value => 0 < value
  | .float (.finite value) => 0 < value
  | _ => false

theorem any_ne_zero_number {value : PyValue} {found : Option ℚ}
    (read : number value atLeastZero = .ok found) : found.any (· ≠ 0) = isPositive value := by
  cases value with
  | int value =>
    rcases rounds : PyFloat.ofRat value with rounded | negative | _
    · have vanishes : rounded = 0 → value ≤ 0 := by
        rintro rfl
        by_contra positive
        by_cases same : (0 : ℚ) = value
        · exact positive (by exact_mod_cast same.ge)
        · rcases far_of_ofRat rounds same with ⟨-, up⟩ | ⟨-, down⟩
          · norm_num at up
          · norm_num at down
      have zero : value = 0 → rounded = 0 := by
        rintro rfl
        by_contra nonzero
        rcases far_of_ofRat rounds (by exact_mod_cast nonzero) with ⟨up, -⟩ | ⟨down, -⟩
        · norm_num at up
        · norm_num at down
      simp only [number, rounds] at read
      cases read
      unfold isPositive
      by_cases nonneg : (0 : ℚ) ≤ value
      · have least : (0 : ℤ) ≤ value := by exact_mod_cast nonneg
        have same : rounded ≠ 0 ↔ 0 < value :=
          ⟨fun nonzero => lt_of_le_of_ne least fun eq => nonzero (zero eq.symm),
            fun positive eq => not_lt.mpr (vanishes eq) positive⟩
        simp [atLeastZero, Bounds.admit, nonneg, ← same]
      · have less : ¬ (0 : ℤ) < value := fun positive => nonneg (by exact_mod_cast positive.le)
        simp [atLeastZero, Bounds.admit, nonneg, less]
    · simp [number, rounds] at read
    · simp [number, rounds] at read
  | float value =>
    cases value with
    | finite value =>
      cases read
      unfold isPositive
      by_cases nonneg : (0 : ℚ) ≤ value
      · simp [atLeastZero, Bounds.admit, nonneg, lt_iff_le_and_ne, eq_comm]
      · have less : ¬ (0 : ℚ) < value := fun positive => nonneg positive.le
        simp [atLeastZero, Bounds.admit, nonneg, less]
    | inf negative =>
      cases read
      rfl
    | nan =>
      cases read
      rfl
  | _ =>
    cases read
    rfl

/-- What an engine reports under a key. -/
def reported (data : Dict PyValue) (key : String) : PyValue := (data.get key).getD .none

/-- The readings `normalize` converts. -/
def readings : List String :=
  ["soc", "target_soc", "battery_capacity", "odometer", "range_to_go", "latitude", "longitude",
    "power"]

/-- The reported capacity, unless it is missing or zero, else the configured one. -/
def capacityOf (data : Dict PyValue) (capacity : PyValue) : Except PyError (Option ℚ) := do
  let found ← numberAt data "battery_capacity" atLeastZero
  if found.any (· ≠ 0) then pure found else number capacity atLeastZero

/-- The vehicle is what `normalize` makes of the data, field by field. -/
structure Projected (data : Dict PyValue) (vin : Option String) (capacity : PyValue) (site : Site)
    (vehicle : Vehicle) : Prop where
  soc : numberAt data "soc" percentage = .ok vehicle.soc
  targetSoc : numberAt data "target_soc" percentage = .ok vehicle.targetSoc
  vin : vehicle.vin = vin
  batteryCapacity : capacityOf data capacity = .ok vehicle.batteryCapacity
  chargingState : byStatus 0 0 3 (reported data "status") = .ok vehicle.chargingState
  chargerStatus : byStatus 0 1 2 (reported data "status") = .ok vehicle.chargerStatus
  chargingStatus : byStatus "unplugged" "connected" "charging" (reported data "status") =
    .ok vehicle.chargingStatus
  odometer : numberAt data "odometer" atLeastZero = .ok vehicle.odometer
  rangeToGo : numberAt data "range_to_go" atLeastZero = .ok vehicle.rangeToGo
  latitude : numberAt data "latitude" latitudes = .ok vehicle.latitude
  longitude : numberAt data "longitude" longitudes = .ok vehicle.longitude
  power : numberAt data "power" anyNumber = .ok vehicle.power
  atSite : site.contains vehicle.latitude vehicle.longitude = .ok vehicle.atSite

/-- `normalize` as one chain of conversions. -/
theorem normalize_eq (data : Dict PyValue) (vin : Option String) (capacity : PyValue)
    (site : Site) :
    normalize data vin capacity site = (do
      let soc ← numberAt data "soc" percentage
      let targetSoc ← numberAt data "target_soc" percentage
      let batteryCapacity ← capacityOf data capacity
      let chargingState ← byStatus 0 0 3 (reported data "status")
      let chargerStatus ← byStatus 0 1 2 (reported data "status")
      let chargingStatus ← byStatus "unplugged" "connected" "charging" (reported data "status")
      let odometer ← numberAt data "odometer" atLeastZero
      let rangeToGo ← numberAt data "range_to_go" atLeastZero
      let latitude ← numberAt data "latitude" latitudes
      let longitude ← numberAt data "longitude" longitudes
      let power ← numberAt data "power" anyNumber
      let atSite ← site.contains latitude longitude
      pure ⟨soc, targetSoc, vin, batteryCapacity, chargingState, chargerStatus, chargingStatus,
        odometer, rangeToGo, latitude, longitude, power, atSite⟩) := by
  unfold normalize capacityOf
  simp only [bind_assoc]
  refine bind_congr fun soc => bind_congr fun targetSoc => bind_congr fun found => ?_
  split <;> rfl

theorem normalize_eq_ok {data : Dict PyValue} {vin : Option String} {capacity : PyValue}
    {site : Site} {vehicle : Vehicle} :
    normalize data vin capacity site = .ok vehicle ↔
      Projected data vin capacity site vehicle := by
  rw [normalize_eq]
  simp only [bind_eq_ok]
  constructor
  · rintro ⟨soc, h₁, targetSoc, h₂, batteryCapacity, h₃, chargingState, h₄, chargerStatus, h₅,
      chargingStatus, h₆, odometer, h₇, rangeToGo, h₈, latitude, h₉, longitude, h₁₀, power, h₁₁,
      atSite, h₁₂, ⟨⟩⟩
    exact ⟨h₁, h₂, rfl, h₃, h₄, h₅, h₆, h₇, h₈, h₉, h₁₀, h₁₁, h₁₂⟩
  · intro projected
    refine ⟨_, projected.soc, _, projected.targetSoc, _, projected.batteryCapacity, _,
      projected.chargingState, _, projected.chargerStatus, _, projected.chargingStatus, _,
      projected.odometer, _, projected.rangeToGo, _, projected.latitude, _, projected.longitude, _,
      projected.power, _, projected.atSite, ?_⟩
    rw [← projected.vin]
    rfl

/-! ### What is digestible -/

/-- The configured home can be converted. -/
def Site.isConvertible (site : Site) : Bool :=
  DbusEv.isConvertible site.latitude && DbusEv.isConvertible site.longitude &&
    DbusEv.isConvertible site.radius

/-- No number is an integer beyond the doubles, and the status can be looked up. The configured
capacity counts where none is reported. -/
structure Digestible (data : Dict PyValue) (capacity : PyValue) (site : Site) : Prop where
  readings : ∀ key ∈ readings, isConvertible (reported data key) = true
  status : isHashable (reported data "status") = true
  capacity : isPositive (reported data "battery_capacity") = true ∨ isConvertible capacity = true
  site : site.isConvertible = true

theorem contains_ok_iff {site : Site} (latitude longitude : Option ℚ) :
    (∃ found, site.contains latitude longitude = .ok found) ↔ site.isConvertible = true := by
  unfold Site.contains Site.isConvertible
  simp only [bind_eq_ok, Bool.and_eq_true]
  constructor
  · rintro ⟨_, _, read, _, read', _, read'', _⟩
    exact ⟨⟨(number_ok_iff _).mp ⟨_, read⟩, (number_ok_iff _).mp ⟨_, read'⟩⟩,
      (number_ok_iff _).mp ⟨_, read''⟩⟩
  · rintro ⟨⟨lat, lon⟩, radius⟩
    obtain ⟨lat, read⟩ := (number_ok_iff _).mpr lat
    obtain ⟨lon, read'⟩ := (number_ok_iff _).mpr lon
    obtain ⟨radius, read''⟩ := (number_ok_iff _).mpr radius
    suffices returns : ∃ found, _ = Except.ok found by
      obtain ⟨found, returned⟩ := returns
      exact ⟨found, lat, read, lon, read', radius, read'', returned⟩
    split <;> exact ⟨_, rfl⟩

theorem capacityOf_ok_iff {data : Dict PyValue} {capacity : PyValue} :
    (∃ found, capacityOf data capacity = .ok found) ↔
      isConvertible (reported data "battery_capacity") = true ∧
        (isPositive (reported data "battery_capacity") = true ∨
          isConvertible capacity = true) := by
  unfold capacityOf
  rcases read : numberAt data "battery_capacity" atLeastZero with e | found
  · have raises : isConvertible (reported data "battery_capacity") ≠ true := fun convertible => by
      obtain ⟨found, returned⟩ := (number_ok_iff _).mpr convertible
      exact nomatch read.symm.trans returned
    exact ⟨nofun, fun both => absurd both.1 raises⟩
  · have convertible : isConvertible (reported data "battery_capacity") = true :=
      (number_ok_iff _).mp ⟨found, read⟩
    have counts : found.any (· ≠ 0) = isPositive (reported data "battery_capacity") :=
      any_ne_zero_number read
    show (∃ chosen, (if found.any (· ≠ 0) = true then (.ok found : Except PyError (Option ℚ))
      else number capacity atLeastZero) = .ok chosen) ↔ _
    rw [counts]
    by_cases positive : isPositive (reported data "battery_capacity") = true
    · rw [if_pos positive]
      exact ⟨fun _ => ⟨convertible, Or.inl positive⟩, fun _ => ⟨found, rfl⟩⟩
    · rw [if_neg positive, number_ok_iff]
      exact ⟨fun configured => ⟨convertible, Or.inr configured⟩,
        fun both => both.2.resolve_left positive⟩

/-- **`normalize` returns exactly on what is digestible.** -/
theorem normalize_ok_iff (vin : Option String) {data : Dict PyValue} {capacity : PyValue}
    {site : Site} :
    (∃ vehicle, normalize data vin capacity site = .ok vehicle) ↔
      Digestible data capacity site := by
  simp only [normalize_eq_ok]
  constructor
  · rintro ⟨vehicle, projected⟩
    have capacities := capacityOf_ok_iff.mp ⟨_, projected.batteryCapacity⟩
    refine ⟨?_, byStatus_ok_iff.mp ⟨_, projected.chargingState⟩, capacities.2,
      (contains_ok_iff _ _).mp ⟨_, projected.atSite⟩⟩
    have convertible : ∀ {key bounds} {found : Option ℚ}, numberAt data key bounds = .ok found →
        isConvertible (reported data key) = true := fun read => (number_ok_iff _).mp ⟨_, read⟩
    simp only [readings, List.forall_mem_cons]
    exact ⟨convertible projected.soc, convertible projected.targetSoc, capacities.1,
      convertible projected.odometer, convertible projected.rangeToGo,
      convertible projected.latitude, convertible projected.longitude, convertible projected.power,
      List.forall_mem_nil _⟩
  · intro digestible
    have read : ∀ key bounds, key ∈ readings → ∃ found : Option ℚ,
        numberAt data key bounds = .ok found :=
      fun key _ member => (number_ok_iff _).mpr (digestible.readings key member)
    obtain ⟨soc, soc_⟩ := read "soc" percentage (by decide)
    obtain ⟨targetSoc, targetSoc_⟩ := read "target_soc" percentage (by decide)
    obtain ⟨odometer, odometer_⟩ := read "odometer" atLeastZero (by decide)
    obtain ⟨rangeToGo, rangeToGo_⟩ := read "range_to_go" atLeastZero (by decide)
    obtain ⟨latitude, latitude_⟩ := read "latitude" latitudes (by decide)
    obtain ⟨longitude, longitude_⟩ := read "longitude" longitudes (by decide)
    obtain ⟨power, power_⟩ := read "power" anyNumber (by decide)
    obtain ⟨batteryCapacity, batteryCapacity_⟩ := capacityOf_ok_iff.mpr
      ⟨digestible.readings "battery_capacity" (by decide), digestible.capacity⟩
    obtain ⟨chargingState, chargingState_⟩ :=
      byStatus_ok_iff (a := 0) (b := 0) (c := 3) |>.mpr digestible.status
    obtain ⟨chargerStatus, chargerStatus_⟩ :=
      byStatus_ok_iff (a := 0) (b := 1) (c := 2) |>.mpr digestible.status
    obtain ⟨chargingStatus, chargingStatus_⟩ := byStatus_ok_iff (a := "unplugged")
      (b := "connected") (c := "charging") |>.mpr digestible.status
    obtain ⟨atSite, atSite_⟩ :=
      (contains_ok_iff latitude longitude).mpr digestible.site
    exact ⟨⟨soc, targetSoc, vin, batteryCapacity, chargingState, chargerStatus, chargingStatus,
      odometer, rangeToGo, latitude, longitude, power, atSite⟩, ⟨soc_, targetSoc_, rfl,
      batteryCapacity_, chargingState_, chargerStatus_, chargingStatus_, odometer_, rangeToGo_,
      latitude_, longitude_, power_, atSite_⟩⟩

/-- What the projection raises: an integer beyond the doubles, or a status that is a list or an
object. -/
def Indigestion (e : PyError) : Prop := e = .overflow ∨ e = .type

theorem raises_number (value : PyValue) (bounds : Bounds) :
    Raises Indigestion (number value bounds) := by
  intro e raised
  unfold number at raised
  split at raised
  · split at raised
    · cases raised
    · cases raised
      exact Or.inl rfl
  · cases raised
  · cases raised

theorem raises_byStatus {α : Type} (a b c : α) (value : PyValue) :
    Raises Indigestion (byStatus a b c value) := by
  intro e raised
  unfold byStatus at raised
  split at raised
  all_goals cases raised
  all_goals exact Or.inr rfl

/-- What `normalize` raises is no `ValueError`. -/
theorem normalize_raises (data : Dict PyValue) (vin : Option String) (capacity : PyValue)
    (site : Site) :
    Raises Indigestion (normalize data vin capacity site) := by
  have read : ∀ key bounds, Raises Indigestion (numberAt data key bounds) :=
    fun _ bounds => raises_number _ bounds
  have located : ∀ latitude longitude,
      Raises Indigestion (site.contains latitude longitude) := by
    intro latitude longitude
    refine raises_bind (raises_number _ _) fun lat => raises_bind (raises_number _ _) fun lon =>
      raises_bind (raises_number _ _) fun radius => ?_
    split <;> exact raises_pure _
  have capacities : Raises Indigestion (capacityOf data capacity) := by
    refine raises_bind (read _ _) fun found => ?_
    split
    · exact raises_pure _
    · exact raises_number _ _
  rw [normalize_eq]
  refine raises_bind (read _ _) fun _ => raises_bind (read _ _) fun _ =>
    raises_bind capacities fun _ => raises_bind (raises_byStatus _ _ _ _) fun _ =>
    raises_bind (raises_byStatus _ _ _ _) fun _ => raises_bind (raises_byStatus _ _ _ _) fun _ =>
    raises_bind (read _ _) fun _ => raises_bind (read _ _) fun _ => raises_bind (read _ _) fun _ =>
    raises_bind (read _ _) fun _ => raises_bind (read _ _) fun _ =>
    raises_bind (located _ _) fun _ => raises_pure _

end DbusEv
