/-
**The messages of the new stream in the old shape** (`dbus_ev/mercedes/vendor/vsu_helper.py`).

A `vehicle_status_updates` message is rewritten for a decoder that knows the older one: every
attribute gets the key the decoder asks for, and its parts the names the handlers look at.

* `vsuKeyToLegacy` — the key of a field, in capitals; `vsuKeyToLegacy_injective`: no two fields of a
  message get the same one.
* `normalizeAttribute`, `normalizeVsuCar` — the rewriting, with the exceptions it raises.
* `legacyOf` — an attribute part by part; `get_legacyOf_value` and its siblings read it.
* `attributes_kept` — the rewritten message has every attribute under its key, and no other.
-/

import DbusEv.Lib.Casing
import DbusEv.Lib.Replace
import DbusEv.Mercedes.Metadata
import Mathlib.Tactic.Common

set_option autoImplicit false
set_option linter.unusedSectionVars false

namespace DbusEv.Vsu

open Mercedes (Exn getItem orElse)

/-! ### Tables -/

/-- `_VSU_UNIT_TO_LEGACY_KEY`. -/
def unitToLegacyKey : Dict String :=
  [("KILOMETERS", "distance_unit"), ("MILES", "distance_unit"),
    ("KPA", "pressure_unit"), ("BAR", "pressure_unit"), ("PSI", "pressure_unit"),
    ("KM_PER_HOUR", "speed_unit"), ("M_PER_HOUR", "speed_unit"),
    ("PERCENT", "ratio_unit"),
    ("KWH_PER_100KM", "electricity_consumption_unit"),
    ("KWH_PER_100MI", "electricity_consumption_unit"),
    ("M_PER_KWH", "electricity_consumption_unit"),
    ("KM_PER_KWH", "electricity_consumption_unit"),
    ("MPGE", "electricity_consumption_unit"),
    ("LITER_PER_100KM", "combustion_consumption_unit"),
    ("MPG_US", "combustion_consumption_unit"), ("MPG_UK", "combustion_consumption_unit"),
    ("KM_PER_LITER", "combustion_consumption_unit"),
    ("KG_PER_100KM", "gas_consumption_unit"), ("KM_PER_KG", "gas_consumption_unit"),
    ("M_PER_KG", "gas_consumption_unit"),
    ("CELSIUS", "temperature_unit"), ("FAHRENHEIT", "temperature_unit"),
    ("T12H", "clock_hour_unit"), ("T24H", "clock_hour_unit")]

/-- `_VSU_KEY_OVERRIDES`. -/
def keyOverrides : Dict String := [("tire_press_meas_timestamp", "lastTirepressureTimestamp")]

/-- `_VSU_STATUS_TO_LEGACY`. -/
def statusToLegacy : Dict PyValue :=
  [("VALUE_NOT_RECEIVED", .str "NOT_RECEIVED"), ("VALUE_INVALID", .int 3),
    ("VALUE_NOT_AVAILABLE", .int 4)]

/-- `_VSU_DEFAULT_OMITTED_VALUES`. -/
def defaultOmittedValues : Dict PyValue :=
  [("precondNow", .int 0), ("precondActive", .bool false), ("precondOperatingMode", .int 0)]

/-- The attributes whose lists have a place of their own, and the name of the list there. -/
def nestedLists : Dict (String × String) :=
  [("chargeFlaps", "charge_flaps", "entries"),
    ("chargeInlets", "charge_inlets", "entries"),
    ("chargingPowerRestriction", "charging_power_restrictions", "charging_power_restriction"),
    ("chargePrograms", "charge_programs_value", "charge_program_parameters"),
    ("temperaturePoints", "temperature_points_value", "temperature_points")]

/-- The attributes whose messages have a place of their own. -/
def nestedMessages : Dict String :=
  [("chargingBreakClockTimer", "chargingbreak_clocktimer_value"),
    ("chargingPredictionFullSoc", "charging_prediction_soc"),
    ("chargingPredictionMaxSoc", "charging_prediction_soc"),
    ("chargingPredictionMinSoc", "charging_prediction_soc"),
    ("chargingPredictionTargetSoc", "charging_prediction_soc")]

/-- `reserved`. -/
def reserved : List String := ["fin_or_vin", "full_update"]

/-- What is called of the standard library and of the generated table of enum values. -/
structure Readers where
  /-- `int(datetime.fromisoformat(text).astimezone(UTC).timestamp())`. -/
  epochOf : String → Except Exn ℤ
  /-- `VSU_ENUM_VALUE_TO_INT.get(text)`. -/
  enumOf : String → Option ℤ
  /-- `text.lstrip("-").isdigit()`. -/
  isNumeral : String → Bool

section Programs

variable [PyText]

/-! ### Keys -/

/-- The capitals of Python's texts; the way back is for the small letters of field names. -/
def capitals : Casing Char where
  upper letter := (PyText.upper (String.singleton letter)).toList
  isUpper := Char.isUpper
  lower := Char.toLower

/-- `_snake_to_camel(name)`. -/
def snakeToCamel (name : String) : String := String.ofList (capitals.camel '_' name.toList)

/-- `_vsu_key_to_legacy(key)`. -/
def vsuKeyToLegacy (key : String) : String := (keyOverrides.get key).getD (snakeToCamel key)

/-! ### Attributes -/

variable (readers : Readers)

/-- `iso.replace("Z", "+00:00") if iso.endswith("Z") else iso`. -/
def withOffset (iso : String) : String :=
  if iso.endsWith "Z" then String.ofList (replaceAll ['Z'] "+00:00".toList iso.toList) else iso

/-- `_iso_to_epoch_seconds(iso)`. -/
def isoToEpochSeconds (iso : PyValue) : Except Exn (Option ℤ) :=
  if iso.truthy then
    match iso with
    | .str text =>
      match readers.epochOf (withOffset text) with
      | .ok seconds => .ok (some seconds)
      | .error e => if e = .other .value then .ok none else .error e
    | _ => .error (.other .any)
  else .ok none

/-- `table.get(key, default)`: a list or a dictionary is no key. -/
def lookUp {α : Type} (table : Dict α) (default : α) : PyValue → Except Exn α
  | .str text => .ok ((table.get text).getD default)
  | .list _ => .error (.other .type)
  | .dict _ => .error (.other .type)
  | _ => .ok default

/-- The value of `legacy["status"]`, if it is assigned. -/
def legacyStatus (status : PyValue) : Except Exn (Option PyValue) :=
  if status.truthy then (lookUp statusToLegacy status status).map some else .ok none

/-- The key under which the unit is assigned, and the unit. -/
def legacyUnit (unit : PyValue) : Except Exn (Option (String × PyValue)) :=
  if unit.truthy then (lookUp unitToLegacyKey "unit" unit).map fun key => some (key, unit)
  else .ok none

/-- A name of the enum table is its number. -/
def enumValue : PyValue → PyValue
  | .str text => ((readers.enumOf text).map .int).getD (.str text)
  | value => value

/-- `_normalize_scalar_value(value, legacy)`. -/
def normalizeScalarValue (value : PyValue) (legacy : Dict PyValue) : Dict PyValue :=
  let value := enumValue readers value
  let legacy := Dict.set legacy "value" value
  match value with
  | .bool flag => Dict.set legacy "bool_value" (.bool flag)
  | .int number => Dict.set legacy "int_value" (.str (PyText.str (.int number)))
  | .float number => Dict.set legacy "double_value" (.float number)
  | .str text =>
    let stripped := PyText.strip text
    if readers.isNumeral stripped then Dict.set legacy "int_value" (.str stripped)
    else
      match PyText.float stripped with
      | some number => Dict.set legacy "double_value" (.float number)
      | none => legacy
  | _ => legacy

/-- `_normalize_value(legacy_key, value, legacy)`. -/
def normalizeValue (legacyKey : String) (value : PyValue) (legacy : Dict PyValue) : Dict PyValue :=
  match value, nestedLists.get legacyKey, nestedMessages.get legacyKey with
  | .none, _, _ => legacy
  | .list items, some (field, name), _ => Dict.set legacy field (.dict [(name, .list items)])
  | .dict items, _, some field => Dict.set legacy field (.dict items)
  | value, _, _ => normalizeScalarValue readers value legacy

/-- `if value is not None: legacy[key] = value`. -/
def assign (key : String) (value : Option PyValue) (legacy : Dict PyValue) : Dict PyValue :=
  match value with
  | some value => Dict.set legacy key value
  | none => legacy

/-- `value`, unless it is `None`. -/
def notNone : PyValue → Option PyValue
  | .none => none
  | value => some value

/-- `str(number)`. -/
def textOf (number : ℤ) : PyValue := .str (PyText.str (.int number))

/-- What `_normalize_attribute` reads of an attribute. -/
structure Parts where
  epochSeconds : Option ℤ
  status : Option PyValue
  unit : Option (String × PyValue)
  displayValue : Option PyValue
  /-- The raw value, or the one that stands for an omitted one. -/
  value : PyValue

/-- The raw value, or the one that stands for an omitted one. -/
def rawValue (legacyKey : String) (metadata : PyValue) (value : PyValue) : PyValue :=
  match value with
  | .none => if metadata.truthy then (defaultOmittedValues.get legacyKey).getD .none else .none
  | value => value

def partsOf (legacyKey : String) (attr : Dict PyValue) : Except Exn Parts := do
  let metadata := orElse ((attr.get "metadata").getD .none) (.dict [])
  let iso ← getItem metadata "timestamp" .none
  let epochSeconds ← isoToEpochSeconds readers iso
  let status ← getItem metadata "status" .none
  let status ← legacyStatus status
  let unit ← legacyUnit ((attr.get "unit").getD .none)
  pure
    { epochSeconds := epochSeconds
      status := status
      unit := unit
      displayValue := notNone ((attr.get "display_value").getD .none)
      value := rawValue legacyKey metadata ((attr.get "value").getD .none) }

/-- The legacy attribute of the parts. -/
def legacyOf (legacyKey : String) (parts : Parts) : Dict PyValue :=
  let legacy := assign "timestamp" (parts.epochSeconds.map textOf) []
  let legacy := assign "timestamp_in_ms" (parts.epochSeconds.map fun s => textOf (s * 1000)) legacy
  let legacy := assign "status" parts.status legacy
  let legacy :=
    match parts.unit with
    | some (key, unit) => Dict.set legacy key unit
    | none => legacy
  let legacy := assign "display_value" parts.displayValue legacy
  normalizeValue readers legacyKey parts.value legacy

/-- `_normalize_attribute(key, vsu_attr)`. -/
def normalizeAttribute (key : String) (vsuAttr : PyValue) :
    Except Exn (Option (String × Dict PyValue)) :=
  match vsuAttr with
  | .dict attr => do
    let parts ← partsOf readers (vsuKeyToLegacy key) attr
    pure (some (vsuKeyToLegacy key, legacyOf readers (vsuKeyToLegacy key) parts))
  | _ => pure none

/-! ### Messages -/

/-- The loop of `normalize_vsu_car`. -/
def normalizeItems : Dict PyValue → Dict (Dict PyValue) → Except Exn (Dict (Dict PyValue))
  | [], attributes => .ok attributes
  | (key, raw) :: rest, attributes =>
    if key ∈ reserved then normalizeItems rest attributes
    else do
      match ← normalizeAttribute readers key raw with
      | none => normalizeItems rest attributes
      | some (legacyKey, legacyAttr) => normalizeItems rest (attributes.set legacyKey legacyAttr)

/-- A dictionary of dictionaries, as a value. -/
def nested (attributes : Dict (Dict PyValue)) : PyValue :=
  .dict (attributes.map fun item => (item.1, .dict item.2))

/-- `normalize_vsu_car(vsu_car)`. -/
def normalizeVsuCar (vsuCar : Dict PyValue) : Except Exn (Dict PyValue) := do
  let attributes ← normalizeItems readers vsuCar []
  pure
    [("vin", (vsuCar.get "fin_or_vin").getD .none),
      ("full_update", .bool ((vsuCar.get "full_update").getD (.bool false)).truthy),
      ("attributes", nested attributes)]

end Programs

/-! ### Names -/

/-- The name of a field: small letters and digits in words, each of which begins with a letter. -/
def isFieldName (name : String) : Bool :=
  name.toList.all (fun c => c.isLower || c.isDigit || c = '_') &&
    (name.toList.splitOn '_').all fun word => word.head?.any Char.isLower

/-- What a capital is. -/
class LawfulUpper [PyText] : Prop where
  upper (letter : Char) (small : letter.isLower = true) :
    PyText.upper (String.singleton letter) = String.singleton letter.toUpper

section Names

variable [PyText] [LawfulUpper]

theorem isLower_iff {letter : Char} :
    letter.isLower = true ↔ 97 ≤ letter.toNat ∧ letter.toNat ≤ 122 := by
  refine Bool.and_eq_true_iff.trans (and_congr ?_ ?_)
  · exact decide_eq_true_iff.trans UInt32.le_iff_toNat_le
  · exact decide_eq_true_iff.trans UInt32.le_iff_toNat_le

theorem isUpper_iff {letter : Char} :
    letter.isUpper = true ↔ 65 ≤ letter.toNat ∧ letter.toNat ≤ 90 :=
  decide_eq_true_iff.trans (and_congr UInt32.le_iff_toNat_le UInt32.le_iff_toNat_le)

/-- A small letter is the small letter of its capital. -/
theorem toUpper_of_isLower {letter : Char} (isLower : letter.isLower = true) :
    letter.toUpper.isUpper = true ∧ letter.toUpper.toLower = letter := by
  have letters : ∀ n ∈ List.range' 97 26, (Char.ofNat n).toUpper.isUpper = true ∧
      (Char.ofNat n).toUpper.toLower = Char.ofNat n := by decide
  have bounds := isLower_iff.mp isLower
  have found := letters letter.toNat (List.mem_range'_1.mpr (by omega))
  rwa [Char.ofNat_toNat] at found

theorem small_of_isLower {letter : Char} (isLower : letter.isLower = true) :
    capitals.Small letter := by
  refine ⟨letter.toUpper, ?_, toUpper_of_isLower isLower⟩
  show (PyText.upper (String.singleton letter)).toList = _
  rw [LawfulUpper.upper letter isLower, String.toList_singleton]

theorem plain_of_isFieldName {name : String} (field : isFieldName name = true) :
    capitals.Plain '_' name.toList := by
  unfold isFieldName at field
  obtain ⟨letters, words⟩ := Bool.and_eq_true_iff.mp field
  rw [List.all_eq_true] at letters words
  refine ⟨fun letter member => ?_, fun word member => ?_⟩
  · have kind := letters letter member
    show letter.isUpper = false
    simp only [Bool.or_eq_true, decide_eq_true_eq] at kind
    refine Bool.eq_false_iff.mpr fun large => ?_
    have capital := isUpper_iff.mp large
    rcases kind with (small | digit) | rfl
    · have bounds := isLower_iff.mp small
      omega
    · have bounds : 48 ≤ letter.toNat ∧ letter.toNat ≤ 57 := by
        simpa [Char.isDigit, UInt32.le_iff_toNat_le] using digit
      omega
    · cases large
  · have begins := words word (List.mem_of_mem_tail member)
    cases word with
    | nil => cases begins
    | cons first rest => exact ⟨first, rest, rfl, small_of_isLower begins⟩

/-- **No two field names get the same capitals.** -/
theorem snakeToCamel_injective {one other : String} (field : isFieldName one = true)
    (too : isFieldName other = true) (same : snakeToCamel one = snakeToCamel other) :
    one = other := by
  refine String.toList_injective ?_
  refine Casing.camel_injective (plain_of_isFieldName field) (plain_of_isFieldName too) ?_
  exact String.ofList_injective same

theorem vsuKeyToLegacy_eq (key : String) : vsuKeyToLegacy key =
    if key = "tire_press_meas_timestamp" then "lastTirepressureTimestamp"
    else snakeToCamel key := by
  unfold vsuKeyToLegacy keyOverrides
  rw [Dict.get_cons]
  by_cases renamed : key = "tire_press_meas_timestamp"
  · rw [if_pos renamed, if_pos renamed, Option.getD_some]
  · rw [if_neg renamed, if_neg renamed, Dict.get_nil, Option.getD_none]

/-- The capitals of the letters of field names. -/
def asciiCapitals : Casing Char where
  upper letter := [letter.toUpper]
  isUpper := Char.isUpper
  lower := Char.toLower

/-- The key of a field has the capitals of its small letters. -/
theorem snakeToCamel_ascii {name : String} (field : isFieldName name = true) :
    snakeToCamel name = String.ofList (asciiCapitals.camel '_' name.toList) := by
  unfold isFieldName at field
  have words := List.all_eq_true.mp (Bool.and_eq_true_iff.mp field).2
  unfold snakeToCamel
  congr 1
  refine Casing.camel_congr fun word member => ?_
  have begins := words word (List.mem_of_mem_tail member)
  cases word with
  | nil => cases begins
  | cons first rest =>
    show (PyText.upper (String.singleton first)).toList ++ rest = [first.toUpper] ++ rest
    rw [LawfulUpper.upper first begins, String.toList_singleton]

/-- The name whose capitals are the key of the renamed field. -/
theorem snakeToCamel_tirepressure :
    snakeToCamel "last_tirepressure_timestamp" = "lastTirepressureTimestamp" := by
  rw [snakeToCamel_ascii (by decide)]
  decide

/-- A name that a field of the message has; the renamed field has the name it is given only once. -/
def IsField (name : String) : Prop :=
  isFieldName name = true ∧ name ≠ "last_tirepressure_timestamp"

/-- **No two fields get the same key.** -/
theorem vsuKeyToLegacy_injective {one other : String} (field : IsField one) (too : IsField other)
    (same : vsuKeyToLegacy one = vsuKeyToLegacy other) : one = other := by
  have old : isFieldName "last_tirepressure_timestamp" = true := by decide
  rw [vsuKeyToLegacy_eq, vsuKeyToLegacy_eq, ← snakeToCamel_tirepressure] at same
  by_cases first : one = "tire_press_meas_timestamp"
  · by_cases second : other = "tire_press_meas_timestamp"
    · rw [first, second]
    · rw [if_pos first, if_neg second] at same
      exact absurd (snakeToCamel_injective old too.1 same).symm too.2
  · by_cases second : other = "tire_press_meas_timestamp"
    · rw [if_neg first, if_pos second] at same
      exact absurd (snakeToCamel_injective field.1 old same) field.2
    · rw [if_neg first, if_neg second] at same
      exact snakeToCamel_injective field.1 too.1 same

end Names

/-! ### Attributes keep their places -/

section Messages

variable [PyText] {readers : Readers}

/-- The item becomes this attribute. -/
def Becomes (readers : Readers) (item : String × PyValue) (legacyKey : String)
    (legacy : Dict PyValue) : Prop :=
  item.1 ∉ reserved ∧ normalizeAttribute readers item.1 item.2 = .ok (some (legacyKey, legacy))

theorem Becomes.key {item : String × PyValue} {legacyKey : String} {legacy : Dict PyValue}
    (becomes : Becomes readers item legacyKey legacy) : legacyKey = vsuKeyToLegacy item.1 := by
  obtain ⟨-, made⟩ := becomes
  unfold normalizeAttribute at made
  split at made
  · obtain ⟨parts, -, named⟩ := bind_eq_ok.mp made
    cases named
    rfl
  · cases made

theorem Becomes.unique {item : String × PyValue} {legacyKey : String} {one other : Dict PyValue}
    (becomes : Becomes readers item legacyKey one) (too : Becomes readers item legacyKey other) :
    one = other := by
  have same := becomes.2.symm.trans too.2
  simp only [Except.ok.injEq, Option.some.injEq, Prod.mk.injEq, true_and] at same
  exact same

/-- One round of the loop. -/
theorem normalizeItems_cons {item : String × PyValue} {rest : Dict PyValue}
    {attributes found : Dict (Dict PyValue)}
    (normalized : normalizeItems readers (item :: rest) attributes = .ok found) :
    (∃ legacyKey legacy, Becomes readers item legacyKey legacy ∧
        normalizeItems readers rest (attributes.set legacyKey legacy) = .ok found) ∨
      (∀ legacyKey legacy, ¬ Becomes readers item legacyKey legacy) ∧
        normalizeItems readers rest attributes = .ok found := by
  obtain ⟨key, raw⟩ := item
  unfold normalizeItems at normalized
  by_cases skipped : key ∈ reserved
  · rw [if_pos skipped] at normalized
    exact .inr ⟨fun _ _ becomes => becomes.1 skipped, normalized⟩
  · rw [if_neg skipped] at normalized
    obtain ⟨made, ends, next⟩ := bind_eq_ok.mp normalized
    cases made with
    | none =>
      refine .inr ⟨fun legacyKey legacy becomes => ?_, next⟩
      have other := ends.symm.trans becomes.2
      cases other
    | some pair => exact .inl ⟨pair.1, pair.2, ⟨skipped, ends⟩, next⟩

/-- What the loop leaves under a key: the attribute of an item, or what was there. -/
theorem get_normalizeItems {items : Dict PyValue} {attributes found : Dict (Dict PyValue)}
    (apart : items.Pairwise fun one other => vsuKeyToLegacy one.1 ≠ vsuKeyToLegacy other.1)
    (normalized : normalizeItems readers items attributes = .ok found) (legacyKey : String)
    (legacy : Dict PyValue) :
    found.get legacyKey = some legacy ↔
      (∃ item ∈ items, Becomes readers item legacyKey legacy) ∨
        attributes.get legacyKey = some legacy ∧
          ∀ item ∈ items, ∀ other, ¬ Becomes readers item legacyKey other := by
  induction items generalizing attributes with
  | nil =>
    cases normalized
    simp
  | cons item rest ih =>
    obtain ⟨first, others⟩ := List.pairwise_cons.mp apart
    rcases normalizeItems_cons normalized with ⟨key, made, becomes, next⟩ | ⟨never, next⟩
    · rw [ih others next]
      -- The items behind this one have other keys.
      have alone : ∀ later ∈ rest, ∀ other, ¬ Becomes readers later key other := by
        intro later member other again
        exact first later member (becomes.key.symm.trans again.key)
      by_cases here : legacyKey = key
      · subst here
        rw [Dict.get_set_self]
        constructor
        · rintro (⟨later, member, again⟩ | ⟨same, -⟩)
          · exact absurd again (alone later member legacy)
          · cases same
            exact .inl ⟨item, List.mem_cons_self, becomes⟩
        · rintro (⟨later, member, again⟩ | ⟨-, never⟩)
          · rcases List.mem_cons.mp member with rfl | member
            · rw [again.unique becomes]
              exact .inr ⟨rfl, alone⟩
            · exact .inl ⟨later, member, again⟩
          · exact absurd becomes (never item List.mem_cons_self made)
      · rw [Dict.get_set_ne _ _ here]
        have elsewhere : ∀ other, ¬ Becomes readers item legacyKey other :=
          fun other again => here (again.key.trans becomes.key.symm)
        simp only [List.mem_cons, exists_eq_or_imp, forall_eq_or_imp, elsewhere, not_false_eq_true,
          implies_true, true_and, false_or]
    · rw [ih others next]
      simp only [List.mem_cons, exists_eq_or_imp, forall_eq_or_imp, never, not_false_eq_true,
        implies_true, true_and, false_or]

theorem nodup_normalizeItems {items : Dict PyValue} {attributes found : Dict (Dict PyValue)}
    (once : (attributes.map Prod.fst).Nodup)
    (normalized : normalizeItems readers items attributes = .ok found) :
    (found.map Prod.fst).Nodup := by
  induction items generalizing attributes with
  | nil =>
    cases normalized
    exact once
  | cons item rest ih =>
    rcases normalizeItems_cons normalized with ⟨key, made, -, next⟩ | ⟨-, next⟩
    · exact ih (Dict.nodup_set once key made) next
    · exact ih once next

/-- The fields of a message. -/
structure Fields (vsuCar : Dict PyValue) : Prop where
  once : (vsuCar.map Prod.fst).Nodup
  named : ∀ key ∈ vsuCar.map Prod.fst, IsField key

/-- Two fields of a message have different keys. -/
theorem Fields.apart [LawfulUpper] {vsuCar : Dict PyValue} (fields : Fields vsuCar) :
    vsuCar.Pairwise fun one other => vsuKeyToLegacy one.1 ≠ vsuKeyToLegacy other.1 := by
  refine List.Pairwise.imp_of_mem ?_ (List.pairwise_map.mp fields.once)
  intro one other member again differ same
  refine differ (vsuKeyToLegacy_injective (fields.named one.1 ?_) (fields.named other.1 ?_) same)
  · exact List.mem_map_of_mem member
  · exact List.mem_map_of_mem again

theorem get_attributes [LawfulUpper] {vsuCar : Dict PyValue} (fields : Fields vsuCar)
    {found : Dict (Dict PyValue)} (normalized : normalizeItems readers vsuCar [] = .ok found)
    (legacyKey : String) (legacy : Dict PyValue) :
    found.get legacyKey = some legacy ↔
      ∃ item ∈ vsuCar, Becomes readers item legacyKey legacy := by
  rw [get_normalizeItems fields.apart normalized, Dict.get_nil]
  simp only [reduceCtorEq, false_and, or_false]

/-! ### What the messages are -/

/-- A time as the protobuf library writes it, in UTC; or nothing. -/
def IsTimestamp (value : Option PyValue) : Prop :=
  ∀ found, value = some found → ∃ text, found = .str text ∧ text.endsWith "Z" = true

/-- The name of an enum value, or the number of one that the library does not know; or nothing. -/
def IsEnum (value : Option PyValue) : Prop :=
  ∀ found, value = some found → (∃ name, found = .str name) ∨ ∃ number, found = .int number

/-- An attribute as the protobuf library writes it. -/
structure Typed (attr : Dict PyValue) : Prop where
  metadata : ∀ found, attr.get "metadata" = some found → ∃ metadata, found = .dict metadata ∧
    IsTimestamp (Dict.get metadata "timestamp") ∧ IsEnum (Dict.get metadata "status")
  unit : IsEnum (attr.get "unit")

/-- An item that is rewritten. -/
def isAttribute (item : String × PyValue) : Bool :=
  item.1 ∉ reserved &&
    match item.2 with
    | .dict _ => true
    | _ => false

/-- A time in UTC that is none makes the parser raise `ValueError`, and nothing else. -/
def Readers.Lawful (readers : Readers) : Prop :=
  ∀ text e, text.endsWith "Z" = true → readers.epochOf (withOffset text) = .error e →
    e = .other .value

theorem isoToEpochSeconds_returns (lawful : readers.Lawful) {value : Option PyValue}
    (timestamp : IsTimestamp value) :
    ∃ seconds, isoToEpochSeconds readers (value.getD .none) = .ok seconds := by
  unfold isoToEpochSeconds
  split
  · rename_i truthy
    cases value with
    | none => cases truthy
    | some found =>
      obtain ⟨iso, rfl, utc⟩ := timestamp found rfl
      simp only [Option.getD_some]
      cases epoch : readers.epochOf (withOffset iso) with
      | ok seconds => exact ⟨_, rfl⟩
      | error e => exact ⟨_, if_pos (lawful iso e utc epoch)⟩
  · exact ⟨_, rfl⟩

theorem lookUp_returns {α : Type} (table : Dict α) (default : α) {value : Option PyValue}
    (enum : IsEnum value) : ∃ found, lookUp table default (value.getD .none) = .ok found := by
  cases value with
  | none => exact ⟨_, rfl⟩
  | some found =>
    cases enum found rfl with
    | inl name =>
      obtain ⟨key, rfl⟩ := name
      exact ⟨_, rfl⟩
    | inr number =>
      obtain ⟨key, rfl⟩ := number
      exact ⟨_, rfl⟩

theorem legacyStatus_returns {value : Option PyValue} (enum : IsEnum value) :
    ∃ status, legacyStatus (value.getD .none) = .ok status := by
  unfold legacyStatus
  split
  · obtain ⟨found, looked⟩ := lookUp_returns statusToLegacy (value.getD .none) enum
    rw [looked]
    exact ⟨_, rfl⟩
  · exact ⟨_, rfl⟩

theorem legacyUnit_returns {value : Option PyValue} (enum : IsEnum value) :
    ∃ unit, legacyUnit (value.getD .none) = .ok unit := by
  unfold legacyUnit
  split
  · obtain ⟨found, looked⟩ := lookUp_returns unitToLegacyKey "unit" enum
    rw [looked]
    exact ⟨_, rfl⟩
  · exact ⟨_, rfl⟩

/-- The metadata that is read, of an attribute that the library wrote. -/
theorem Typed.metadataOf {attr : Dict PyValue} (typed : Typed attr) :
    ∃ metadata, orElse ((attr.get "metadata").getD .none) (.dict []) = .dict metadata ∧
      IsTimestamp (Dict.get metadata "timestamp") ∧ IsEnum (Dict.get metadata "status") := by
  have empty : ∃ metadata, PyValue.dict [] = .dict metadata ∧
      IsTimestamp (Dict.get metadata "timestamp") ∧ IsEnum (Dict.get metadata "status") :=
    ⟨[], rfl, nofun, nofun⟩
  cases given : attr.get "metadata" with
  | none => exact empty
  | some found =>
    obtain ⟨metadata, rfl, timestamp, status⟩ := typed.metadata found given
    unfold orElse
    split
    · exact ⟨metadata, rfl, timestamp, status⟩
    · exact empty

/-- **An attribute that the library wrote can be read.** -/
theorem partsOf_returns (lawful : readers.Lawful) (legacyKey : String) {attr : Dict PyValue}
    (typed : Typed attr) : ∃ parts, partsOf readers legacyKey attr = .ok parts := by
  obtain ⟨metadata, given, timestamp, status⟩ := typed.metadataOf
  obtain ⟨seconds, epoch⟩ := isoToEpochSeconds_returns lawful timestamp
  obtain ⟨found, stated⟩ := legacyStatus_returns status
  obtain ⟨unit, measured⟩ := legacyUnit_returns typed.unit
  refine ⟨_, bind_eq_ok.mpr ⟨_, ?_, bind_eq_ok.mpr ⟨_, epoch, bind_eq_ok.mpr ⟨_, ?_,
    bind_eq_ok.mpr ⟨_, stated, bind_eq_ok.mpr ⟨_, measured, rfl⟩⟩⟩⟩⟩⟩
  · rw [given]
    rfl
  · rw [given]
    rfl

/-- An attribute becomes one, unless it raises. -/
theorem becomes_of_parts {key : String} {attr : Dict PyValue} {parts : Parts}
    (read : partsOf readers (vsuKeyToLegacy key) attr = .ok parts) :
    normalizeAttribute readers key (.dict attr) =
      .ok (some (vsuKeyToLegacy key, legacyOf readers (vsuKeyToLegacy key) parts)) := by
  unfold normalizeAttribute
  exact bind_eq_ok.mpr ⟨parts, read, rfl⟩

theorem normalizeAttribute_returns (lawful : readers.Lawful) {item : String × PyValue}
    (typed : ∀ attr, item.2 = .dict attr → Typed attr) :
    ∃ made, normalizeAttribute readers item.1 item.2 = .ok made := by
  obtain ⟨key, raw⟩ := item
  cases raw with
  | dict attr =>
    obtain ⟨parts, read⟩ := partsOf_returns lawful (vsuKeyToLegacy key) (typed attr rfl)
    exact ⟨_, becomes_of_parts read⟩
  | none => exact ⟨_, rfl⟩
  | bool value => exact ⟨_, rfl⟩
  | int value => exact ⟨_, rfl⟩
  | float value => exact ⟨_, rfl⟩
  | str text => exact ⟨_, rfl⟩
  | list items => exact ⟨_, rfl⟩

theorem normalizeItems_returns (lawful : readers.Lawful) {items : Dict PyValue}
    (typed : ∀ item ∈ items, ∀ attr, item.2 = .dict attr → Typed attr)
    (attributes : Dict (Dict PyValue)) :
    ∃ found, normalizeItems readers items attributes = .ok found := by
  induction items generalizing attributes with
  | nil => exact ⟨_, rfl⟩
  | cons item rest ih =>
    obtain ⟨first, others⟩ := List.forall_mem_cons.mp typed
    obtain ⟨key, raw⟩ := item
    unfold normalizeItems
    split
    · exact ih others attributes
    · obtain ⟨made, ends⟩ := normalizeAttribute_returns lawful first
      simp only [ends]
      cases made with
      | none => exact ih others attributes
      | some pair => exact ih others (attributes.set pair.1 pair.2)

/-- **The message that is made.** -/
theorem normalizeVsuCar_eq {vsuCar : Dict PyValue} {attributes : Dict (Dict PyValue)}
    (normalized : normalizeItems readers vsuCar [] = .ok attributes) :
    normalizeVsuCar readers vsuCar = .ok
      [("vin", (vsuCar.get "fin_or_vin").getD .none),
        ("full_update", .bool ((vsuCar.get "full_update").getD (.bool false)).truthy),
        ("attributes", nested attributes)] := by
  unfold normalizeVsuCar
  rw [normalized]
  rfl

theorem Becomes.isAttribute {item : String × PyValue} {legacyKey : String} {legacy : Dict PyValue}
    (becomes : Becomes readers item legacyKey legacy) : isAttribute item = true := by
  obtain ⟨key, raw⟩ := item
  obtain ⟨free, made⟩ := becomes
  unfold normalizeAttribute at made
  split at made
  · rename_i same
    cases same
    exact Bool.and_eq_true_iff.mpr ⟨decide_eq_true free, rfl⟩
  · cases made

/-- An attribute that can be read becomes one. -/
theorem becomes_of_isAttribute {item : String × PyValue} (rewritten : isAttribute item = true)
    (reads : ∀ attr, item.2 = .dict attr →
      ∃ parts, partsOf readers (vsuKeyToLegacy item.1) attr = .ok parts) :
    ∃ legacy, Becomes readers item (vsuKeyToLegacy item.1) legacy := by
  obtain ⟨key, raw⟩ := item
  obtain ⟨free, kind⟩ := Bool.and_eq_true_iff.mp rewritten
  cases raw with
  | dict attr =>
    obtain ⟨parts, read⟩ := reads attr rfl
    exact ⟨_, of_decide_eq_true free, becomes_of_parts read⟩
  | none => cases kind
  | bool value => cases kind
  | int value => cases kind
  | float value => cases kind
  | str text => cases kind
  | list items => cases kind

end Messages

/-- **Every attribute of a message is rewritten, under a key of its own, and none is added**: no two
fields that are named as the library names them meet in one key, and what the library writes does
not make it raise. -/
theorem attributes_kept [PyText] [LawfulUpper] (readers : Readers) (lawful : readers.Lawful)
    (vsuCar : Dict PyValue) (fields : Fields vsuCar)
    (typed : ∀ item ∈ vsuCar, ∀ attr, item.2 = .dict attr → Typed attr) :
    ∃ update attributes, normalizeVsuCar readers vsuCar = .ok update ∧
      update.get "attributes" = some (nested attributes) ∧ (attributes.map Prod.fst).Nodup ∧
      (∀ item ∈ vsuCar, isAttribute item = true →
        ∃ legacy, attributes.get (vsuKeyToLegacy item.1) = some legacy ∧
          normalizeAttribute readers item.1 item.2 =
            .ok (some (vsuKeyToLegacy item.1, legacy))) ∧
      ∀ legacyKey legacy, attributes.get legacyKey = some legacy →
        ∃ item ∈ vsuCar, isAttribute item = true ∧ legacyKey = vsuKeyToLegacy item.1 ∧
          normalizeAttribute readers item.1 item.2 = .ok (some (legacyKey, legacy)) := by
  obtain ⟨attributes, normalized⟩ := normalizeItems_returns lawful typed []
  have once : (List.map Prod.fst ([] : Dict (Dict PyValue))).Nodup := List.nodup_nil
  refine ⟨_, attributes, normalizeVsuCar_eq normalized, rfl,
    nodup_normalizeItems once normalized, fun item member rewritten => ?_,
    fun legacyKey legacy found => ?_⟩
  · obtain ⟨legacy, becomes⟩ := becomes_of_isAttribute rewritten fun attr same =>
      partsOf_returns lawful (vsuKeyToLegacy item.1) (typed item member attr same)
    exact ⟨legacy, (get_attributes fields normalized _ _).mpr ⟨item, member, becomes⟩, becomes.2⟩
  · obtain ⟨item, member, becomes⟩ := (get_attributes fields normalized _ _).mp found
    exact ⟨item, member, becomes.isAttribute, becomes.key, becomes.2⟩

/-- Texts with capitals. -/
@[reducible] def capitalText : PyText where
  float _ := none
  int _ := none
  str _ := ""
  strip text := text
  lower text := text
  upper text := String.ofList (text.toList.map Char.toUpper)

theorem lawful_capitalText : @LawfulUpper capitalText :=
  letI := capitalText
  { upper := fun letter _ => by
      show String.ofList ((String.singleton letter).toList.map Char.toUpper) = _
      rw [String.toList_singleton]
      rfl }

/-- Readers that know one date. -/
def someReaders : Readers where
  epochOf text :=
    if text = "2026-01-01T00:00:00+00:00" then .ok 1767225600 else .error (.other .value)
  enumOf _ := none
  isNumeral _ := false

/-- The state of charge, whose time is known, and the time of the tire pressure. -/
def someVsuCar : Dict PyValue :=
  [("fin_or_vin", .str "VIN"),
    ("state_of_charge", .dict [("value", .int 80),
      ("metadata", .dict [("timestamp", .str "2026-01-01T00:00:00Z")])]),
    ("tire_press_meas_timestamp", .dict [("unit", .str "T24H")])]

theorem someReaders_lawful : someReaders.Lawful := by
  intro text e _ raises
  unfold someReaders at raises
  simp only at raises
  split at raises
  · cases raises
  · cases raises
    rfl

theorem fields_someVsuCar : Fields someVsuCar := by
  refine ⟨by decide, fun key member => ?_⟩
  have names : ∀ key ∈ someVsuCar.map Prod.fst,
      isFieldName key = true ∧ key ≠ "last_tirepressure_timestamp" := by decide
  exact names key member

theorem typed_someVsuCar : ∀ item ∈ someVsuCar, ∀ attr, item.2 = .dict attr → Typed attr := by
  unfold someVsuCar
  simp only [List.forall_mem_cons]
  refine ⟨nofun, ?_, ?_, nofun⟩
  · rintro attr ⟨rfl⟩
    refine ⟨?_, nofun⟩
    rintro found ⟨rfl⟩
    refine ⟨_, rfl, ?_, nofun⟩
    rintro text ⟨rfl⟩
    exact ⟨_, rfl, by decide +kernel⟩
  · rintro attr ⟨rfl⟩
    refine ⟨nofun, ?_⟩
    rintro name ⟨rfl⟩
    exact .inl ⟨_, rfl⟩

theorem someAttributes_kept : letI := capitalText
    ∃ update attributes, normalizeVsuCar someReaders someVsuCar = .ok update ∧
      update.get "attributes" = some (nested attributes) ∧ (attributes.map Prod.fst).Nodup ∧
      (∀ item ∈ someVsuCar, isAttribute item = true →
        ∃ legacy, attributes.get (vsuKeyToLegacy item.1) = some legacy ∧
          normalizeAttribute someReaders item.1 item.2 =
            .ok (some (vsuKeyToLegacy item.1, legacy))) ∧
      ∀ legacyKey legacy, attributes.get legacyKey = some legacy →
        ∃ item ∈ someVsuCar, isAttribute item = true ∧ legacyKey = vsuKeyToLegacy item.1 ∧
          normalizeAttribute someReaders item.1 item.2 = .ok (some (legacyKey, legacy)) :=
  @attributes_kept capitalText lawful_capitalText someReaders someReaders_lawful someVsuCar
    fields_someVsuCar typed_someVsuCar

end DbusEv.Vsu
