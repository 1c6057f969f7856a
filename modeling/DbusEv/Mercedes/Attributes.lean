/-
**What the decoder shows of a rewritten attribute** (`dbus_ev/mercedes/vendor/vsu_helper.py`,
`decoder.py`).

The rewriting puts the parts of an attribute where the handler without a rule of its own looks for
them.

* `Parts.shown` — what is shown, in terms of the attribute of the message.
* `get_base`, `get_legacyOf` — the rewritten attribute, key by key.
* `isEmpty_legacyOf` — it is empty if nothing is assigned: then the decoder takes the option for one
  that is not available.
* `handleGeneric_legacyOf` — the decoder shows it.
-/

import DbusEv.Decoder
import DbusEv.Mercedes.Normalization

set_option autoImplicit false
set_option linter.unusedSectionVars false

namespace DbusEv.Vsu

section Readings

variable [PyText] (readers : Readers)

/-! ### One attribute -/

/-- The units that the decoder looks at. -/
def knownUnits : List String :=
  ["distance_unit", "ratio_unit", "clock_hour_unit", "gas_consumption_unit", "pressure_unit",
    "electricity_consumption_unit", "combustion_consumption_unit", "speed_unit"]

namespace Parts

/-- Nothing of the attribute is assigned. -/
def isEmpty (parts : Parts) : Bool :=
  parts.epochSeconds.isNone && parts.status.isNone && parts.unit.isNone &&
    parts.displayValue.isNone && (notNone parts.value).isNone

/-- What an option without a handler of its own shows of the attribute. -/
def shown (parts : Parts) : Decoder.CarAttribute :=
  if parts.isEmpty then ⟨.int 0, .int 4, .int 0, .none, .none⟩
  else
    { value := ((notNone parts.value).map (enumValue readers)).getD (.int 0)
      retrievalstatus := parts.status.getD (.str "VALID")
      timestamp := (parts.epochSeconds.map textOf).getD (.int 0)
      displayValue := parts.displayValue.getD .none
      unit :=
        match parts.unit with
        | some (key, unit) => if key ∈ knownUnits then unit else .none
        | none => .none }

/-- The time that a merge compares. -/
def time (parts : Parts) : ℚ :=
  match parts.epochSeconds with
  | some seconds => (finite (textOf (seconds * 1000))).getD 0
  | none => 0

/-- The legacy attribute before its value. -/
def base (parts : Parts) : Dict PyValue :=
  let legacy := assign "timestamp" (parts.epochSeconds.map textOf) []
  let legacy := assign "timestamp_in_ms" (parts.epochSeconds.map fun s => textOf (s * 1000)) legacy
  let legacy := assign "status" parts.status legacy
  let legacy :=
    match parts.unit with
    | some (key, unit) => Dict.set legacy key unit
    | none => legacy
  assign "display_value" parts.displayValue legacy

/-- The unit is under a key for units. -/
def Measured (parts : Parts) : Prop :=
  ∀ key unit, parts.unit = some (key, unit) → key ∈ "unit" :: "temperature_unit" :: knownUnits

end Parts

variable {readers}

theorem legacyOf_eq (legacyKey : String) (parts : Parts) :
    legacyOf readers legacyKey parts =
      normalizeValue readers legacyKey parts.value parts.base := rfl

theorem get_assign (key : String) (value : Option PyValue) (legacy : Dict PyValue)
    (other : String) :
    Dict.get (assign key value legacy) other =
      if other = key then (value <|> legacy.get other) else legacy.get other := by
  unfold assign
  cases value with
  | none =>
    by_cases same : other = key
    · rw [if_pos same]
      rfl
    · rw [if_neg same]
  | some value =>
    by_cases same : other = key
    · subst same
      rw [if_pos rfl, Dict.get_set_self]
      rfl
    · rw [if_neg same, Dict.get_set_ne _ _ same]

/-- The keys for units are no others. -/
theorem unit_apart : ∀ key ∈ "unit" :: "temperature_unit" :: knownUnits,
    key ≠ "display_value" ∧ key ≠ "status" ∧ key ≠ "timestamp_in_ms" ∧ key ≠ "timestamp" := by
  decide

/-- What is under a key before the value is assigned. -/
theorem get_base {parts : Parts} (measured : parts.Measured) (key : String) :
    parts.base.get key =
      if key = "display_value" then parts.displayValue
      else if key = "status" then parts.status
      else if key = "timestamp_in_ms" then parts.epochSeconds.map fun s => textOf (s * 1000)
      else if key = "timestamp" then parts.epochSeconds.map textOf
      else (parts.unit.filter fun unit => unit.1 = key).map Prod.snd := by
  unfold Parts.base
  cases given : parts.unit with
  | none =>
    simp only [get_assign, Dict.get_nil]
    grind
  | some pair =>
    obtain ⟨name, unit⟩ := pair
    obtain ⟨display, status, millis, stamp⟩ := unit_apart name (measured name unit given)
    by_cases same : key = name
    · subst same
      simp only [get_assign, display, status, millis, stamp, if_false, Dict.get_set_self]
      simp
    · have other : name ≠ key := fun equal => same equal.symm
      simp only [get_assign, Dict.get_set_ne _ _ same, Dict.get_nil]
      simp [Option.filter, other]
      grind

theorem set_ne_nil {α : Type} (legacy : Dict α) (key : String) (value : α) :
    Dict.set legacy key value ≠ [] := by
  cases legacy with
  | nil => exact List.cons_ne_nil _ _
  | cons head rest =>
    unfold Dict.set
    split <;> exact List.cons_ne_nil _ _

theorem assign_eq_nil {key : String} {value : Option PyValue} {legacy : Dict PyValue} :
    assign key value legacy = [] ↔ value = none ∧ legacy = [] := by
  unfold assign
  cases value with
  | none => simp
  | some value => simp [set_ne_nil]

theorem normalizeScalarValue_ne_nil (value : PyValue) (legacy : Dict PyValue) :
    normalizeScalarValue readers value legacy ≠ [] := by
  unfold normalizeScalarValue
  simp only
  split
  · exact set_ne_nil _ _ _
  · exact set_ne_nil _ _ _
  · exact set_ne_nil _ _ _
  · split
    · exact set_ne_nil _ _ _
    · split <;> exact set_ne_nil _ _ _
  · exact set_ne_nil _ _ _

theorem normalizeValue_eq_nil {legacyKey : String} {value : PyValue} {legacy : Dict PyValue} :
    normalizeValue readers legacyKey value legacy = [] ↔ notNone value = none ∧ legacy = [] := by
  have some_ : ∀ value, notNone value ≠ none →
      normalizeValue readers legacyKey value legacy ≠ [] := by
    intro value given
    unfold normalizeValue
    split
    · exact absurd rfl given
    · exact set_ne_nil _ _ _
    · exact set_ne_nil _ _ _
    · exact normalizeScalarValue_ne_nil _ _
  cases given : notNone value with
  | none =>
    cases value with
    | none => simp [normalizeValue]
    | bool flag => cases given
    | int number => cases given
    | float number => cases given
    | str text => cases given
    | list items => cases given
    | dict items => cases given
  | some found =>
    simp only [reduceCtorEq, false_and, iff_false]
    exact some_ value (by rw [given]; exact Option.some_ne_none _)

/-- **An attribute is empty if nothing of it is assigned.** -/
theorem isEmpty_legacyOf (legacyKey : String) (parts : Parts) :
    (legacyOf readers legacyKey parts).isEmpty = parts.isEmpty := by
  have nil : legacyOf readers legacyKey parts = [] ↔ parts.isEmpty = true := by
    rw [legacyOf_eq, normalizeValue_eq_nil]
    unfold Parts.base Parts.isEmpty
    cases parts.unit with
    | none => simp [assign_eq_nil, Option.map_eq_none_iff]; tauto
    | some unit => simp [assign_eq_nil, set_ne_nil]
  rw [Bool.eq_iff_iff, List.isEmpty_iff, nil]

/-- The key's values stay where they are. -/
def IsPlain (legacyKey : String) : Prop :=
  nestedLists.get legacyKey = none ∧ nestedMessages.get legacyKey = none

/-- The keys of a value. -/
def valueKeys : List String := ["value", "int_value", "double_value", "bool_value"]

theorem normalizeScalarValue_value (value : PyValue) (legacy : Dict PyValue) :
    (normalizeScalarValue readers value legacy).get "value" = some (enumValue readers value) := by
  unfold normalizeScalarValue
  simp only
  split
  all_goals simp [*]
  split
  · simp
  · split <;> simp

theorem normalizeScalarValue_other (value : PyValue) (legacy : Dict PyValue) {key : String}
    (other : key ∉ valueKeys) :
    (normalizeScalarValue readers value legacy).get key = legacy.get key := by
  simp only [valueKeys, List.mem_cons, List.not_mem_nil, or_false, not_or] at other
  obtain ⟨value_, int_, double_, bool_⟩ := other
  unfold normalizeScalarValue
  simp only
  split
  all_goals simp [*]
  split
  · simp [*]
  · split <;> simp [*]

theorem normalizeValue_plain {legacyKey : String} (plain : IsPlain legacyKey) (value : PyValue)
    (legacy : Dict PyValue) : normalizeValue readers legacyKey value legacy =
      if (notNone value).isSome then normalizeScalarValue readers value legacy else legacy := by
  unfold normalizeValue
  rw [plain.1, plain.2]
  cases value <;> rfl

/-- The keys under which nested values are put. -/
def nestedKeys : List String := nestedLists.map (·.2.1) ++ nestedMessages.map (·.2)

theorem normalizeValue_other (legacyKey : String) (value : PyValue) (legacy : Dict PyValue)
    {key : String} (other : key ∉ valueKeys) (apart : key ∉ nestedKeys) :
    (normalizeValue readers legacyKey value legacy).get key = legacy.get key := by
  unfold normalizeValue
  split
  · rfl
  · rename_i field name listed
    have member : field ∈ nestedKeys :=
      List.mem_append_left _ (List.mem_map.mpr ⟨_, Dict.mem_of_get listed, rfl⟩)
    exact Dict.get_set_ne _ _ fun same => apart (same ▸ member)
  · rename_i field listed
    have member : field ∈ nestedKeys :=
      List.mem_append_right _ (List.mem_map.mpr ⟨_, Dict.mem_of_get listed, rfl⟩)
    exact Dict.get_set_ne _ _ fun same => apart (same ▸ member)
  · exact normalizeScalarValue_other _ _ other

/-- Apart from the value, an attribute is what it was before it. -/
theorem get_legacyOf (legacyKey : String) (parts : Parts) {key : String} (other : key ∉ valueKeys)
    (apart : key ∉ nestedKeys) :
    (legacyOf readers legacyKey parts).get key = parts.base.get key := by
  rw [legacyOf_eq, normalizeValue_other _ _ _ other apart]

/-- The value that is read first. -/
theorem value_legacyOf {legacyKey : String} (plain : IsPlain legacyKey) {parts : Parts}
    (measured : parts.Measured) :
    Decoder.firstOf (legacyOf readers legacyKey parts)
        ["value", "int_value", "double_value", "bool_value"] (.int 0) =
      ((notNone parts.value).map (enumValue readers)).getD (.int 0) := by
  have absent : ∀ key ∈ valueKeys, parts.base.get key = none := by
    intro key member
    have names : ∀ key ∈ valueKeys, key ∉ "unit" :: "temperature_unit" :: knownUnits := by decide
    have others : ∀ key ∈ valueKeys, key ≠ "display_value" ∧ key ≠ "status" ∧
        key ≠ "timestamp_in_ms" ∧ key ≠ "timestamp" := by decide
    obtain ⟨display, status, millis, stamp⟩ := others key member
    rw [get_base measured, if_neg display, if_neg status, if_neg millis, if_neg stamp]
    cases given : parts.unit with
    | none => rfl
    | some pair =>
      have differ : pair.1 ≠ key := fun same =>
        names key member (same ▸ measured pair.1 pair.2 given)
      simp [Option.filter, differ]
  unfold Decoder.firstOf
  rw [legacyOf_eq, normalizeValue_plain plain]
  cases given : notNone parts.value with
  | none =>
    have nowhere : valueKeys.findSome? parts.base.get = none :=
      List.findSome?_eq_none_iff.mpr absent
    simp only [Option.isSome_none, Bool.false_eq_true, if_false]
    rw [show ["value", "int_value", "double_value", "bool_value"].findSome? parts.base.get = none
      from nowhere]
    rfl
  | some value =>
    have same : parts.value = value := by
      cases held : parts.value <;> rw [held] at given <;> cases given <;> rfl
    simp only [Option.isSome_some, if_true]
    rw [List.findSome?_cons, normalizeScalarValue_value, same]
    rfl

/-- The unit that is read first, among those the decoder looks at. -/
theorem unit_legacyOf (legacyKey : String) {parts : Parts} (measured : parts.Measured) :
    Decoder.firstOf (legacyOf readers legacyKey parts) knownUnits .none =
      match parts.unit with
      | some (key, unit) => if key ∈ knownUnits then unit else .none
      | none => .none := by
  have names : ∀ key ∈ knownUnits, key ∉ valueKeys ∧ key ∉ nestedKeys := by decide
  have found : ∀ keys : List String, keys ⊆ knownUnits →
      keys.findSome? (legacyOf readers legacyKey parts).get =
        (parts.unit.filter fun unit => unit.1 ∈ keys).map Prod.snd := by
    intro keys known
    induction keys with
    | nil => cases parts.unit <;> rfl
    | cons key rest ih =>
      obtain ⟨here, there⟩ := List.cons_subset.mp known
      obtain ⟨display, status, millis, stamp⟩ :=
        unit_apart key (List.mem_cons_of_mem _ (List.mem_cons_of_mem _ here))
      rw [List.findSome?_cons, ih there,
        get_legacyOf legacyKey parts (names key here).1 (names key here).2, get_base measured,
        if_neg display, if_neg status, if_neg millis, if_neg stamp]
      cases parts.unit with
      | none => rfl
      | some pair =>
        by_cases same : pair.1 = key
        · simp [Option.filter, same]
        · simp [Option.filter, same]
  unfold Decoder.firstOf
  rw [found knownUnits (List.Subset.refl _)]
  cases parts.unit with
  | none => rfl
  | some pair =>
    by_cases known : pair.1 ∈ knownUnits
    · simp [Option.filter, known]
    · simp [Option.filter, known]

/-- **What an option without a handler of its own shows.** -/
theorem handleGeneric_legacyOf {attributes : Decoder.Attributes} {legacyKey : String}
    {parts : Parts} (plain : IsPlain legacyKey) (measured : parts.Measured)
    (held : attributes.get legacyKey = some (legacyOf readers legacyKey parts)) :
    Decoder.handleGeneric attributes legacyKey = parts.shown readers := by
  have status : (legacyOf readers legacyKey parts).get "status" = parts.status := by
    rw [get_legacyOf legacyKey parts (by decide) (by decide), get_base measured]
    rfl
  have stamp : (legacyOf readers legacyKey parts).get "timestamp" =
      parts.epochSeconds.map textOf := by
    rw [get_legacyOf legacyKey parts (by decide) (by decide), get_base measured]
    rfl
  have display : (legacyOf readers legacyKey parts).get "display_value" = parts.displayValue := by
    rw [get_legacyOf legacyKey parts (by decide) (by decide), get_base measured]
    rfl
  unfold Decoder.handleGeneric Decoder.attributeOf Parts.shown
  rw [held, Option.getD_some]
  simp only
  rw [isEmpty_legacyOf]
  by_cases empty : parts.isEmpty = true
  · rw [if_pos empty, if_pos empty]
  · rw [if_neg empty, if_neg empty, value_legacyOf plain measured]
    unfold Decoder.statusOf Decoder.stampOf Decoder.displayOf
    rw [status, stamp, display]
    congr 1
    exact unit_legacyOf legacyKey measured

/-- **A field that never arrived** is shown as not available. -/
theorem handleGeneric_absent {attributes : Decoder.Attributes} {legacyKey : String}
    (absent : attributes.get legacyKey = none) :
    Decoder.handleGeneric attributes legacyKey = ⟨.int 0, .int 4, .int 0, .none, .none⟩ := by
  unfold Decoder.handleGeneric Decoder.attributeOf
  rw [absent]
  rfl

/-- Every entry of the table of units is a key for units. -/
theorem mem_unitToLegacyKey : ∀ item ∈ unitToLegacyKey,
    item.2 ∈ "unit" :: "temperature_unit" :: knownUnits := by
  decide

theorem lookUp_unit {unit : PyValue} {key : String}
    (looked : lookUp unitToLegacyKey "unit" unit = .ok key) :
    key ∈ "unit" :: "temperature_unit" :: knownUnits := by
  unfold lookUp at looked
  split at looked
  · rename_i text
    cases listed : unitToLegacyKey.get text with
    | none =>
      rw [listed] at looked
      cases looked
      exact List.mem_cons_self
    | some name =>
      rw [listed] at looked
      cases looked
      exact mem_unitToLegacyKey _ (Dict.mem_of_get listed)
  · cases looked
  · cases looked
  · cases looked
    exact List.mem_cons_self

/-- The unit that is read is under a key for units. -/
theorem measured_of_partsOf {legacyKey : String} {attr : Dict PyValue} {parts : Parts}
    (read : partsOf readers legacyKey attr = .ok parts) : parts.Measured := by
  obtain ⟨_, -, read⟩ := bind_eq_ok.mp read
  obtain ⟨_, -, read⟩ := bind_eq_ok.mp read
  obtain ⟨_, -, read⟩ := bind_eq_ok.mp read
  obtain ⟨_, -, read⟩ := bind_eq_ok.mp read
  obtain ⟨unit, measures, read⟩ := bind_eq_ok.mp read
  cases read
  rintro key found rfl
  unfold legacyUnit at measures
  split at measures
  · cases looked : lookUp unitToLegacyKey "unit" ((attr.get "unit").getD .none) with
    | error e =>
      rw [looked] at measures
      cases measures
    | ok name =>
      rw [looked] at measures
      cases measures
      exact lookUp_unit looked
  · cases measures

end Readings

end DbusEv.Vsu
