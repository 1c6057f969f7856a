/-
**From the messages of the new stream to the published snapshot.**

A message is rewritten (`normalize_vsu_car`), merged into the session's buffer (`Protocol.merge`),
decoded (`_build_car`) and projected (`vehicle_snapshot`). What comes out is read off the messages
themselves.

* `newest` — the attribute of a field that counts: the last of the newest ones that arrived since
  the last full message (`get_receiveAll`).
* `direct` — a car that is read off the messages, without any of the four steps.
* `maxSoc_limitIn` — the target is the limit of the programme that is selected.
* `stream_shown` — the snapshot that is published is that of this car, or the decoder raises.
-/

import DbusEv.Mercedes.Attributes
import DbusEv.Mercedes.ChargingStatus
import DbusEv.Mercedes.Merge

set_option autoImplicit false
set_option linter.unusedSectionVars false

namespace DbusEv.Vsu

open Mercedes (Exn Protocol Payload)

section Readings

variable [PyText] {readers : Readers}

/-! ### The attribute of a field that counts -/

variable (readers) in
/-- The parts of a field of a message. -/
def partsIn (field : String) (vsuCar : Dict PyValue) : Option Parts :=
  match vsuCar.get field with
  | some (.dict attr) => (partsOf readers (vsuKeyToLegacy field) attr).toOption
  | _ => none

variable (readers) in
/-- A message arrives: `normalize_vsu_car` and `merge`. -/
def receive (protocol : Protocol) (wall : ℚ) (vsuCar : Dict PyValue) :
    Except Exn (Protocol × Option Payload) :=
  (normalizeVsuCar readers vsuCar).map (protocol.merge wall)

/-- The message replaces what was buffered. -/
def isReset (vsuCar : Dict PyValue) : Bool :=
  ((vsuCar.get "full_update").getD (.bool false)).truthy && vsuCar.any isAttribute

/-- The messages since the last one that replaced the buffer. -/
def recent (messages : List (Dict PyValue)) : List (Dict PyValue) :=
  messages.foldl (fun kept vsuCar => if isReset vsuCar then [vsuCar] else kept ++ [vsuCar]) []

variable (readers) in
/-- The last of the newest attributes of a field. -/
def newest (field : String) (messages : List (Dict PyValue)) : Option Parts :=
  latest Parts.time ((recent messages).filterMap (partsIn readers field))

variable (readers) in
/-- The buffer of a session that receives these messages, each with its wall time. -/
def receiveAll (protocol : Protocol) (messages : List (ℚ × Dict PyValue)) : Protocol :=
  messages.foldl (fun protocol message =>
    match receive readers protocol message.1 message.2 with
    | .ok (protocol, _) => protocol
    | .error _ => protocol) protocol

variable (readers) in
/-- A message as the library writes it; its times are not before 1970. -/
structure Proper (vsuCar : Dict PyValue) : Prop where
  fields : Fields vsuCar
  typed : ∀ item ∈ vsuCar, ∀ attr, item.2 = .dict attr → Typed attr
  dated : ∀ field parts, partsIn readers field vsuCar = some parts →
    ∀ seconds, parts.epochSeconds = some seconds → 0 ≤ seconds

theorem recent_concat (messages : List (Dict PyValue)) (vsuCar : Dict PyValue) :
    recent (messages ++ [vsuCar]) =
      if isReset vsuCar then [vsuCar] else recent messages ++ [vsuCar] := by
  unfold recent
  rw [List.foldl_append]
  rfl

theorem recent_subset (messages : List (Dict PyValue)) : recent messages ⊆ messages := by
  induction messages using List.reverseRecOn with
  | nil => exact List.Subset.refl _
  | append_singleton earlier last ih =>
    rw [recent_concat]
    split
    · exact List.subset_append_right _ _
    · exact List.append_subset.mpr
        ⟨List.Subset.trans ih (List.subset_append_left _ _), List.subset_append_right _ _⟩

/-- The field of a name: the item of a message with that name. -/
theorem get_iff_mem {vsuCar : Dict PyValue} (once : (vsuCar.map Prod.fst).Nodup) (field : String)
    (value : PyValue) : vsuCar.get field = some value ↔ (field, value) ∈ vsuCar := by
  refine ⟨Dict.mem_of_get, fun member => ?_⟩
  induction vsuCar with
  | nil => cases member
  | cons head rest ih =>
    rw [List.map_cons, List.nodup_cons] at once
    rw [Dict.get_cons]
    rcases List.mem_cons.mp member with rfl | later
    · rw [if_pos rfl]
    · have differ : field ≠ head.1 := fun same =>
        once.1 (same ▸ List.mem_map_of_mem later)
      rw [if_neg differ]
      exact ih once.2 later

/-- The time of an attribute that is merged. -/
theorem timestamp_legacyOf (legacyKey : String) {parts : Parts} (measured : parts.Measured) :
    Mercedes.timestamp (legacyOf readers legacyKey parts) = parts.time := by
  unfold Mercedes.timestamp Parts.time
  rw [get_legacyOf legacyKey parts (by decide) (by decide), get_base measured]
  cases parts.epochSeconds with
  | none => simp [finite, toFloat, PyFloat.ofRat]
  | some seconds => rfl

theorem measured_of_partsIn {field : String} {vsuCar : Dict PyValue} {parts : Parts}
    (read : partsIn readers field vsuCar = some parts) : parts.Measured := by
  unfold partsIn at read
  split at read
  · cases reads : partsOf readers (vsuKeyToLegacy field) _ with
    | error e =>
      rw [reads] at read
      cases read
    | ok parts' =>
      rw [reads] at read
      cases read
      exact measured_of_partsOf reads
  · cases read

/-- A time from 1970 on. -/
theorem time_nonneg [LawfulText] {parts : Parts}
    (dated : ∀ seconds, parts.epochSeconds = some seconds → 0 ≤ seconds) : 0 ≤ parts.time := by
  unfold Parts.time
  cases epoch : parts.epochSeconds with
  | none => exact le_refl _
  | some seconds =>
    have later := dated seconds epoch
    simp only [textOf, finite, toFloat, LawfulText.str_int]
    cases reads : PyText.float (seconds * 1000).repr with
    | none => exact le_refl _
    | some number =>
      have value := LawfulText.float_int _ (seconds * 1000) number (LawfulText.strip_int _) reads
      cases number with
      | finite x => exact PyFloat.nonneg_of_ofRat value.symm (by exact_mod_cast by omega)
      | inf negative => exact le_refl _
      | nan => exact le_refl _

section Buffer

variable [LawfulUpper]

/-- **The attribute of a field** in the rewritten message. -/
theorem get_normalized {vsuCar : Dict PyValue} (fields : Fields vsuCar)
    {attributes : Dict (Dict PyValue)}
    (normalized : normalizeItems readers vsuCar [] = .ok attributes) {field : String}
    (named : IsField field) (free : field ∉ reserved) :
    attributes.get (vsuKeyToLegacy field) =
      (partsIn readers field vsuCar).map (legacyOf readers (vsuKeyToLegacy field)) := by
  ext legacy
  rw [get_attributes fields normalized, Option.map_eq_some_iff]
  constructor
  · rintro ⟨⟨key, raw⟩, member, becomes⟩
    have same : field = key := vsuKeyToLegacy_injective named
      (fields.named key (List.mem_map_of_mem member)) becomes.key
    subst same
    have held := (get_iff_mem fields.once field raw).mpr member
    obtain ⟨-, made⟩ := becomes
    unfold partsIn
    rw [held]
    unfold normalizeAttribute at made
    split at made
    · rename_i attr same
      cases same
      obtain ⟨parts, read, named⟩ := bind_eq_ok.mp made
      cases named
      refine ⟨parts, ?_, rfl⟩
      show (partsOf readers (vsuKeyToLegacy field) attr).toOption = some parts
      rw [read]
      rfl
    · cases made
  · rintro ⟨parts, read, rfl⟩
    unfold partsIn at read
    split at read
    · rename_i attr held
      refine ⟨(field, .dict attr), (get_iff_mem fields.once _ _).mp held, free, ?_⟩
      cases reads : partsOf readers (vsuKeyToLegacy field) attr with
      | error e =>
        rw [reads] at read
        cases read
      | ok parts' =>
        rw [reads] at read
        cases read
        exact becomes_of_parts reads
    · cases read

/-- The entries of the message that is made. -/
theorem entriesOf_nested {update : Dict PyValue} {attributes : Dict (Dict PyValue)}
    (made : update.get "attributes" = some (nested attributes)) :
    Mercedes.entriesOf update = attributes := by
  have objects : (attributes.map fun item => (item.1, PyValue.dict item.2)).filterMap
      Mercedes.entryOf = attributes := by
    rw [List.filterMap_map]
    exact List.filterMap_some
  unfold Mercedes.entriesOf Mercedes.incomingOf
  rw [made]
  unfold nested
  simp only [List.isEmpty_map]
  cases attributes with
  | nil => rfl
  | cons head rest =>
    simp only [List.isEmpty_cons, Bool.false_eq_true, if_false, Option.getD_some]
    exact objects

/-- The message that is made has attributes if one of its items is rewritten. -/
theorem isEmpty_normalized {vsuCar : Dict PyValue} (proper : Proper readers vsuCar)
    (lawful : readers.Lawful) {attributes : Dict (Dict PyValue)}
    (normalized : normalizeItems readers vsuCar [] = .ok attributes) :
    attributes.isEmpty = !vsuCar.any isAttribute := by
  rw [Bool.eq_iff_iff, Bool.not_eq_true', ← Bool.not_eq_true, List.any_eq_true, List.isEmpty_iff]
  constructor
  · rintro rfl ⟨item, member, rewritten⟩
    obtain ⟨legacy, becomes⟩ := becomes_of_isAttribute rewritten fun attr same =>
      partsOf_returns lawful (vsuKeyToLegacy item.1) (proper.typed item member attr same)
    cases (get_attributes proper.fields normalized _ _).mpr ⟨item, member, becomes⟩
  · intro none
    cases attributes with
    | nil => rfl
    | cons head rest =>
      have held : Dict.get (head :: rest) head.1 = some head.2 := by
        rw [Dict.get_cons, if_pos rfl]
      obtain ⟨item, member, becomes⟩ := (get_attributes proper.fields normalized _ _).mp held
      exact absurd ⟨item, member, becomes.isAttribute⟩ none

/-- The attributes of a message in the old shape. -/
theorem exists_normalized {vsuCar : Dict PyValue} (proper : Proper readers vsuCar)
    (lawful : readers.Lawful) :
    ∃ attributes, normalizeItems readers vsuCar [] = .ok attributes :=
  normalizeItems_returns lawful proper.typed []

variable (readers) in
/-- The attributes of a message in the old shape. -/
def entriesIn (vsuCar : Dict PyValue) : List (String × Mercedes.Attribute) :=
  (normalizeItems readers vsuCar []).toOption.getD []

/-- **One message** replaces the buffer, or is merged into it. -/
theorem receive_attributes (protocol : Protocol) (wall : ℚ) {vsuCar : Dict PyValue}
    (proper : Proper readers vsuCar) (lawful : readers.Lawful) :
    ∃ protocol' payload, receive readers protocol wall vsuCar = .ok (protocol', payload) ∧
      protocol'.attributes = (entriesIn readers vsuCar).foldl Mercedes.put
        (if isReset vsuCar then [] else protocol.attributes) ∧
      (payload.isSome = true → payload.map (·.attributes) = some protocol'.attributes) := by
  obtain ⟨attributes, normalized⟩ := exists_normalized proper lawful
  have entries : entriesIn readers vsuCar = attributes := by
    unfold entriesIn
    rw [normalized]
    rfl
  have empty := isEmpty_normalized proper lawful normalized
  unfold receive
  rw [normalizeVsuCar_eq normalized, entries]
  generalize made : ([("vin", (vsuCar.get "fin_or_vin").getD .none),
    ("full_update", .bool ((vsuCar.get "full_update").getD (.bool false)).truthy),
    ("attributes", nested attributes)] : Dict PyValue) = update
  have under : Dict.get update "attributes" = some (nested attributes) := by
    rw [← made]
    rfl
  have full : Mercedes.isFullUpdate update =
      ((vsuCar.get "full_update").getD (.bool false)).truthy := by
    rw [← made]
    rfl
  refine ⟨(protocol.merge wall update).1, (protocol.merge wall update).2, rfl, ?_, fun given => ?_⟩
  · have objects := entriesOf_nested under
    unfold Mercedes.entriesOf at objects
    cases taken : Mercedes.incomingOf update with
    | none =>
      rw [taken] at objects
      have nothing : attributes = [] := objects.symm
      subst nothing
      have kept : isReset vsuCar = false := by
        unfold isReset
        rw [← Bool.not_eq_eq_eq_not.mpr empty, List.isEmpty_nil, Bool.not_true, Bool.and_false]
      rw [Protocol.merge_none taken, kept]
      rfl
    | some incoming =>
      rw [taken] at objects
      have filled : attributes.isEmpty = false := by
        unfold Mercedes.incomingOf at taken
        rw [under] at taken
        simp only [nested, List.isEmpty_map] at taken
        cases attributes with
        | nil => cases taken
        | cons head rest => rfl
      have reset : isReset vsuCar = Mercedes.isFullUpdate update := by
        unfold isReset
        rw [full, ← Bool.not_eq_eq_eq_not.mpr empty, filled, Bool.not_false, Bool.and_true]
      rw [Protocol.merge_some taken, reset]
      show Mercedes.mergeItems (protocol.resetBy update).attributes incoming = _
      rw [Mercedes.mergeItems_entries, show incoming.filterMap Mercedes.entryOf = attributes
        from objects]
      congr 1
      unfold Protocol.resetBy
      split <;> rfl
  · cases taken : Mercedes.incomingOf update with
    | none =>
      rw [Protocol.merge_none taken] at given
      cases given
    | some incoming =>
      rw [Protocol.merge_some taken]
      rfl

/-- **The buffer**: the entries of the messages since the last one that replaced it. -/
theorem receiveAll_attributes {protocol : Protocol} (empty : protocol.attributes = [])
    (lawful : readers.Lawful) (messages : List (ℚ × Dict PyValue))
    (proper : ∀ message ∈ messages, Proper readers message.2) :
    (receiveAll readers protocol messages).attributes =
      ((recent (messages.map Prod.snd)).flatMap (entriesIn readers)).foldl Mercedes.put [] := by
  induction messages using List.reverseRecOn with
  | nil => exact empty
  | append_singleton earlier last ih =>
    obtain ⟨before, now⟩ := List.forall_mem_append.mp proper
    obtain ⟨protocol', payload, received, attributes, -⟩ := receive_attributes
      (receiveAll readers protocol earlier) last.1 (now last List.mem_cons_self) lawful
    have step : receiveAll readers protocol (earlier ++ [last]) = protocol' := by
      unfold receiveAll at received ⊢
      rw [List.foldl_append, List.foldl_cons, List.foldl_nil, received]
    rw [step, attributes, List.map_append, List.map_singleton, recent_concat]
    split
    · rw [List.flatMap_singleton]
    · rw [List.flatMap_append, List.flatMap_singleton, List.foldl_append, ih before]

/-- The values under a key, where no key comes twice. -/
theorem filterMap_key {α : Type} {entries : List (String × α)}
    (once : (entries.map Prod.fst).Nodup) (key : String) :
    (entries.filterMap fun entry => if entry.1 = key then some entry.2 else none) =
      (Dict.get entries key).toList := by
  induction entries with
  | nil => rfl
  | cons head rest ih =>
    rw [List.map_cons, List.nodup_cons] at once
    rw [List.filterMap_cons, Dict.get_cons, ih once.2]
    by_cases same : head.1 = key
    · have none : Dict.get rest key = none := by
        cases held : Dict.get rest key with
        | none => rfl
        | some value => exact absurd (same ▸ List.mem_map_of_mem (Dict.mem_of_get held)) once.1
      rw [if_pos same, if_pos same.symm, none]
      rfl
    · rw [if_neg same, if_neg fun equal => same equal.symm]

theorem entriesIn_eq {vsuCar : Dict PyValue} {attributes : Dict (Dict PyValue)}
    (normalized : normalizeItems readers vsuCar [] = .ok attributes) :
    entriesIn readers vsuCar = attributes := by
  unfold entriesIn
  rw [normalized]
  rfl

theorem nodup_entriesIn {vsuCar : Dict PyValue} (proper : Proper readers vsuCar)
    (lawful : readers.Lawful) : ((entriesIn readers vsuCar).map Prod.fst).Nodup := by
  obtain ⟨attributes, normalized⟩ := exists_normalized proper lawful
  have once : (List.map Prod.fst ([] : Dict (Dict PyValue))).Nodup := List.nodup_nil
  rw [entriesIn_eq normalized]
  exact nodup_normalizeItems once normalized

/-- An entry of a message is the attribute of one of its fields. -/
theorem parts_of_entry {vsuCar : Dict PyValue} (proper : Proper readers vsuCar)
    (lawful : readers.Lawful) {entry : String × Mercedes.Attribute}
    (member : entry ∈ entriesIn readers vsuCar) :
    ∃ field parts, partsIn readers field vsuCar = some parts ∧
      entry.2 = legacyOf readers (vsuKeyToLegacy field) parts := by
  obtain ⟨attributes, normalized⟩ := exists_normalized proper lawful
  have once := nodup_entriesIn proper lawful
  rw [entriesIn_eq normalized] at member once
  have held : Dict.get attributes entry.1 = some entry.2 := by
    have listed := filterMap_key once entry.1
    have inside : entry.2 ∈ attributes.filterMap fun other =>
        if other.1 = entry.1 then some other.2 else none :=
      List.mem_filterMap.mpr ⟨entry, member, if_pos rfl⟩
    rw [listed, Option.mem_toList] at inside
    exact inside
  obtain ⟨item, there, becomes⟩ := (get_attributes proper.fields normalized _ _).mp held
  have named := proper.fields.named item.1 (List.mem_map_of_mem there)
  rw [becomes.key, get_normalized proper.fields normalized named becomes.1,
    Option.map_eq_some_iff] at held
  obtain ⟨parts, read, same⟩ := held
  exact ⟨item.1, parts, read, same.symm⟩

/-- **The buffered attribute of a field** is its last newest one since the buffer was replaced. -/
theorem get_receiveAll [LawfulText] {protocol : Protocol} (empty : protocol.attributes = [])
    (lawful : readers.Lawful) (messages : List (ℚ × Dict PyValue))
    (proper : ∀ message ∈ messages, Proper readers message.2) {field : String}
    (named : IsField field) (free : field ∉ reserved) :
    (receiveAll readers protocol messages).attributes.get (vsuKeyToLegacy field) =
      (newest readers field (messages.map Prod.snd)).map
        (legacyOf readers (vsuKeyToLegacy field)) := by
  have each : ∀ vsuCar ∈ recent (messages.map Prod.snd), Proper readers vsuCar := by
    intro vsuCar member
    obtain ⟨message, there, same⟩ := List.mem_map.mp (recent_subset _ member)
    exact same ▸ proper message there
  have dated : ∀ entry ∈ (recent (messages.map Prod.snd)).flatMap (entriesIn readers),
      0 ≤ Mercedes.timestamp entry.2 := by
    intro entry member
    obtain ⟨vsuCar, there, inside⟩ := List.mem_flatMap.mp member
    obtain ⟨field, parts, read, same⟩ := parts_of_entry (each vsuCar there) lawful inside
    rw [same, timestamp_legacyOf _ (measured_of_partsIn read)]
    exact time_nonneg ((each vsuCar there).dated field parts read)
  rw [receiveAll_attributes empty lawful messages proper, Mercedes.get_foldl_put [] _ dated]
  unfold Mercedes.candidates newest
  rw [Dict.get_nil, Option.toList_none, List.nil_append]
  generalize recent (messages.map Prod.snd) = kept at each
  -- One message has one attribute for the field, or none.
  have values : (kept.flatMap (entriesIn readers)).filterMap
        (fun entry => if entry.1 = vsuKeyToLegacy field then some entry.2 else none) =
      (kept.filterMap (partsIn readers field)).map (legacyOf readers (vsuKeyToLegacy field)) := by
    clear dated
    induction kept with
    | nil => rfl
    | cons vsuCar rest ih =>
      obtain ⟨here, there⟩ := List.forall_mem_cons.mp each
      obtain ⟨attributes, normalized⟩ := exists_normalized here lawful
      have once := nodup_entriesIn here lawful
      rw [entriesIn_eq normalized] at once
      rw [List.flatMap_cons, List.filterMap_append, ih there, entriesIn_eq normalized,
        filterMap_key once, get_normalized here.fields normalized named free, List.filterMap_cons]
      cases partsIn readers field vsuCar <;> rfl
  rw [values, latest_map]
  have times : ∀ parts ∈ kept.filterMap (partsIn readers field),
      Mercedes.timestamp (legacyOf readers (vsuKeyToLegacy field) parts) = parts.time := by
    intro parts member
    obtain ⟨vsuCar, -, read⟩ := List.mem_filterMap.mp member
    exact timestamp_legacyOf _ (measured_of_partsIn read)
  rw [latest_congr_stamp times]

end Buffer

/-! ### The car -/

/-- The parts of a car by their names. -/
def sectionNames : Dict Decoder.Section :=
  [("odometer", .odometer), ("tires", .tires), ("wipers", .wipers), ("doors", .doors),
    ("location", .location), ("binarysensors", .binarysensors), ("windows", .windows),
    ("electric", .electric), ("auxheat", .auxheat), ("precond", .precond),
    ("caralarm", .caralarm)]

/-- What the projection sees of an attribute. -/
def seen (attr : Decoder.CarAttribute) : Mercedes.CarAttribute :=
  ⟨attr.value, attr.retrievalstatus, some attr.unit⟩

/-- `getattr(getattr(car, group, None), field, None)`. -/
def viewOf (car : Decoder.Car) : Mercedes.Car := fun group option =>
  (sectionNames.get group).bind fun part => (car.value part option).map seen

/-- The decoder of the client: a new car for each payload. -/
def vendorOf (around : Decoder.Surroundings) (distance : ℚ → ℚ → ℚ → ℚ → Except Exn ℚ) :
    Mercedes.Vendor where
  car payload :=
    match Decoder.buildCar around (payload.dataMode = some .pull) payload.attributes
        (.new payload.vin) with
    | (.ok _, car) => .ok (viewOf car)
    | (.error e, _) => .error e.exn
  distance := distance

/-! ### The car of the messages -/

/-- What is shown of a field that never arrived. -/
def unavailable : Decoder.CarAttribute := ⟨.int 0, .int 4, .int 0, .none, .none⟩

variable (readers) in
/-- What the messages show of a field. -/
def shownIn (field : String) (messages : List (Dict PyValue)) : Decoder.CarAttribute :=
  ((newest readers field messages).map (Parts.shown readers)).getD unavailable

variable (readers) in
/-- The charge programmes of the messages. -/
def programsIn (messages : List (Dict PyValue)) : List PyValue :=
  match (newest readers "charge_programs" messages).map Parts.value with
  | some (.list items) => items
  | _ => []

variable (readers) in
/-- The limit of the programme that is selected. -/
def limitIn (messages : List (Dict PyValue)) : Option PyValue :=
  match toInt (shownIn readers "selected_charge_program" messages).value with
  | .ok selected =>
    if 0 ≤ selected then
      match (programsIn readers messages)[selected.toNat]? with
      | some (.dict program) => notNone ((Dict.get program "max_soc").getD .none)
      | _ => none
    else none
  | .error _ => none

/-- The options of the projection that have no handler of their own, with their fields. -/
def projected : List (String × String × String) :=
  [("electric", "soc", "soc"), ("electric", "chargingstatus", "chargingstatus"),
    ("electric", "chargingPower", "charging_power"), ("electric", "rangeelectric", "rangeelectric"),
    ("odometer", "odo", "odo"), ("location", "positionLat", "position_lat"),
    ("location", "positionLong", "position_long")]

variable (readers) in
/-- A car that is read off the messages. -/
def direct (messages : List (Dict PyValue)) : Mercedes.Car := fun group option =>
  if group = "electric" ∧ option = "max_soc" then
    (limitIn readers messages).map fun limit => ⟨limit, .str "VALID", some (.str "PERCENT")⟩
  else
    (projected.find? fun entry => entry.1 = group && entry.2.1 = option).map fun entry =>
      seen (shownIn readers entry.2.2 messages)

/-! ### The decoded car shows what the messages show -/

/-- The fields of the projection, with their keys. -/
def projectedKeys : List (String × String) :=
  projected.map (fun entry => (entry.2.2, entry.2.1)) ++
    [("charge_programs", "chargePrograms"), ("selected_charge_program", "selectedChargeProgram")]

/-- The attributes hold what the messages say of these fields. -/
def Holds (readers : Readers) (messages : List (Dict PyValue)) (attributes : Decoder.Attributes) :
    Prop :=
  ∀ entry ∈ projectedKeys, attributes.get entry.2 =
    (newest readers entry.1 messages).map (legacyOf readers entry.2)

theorem newest_measured {field : String} {messages : List (Dict PyValue)} {parts : Parts}
    (found : newest readers field messages = some parts) : parts.Measured := by
  obtain ⟨vsuCar, -, read⟩ := List.mem_filterMap.mp (latest_mem found)
  exact measured_of_partsIn read

/-- An option without a handler of its own shows what the messages show of its field. -/
theorem handleGeneric_shownIn {messages : List (Dict PyValue)} {attributes : Decoder.Attributes}
    {field legacyKey : String} (plain : IsPlain legacyKey)
    (holds : attributes.get legacyKey =
      (newest readers field messages).map (legacyOf readers legacyKey)) :
    Decoder.handleGeneric attributes legacyKey = shownIn readers field messages := by
  unfold shownIn
  cases found : newest readers field messages with
  | none =>
    rw [found] at holds
    exact handleGeneric_absent holds
  | some parts =>
    rw [found] at holds
    exact handleGeneric_legacyOf plain (newest_measured found) holds

/-- The list of programmes, where the handler looks for it. -/
theorem get_programs {parts : Parts} (measured : parts.Measured) :
    (legacyOf readers "chargePrograms" parts).get "charge_programs_value" =
      match parts.value with
      | .list items => some (.dict [("charge_program_parameters", .list items)])
      | _ => none := by
  have absent : parts.base.get "charge_programs_value" = none := by
    rw [get_base measured]
    cases given : parts.unit with
    | none => rfl
    | some pair =>
      have apart : ∀ key ∈ "unit" :: "temperature_unit" :: knownUnits,
          key ≠ "charge_programs_value" := by decide
      have differ := apart pair.1 (measured pair.1 pair.2 given)
      simp [Option.filter, differ]
  have scalar : ∀ value, (normalizeScalarValue readers value parts.base).get
      "charge_programs_value" = none := by
    intro value
    rw [normalizeScalarValue_other _ _ (by decide), absent]
  rw [legacyOf_eq]
  cases parts.value with
  | none => exact absent
  | list items => exact Dict.get_set_self _ _ _
  | bool flag => exact scalar (.bool flag)
  | int number => exact scalar (.int number)
  | float number => exact scalar (.float number)
  | str text => exact scalar (.str text)
  | dict items => exact scalar (.dict items)

/-- The limit of a programme, by its number. -/
theorem maxSocFromPrograms_ok {programs : Dict PyValue} {items : List PyValue}
    (parameters : Decoder.getOr ((programs.get "charge_programs_value").getD (.dict []))
      "charge_program_parameters" (.list []) = .ok (.list items))
    {chosen : Decoder.CarAttribute} {shows : Option Decoder.CarAttribute}
    (ends : Decoder.maxSocFromPrograms programs [("selectedChargeProgram", chosen)] = .ok shows) :
    ∃ selected, toInt chosen.value = .ok selected ∧
      shows.map seen = (if 0 ≤ selected then
        match items[selected.toNat]? with
        | some (.dict program) => notNone ((Dict.get program "max_soc").getD .none)
        | _ => none
      else none).map fun limit => ⟨limit, .str "VALID", some (.str "PERCENT")⟩ := by
  unfold Decoder.maxSocFromPrograms at ends
  obtain ⟨_, same, ends⟩ := bind_eq_ok.mp ends
  rw [parameters] at same
  cases same
  obtain ⟨selected, number, ends⟩ := bind_eq_ok.mp ends
  have reads : toInt chosen.value = .ok selected := by
    have number : (toInt chosen.value).mapError Decoder.Raised.other = .ok selected := number
    cases read : toInt chosen.value with
    | ok n =>
      rw [read] at number
      cases number
      rfl
    | error e =>
      rw [read] at number
      cases number
  refine ⟨selected, reads, ?_⟩
  by_cases negative : selected < 0
  · rw [if_pos negative] at ends
    cases ends
    rw [if_neg (not_le.mpr negative)]
    rfl
  · rw [if_neg negative] at ends
    rw [if_pos (not_lt.mp negative)]
    obtain ⟨length, counted, ends⟩ := bind_eq_ok.mp ends
    cases counted
    by_cases inside : selected < items.length
    · rw [if_pos inside] at ends
      obtain ⟨program, placed, ends⟩ := bind_eq_ok.mp ends
      unfold Decoder.subscript at placed
      simp only at placed
      cases found : items[selected.toNat]? with
      | none =>
        rw [found] at placed
        cases placed
      | some item =>
        rw [found] at placed
        obtain rfl : item = program := Except.ok.inj placed
        obtain ⟨limit, listed, ends⟩ := bind_eq_ok.mp ends
        cases item with
        | dict entries =>
          obtain rfl : (Dict.get entries "max_soc").getD .none = limit := Except.ok.inj listed
          simp only
          generalize (Dict.get entries "max_soc").getD .none = limit at ends
          cases limit <;> cases ends <;> rfl
        | _ => cases listed
    · rw [if_neg inside] at ends
      cases ends
      rw [List.getElem?_eq_none (by omega)]
      rfl

/-- Without programmes there is no limit. -/
theorem limitIn_nil {messages : List (Dict PyValue)} (nothing : programsIn readers messages = []) :
    limitIn readers messages = none := by
  unfold limitIn
  rw [nothing]
  cases toInt (shownIn readers "selected_charge_program" messages).value with
  | error e => rfl
  | ok selected => simp

/-- **The limit** is that of the programme that is selected. -/
theorem maxSoc_limitIn {around : Decoder.Surroundings} {messages : List (Dict PyValue)}
    {attributes : Decoder.Attributes} (holds : Holds readers messages attributes)
    {shows : Option Decoder.CarAttribute}
    (ends : Decoder.given around attributes "max_soc" = .ok shows) :
    shows.map seen = (limitIn readers messages).map fun limit =>
      ⟨limit, .str "VALID", some (.str "PERCENT")⟩ := by
  have programs := holds ("charge_programs", "chargePrograms") (by decide)
  have chosen : Decoder.handleGeneric attributes "selectedChargeProgram" =
      shownIn readers "selected_charge_program" messages :=
    handleGeneric_shownIn (by constructor <;> rfl)
      (holds ("selected_charge_program", "selectedChargeProgram") (by decide))
  have ends : Decoder.handleMaxSoc attributes attributes
      [("selectedChargeProgram", shownIn readers "selected_charge_program" messages)] =
      .ok shows := chosen ▸ ends
  unfold Decoder.handleMaxSoc at ends
  by_cases empty : (Decoder.attributeOf attributes "chargePrograms").isEmpty = true
  · have nothing : programsIn readers messages = [] := by
      unfold programsIn
      cases found : newest readers "charge_programs" messages with
      | none => rfl
      | some parts =>
        unfold Decoder.attributeOf at empty
        rw [programs, found, Option.map_some, Option.getD_some, isEmpty_legacyOf] at empty
        unfold Parts.isEmpty at empty
        cases value : parts.value with
        | none => rw [Option.map_some, value]
        | _ =>
          rw [value] at empty
          simp [notNone] at empty
    rw [limitIn_nil nothing]
    simp only [empty, if_true] at ends
    split at ends <;> cases ends <;> rfl
  · simp only [empty] at ends
    cases found : newest readers "charge_programs" messages with
    | none =>
      unfold Decoder.attributeOf at empty
      rw [programs, found] at empty
      exact absurd rfl empty
    | some parts =>
      have held : Decoder.attributeOf attributes "chargePrograms" =
          legacyOf readers "chargePrograms" parts := by
        unfold Decoder.attributeOf
        rw [programs, found]
        rfl
      have listed : programsIn readers messages =
          match parts.value with
          | .list items => items
          | _ => [] := by
        unfold programsIn
        rw [found, Option.map_some]
        cases parts.value <;> rfl
      have parameters : Decoder.getOr (((legacyOf readers "chargePrograms" parts).get
          "charge_programs_value").getD (.dict [])) "charge_program_parameters" (.list []) =
          .ok (.list (programsIn readers messages)) := by
        rw [get_programs (newest_measured found), listed]
        cases parts.value <;> rfl
      rw [held] at ends
      obtain ⟨selected, number, limit⟩ := maxSocFromPrograms_ok parameters ends
      rw [limit]
      unfold limitIn
      rw [number]

/-! ### The snapshot -/

/-- The readings of the projection. -/
def points : List (String × String) :=
  ("electric", "max_soc") :: projected.map fun entry => (entry.1, entry.2.1)

/-- Two cars show the same, or neither has a valid reading. -/
def SameReading (car other : Mercedes.Car) (group option : String) : Prop :=
  car group option = other group option ∨
    Mercedes.readingOf car group option = .none ∧ Mercedes.readingOf other group option = .none

theorem SameReading.reading {car other : Mercedes.Car} {group option : String}
    (same : SameReading car other group option) :
    Mercedes.readingOf car group option = Mercedes.readingOf other group option := by
  rcases same with equal | ⟨none, none'⟩
  · unfold Mercedes.readingOf
    rw [equal]
  · rw [none, none']

theorem SameReading.distance {car other : Mercedes.Car} {field : String}
    (same : SameReading car other (if field = "odo" then "odometer" else "electric") field) :
    Mercedes.distanceOf car field = Mercedes.distanceOf other field := by
  unfold Mercedes.distanceOf
  simp only
  rw [same.reading]
  rcases same with equal | ⟨-, none⟩
  · rw [equal]
  · rw [none]
    rfl

/-- The projection depends on these readings only. -/
theorem snapshotOf_congr {car other : Mercedes.Car}
    (same : ∀ point ∈ points, SameReading car other point.1 point.2) (vin : String)
    (capacity : Option ℚ) :
    Mercedes.snapshotOf car vin capacity = Mercedes.snapshotOf other vin capacity := by
  have status := (same ("electric", "chargingstatus") (by decide)).reading
  have power := (same ("electric", "chargingPower") (by decide)).reading
  have soc := (same ("electric", "soc") (by decide)).reading
  have target := (same ("electric", "max_soc") (by decide)).reading
  have latitude := (same ("location", "positionLat") (by decide)).reading
  have longitude := (same ("location", "positionLong") (by decide)).reading
  have odometer : Mercedes.distanceOf car "odo" = Mercedes.distanceOf other "odo" :=
    SameReading.distance (same ("odometer", "odo") (by decide))
  have range : Mercedes.distanceOf car "rangeelectric" =
      Mercedes.distanceOf other "rangeelectric" :=
    SameReading.distance (same ("electric", "rangeelectric") (by decide))
  unfold Mercedes.snapshotOf
  simp only at status power soc target latitude longitude
  simp only [status, power, soc, target, latitude, longitude, odometer, range]

/-- A field that never arrived has no reading. -/
theorem readingOf_unavailable [LawfulText] {car : Mercedes.Car} {group option : String}
    (shows : car group option = some (seen unavailable)) :
    Mercedes.readingOf car group option = .none := by
  unfold Mercedes.readingOf
  rw [shows]
  simp only [seen, unavailable, LawfulText.str_int]
  exact if_pos (by decide)

/-- The projected options, with their parts. -/
theorem projected_plain : ∀ entry ∈ projected, IsPlain entry.2.1 ∧
    (entry.2.2, entry.2.1) ∈ projectedKeys ∧ ∃ part, sectionNames.get entry.1 = some part ∧
      entry.2.1 ∈ part.options := by
  unfold projected
  simp only [List.forall_mem_cons]
  refine ⟨?_, ?_, ?_, ?_, ?_, ?_, ?_, nofun⟩ <;>
    exact ⟨by constructor <;> rfl, by decide, _, rfl, by decide⟩

/-- The options of the projection have no handlers of their own. -/
theorem given_projected (around : Decoder.Surroundings) (attributes : Decoder.Attributes) :
    ∀ entry ∈ projected, Decoder.given around attributes entry.2.1 =
      .ok (some (Decoder.handleGeneric attributes entry.2.1)) := by
  unfold projected
  simp only [List.forall_mem_cons]
  refine ⟨?_, ?_, ?_, ?_, ?_, ?_, ?_, nofun⟩ <;> rfl

/-- The car of the messages at an option of the projection. -/
theorem direct_projected (messages : List (Dict PyValue)) : ∀ entry ∈ projected,
    direct readers messages entry.1 entry.2.1 =
      some (seen (shownIn readers entry.2.2 messages)) := by
  unfold projected
  simp only [List.forall_mem_cons]
  refine ⟨?_, ?_, ?_, ?_, ?_, ?_, ?_, nofun⟩ <;> rfl

/-- Where nothing is buffered, no field has arrived. -/
theorem Holds.nothing {messages : List (Dict PyValue)} (holds : Holds readers messages [])
    {entry : String × String} (listed : entry ∈ projectedKeys) :
    newest readers entry.1 messages = none := by
  have absent := holds entry listed
  rw [Dict.get_nil] at absent
  exact Option.map_eq_none_iff.mp absent.symm

/-- **The decoded car** shows what the messages show. -/
theorem sameReading_direct [LawfulText] {around : Decoder.Surroundings}
    {messages : List (Dict PyValue)} {complete : Decoder.Attributes}
    (holds : Holds readers messages complete) {car : Decoder.Car}
    (decodes : ∀ part, Decoder.Decodes around complete part)
    (values : ∀ part option, car.value part option =
      Decoder.shownOf around complete part option none) :
    ∀ point ∈ points, SameReading (viewOf car) (direct readers messages) point.1 point.2 := by
  have target : viewOf car "electric" "max_soc" = (car.value .electric "max_soc").map seen := rfl
  unfold points
  rw [List.forall_mem_cons]
  refine ⟨.inl ?_, fun point member => ?_⟩
  · -- The target has a handler of its own.
    show viewOf car "electric" "max_soc" = (limitIn readers messages).map _
    rw [target, values]
    unfold Decoder.shownOf
    by_cases filled : complete.isEmpty = false
    · obtain ⟨shows, ends⟩ := ((decodes .electric).resolve_left (by simp [filled]))
        "max_soc" (by decide)
      rw [if_pos ⟨filled, by decide⟩, ← maxSoc_limitIn holds ends, ends]
      cases shows <;> rfl
    · obtain rfl : complete = [] := List.isEmpty_iff.mp (by simpa using filled)
      have absent := holds.nothing (show ("charge_programs", "chargePrograms") ∈ projectedKeys by
        decide)
      have none : programsIn readers messages = [] := by
        unfold programsIn
        rw [absent]
        rfl
      rw [if_neg fun both => filled both.1, limitIn_nil none]
      rfl
  · obtain ⟨entry, listed, rfl⟩ := List.mem_map.mp member
    obtain ⟨plain, key, part, named, option⟩ := projected_plain entry listed
    have view : viewOf car entry.1 entry.2.1 = (car.value part entry.2.1).map seen := by
      unfold viewOf
      rw [named]
      rfl
    have shows : direct readers messages entry.1 entry.2.1 =
        some (seen (shownIn readers entry.2.2 messages)) := direct_projected messages entry listed
    by_cases filled : complete.isEmpty = false
    · refine .inl ?_
      simp only
      rw [view, values, shows]
      unfold Decoder.shownOf
      rw [given_projected around complete entry listed,
        handleGeneric_shownIn plain (holds _ key), if_pos ⟨filled, option⟩]
      rfl
    · obtain rfl : complete = [] := List.isEmpty_iff.mp (by simpa using filled)
      refine .inr ⟨?_, readingOf_unavailable ?_⟩
      · unfold Mercedes.readingOf
        rw [view, values]
        unfold Decoder.shownOf
        rw [if_neg fun both => filled both.1]
        rfl
      · rw [shows]
        unfold shownIn
        rw [holds.nothing key]
        rfl

/-- The keys of the projection are those of its fields. -/
theorem projectedKeys_named [LawfulUpper] : ∀ entry ∈ projectedKeys,
    IsField entry.1 ∧ entry.1 ∉ reserved ∧ vsuKeyToLegacy entry.1 = entry.2 ∧
      entry.2 ≠ "windowStatusOverall" := by
  have names : ∀ entry ∈ projectedKeys, isFieldName entry.1 = true ∧
      entry.1 ≠ "last_tirepressure_timestamp" ∧ entry.1 ≠ "tire_press_meas_timestamp" ∧
      entry.1 ∉ reserved ∧
      String.ofList (asciiCapitals.camel '_' entry.1.toList) = entry.2 ∧
      entry.2 ≠ "windowStatusOverall" := by decide
  intro entry listed
  obtain ⟨field, apart, renamed, free, key, other⟩ := names entry listed
  refine ⟨⟨field, apart⟩, free, ?_, other⟩
  rw [vsuKeyToLegacy_eq, if_neg renamed, snakeToCamel_ascii field, key]

/-- The buffer holds what the messages say, and so does what is decoded. -/
theorem holds_receiveAll [LawfulUpper] [LawfulText] {protocol : Protocol}
    (empty : protocol.attributes = []) (lawful : readers.Lawful)
    (messages : List (ℚ × Dict PyValue))
    (proper : ∀ message ∈ messages, Proper readers message.2) {isRestData : Bool}
    {complete : Decoder.Attributes}
    (made : Decoder.completed isRestData (receiveAll readers protocol messages).attributes =
      .ok complete) :
    Holds readers (messages.map Prod.snd) complete := by
  intro entry listed
  obtain ⟨named, free, key, other⟩ := projectedKeys_named entry listed
  have held := get_receiveAll empty lawful messages proper named free
  rw [key] at held
  rw [Decoder.completed_get made other, held]

end Readings

/-- **What is published is what the messages say**: after any messages of a session, in any order,
with any fields and any full updates among them, the snapshot that is published is read off the
messages themselves, field by field, each from its newest attribute; or the decoder raises. -/
theorem stream_shown [PyText] [LawfulText] [LawfulUpper] (readers : Readers)
    (lawful : readers.Lawful) (around : Decoder.Surroundings)
    (distance : ℚ → ℚ → ℚ → ℚ → Except Exn ℚ) (vin : String) (capacity : Option ℚ)
    (source : Mercedes.Source) (earlier : List (ℚ × Dict PyValue)) (wall : ℚ)
    (last : Dict PyValue)
    (proper : ∀ message ∈ earlier ++ [(wall, last)], Proper readers message.2)
    (protocol : Protocol) (payload : Payload)
    (received : receive readers (receiveAll readers (.new vin) earlier) wall last =
      .ok (protocol, some payload)) :
    Mercedes.vehicleSnapshot (vendorOf around distance) { payload with dataMode := some source }
        capacity =
      .ok (Mercedes.snapshotOf (direct readers (earlier.map Prod.snd ++ [last])) payload.vin
        capacity) ∨
    ∃ e, Mercedes.vehicleSnapshot (vendorOf around distance)
        { payload with dataMode := some source } capacity = .error e ∧
      ¬ Decoder.Decodable around (source = .pull) payload.attributes := by
  have run : receiveAll readers (.new vin) (earlier ++ [(wall, last)]) = protocol := by
    unfold receiveAll at received ⊢
    rw [List.foldl_append, List.foldl_cons, List.foldl_nil, received]
  have buffered : payload.attributes = protocol.attributes := by
    obtain ⟨protocol', sent, ends, -, same⟩ := receive_attributes
      (receiveAll readers (.new vin) earlier) wall
      (proper (wall, last) (List.mem_append_right _ List.mem_cons_self)) lawful
    rw [received] at ends
    cases ends
    exact Option.some.inj (same rfl)
  have pulled : decide (some source = some Mercedes.Source.pull) = decide (source = .pull) := by
    cases source <;> rfl
  have spec : Exec.wp (Decoder.buildCar around (source = .pull) payload.attributes) _ _
      (.new payload.vin) := Decoder.wp_buildCar _ _ _
  unfold Exec.wp at spec
  unfold Mercedes.vehicleSnapshot vendorOf
  simp only [pulled]
  rcases ends : Decoder.buildCar around (source = .pull) payload.attributes
    (.new payload.vin) with ⟨_ | complete, car⟩
  · rw [ends] at spec
    exact .inr ⟨_, rfl, spec.1⟩
  · rw [ends] at spec
    obtain ⟨made, ⟨complete', made', decodes⟩, built⟩ := spec
    obtain rfl : complete = complete' := Except.ok.inj (made.symm.trans made')
    have holds : Holds readers ((earlier ++ [(wall, last)]).map Prod.snd) complete := by
      rw [buffered, ← run] at made
      exact holds_receiveAll rfl lawful _ proper made
    rw [List.map_append, List.map_singleton] at holds
    refine .inl (congrArg Except.ok (snapshotOf_congr ?_ payload.vin capacity))
    exact sameReading_direct holds decodes built.values

/-- Texts with capitals and digits. -/
@[reducible] def streamText : PyText := { digitText with upper := capitalText.upper }

theorem lawful_streamText : @LawfulText streamText :=
  letI := streamText
  { str_text := @LawfulText.str_text digitText lawful_digitText
    str_int := @LawfulText.str_int digitText lawful_digitText
    str_bool := @LawfulText.str_bool digitText lawful_digitText
    str_float := @LawfulText.str_float digitText lawful_digitText
    strip_int := @LawfulText.strip_int digitText lawful_digitText
    lower_int := @LawfulText.lower_int digitText lawful_digitText
    float_int := @LawfulText.float_int digitText lawful_digitText
    float_word := @LawfulText.float_word digitText lawful_digitText }

theorem lawfulUpper_streamText : @LawfulUpper streamText :=
  letI := streamText
  { upper := @LawfulUpper.upper capitalText lawful_capitalText }

/-- Surroundings of a decoder. -/
def someSurroundings : Decoder.Surroundings where
  millis := 0
  stamp := .int 0
  predictedEnd _ := none
  legacyEnd _ := none
  isNumeral _ := false

/-- A full message with a state of charge. -/
def someFull : Dict PyValue :=
  [("fin_or_vin", .str "VIN"), ("full_update", .bool true),
    ("soc", .dict [("value", .int 80), ("unit", .str "PERCENT")])]

/-- Later the car is charging. -/
def someDelta : Dict PyValue :=
  [("fin_or_vin", .str "VIN"), ("chargingstatus", .dict [("value", .int 0)])]

/-- A time that is read is one of the readers'. -/
theorem epochOf_of_partsIn [PyText] {readers : Readers} {field : String} {vsuCar : Dict PyValue}
    {parts : Parts} (read : partsIn readers field vsuCar = some parts) {seconds : ℤ}
    (epoch : parts.epochSeconds = some seconds) : ∃ text, readers.epochOf text = .ok seconds := by
  unfold partsIn at read
  split at read
  · rename_i attr held
    cases reads : partsOf readers (vsuKeyToLegacy field) attr with
    | error e =>
      rw [reads] at read
      cases read
    | ok parts' =>
      rw [reads] at read
      cases read
      obtain ⟨iso, -, reads⟩ := bind_eq_ok.mp reads
      obtain ⟨found, parsed, reads⟩ := bind_eq_ok.mp reads
      obtain ⟨_, -, reads⟩ := bind_eq_ok.mp reads
      obtain ⟨_, -, reads⟩ := bind_eq_ok.mp reads
      obtain ⟨_, -, reads⟩ := bind_eq_ok.mp reads
      cases reads
      obtain rfl : found = some seconds := epoch
      unfold isoToEpochSeconds at parsed
      split at parsed
      · split at parsed
        · rename_i text _
          cases given : readers.epochOf (withOffset text) with
          | ok value =>
            rw [given] at parsed
            cases parsed
            exact ⟨_, given⟩
          | error e =>
            rw [given] at parsed
            simp only at parsed
            split at parsed <;> cases parsed
        · cases parsed
      · cases parsed
  · cases read

/-- Those readers know one time, after 1970. -/
theorem proper_someReaders [PyText] {vsuCar : Dict PyValue} (fields : Fields vsuCar)
    (typed : ∀ item ∈ vsuCar, ∀ attr, item.2 = .dict attr → Typed attr) :
    Proper someReaders vsuCar := by
  refine ⟨fields, typed, fun field parts read seconds epoch => ?_⟩
  obtain ⟨text, known⟩ := epochOf_of_partsIn read epoch
  unfold someReaders at known
  simp only at known
  split at known
  · cases known
    decide
  · cases known

theorem fields_of_names {vsuCar : Dict PyValue} (once : (vsuCar.map Prod.fst).Nodup)
    (names : (vsuCar.map Prod.fst).all fun key =>
      isFieldName key && decide (key ≠ "last_tirepressure_timestamp")) : Fields vsuCar := by
  refine ⟨once, fun key member => ?_⟩
  obtain ⟨field, apart⟩ := Bool.and_eq_true_iff.mp (List.all_eq_true.mp names key member)
  exact ⟨field, of_decide_eq_true apart⟩

theorem proper_someFull : letI := streamText
    Proper someReaders someFull := by
  let := streamText
  refine proper_someReaders (fields_of_names (by decide) (by decide)) ?_
  unfold someFull
  simp only [List.forall_mem_cons]
  refine ⟨nofun, nofun, ?_, nofun⟩
  rintro attr ⟨rfl⟩
  refine ⟨nofun, ?_⟩
  rintro name ⟨rfl⟩
  exact .inl ⟨_, rfl⟩

theorem proper_someDelta : letI := streamText
    Proper someReaders someDelta := by
  let := streamText
  refine proper_someReaders (fields_of_names (by decide) (by decide)) ?_
  unfold someDelta
  simp only [List.forall_mem_cons]
  refine ⟨nofun, ?_, nofun⟩
  rintro attr ⟨rfl⟩
  exact ⟨nofun, nofun⟩

theorem someStream_shown : letI := streamText
    ∃ protocol payload, receive someReaders (receiveAll someReaders (.new "VIN") [(10, someFull)])
        20 someDelta = .ok (protocol, some payload) ∧
      (Mercedes.vehicleSnapshot (vendorOf someSurroundings fun _ _ _ _ => .ok 0)
          { payload with dataMode := some .push } (some 80) =
        .ok (Mercedes.snapshotOf (direct someReaders [someFull, someDelta]) payload.vin (some 80)) ∨
      ∃ e, Mercedes.vehicleSnapshot (vendorOf someSurroundings fun _ _ _ _ => .ok 0)
          { payload with dataMode := some .push } (some 80) = .error e ∧
        ¬ Decoder.Decodable someSurroundings false payload.attributes) := by
  let := streamText
  refine ⟨_, _, rfl, ?_⟩
  refine @stream_shown streamText lawful_streamText lawfulUpper_streamText someReaders
    someReaders_lawful someSurroundings (fun _ _ _ _ => .ok 0) "VIN" (some 80) .push
    [(10, someFull)] 20 someDelta ?_ _ _ rfl
  rw [List.singleton_append, List.forall_mem_cons]
  exact ⟨proper_someFull, List.forall_mem_singleton.mpr proper_someDelta⟩

end DbusEv.Vsu
