/-
**What the vehicle engine samples** (`vehicle-engine/main.go`).

* `Vehicle` — what the provider of a vehicle returns: each capability may be absent, may fail, and
  may return any number.
* `sample` — the reply to a poll; it stops at the first failure.
* `encodeFloat`, `encodeReply` — the JSON of a reply, as `json.loads` reads it: `encoding/json`
  writes the shortest decimal of a number, without a point when it is whole and below `10 ^ 21`.
* `sampleData_ok` — the data of a successful sample, capability by capability.
-/

import DbusEv.Engine.Traffic
import DbusEv.Python.Double

set_option autoImplicit false

namespace DbusEv.Engine

/-! ### The vehicle -/

/-- An error of a provider: what `errors.Is` and `errors.As` find in it. -/
structure ProviderError where
  /-- `api.ErrNotAvailable`. -/
  notAvailable : Bool
  /-- `policyError`: its reason and its delay. -/
  policy : Option (String × ℚ)
  /-- `api.ErrLoginRequired`. -/
  loginRequired : Bool
  /-- `request.StatusError`. -/
  status : Option Response

/-- `errors.New(…)`. -/
def plainError : ProviderError := ⟨false, none, false, none⟩

/-- `api.Vehicle`, with the capabilities `api.Cap` finds. -/
structure Vehicle where
  soc : Except ProviderError Float64
  capacity : Float64
  status : Option (Except ProviderError String)
  limitSoc : Option (Except ProviderError Int64)
  range : Option (Except ProviderError Int64)
  odometer : Option (Except ProviderError Float64)
  position : Option (Except ProviderError (Float64 × Float64))
  power : Option (Except ProviderError Float64)

/-! ### The reply -/

/-- A value of `map[string]any`. -/
inductive Item
  | number (value : PyFloat)
  | text (value : String)

/-- `reply`. -/
structure Reply where
  ok : Bool
  data : Dict Item
  error : String
  retryAfter : ℚ

/-- `failure(err)` at wall time `now`. -/
def failure (now : ℤ) (e : ProviderError) : Reply :=
  match e.policy, e.loginRequired, e.status with
  | some (reason, retryAfter), _, _ => ⟨false, [], reason, retryAfter⟩
  | none, true, _ => ⟨false, [], "auth", 0⟩
  | none, false, some response =>
    ⟨false, [], errorOf response.status, response.retryAfter.delay now⟩
  | none, false, none => ⟨false, [], "provider", 0⟩

/-- `float64(value)`. -/
def float64Of (value : Int64) : Float64 := .ofRat value.toInt

/-- `putNumber(data, key, value, err)`. -/
def putNumber (data : Dict Item) (key : String) (reading : Except ProviderError Float64) :
    Except ProviderError (Dict Item) :=
  match reading with
  | .error e => if e.notAvailable then .ok data else .error e
  | .ok value =>
    match value.value with
    | .finite number => .ok (data.set key (.number (.finite number)))
    | _ => .ok data

/-- `if p, ok := api.Cap[…](v); ok { … putNumber(…) }`. -/
def putCapability (data : Dict Item) (key : String)
    (capability : Option (Except ProviderError Float64)) : Except ProviderError (Dict Item) :=
  match capability with
  | some reading => putNumber data key reading
  | none => .ok data

/-- `sampleChargeState(v, d)`. -/
def sampleChargeState (v : Vehicle) (d : Dict Item) : Except ProviderError (Dict Item) :=
  match v.status with
  | some (.ok value) => .ok (d.set "status" (.text value))
  | some (.error e) => if e.notAvailable then .ok d else .error e
  | none => .ok d

/-- `math.Abs(value) <= bound`. -/
def isWithin (bound : ℚ) : PyFloat → Bool
  | .finite value => |value| ≤ bound
  | _ => false

/-- The position of `sampleTravel`. -/
def samplePosition (v : Vehicle) (d : Dict Item) : Except ProviderError (Dict Item) :=
  match v.position with
  | some (.ok (lat, lon)) =>
    if isWithin 90 lat.value && isWithin 180 lon.value then
      .ok ((d.set "latitude" (.number lat.value)).set "longitude" (.number lon.value))
    else .ok d
  | some (.error e) => if e.notAvailable then .ok d else .error e
  | none => .ok d

/-- `sampleTravel(v, d)`. -/
def sampleTravel (v : Vehicle) (d : Dict Item) : Except ProviderError (Dict Item) := do
  let d ← putCapability d "range_to_go" (v.range.map fun reading => reading.map float64Of)
  let d ← putCapability d "odometer" v.odometer
  samplePosition v d

/-- `soc < 0 || soc > 100 || math.IsNaN(soc) || math.IsInf(soc, 0)` fails. -/
def isSoc : PyFloat → Bool
  | .finite value => 0 ≤ value && value ≤ 100
  | _ => false

/-- `capacity > 0 && !math.IsInf(capacity, 0)`. -/
def isCapacity : PyFloat → Bool
  | .finite value => 0 < value
  | _ => false

/-- The data of `sample(v)`, or the error that ends it. -/
def sampleData (v : Vehicle) : Except ProviderError (Dict Item) := do
  let soc ← v.soc
  if isSoc soc.value then do
    let d := [("soc", Item.number soc.value)]
    let d := if isCapacity v.capacity.value then
      Dict.set d "battery_capacity" (.number v.capacity.value) else d
    let d ← sampleChargeState v d
    let d ← putCapability d "target_soc" (v.limitSoc.map fun reading => reading.map float64Of)
    let d ← sampleTravel v d
    putCapability d "power" v.power
  else .error plainError

/-- `sample(v)` at wall time `now`. -/
def sample (now : ℤ) (v : Vehicle) : Reply :=
  match sampleData v with
  | .ok data => ⟨true, data, "", 0⟩
  | .error e => failure now e

/-! ### Its JSON -/

/-- The decimals of so many digits after the first that are next to a value, the nearest first. -/
def decimals (x : ℚ) (digits : ℕ) : List ℚ :=
  let unit := (10 : ℚ) ^ (Int.log 10 |x| - digits)
  [PyFloat.roundEven (x / unit), ⌊x / unit⌋, ⌈x / unit⌉].map fun whole : ℤ => whole * unit

/-- The shortest decimal that reads back as the value (`strconv`, precision -1). -/
def shortest (x : ℚ) : ℚ :=
  (((List.range 17).flatMap (decimals x)).find?
    fun decimal => PyFloat.ofRat decimal = .finite x).getD x

/-- A number in JSON, as `json.loads` reads it: a decimal without a point is an `int`. -/
def encodeFloat (x : ℚ) : PyValue :=
  let decimal := shortest x
  if (x = 0 ∨ 1 / 1000000 ≤ |x| ∧ |x| < 10 ^ 21) ∧ decimal.den = 1 then .int decimal.num
  else .float (PyFloat.ofRat decimal)

/-- A value in JSON; `NaN` and the infinities are unsupported. -/
def encodeItem : Item → Option PyValue
  | .number (.finite x) => some (encodeFloat x)
  | .number _ => none
  | .text value => some (.str value)

/-- A map in JSON. -/
def encodeData : Dict Item → Option (Dict PyValue)
  | [] => some []
  | (key, item) :: rest =>
    match encodeItem item, encodeData rest with
    | some value, some others => some ((key, value) :: others)
    | _, _ => none

/-- `encoder.Encode(r)`: what `json.loads` returns, or nothing when a value is unsupported. -/
def encodeReply (r : Reply) : Option (Dict PyValue) :=
  (encodeData r.data).map fun data =>
    [("schema", .int 1), ("ok", .bool r.ok)] ++
      (if data.isEmpty then [] else [("data", .dict data)]) ++
      (if r.error = "" then [] else [("error", .str r.error)]) ++
      (if r.retryAfter = 0 then [] else [("retry_after", encodeFloat r.retryAfter)])

theorem ofRat_shortest {x : ℚ} (isDouble : PyFloat.ofRat x = .finite x) :
    PyFloat.ofRat (shortest x) = .finite x := by
  unfold shortest
  rcases found : ((List.range 17).flatMap (decimals x)).find?
    (fun decimal => PyFloat.ofRat decimal = .finite x) with _ | decimal
  · exact isDouble
  · have checked := List.find?_some found
    exact of_decide_eq_true checked

/-- **A number in JSON reads back as itself**: it is a float, or an integer that rounds to it. -/
theorem encodeFloat_cases {x : ℚ} (isDouble : PyFloat.ofRat x = .finite x) :
    encodeFloat x = .float (.finite x) ∨
      ∃ n : ℤ, encodeFloat x = .int n ∧ PyFloat.ofRat n = .finite x := by
  have reads := ofRat_shortest isDouble
  unfold encodeFloat
  dsimp only
  split
  · rename_i whole
    have same : ((shortest x).num : ℚ) = shortest x := Rat.coe_int_num_of_den_eq_one whole.2
    exact Or.inr ⟨_, rfl, by rw [same, reads]⟩
  · exact Or.inl (by rw [reads])

/-! ### What a sample holds -/

/-- The entry of a capability that returned a finite number. -/
def entryOf : Option (Except ProviderError Float64) → Option Item
  | some (.ok ⟨.finite number, _⟩) => some (.number (.finite number))
  | _ => none

/-- The entry of the status. -/
def statusEntry (v : Vehicle) : Option Item :=
  match v.status with
  | some (.ok value) => some (.text value)
  | _ => none

/-- The position that is sampled. -/
def positionOf (v : Vehicle) : Option (PyFloat × PyFloat) :=
  match v.position with
  | some (.ok (lat, lon)) =>
    if isWithin 90 lat.value && isWithin 180 lon.value then some (lat.value, lon.value) else none
  | _ => none

/-- The entry of the capacity. -/
def capacityEntry (v : Vehicle) : Option Item :=
  if isCapacity v.capacity.value then some (.number v.capacity.value) else none

/-- An entry that may be missing. -/
def put (d : Dict Item) (key : String) : Option Item → Dict Item
  | some item => d.set key item
  | none => d

theorem get_put_self (d : Dict Item) (key : String) (entry : Option Item) :
    Dict.get (put d key entry) key = entry.or (Dict.get d key) := by
  cases entry with
  | none => rfl
  | some item => exact Dict.get_set_self d key item

theorem get_put_ne (d : Dict Item) {key other : String} (entry : Option Item)
    (ne : other ≠ key) : Dict.get (put d key entry) other = Dict.get d other := by
  cases entry with
  | none => rfl
  | some item => exact Dict.get_set_ne d item ne

theorem putCapability_ok {d next : Dict Item} {key : String}
    {capability : Option (Except ProviderError Float64)}
    (returned : putCapability d key capability = .ok next) :
    next = put d key (entryOf capability) := by
  rcases capability with _ | e | ⟨value, isDouble⟩
  · exact (Except.ok.inj returned).symm
  · simp only [putCapability, putNumber] at returned
    split at returned
    · exact (Except.ok.inj returned).symm
    · cases returned
  · cases value with
    | finite number => exact (Except.ok.inj returned).symm
    | inf negative => exact (Except.ok.inj returned).symm
    | nan => exact (Except.ok.inj returned).symm

theorem sampleChargeState_ok {v : Vehicle} {d next : Dict Item}
    (returned : sampleChargeState v d = .ok next) : next = put d "status" (statusEntry v) := by
  unfold sampleChargeState at returned
  unfold statusEntry
  rcases read : v.status with _ | e | value
  · simp only [read] at returned ⊢
    exact (Except.ok.inj returned).symm
  · simp only [read] at returned ⊢
    split at returned
    · exact (Except.ok.inj returned).symm
    · cases returned
  · simp only [read] at returned ⊢
    exact (Except.ok.inj returned).symm

theorem samplePosition_ok {v : Vehicle} {d next : Dict Item}
    (returned : samplePosition v d = .ok next) :
    next = put (put d "latitude" ((positionOf v).map fun found => .number found.1)) "longitude"
      ((positionOf v).map fun found => .number found.2) := by
  unfold samplePosition at returned
  unfold positionOf
  rcases read : v.position with _ | e | ⟨lat, lon⟩
  · simp only [read] at returned ⊢
    exact (Except.ok.inj returned).symm
  · simp only [read] at returned ⊢
    split at returned
    · exact (Except.ok.inj returned).symm
    · cases returned
  · simp only [read] at returned ⊢
    split at returned
    · rename_i inside
      rw [if_pos inside]
      exact (Except.ok.inj returned).symm
    · rename_i outside
      rw [if_neg outside]
      exact (Except.ok.inj returned).symm

/-- The data of a sample, capability by capability. -/
def sampled (v : Vehicle) (soc : PyFloat) : Dict Item :=
  let d := put [("soc", .number soc)] "battery_capacity" (capacityEntry v)
  let d := put d "status" (statusEntry v)
  let d := put d "target_soc" (entryOf (v.limitSoc.map fun reading => reading.map float64Of))
  let d := put d "range_to_go" (entryOf (v.range.map fun reading => reading.map float64Of))
  let d := put d "odometer" (entryOf v.odometer)
  let d := put d "latitude" ((positionOf v).map fun found => .number found.1)
  let d := put d "longitude" ((positionOf v).map fun found => .number found.2)
  put d "power" (entryOf v.power)

/-- **A successful sample** holds what the capabilities returned, each under its own key. -/
theorem sampleData_ok {v : Vehicle} {data : Dict Item} (returned : sampleData v = .ok data) :
    ∃ soc, v.soc = .ok soc ∧ isSoc soc.value = true ∧ data = sampled v soc.value := by
  unfold sampleData at returned
  obtain ⟨soc, read, returned⟩ := bind_eq_ok.mp returned
  split at returned
  · rename_i valid
    have capacity : (if isCapacity v.capacity.value then Dict.set [("soc", Item.number soc.value)]
        "battery_capacity" (.number v.capacity.value) else [("soc", Item.number soc.value)]) =
        put [("soc", .number soc.value)] "battery_capacity" (capacityEntry v) := by
      unfold capacityEntry
      split <;> rfl
    dsimp only at returned
    rw [capacity] at returned
    obtain ⟨first, state, returned⟩ := bind_eq_ok.mp returned
    obtain ⟨second, limit, returned⟩ := bind_eq_ok.mp returned
    obtain ⟨third, travel, returned⟩ := bind_eq_ok.mp returned
    unfold sampleTravel at travel
    obtain ⟨ranged, range, travel⟩ := bind_eq_ok.mp travel
    obtain ⟨metered, odometer, position⟩ := bind_eq_ok.mp travel
    refine ⟨soc, read, valid, ?_⟩
    rw [putCapability_ok returned, samplePosition_ok position, putCapability_ok odometer,
      putCapability_ok range, putCapability_ok limit, sampleChargeState_ok state]
    rfl
  · cases returned

/-! ### What its JSON holds -/

/-- A value that JSON can hold. -/
def Item.IsFinite : Item → Prop
  | .number (.finite _) => True
  | .number _ => False
  | .text _ => True

theorem encodeItem_some {item : Item} (finite : item.IsFinite) :
    ∃ value, encodeItem item = some value := by
  cases item with
  | number value =>
    cases value with
    | finite number => exact ⟨_, rfl⟩
    | _ => exact finite.elim
  | text value => exact ⟨_, rfl⟩

/-- **A map of finite values has a JSON**, which holds the JSON of each. -/
theorem encodeData_some {data : Dict Item} (finite : ∀ item ∈ data, item.2.IsFinite) :
    ∃ encoded, encodeData data = some encoded ∧
      ∀ key, Dict.get encoded key = (Dict.get data key).bind encodeItem := by
  induction data with
  | nil => exact ⟨[], rfl, fun _ => rfl⟩
  | cons head rest ih =>
    obtain ⟨name, item⟩ := head
    obtain ⟨first, others⟩ := List.forall_mem_cons.mp finite
    obtain ⟨value, item'⟩ := encodeItem_some first
    obtain ⟨encoded, rest', holds⟩ := ih others
    refine ⟨(name, value) :: encoded, ?_, fun key => ?_⟩
    · simp only [encodeData, item', rest']
    · rw [Dict.get_cons, Dict.get_cons, holds]
      split
      · exact item'.symm
      · rfl

theorem finite_put {d : Dict Item} {key : String} {entry : Option Item}
    (finite : ∀ item ∈ d, item.2.IsFinite) (holds : ∀ item ∈ entry, item.IsFinite) :
    ∀ item ∈ put d key entry, item.2.IsFinite := by
  cases entry with
  | none => exact finite
  | some item => exact Dict.forall_set key finite (holds item rfl)

theorem finite_entryOf (capability : Option (Except ProviderError Float64)) :
    ∀ item ∈ entryOf capability, item.IsFinite := by
  unfold entryOf
  split
  · rintro item ⟨⟩
    trivial
  · nofun

theorem isWithin_finite {bound : ℚ} {value : PyFloat} (inside : isWithin bound value = true) :
    ∃ number, value = .finite number ∧ |number| ≤ bound := by
  cases value with
  | finite number => exact ⟨number, rfl, of_decide_eq_true inside⟩
  | _ => cases inside

/-- The coordinates of a sampled position are in range. -/
theorem positionOf_some {v : Vehicle} {found : PyFloat × PyFloat}
    (holds : positionOf v = some found) :
    ∃ lat lon, found = (.finite lat, .finite lon) ∧ |lat| ≤ 90 ∧ |lon| ≤ 180 := by
  unfold positionOf at holds
  split at holds
  · split at holds
    · rename_i inside
      obtain ⟨first, second⟩ := Bool.and_eq_true_iff.mp inside
      obtain ⟨lat, latitude, near⟩ := isWithin_finite first
      obtain ⟨lon, longitude, close⟩ := isWithin_finite second
      refine ⟨lat, lon, ?_, near, close⟩
      rw [← Option.some_inj.mp holds, latitude, longitude]
    · cases holds
  · cases holds

/-- **All values of a sample are finite.** -/
theorem finite_sampled (v : Vehicle) {soc : PyFloat} (valid : isSoc soc = true) :
    ∀ item ∈ sampled v soc, item.2.IsFinite := by
  have charge : (Item.number soc).IsFinite := by
    cases soc with
    | finite number => trivial
    | _ => cases valid
  have capacity : ∀ item ∈ capacityEntry v, item.IsFinite := by
    unfold capacityEntry
    split
    · rename_i positive
      rintro item ⟨⟩
      rcases value : v.capacity.value with number | negative | _ <;> rw [value] at positive
      · trivial
      · cases positive
      · cases positive
    · nofun
  have status : ∀ item ∈ statusEntry v, item.IsFinite := by
    unfold statusEntry
    split
    · rintro item ⟨⟩
      trivial
    · nofun
  have position : (∀ item ∈ (positionOf v).map fun found => Item.number found.1, item.IsFinite) ∧
      ∀ item ∈ (positionOf v).map fun found => Item.number found.2, item.IsFinite := by
    rcases holds : positionOf v with _ | found
    · exact ⟨nofun, nofun⟩
    · obtain ⟨lat, lon, rfl, -, -⟩ := positionOf_some holds
      constructor <;> rintro item ⟨⟩ <;> trivial
  unfold sampled
  refine finite_put (finite_put (finite_put (finite_put (finite_put (finite_put (finite_put
    (finite_put (List.forall_mem_singleton.mpr charge) capacity) status) ?_) ?_) ?_)
    position.1) position.2) ?_
  all_goals exact finite_entryOf _

end DbusEv.Engine
