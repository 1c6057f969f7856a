/-
**The coordinator of the Home Assistant integration**, with the car its entities read
(`ha/custom_components/mbapi2020/coordinator.py`).

* `message` — the program of `_message`, down to every value of the car.
* `Atomic`, `Clean` — a message is taken as a whole or leaves what is read as it was, and when it
  does: `atomic_iff`.
* `Ordered` — the acquisition times of accepted messages never decrease.
* `message_refines` — what the message does to the rest is what `Ha.message` says.
-/

import DbusEv.Decoder

set_option autoImplicit false
set_option linter.unusedSectionVars false

namespace DbusEv.Decoder

open Exec

/-! ### The coordinator -/

/-- The attributes of the coordinator, and the acquisition times of the messages it accepted, newest
first. -/
structure Coordinator where
  vin : String
  vehicleName : PyValue
  receivedAt : ℚ
  data : Option (Dict PyValue)
  /-- `client.cars.get(vin)`. -/
  car : Option Car
  ready : Bool
  /-- Whether there are `discovery_callbacks`. -/
  discovers : Bool
  discoveryPending : Bool
  accepted : List ℚ

/-- `MBAPI2020DataUpdateCoordinator.__init__`. -/
def Coordinator.new (vin : String) (vehicleName : PyValue) : Coordinator :=
  ⟨vin, vehicleName, 0, none, none, false, false, false, []⟩

/-- What the checks of a message look at. -/
def Coordinator.toHa (s : Coordinator) : Ha.Coordinator :=
  ⟨s.vin, s.vehicleName, s.receivedAt, s.data, s.car.map (·.shown)⟩

/-- A message on the state topic: its text as `json.loads` takes it, the time of its handling, and
what the listeners of the coordinator raise when they are told. -/
structure Arrival where
  now : ℚ
  parsed : Except PyError PyValue
  around : Surroundings
  listeners : Except Raised Unit

/-- The exceptions `_message` handles: `ValueError`, `KeyError`, `TypeError`, `OverflowError`. -/
def Raised.caught : Raised → Bool
  | .key => true
  | .noAttribute => false
  | .other e => decide (e = .value ∨ e = .type ∨ e = .overflow)

/-- The attributes of a checked message, each of them an object. -/
def objectsOf (attributes : Dict PyValue) : Attributes :=
  attributes.map fun item =>
    match item.2 with
    | .dict items => (item.1, items)
    | _ => (item.1, [])

/-- The payload, whose attributes the decoder may have completed. -/
def storedPayload (payload : Dict PyValue) (complete : Attributes) : Dict PyValue :=
  Dict.set payload "attributes" (.dict (complete.map fun item => (item.1, .dict item.2)))

/-- `CarAttribute(False, "VALID", 0)`: remote control is not offered. -/
def rcpUnsupported : CarAttribute := ⟨.bool false, .str "VALID", .int 0, .none, .none⟩

/-- What an exception in the checks comes to; a malformed message raised one that is handled. -/
def raisedOf : Ha.Refusal → Except Raised Unit
  | .ignored => .ok ()
  | .malformed => .error (.other .value)
  | .raised e => .error (.other e)

section Programs

variable [PyText]

/-- A program over the car of the coordinator; a car that is not known is made. -/
def onCar {α : Type} (x : Exec Car Raised α) : Exec Coordinator Raised α :=
  Exec.zoom (fun s : Coordinator => s.car.getD (Car.new s.vin))
    (fun car s => { s with car := some car }) x

/-- What follows the checks. -/
def takeReading (arrival : Arrival) (payload : Dict PyValue) (reading : Ha.Reading) :
    Exec Coordinator Raised Unit := do
  let complete ← onCar
    (buildCar arrival.around reading.isRestData (objectsOf reading.attributes))
  let s ← Exec.read
  onCar (Exec.change fun car =>
    { car with shown := Ha.carOf s.toHa reading, rcpSupported := some rcpUnsupported })
  -- `int(received_at * 1000)`
  let millis ← Exec.ofExcept
    ((toInt (.float (.mul reading.receivedAt 1000))).mapError Raised.other)
  onCar (Exec.change fun car => { car with lastMessageReceived := millis })
  Exec.change fun s =>
    { s with receivedAt := reading.receivedAt, accepted := reading.receivedAt :: s.accepted }
  -- `async_set_updated_data`
  Exec.change fun s => { s with data := some (storedPayload payload complete) }
  Exec.ofExcept arrival.listeners
  Exec.change fun s => { s with ready := true }
  Exec.change fun s => { s with discoveryPending := s.discoveryPending || s.discovers }

/-- The body of the `try` of `_message`. -/
def body (arrival : Arrival) : Exec Coordinator Raised Unit := do
  let value ← Exec.ofExcept (arrival.parsed.mapError Raised.other)
  match value with
  | .dict payload => do
    let s ← Exec.read
    match Ha.checkPayload s.toHa arrival.now payload with
    | .error refusal => Exec.ofExcept (raisedOf refusal)
    | .ok reading => takeReading arrival payload reading
  | _ => pure ()

/-- `_message(message)`. -/
def message (arrival : Arrival) : Exec Coordinator Raised Unit :=
  Exec.handle (body arrival) fun e => if e.caught then some (pure ()) else none

/-! ### What the entities read -/

/-- The attributes of a car. -/
inductive Path
  | value (part : Section) (option : String)
  | fullUpdatemessagesReceived
  | lastMessageReceived
  | dataCollectionMode
  | rcpSupported
  | isOwner
  | licenseplate
  | baumusterDescription
  | vehicleInformation

/-- An attribute that is a plain value. -/
def plain (value : PyValue) : CarAttribute := ⟨value, .none, .none, .none, .none⟩

/-- The property `last_message_received`; the time stands by its seconds. -/
def lastMessageOf (millis : ℤ) : CarAttribute :=
  if 0 < millis then
    ⟨.int (PyFloat.roundEven ((millis : ℚ) / 1000)), .str "VALID", .none, .none, .none⟩
  else ⟨.none, .str "NOT_RECEIVED", .none, .none, .none⟩

/-- `_get_car_attribute`, of the car's own attributes and its parts. -/
def Car.read (car : Car) : Path → Option CarAttribute
  | .value part option => car.value part option
  | .fullUpdatemessagesReceived => some ⟨.int car.full, .str "VALID", .none, .none, .none⟩
  | .lastMessageReceived => some (lastMessageOf car.lastMessageReceived)
  | .dataCollectionMode =>
    some ⟨.str car.dataCollectionMode, .str "VALID", car.dataCollectionModeTs, .none, .none⟩
  | .rcpSupported => car.rcpSupported
  | .isOwner => some ⟨car.shown.isOwner, .str "VALID", .none, .none, .none⟩
  | .licenseplate => some (plain car.shown.licenseplate)
  | .baumusterDescription => some (plain car.shown.baumusterDescription)
  | .vehicleInformation => some (plain car.shown.vehicleInformation)

/-- What the entities read of the car, if there is one. -/
def Coordinator.read (s : Coordinator) (path : Path) : Option CarAttribute :=
  s.car.bind (·.read path)

/-- What they read after a message that was taken as a whole. -/
def expected (arrival : Arrival) (reading : Ha.Reading) (complete : Attributes) (millis : ℤ)
    (s : Coordinator) : Path → Option CarAttribute
  | .value part option =>
    shownOf arrival.around complete part option (s.read (.value part option))
  | .fullUpdatemessagesReceived =>
    some ⟨.int ((s.car.map (·.full)).getD 0 + 1 : ℕ), .str "VALID", .none, .none, .none⟩
  | .lastMessageReceived => some (lastMessageOf millis)
  | .dataCollectionMode =>
    some ⟨.str (if reading.isRestData then "pull" else "push"), .str "VALID",
      arrival.around.stamp, .none, .none⟩
  | .rcpSupported => some rcpUnsupported
  | .isOwner => some ⟨(Ha.carOf s.toHa reading).isOwner, .str "VALID", .none, .none, .none⟩
  | .licenseplate => some (plain (Ha.carOf s.toHa reading).licenseplate)
  | .baumusterDescription => some (plain (Ha.carOf s.toHa reading).baumusterDescription)
  | .vehicleInformation => some (plain (Ha.carOf s.toHa reading).vehicleInformation)

/-! ### Taken as a whole, or not at all -/

/-- **The message is accepted**: every value of it is decoded and shown, with its time and data. -/
structure Accepts (arrival : Arrival) (payload : Dict PyValue) (reading : Ha.Reading)
    (complete : Attributes) (millis : ℤ) (s t : Coordinator) : Prop where
  made : completed reading.isRestData (objectsOf reading.attributes) = .ok complete
  decodes : ∀ part, Decodes arrival.around complete part
  timed : toInt (.float (.mul reading.receivedAt 1000)) = .ok millis
  receivedAt : t.receivedAt = reading.receivedAt
  data : t.data = some (storedPayload payload complete)
  shows : ∀ path, t.read path = expected arrival reading complete millis s path

/-- **The message is rejected**: the time, the data and every value are as before. -/
structure Unchanged (s t : Coordinator) : Prop where
  receivedAt : t.receivedAt = s.receivedAt
  data : t.data = s.data
  shows : ∀ path, t.read path = s.read path

/-- Some message of this text was accepted. -/
def Taken (arrival : Arrival) (s t : Coordinator) : Prop :=
  ∃ payload reading complete millis, arrival.parsed = .ok (.dict payload) ∧
    Ha.checkPayload s.toHa arrival.now payload = .ok reading ∧
    Accepts arrival payload reading complete millis s t

/-- **Atomicity**: no exception leaves the handler, and the message is accepted or rejected. -/
def Atomic (arrival : Arrival) (s : Coordinator) : Prop :=
  wp (message arrival) (fun _ t => Taken arrival s t ∨ Unchanged s t) (fun _ _ => False) s

/-- When a message is atomic: its text is JSON or raises what is handled; and if it passes the
checks, the decoder raises nothing, its time is a number of milliseconds, and the listeners raise
nothing but what is handled. -/
def Clean (arrival : Arrival) (s : Coordinator) : Prop :=
  match arrival.parsed with
  | .error e => (Raised.other e).caught = true
  | .ok (.dict payload) => ∀ reading, Ha.checkPayload s.toHa arrival.now payload = .ok reading →
      Decodable arrival.around reading.isRestData (objectsOf reading.attributes) ∧
        (∃ millis, toInt (.float (.mul reading.receivedAt 1000)) = .ok millis) ∧
        ∀ e, arrival.listeners = .error e → e.caught = true
  | .ok _ => True

variable {arrival : Arrival} {payload : Dict PyValue} {reading : Ha.Reading} {s : Coordinator}

/-! ### The checks -/

/-- A conversion to a number raises what is handled. -/
theorem refusalOf_floatOf {value : PyValue} {e : PyError} (raises : floatOf value = .error e) :
    Ha.refusalOf e = .malformed := by
  have handled : e = .value ∨ e = .type ∨ e = .overflow := by
    unfold floatOf at raises
    split at raises
    · split at raises
      · cases raises
      · cases raises
        exact .inr (.inr rfl)
    · split at raises
      · cases raises
      · cases raises
        exact .inl rfl
    · cases raises
    · cases raises
    · cases raises
      exact .inr (.inl rfl)
  exact if_pos handled

/-- **The acquisition time**: it is in order, or the message is refused without an exception that
leaves the handler. -/
theorem receivedOf_cases (before now : ℚ) (payload : Dict PyValue) :
    (∃ received, Ha.receivedOf before now payload = .ok received ∧ before ≤ received) ∨
      Ha.receivedOf before now payload = .error .ignored ∨
      Ha.receivedOf before now payload = .error .malformed := by
  unfold Ha.receivedOf
  cases Dict.get payload "received_at" with
  | none => exact .inr (.inr rfl)
  | some value =>
    simp only
    cases number : floatOf value with
    | error e => exact .inr (.inr (congrArg Except.error (refusalOf_floatOf number)))
    | ok found =>
      cases found with
      | finite found =>
        by_cases late : found < before ∨ now + 30 < found
        · exact .inr (.inl (if_pos late))
        · exact .inl ⟨found, if_neg late, not_lt.mp fun early => late (.inl early)⟩
      | inf negative => exact .inr (.inl rfl)
      | nan => exact .inr (.inl rfl)

theorem objectAt_cases (value : Dict PyValue) (key : String) :
    (∃ items, Ha.objectAt value key = .ok items) ∨ Ha.objectAt value key = .error .ignored := by
  unfold Ha.objectAt
  split
  · exact .inl ⟨_, rfl⟩
  · exact .inr rfl

theorem attributesOf_cases (payload : Dict PyValue) :
    (∃ attributes, Ha.attributesOf payload = .ok attributes) ∨
      Ha.attributesOf payload = .error .ignored := by
  unfold Ha.attributesOf
  split
  · split
    · exact .inl ⟨_, rfl⟩
    · exact .inr rfl
  · exact .inr rfl

/-- **The checks**: a message that passes them is in order, and one that does not raises nothing
that leaves the handler. -/
theorem checkPayload_cases (s : Ha.Coordinator) (now : ℚ) (payload : Dict PyValue) :
    (∃ reading, Ha.checkPayload s now payload = .ok reading ∧
        s.receivedAt ≤ reading.receivedAt) ∨
      ∃ refusal, Ha.checkPayload s now payload = .error refusal ∧
        ∀ e, raisedOf refusal = .error e → e.caught = true := by
  have ignored : ∀ e, raisedOf .ignored = .error e → e.caught = true := fun _ never => by
    cases never
  unfold Ha.checkPayload
  by_cases mine : Ha.isMine s.vin payload = true
  · rw [if_pos mine]
    rcases receivedOf_cases s.receivedAt now payload with ⟨received, found, ordered⟩ | none_ | bad
    · rw [found]
      rcases attributesOf_cases payload with ⟨attributes, held⟩ | none_
      · rw [held]
        rcases objectAt_cases payload "vehicle" with ⟨vehicle, object⟩ | none_
        · rw [object]
          rcases objectAt_cases vehicle "information" with ⟨information, nested⟩ | none_
          · refine .inl ⟨⟨received, attributes, Ha.isPulled payload, vehicle⟩, ?_, ordered⟩
            show (Ha.objectAt vehicle "information" >>= _) = _
            rw [nested]
            rfl
          · refine .inr ⟨.ignored, ?_, ignored⟩
            show (Ha.objectAt vehicle "information" >>= _) = _
            rw [none_]
            rfl
        · exact .inr ⟨.ignored, by rw [none_]; rfl, ignored⟩
      · exact .inr ⟨.ignored, by rw [none_]; rfl, ignored⟩
    · exact .inr ⟨.ignored, by rw [none_]; rfl, ignored⟩
    · refine .inr ⟨.malformed, by rw [bad]; rfl, ?_⟩
      rintro _ ⟨rfl⟩
      rfl
  · exact .inr ⟨.ignored, if_neg mine, ignored⟩

/-! ### The exits of a message -/

/-- A message that was counted can be told from none. -/
theorem counted {t : Coordinator} {car : Car} (held : t.car = some car)
    (more : car.full = (s.car.getD (Car.new s.vin)).full + 1) :
    t.read .fullUpdatemessagesReceived ≠ s.read .fullUpdatemessagesReceived := by
  unfold Coordinator.read
  rw [held]
  cases before : s.car with
  | none => exact Option.some_ne_none _
  | some first =>
    rw [before] at more
    intro same
    simp only [Option.bind_some, Car.read, Option.some.injEq, CarAttribute.mk.injEq,
      PyValue.int.injEq, Nat.cast_inj, and_true] at same
    rw [same] at more
    exact absurd more (Nat.ne_of_lt (Nat.lt_succ_self _))

/-- What is read of a car that was decoded as a whole, once the coordinator has set its own
attributes. -/
theorem Built.read {complete : Attributes} {millis : ℤ} {car : Car}
    (built : Built arrival.around reading.isRestData complete (s.car.getD (Car.new s.vin)) car)
    (path : Path) :
    Car.read
        { car with
          shown := Ha.carOf s.toHa reading
          rcpSupported := some rcpUnsupported
          lastMessageReceived := millis } path =
      expected arrival reading complete millis s path := by
  cases path with
  | value part option =>
    have before : (s.car.getD (Car.new s.vin)).value part option = s.read (.value part option) := by
      unfold Coordinator.read
      cases s.car <;> rfl
    exact (built.values part option).trans (by rw [before]; rfl)
  | fullUpdatemessagesReceived =>
    obtain ⟨_, rfl⟩ := built.body
    unfold expected
    cases s.car <;> rfl
  | dataCollectionMode =>
    obtain ⟨_, rfl⟩ := built.body
    rfl
  | _ => rfl

/-- **What follows the checks**: the message is accepted, whatever the listeners raise then; or the
car has counted a message that is not, under the time and the data of the one before. -/
theorem wp_takeReading (arrival : Arrival) (payload : Dict PyValue) (reading : Ha.Reading)
    (s : Coordinator) :
    wp (takeReading arrival payload reading)
      (fun _ t => arrival.listeners = .ok () ∧
        ∃ complete millis, Accepts arrival payload reading complete millis s t)
      (fun e t => (arrival.listeners = .error e ∧
          ∃ complete millis, Accepts arrival payload reading complete millis s t) ∨
        (t.receivedAt = s.receivedAt ∧ t.data = s.data ∧
          t.read .fullUpdatemessagesReceived ≠ s.read .fullUpdatemessagesReceived ∧
          ¬ (Decodable arrival.around reading.isRestData (objectsOf reading.attributes) ∧
            ∃ millis, toInt (.float (.mul reading.receivedAt 1000)) = .ok millis))) s := by
  unfold takeReading onCar
  simp only [wp_bind, wp_zoom]
  refine wp_mono (wp_buildCar _ _ _) ?_ ?_
  · rintro complete car ⟨made, decodable, built⟩
    simp only [wp_change, wp_read, wp_ofExcept]
    cases timed : toInt (.float (.mul reading.receivedAt 1000)) with
    | error e =>
      refine .inr ⟨trivial, trivial, counted rfl ?_, ?_⟩
      · obtain ⟨_, rfl⟩ := built.body
        rfl
      · rintro ⟨-, millis, same⟩
        cases same
    | ok millis =>
      have accepts : ∀ t : Coordinator, t.receivedAt = reading.receivedAt →
          t.data = some (storedPayload payload complete) →
          t.car = some
            { car with
              shown := Ha.carOf s.toHa reading
              rcpSupported := some rcpUnsupported
              lastMessageReceived := millis } →
          Accepts arrival payload reading complete millis s t := by
        intro t received data held
        obtain ⟨complete', made', decodes⟩ := decodable
        rw [made] at made'
        cases made'
        refine ⟨made, decodes, timed, received, data, fun path => ?_⟩
        unfold Coordinator.read
        rw [held]
        exact built.read path
      cases told : arrival.listeners with
      | error e => exact .inl ⟨rfl, complete, millis, accepts _ rfl rfl rfl⟩
      | ok _ => exact ⟨rfl, complete, millis, accepts _ rfl rfl rfl⟩
  · rintro e car ⟨raises, more⟩
    exact .inr ⟨trivial, trivial, counted rfl more, fun both => raises both.1⟩

/-! ### Atomicity -/

theorem Unchanged.refl (s : Coordinator) : Unchanged s s := ⟨rfl, rfl, fun _ => rfl⟩

/-- A message ends in `Q` without an exception when its `try` does, or raises there what is
handled. -/
theorem wp_message {Q : Unit → Coordinator → Prop} :
    wp (message arrival) Q (fun _ _ => False) s ↔
      wp (body arrival) Q (fun e t => e.caught = true ∧ Q () t) s := by
  unfold message
  rw [wp_handle]
  rcases run : body arrival s with ⟨e | _, t⟩
  · rw [wp_of_error run, wp_of_error run]
    cases handled : e.caught with
    | true =>
      refine ⟨fun both => ⟨rfl, both.1 _ rfl⟩, fun both => ⟨?_, fun never => by cases never⟩⟩
      rintro recover ⟨rfl⟩
      exact both.2
    | false => exact iff_of_false (fun both => both.2 rfl) fun both => by cases both.1
  · rw [wp_of_ok run, wp_of_ok run]

/-- A message that ends its `try` without a change is atomic if what it raised is handled. -/
theorem atomic_of_refused {outcome : Except Raised Unit}
    (ends : body arrival s = (outcome, s)) :
    Atomic arrival s ↔ ∀ e, outcome = .error e → e.caught = true := by
  unfold Atomic
  rw [wp_message]
  cases outcome with
  | ok _ =>
    rw [wp_of_ok ends]
    exact iff_of_true (.inr (.refl s)) fun _ never => by cases never
  | error e =>
    rw [wp_of_error ends]
    constructor
    · rintro ⟨handled, -⟩ _ ⟨rfl⟩
      exact handled
    · exact fun all => ⟨all e rfl, .inr (.refl s)⟩

/-- What a message that is an object runs. -/
theorem body_dict (parsed : arrival.parsed = .ok (.dict payload)) :
    body arrival s = (match Ha.checkPayload s.toHa arrival.now payload with
      | .error refusal => Exec.ofExcept (raisedOf refusal)
      | .ok reading => takeReading arrival payload reading) s := by
  unfold body
  rw [parsed]
  rfl

/-- **The two ways of a message**: it changes nothing, and is clean if what it raises is handled; or
it passes the checks, in order. -/
theorem body_cases (arrival : Arrival) (s : Coordinator) :
    (∃ outcome, body arrival s = (outcome, s) ∧
        (Clean arrival s ↔ ∀ e, outcome = .error e → e.caught = true)) ∨
      ∃ payload reading, arrival.parsed = .ok (.dict payload) ∧
        Ha.checkPayload s.toHa arrival.now payload = .ok reading ∧
        s.receivedAt ≤ reading.receivedAt ∧
        body arrival s = takeReading arrival payload reading s := by
  cases parsed : arrival.parsed with
  | error e =>
    refine .inl ⟨.error (.other e), ?_, ?_⟩
    · unfold body
      rw [parsed]
      rfl
    · unfold Clean
      rw [parsed]
      constructor
      · rintro handled _ ⟨rfl⟩
        exact handled
      · exact fun all => all _ rfl
  | ok value =>
    cases value with
    | dict payload =>
      rcases checkPayload_cases s.toHa arrival.now payload with
        ⟨reading, passed, ordered⟩ | ⟨refusal, refused, handled⟩
      · exact .inr ⟨payload, reading, rfl, passed, ordered, by rw [body_dict parsed, passed]⟩
      · refine .inl ⟨raisedOf refusal, by rw [body_dict parsed, refused]; rfl, ?_⟩
        refine iff_of_true ?_ handled
        unfold Clean
        rw [parsed]
        intro reading passed
        rw [refused] at passed
        cases passed
    | _ =>
      refine .inl ⟨.ok (), ?_, ?_⟩
      · unfold body
        rw [parsed]
        rfl
      · unfold Clean
        rw [parsed]
        exact iff_of_true trivial fun _ never => by cases never

/-- **A message that passes the checks** is atomic exactly when it is decoded as a whole and the
listeners raise what is handled. -/
theorem atomic_of_passed (parsed : arrival.parsed = .ok (.dict payload))
    (passed : Ha.checkPayload s.toHa arrival.now payload = .ok reading)
    (runs : body arrival s = takeReading arrival payload reading s) :
    Atomic arrival s ↔
      Decodable arrival.around reading.isRestData (objectsOf reading.attributes) ∧
        (∃ millis, toInt (.float (.mul reading.receivedAt 1000)) = .ok millis) ∧
        ∀ e, arrival.listeners = .error e → e.caught = true := by
  have taken : ∀ {t complete millis}, Accepts arrival payload reading complete millis s t →
      Taken arrival s t := fun accepts => ⟨payload, reading, _, _, parsed, passed, accepts⟩
  have whole : ∀ {t complete millis}, Accepts arrival payload reading complete millis s t →
      Decodable arrival.around reading.isRestData (objectsOf reading.attributes) ∧
        ∃ millis, toInt (.float (.mul reading.receivedAt 1000)) = .ok millis :=
    fun accepts => ⟨⟨_, accepts.made, accepts.decodes⟩, _, accepts.timed⟩
  have ends := wp_takeReading arrival payload reading s
  unfold Atomic
  rw [wp_message]
  rcases run : takeReading arrival payload reading s with ⟨e | _, t⟩
  · rw [wp_of_error run] at ends
    rw [wp_of_error (runs.trans run)]
    rcases ends with ⟨told, complete, millis, accepts⟩ | ⟨-, -, changed, partial_⟩
    · constructor
      · rintro ⟨handled, -⟩
        refine ⟨(whole accepts).1, (whole accepts).2, ?_⟩
        intro e' told'
        rw [told] at told'
        cases told'
        exact handled
      · rintro ⟨-, -, handled⟩
        exact ⟨handled e told, .inl (taken accepts)⟩
    · refine iff_of_false ?_ fun both => partial_ ⟨both.1, both.2.1⟩
      rintro ⟨-, ⟨payload', reading', _, _, parsed', passed', accepts⟩ | unchanged⟩
      · rw [parsed] at parsed'
        cases parsed'
        rw [passed] at passed'
        cases passed'
        exact partial_ (whole accepts)
      · exact changed (unchanged.shows _)
  · rw [wp_of_ok run] at ends
    rw [wp_of_ok (runs.trans run)]
    obtain ⟨told, complete, millis, accepts⟩ := ends
    refine iff_of_true (.inl (taken accepts)) ⟨(whole accepts).1, (whole accepts).2, ?_⟩
    intro e never
    rw [told] at never
    cases never

/-- **When a message is atomic.** -/
theorem atomic_iff (arrival : Arrival) (s : Coordinator) :
    Atomic arrival s ↔ Clean arrival s := by
  rcases body_cases arrival s with
    ⟨outcome, ends, clean⟩ | ⟨payload, reading, parsed, passed, -, runs⟩
  · rw [atomic_of_refused ends, clean]
  · rw [atomic_of_passed parsed passed runs]
    unfold Clean
    rw [parsed]
    constructor
    · intro whole reading' passed'
      rw [passed] at passed'
      cases passed'
      exact whole
    · exact fun all => all reading passed

/-! ### What `Ha.message` says of it -/

/-- The coordinator after a message, whether an exception left the handler or not. -/
def Coordinator.next (s : Coordinator) (arrival : Arrival) : Coordinator := (message arrival s).2

/-- A handled exception changes nothing. -/
theorem next_eq (arrival : Arrival) (s : Coordinator) : s.next arrival = (body arrival s).2 := by
  unfold Coordinator.next message Exec.handle
  rcases body arrival s with ⟨e | _, t⟩
  · cases handled : e.caught <;> simp only [handled, if_true, Bool.false_eq_true, if_false]
    rfl
  · rfl

/-- A message that passes the checks sets its time when it is decoded as a whole. -/
theorem takeReading_receivedAt (arrival : Arrival) (payload : Dict PyValue) (reading : Ha.Reading)
    (s : Coordinator) :
    (Decodable arrival.around reading.isRestData (objectsOf reading.attributes) ∧
        (∃ millis, toInt (.float (.mul reading.receivedAt 1000)) = .ok millis) ∧
        (takeReading arrival payload reading s).2.receivedAt = reading.receivedAt) ∨
      (¬ (Decodable arrival.around reading.isRestData (objectsOf reading.attributes) ∧
          ∃ millis, toInt (.float (.mul reading.receivedAt 1000)) = .ok millis) ∧
        (takeReading arrival payload reading s).2.receivedAt = s.receivedAt) := by
  have ends := wp_takeReading arrival payload reading s
  rcases run : takeReading arrival payload reading s with ⟨e | _, t⟩
  · rw [wp_of_error run] at ends
    rcases ends with ⟨-, complete, millis, accepts⟩ | ⟨same, -, -, partial_⟩
    · exact .inl ⟨⟨_, accepts.made, accepts.decodes⟩, ⟨_, accepts.timed⟩, accepts.receivedAt⟩
    · exact .inr ⟨partial_, same⟩
  · rw [wp_of_ok run] at ends
    obtain ⟨-, complete, millis, accepts⟩ := ends
    exact .inl ⟨⟨_, accepts.made, accepts.decodes⟩, ⟨_, accepts.timed⟩, accepts.receivedAt⟩

/-- A reading that was checked is stored by both, where the decoder agrees. -/
theorem take_refines {decoder : Dict PyValue → Bool → Except PyError Unit}
    {payload : Dict PyValue} {reading : Ha.Reading}
    (decoded : (decoder payload reading.isRestData).toBool = true ↔
      Decodable arrival.around reading.isRestData (objectsOf reading.attributes)) :
    (takeReading arrival payload reading s).2.receivedAt =
      (s.toHa.take decoder payload reading).receivedAt := by
  unfold Ha.Coordinator.take
  rcases takeReading_receivedAt arrival payload reading s with
    ⟨decodable, ⟨millis, timed⟩, time⟩ | ⟨partial_, time⟩
  · have returns := decoded.mpr decodable
    rw [time]
    cases ends : decoder payload reading.isRestData with
    | error e =>
      rw [ends] at returns
      cases returns
    | ok _ =>
      simp only [timed]
  · rw [time]
    cases ends : decoder payload reading.isRestData with
    | error e => rfl
    | ok _ =>
      rw [ends] at decoded
      cases timed : toInt (.float (.mul reading.receivedAt 1000)) with
      | error e => rfl
      | ok millis => exact absurd ⟨decoded.mp rfl, millis, timed⟩ partial_

/-- **The acquisition time after a message is that of `Ha.message`**, for a decoder that raises when
this one does. -/
theorem message_refines {decoder : Dict PyValue → Bool → Except PyError Unit}
    (agrees : ∀ payload reading, Ha.checkPayload s.toHa arrival.now payload = .ok reading →
      ((decoder payload reading.isRestData).toBool = true ↔
        Decodable arrival.around reading.isRestData (objectsOf reading.attributes))) :
    (s.next arrival).receivedAt =
      (Ha.message decoder arrival.now arrival.parsed s.toHa).2.receivedAt := by
  rw [next_eq]
  unfold Ha.message
  cases parsed : arrival.parsed with
  | error e =>
    unfold body
    rw [parsed]
    rfl
  | ok value =>
    cases value with
    | dict payload =>
      rw [body_dict parsed]
      show _ = Ha.Coordinator.receivedAt (match Ha.checkPayload s.toHa arrival.now payload with
        | .error refusal => (Except.error refusal, s.toHa)
        | .ok reading => (Except.ok reading, s.toHa.take decoder payload reading)).2
      cases passed : Ha.checkPayload s.toHa arrival.now payload with
      | error refusal => rfl
      | ok reading =>
        exact take_refines (agrees payload reading passed)
    | _ =>
      unfold body
      rw [parsed]
      rfl

/-! ### Runs -/

/-- The coordinator after the messages of a topic. -/
def Coordinator.run (s : Coordinator) (arrivals : List Arrival) : Coordinator :=
  arrivals.foldl Coordinator.next s

/-- The acquisition times of accepted messages do not decrease, and the last is the one held. -/
structure Ordered (s : Coordinator) : Prop where
  last : ∀ time ∈ s.accepted, time ≤ s.receivedAt
  newestFirst : s.accepted.Pairwise (· ≥ ·)

/-- The times of a coordinator. -/
def Coordinator.times (s : Coordinator) : ℚ × List ℚ := (s.receivedAt, s.accepted)

theorem frames_onCar {α : Type} (x : Exec Car Raised α) :
    Frames Coordinator.times (onCar x) := by
  intro s
  unfold Keeps onCar
  rw [wp_zoom]
  exact wp_of_final rfl

/-- The times after a message: those before, or with the later time it brought. -/
def Later (s t : Coordinator) : Prop :=
  t.times = s.times ∨
    ∃ received, s.receivedAt ≤ received ∧ t.times = (received, received :: s.accepted)

/-- What follows the checks sets the time of the message, or none. -/
theorem keeps_takeReading (arrival : Arrival) (payload : Dict PyValue)
    (ordered : s.receivedAt ≤ reading.receivedAt) :
    Keeps (Later s) (takeReading arrival payload reading) s := by
  have car : ∀ {α : Type} (x : Exec Car Raised α) (t : Coordinator), t.times = s.times →
      Keeps (fun t => t.times = s.times) (onCar x) t :=
    fun x t same => wp_mono (frames_onCar x t) (fun _ _ kept => kept.trans same)
      fun _ _ kept => kept.trans same
  have early : ∀ (_ : Raised) (t : Coordinator), t.times = s.times → Later s t :=
    fun _ _ same => .inl same
  unfold takeReading Keeps
  simp only [wp_bind, wp_read]
  refine wp_mono (car _ s rfl) (fun complete t same => ?_) early
  refine wp_mono (car _ t same) (fun _ t same => ?_) early
  rw [wp_ofExcept]
  cases toInt (.float (.mul reading.receivedAt 1000)) with
  | error e => exact .inl same
  | ok millis =>
    refine wp_mono (car _ t same) (fun _ t same => ?_) early
    have later : Later s
        { t with
          receivedAt := reading.receivedAt
          accepted := reading.receivedAt :: t.accepted } := by
      refine .inr ⟨reading.receivedAt, ordered, ?_⟩
      have held : t.accepted = s.accepted := congrArg Prod.snd same
      unfold Coordinator.times
      rw [held]
    simp only [wp_change, wp_ofExcept]
    cases arrival.listeners with
    | error e => exact later
    | ok _ => exact later

/-- So does a message, in order. -/
theorem later_next (arrival : Arrival) (s : Coordinator) : Later s (s.next arrival) := by
  rw [next_eq]
  rcases body_cases arrival s with ⟨outcome, ends, -⟩ | ⟨payload, reading, -, -, ordered, runs⟩
  · rw [ends]
    exact .inl rfl
  · rw [runs]
    exact (keeps_takeReading arrival payload ordered).final

theorem Ordered.next (ordered : Ordered s) (arrival : Arrival) : Ordered (s.next arrival) := by
  rcases later_next arrival s with same | ⟨received, later, same⟩
  · obtain ⟨held, times⟩ := Prod.mk.inj same
    refine ⟨?_, ?_⟩
    · rw [held, times]
      exact ordered.last
    · rw [times]
      exact ordered.newestFirst
  · obtain ⟨held, times⟩ := Prod.mk.inj same
    refine ⟨?_, ?_⟩
    · rw [held, times]
      exact List.forall_mem_cons.mpr
        ⟨le_rfl, fun time member => (ordered.last time member).trans later⟩
    · rw [times]
      exact List.pairwise_cons.mpr
        ⟨fun time member => (ordered.last time member).trans later, ordered.newestFirst⟩

theorem Ordered.run (ordered : Ordered s) (arrivals : List Arrival) :
    Ordered (s.run arrivals) := by
  induction arrivals generalizing s with
  | nil => exact ordered
  | cons arrival rest ih => exact ih (ordered.next arrival)

end Programs

/-- A message of an acquisition time and these attributes. -/
def arrivalOf (receivedAt : ℤ) (attributes : List (String × PyValue)) : Arrival where
  now := receivedAt
  parsed := .ok (.dict
    [("schema", .int 1), ("vin", .str "W1N1"), ("received_at", .int receivedAt),
      ("attributes", .dict attributes)])
  around := ⟨0, .int receivedAt, fun _ => none, fun _ => none, fun _ => false⟩
  listeners := .ok ()

/-- The state of charge that is read, when it is an integer. -/
def chargeRead (s : Coordinator) : Option ℤ :=
  match s.read (.value .electric "soc") with
  | some ⟨.int value, _, _, _, _⟩ => some value
  | _ => none

/-- The acquisition time in the data, when it is an integer. -/
def timeHeld (s : Coordinator) : Option ℤ :=
  match s.data.bind fun payload => Dict.get payload "received_at" with
  | some (.int value) => some value
  | _ => none

theorem Atomic.ends [PyText] {arrival : Arrival} {s : Coordinator} (atomic : Atomic arrival s) :
    (message arrival s).1.toBool = true ∧
      (Taken arrival s (s.next arrival) ∨ Unchanged s (s.next arrival)) := by
  unfold Atomic wp at atomic
  unfold Coordinator.next
  rcases run : message arrival s with ⟨e | _, t⟩
  · rw [run] at atomic
    exact atomic.elim
  · rw [run] at atomic
    exact ⟨rfl, atomic⟩

/-- A message that was taken left its own time in the data. -/
theorem Taken.timeHeld [PyText] {receivedAt : ℤ} {attributes : List (String × PyValue)}
    {s t : Coordinator} (taken : Taken (arrivalOf receivedAt attributes) s t) :
    timeHeld t = some receivedAt := by
  obtain ⟨payload, reading, complete, millis, parsed, -, accepts⟩ := taken
  cases parsed
  unfold Decoder.timeHeld
  rw [accepts.data]
  rfl

end DbusEv.Decoder
