/-
**The coordinator converges** (`ha/custom_components/mbapi2020/coordinator.py`, fed by
`dbus_ev/cerbo_mqtt.py`).

MQTT delivers a state late, twice, or not at all. A message of an accepted payload that can be
decoded (`Delivers`) replaces what the coordinator holds unless it is older (`next_delivered`); so
after any messages it holds the payload of the latest (`run_delivered`), and which messages arrived
decides it, not their order or their number (`converges`).
-/

import DbusEv.Agreement
import DbusEv.Coordinator
import DbusEv.Lib.Latest

set_option autoImplicit false
set_option linter.unusedSectionVars false

namespace DbusEv.Decoder

open Exec Mqtt

/-! ### What is held of a payload -/

section Programs

variable [PyText]

/-- What a coordinator holds. -/
def Coordinator.held (s : Coordinator) : ℚ × Option (Dict PyValue) := (s.receivedAt, s.data)

/-- A message of a payload that the client accepted, in time, and one that can be decoded. -/
structure Delivers (config : Mercedes.Config) (arrival : Arrival) (payload : Mercedes.Payload) :
    Prop where
  complete : Mercedes.Complete config payload
  parsed : arrival.parsed = .ok (.dict (encodePayload payload))
  behind : payload.receivedAt ≤ arrival.now + 30
  decodable : Decodable arrival.around (Ha.sentReading payload).isRestData
    (objectsOf (Ha.sentReading payload).attributes)
  timed : ∃ millis, toInt (.float (.mul payload.receivedAt 1000)) = .ok millis

variable {config : Mercedes.Config} {arrival : Arrival} {payload : Mercedes.Payload}
  {s : Coordinator}

/-! ### One message -/

/-- The coordinator stays that of its vehicle. -/
theorem vin_next (arrival : Arrival) (s : Coordinator) : (s.next arrival).vin = s.vin := by
  have car : ∀ {α : Type} (x : Exec Car Raised α), Frames Coordinator.vin (onCar x) := by
    intro α x t
    unfold Keeps onCar
    rw [wp_zoom]
    exact wp_of_final rfl
  have outcome : ∀ {α : Type} (x : Except Raised α), Frames Coordinator.vin (ofExcept x) :=
    fun x t => keeps_ofExcept rfl
  have change_ : ∀ f : Coordinator → Coordinator, (∀ t, (f t).vin = t.vin) →
      Frames Coordinator.vin (change f : Exec Coordinator Raised Unit) := fun f same => same
  have takes : ∀ payload reading, Frames Coordinator.vin (takeReading arrival payload reading) := by
    intro payload reading
    unfold takeReading
    refine frames_bind (car _) fun _ => frames_read fun _ => frames_bind (car _) fun _ => ?_
    refine frames_bind (outcome _) fun _ => frames_bind (car _) fun _ => ?_
    refine frames_bind (change_ _ fun _ => rfl) fun _ => ?_
    refine frames_bind (change_ _ fun _ => rfl) fun _ => frames_bind (outcome _) fun _ => ?_
    exact frames_bind (change_ _ fun _ => rfl) fun _ => change_ _ fun _ => rfl
  rw [next_eq]
  rcases body_cases arrival s with ⟨_, ends, -⟩ | ⟨payload, reading, -, -, -, runs⟩
  · rw [ends]
  · rw [runs]
    exact (takes payload reading s).final

theorem objectsOf_sent (payload : Mercedes.Payload) :
    objectsOf (Ha.sentReading payload).attributes = payload.attributes := by
  unfold objectsOf Ha.sentReading
  rw [List.map_map]
  exact List.map_id _

/-- A payload that was taken is held as it was sent: it was complete. -/
theorem held_of_accepts {complete : Attributes} {millis : ℤ} {t : Coordinator}
    (settled : Mercedes.Complete config payload)
    (accepts : Accepts arrival (encodePayload payload) (Ha.sentReading payload) complete millis s
      t) :
    t.held = (payload.receivedAt, some (encodePayload payload)) := by
  have made := accepts.made
  rw [objectsOf_sent] at made
  obtain rfl : payload.attributes = complete := Except.ok.inj (settled.settled.symm.trans made)
  refine Prod.ext accepts.receivedAt (accepts.data.trans ?_)
  simp [storedPayload, encodePayload, Dict.set]

/-- **A payload that is older** than the one held, or ahead of the clock, is ignored. -/
theorem check_untimely (complete : Mercedes.Complete config payload) (same : s.vin = config.vin)
    {now : ℚ} (untimely : payload.receivedAt < s.receivedAt ∨ now + 30 < payload.receivedAt) :
    Ha.checkPayload s.toHa now (encodePayload payload) = .error .ignored := by
  have mine : Ha.isMine s.toHa.vin (encodePayload payload) = true := by
    have held : s.toHa.vin = config.vin := same
    simp [Ha.isMine, encodePayload, Dict.get_cons, PyValue.isNumber, complete.schema, complete.vin,
      held]
  have late : payload.receivedAt < s.toHa.receivedAt ∨ now + 30 < payload.receivedAt := untimely
  have received : Ha.receivedOf s.toHa.receivedAt now (encodePayload payload) =
      .error .ignored := by
    simp [Ha.receivedOf, encodePayload, Dict.get_cons, floatOf, late]
  unfold Ha.checkPayload
  rw [if_pos mine, received]
  rfl

/-- **One message** replaces what is held, unless it is older: then it changes nothing. -/
theorem next_delivered (delivers : Delivers config arrival payload) (same : s.vin = config.vin) :
    (s.receivedAt ≤ payload.receivedAt →
        (s.next arrival).held = (payload.receivedAt, some (encodePayload payload))) ∧
      (payload.receivedAt < s.receivedAt → s.next arrival = s) := by
  rw [next_eq, body_dict delivers.parsed]
  constructor
  · intro ordered
    have checked : Ha.checkPayload s.toHa arrival.now (encodePayload payload) =
        .ok (Ha.sentReading payload) :=
      Ha.check_encodePayload delivers.complete same ordered delivers.behind
    rw [checked]
    have ends := wp_takeReading arrival (encodePayload payload) (Ha.sentReading payload) s
    show (takeReading arrival (encodePayload payload) (Ha.sentReading payload) s).2.held = _
    rcases run : takeReading arrival (encodePayload payload) (Ha.sentReading payload) s with
      ⟨e | _, t⟩
    · rw [wp_of_error run] at ends
      rcases ends with ⟨-, complete, millis, accepts⟩ | ⟨-, -, -, partial_⟩
      · exact held_of_accepts delivers.complete accepts
      · exact absurd ⟨delivers.decodable, delivers.timed⟩ partial_
    · rw [wp_of_ok run] at ends
      obtain ⟨-, complete, millis, accepts⟩ := ends
      exact held_of_accepts delivers.complete accepts
  · intro older
    rw [check_untimely delivers.complete same (.inl older)]
    rfl

/-! ### Every run -/

/-- What is held of the latest payload, and `first` if there is none. -/
def heldOf (first : ℚ × Option (Dict PyValue)) (payloads : List Mercedes.Payload) :
    ℚ × Option (Dict PyValue) :=
  match latest Mercedes.Payload.receivedAt payloads with
  | some payload => (payload.receivedAt, some (encodePayload payload))
  | none => first

/-- **After any messages** the coordinator holds the latest payload, by induction on the messages,
from the last one. -/
theorem run_delivered {arrivals : List (Arrival × Mercedes.Payload)} (same : s.vin = config.vin)
    (delivers : ∀ item ∈ arrivals, Delivers config item.1 item.2)
    (later : ∀ item ∈ arrivals, s.receivedAt ≤ item.2.receivedAt) :
    (s.run (arrivals.map Prod.fst)).held = heldOf s.held (arrivals.map Prod.snd) := by
  have vins : ∀ more : List Arrival, (s.run more).vin = s.vin := by
    intro more
    induction more using List.reverseRecOn with
    | nil => rfl
    | append_singleton more last ih =>
      unfold Coordinator.run at ih ⊢
      rw [List.foldl_append]
      exact (vin_next last _).trans ih
  induction arrivals using List.reverseRecOn with
  | nil => rfl
  | append_singleton earlier last ih =>
    obtain ⟨arrival, payload⟩ := last
    obtain ⟨delivers, delivered⟩ := List.forall_mem_append.mp delivers
    obtain ⟨later, latest_⟩ := List.forall_mem_append.mp later
    have delivered := List.forall_mem_singleton.mp delivered
    have latest_ := List.forall_mem_singleton.mp latest_
    have before := ih delivers later
    have one := next_delivered delivered ((vins (earlier.map Prod.fst)).trans same)
    have ran : s.run ((earlier ++ [(arrival, payload)]).map Prod.fst) =
        (s.run (earlier.map Prod.fst)).next arrival := by
      unfold Coordinator.run
      rw [List.map_append, List.foldl_append]
      rfl
    unfold heldOf at before ⊢
    rw [ran, List.map_append, List.map_singleton, latest_concat]
    cases found : latest Mercedes.Payload.receivedAt (earlier.map Prod.snd) with
    | none =>
      rw [found] at before
      have time : (s.run (earlier.map Prod.fst)).receivedAt = s.receivedAt :=
        congrArg Prod.fst before
      exact one.1 (time.trans_le latest_)
    | some old =>
      rw [found] at before
      have time : (s.run (earlier.map Prod.fst)).receivedAt = old.receivedAt :=
        congrArg Prod.fst before
      by_cases newer : old.receivedAt ≤ payload.receivedAt
      · simp only [newer, if_true]
        exact one.1 (time.trans_le newer)
      · rw [one.2 (time ▸ not_le.mp newer)]
        simp only [newer, if_false]
        exact before

/-- **Convergence.** Two coordinators that start alike and receive messages of the same payloads,
each in its own order and as often as MQTT delivers them, hold the same time and the same data. -/
theorem converges {t : Coordinator} {first second : List (Arrival × Mercedes.Payload)}
    (sameVin : s.vin = config.vin) (otherVin : t.vin = config.vin) (alike : s.held = t.held)
    (delivers : ∀ item ∈ first ++ second, Delivers config item.1 item.2)
    (later : ∀ item ∈ first ++ second, s.receivedAt ≤ item.2.receivedAt)
    (distinct : ∀ one ∈ first, ∀ other ∈ first,
      one.2.receivedAt = other.2.receivedAt → one.2 = other.2)
    (same : ∀ payload, payload ∈ first.map Prod.snd ↔ payload ∈ second.map Prod.snd) :
    (s.run (first.map Prod.fst)).held = (t.run (second.map Prod.fst)).held := by
  obtain ⟨delivers, delivers'⟩ := List.forall_mem_append.mp delivers
  obtain ⟨later, later'⟩ := List.forall_mem_append.mp later
  have starts : s.receivedAt = t.receivedAt := congrArg Prod.fst alike
  rw [run_delivered sameVin delivers later,
    run_delivered otherVin delivers' fun item member => starts ▸ later' item member, alike]
  unfold heldOf
  rw [latest_congr ?_ same]
  intro one member other member' times
  obtain ⟨first_, inside, rfl⟩ := List.mem_map.mp member
  obtain ⟨second_, inside', rfl⟩ := List.mem_map.mp member'
  exact distinct first_ inside second_ inside' times

/-- A car that is built was decoded as a whole. -/
theorem decodable_of_built {around : Surroundings} {isRestData : Bool} {attributes : Attributes}
    {car : Car} (returns : (buildCar around isRestData attributes car).1.toBool = true) :
    Decodable around isRestData attributes := by
  have ends : wp (buildCar around isRestData attributes) _ _ car :=
    wp_buildCar isRestData attributes car
  rcases run : buildCar around isRestData attributes car with ⟨e | complete, built⟩
  · rw [run] at returns
    cases returns
  · rw [wp_of_ok run] at ends
    exact ends.2.1

end Programs

/-- Two pushes, a minute apart. -/
def firstPush : Mercedes.Payload := { Ha.somePayload with attributes := [] }
def secondPush : Mercedes.Payload :=
  { Ha.somePayload with
    receivedAt := 160
    revision := 2
    attributes := [("soc", [("int_value", .int 81)])] }

/-- Their messages. -/
def pushed (payload : Mercedes.Payload) : Arrival × Mercedes.Payload :=
  (⟨165, .ok (.dict (encodePayload payload)), (arrivalOf 165 []).around, .ok ()⟩, payload)

theorem pushed_delivers {payload : Mercedes.Payload} (push : payload ∈ [firstPush, secondPush]) :
    @Delivers plainText Mercedes.someConfig (pushed payload).1 (pushed payload).2 := by
  let := plainText
  have informed : Mercedes.Informed [("name", .str "EV 1"), ("model", .str "Mercedes-Benz"),
      ("is_owner", .bool false), ("information", .dict [("tcuType", .str "ramses")])] := by
    intro information found
    cases Option.some.inj found
    exact ⟨_, rfl⟩
  rcases List.mem_pair.mp push with rfl | rfl
  · refine ⟨⟨rfl, rfl, ⟨_, rfl, informed⟩, ⟨.push, rfl⟩, rfl⟩, rfl, ?_, ?_, 100000, ?_⟩
    · decide +kernel
    · exact @decodable_of_built plainText _ _ _ (Car.new "") (by decide +kernel)
    · decide +kernel
  · refine ⟨⟨rfl, rfl, ⟨_, rfl, informed⟩, ⟨.push, rfl⟩, rfl⟩, rfl, ?_, ?_, 160000, ?_⟩
    · decide +kernel
    · exact @decodable_of_built plainText _ _ _ (Car.new "") (by decide +kernel)
    · decide +kernel

/-- The second push arrives before the first, and twice. -/
theorem pushed_converges : letI := plainText
    ((Coordinator.new "WDD0000000000TEST" .none).run
        ([pushed secondPush, pushed firstPush, pushed secondPush].map Prod.fst)).held =
      ((Coordinator.new "WDD0000000000TEST" (.str "EV")).run
        ([pushed firstPush, pushed secondPush].map Prod.fst)).held := by
  have all : ∀ item ∈ [pushed secondPush, pushed firstPush, pushed secondPush] ++
      [pushed firstPush, pushed secondPush],
      item = pushed firstPush ∨ item = pushed secondPush := by
    intro item member
    simp only [List.cons_append, List.nil_append, List.mem_cons, List.not_mem_nil] at member
    tauto
  have apart : firstPush.receivedAt ≠ secondPush.receivedAt := by decide +kernel
  refine @converges plainText Mercedes.someConfig _ _ _ _ rfl rfl rfl ?_ ?_ ?_ ?_
  · intro item member
    rcases all item member with rfl | rfl
    · exact pushed_delivers List.mem_cons_self
    · exact pushed_delivers (List.mem_cons_of_mem _ List.mem_cons_self)
  · intro item member
    rcases all item member with rfl | rfl <;> decide +kernel
  · intro one member other member' times
    rcases all one (List.mem_append_left _ member) with rfl | rfl <;>
      rcases all other (List.mem_append_left _ member') with rfl | rfl
    · rfl
    · exact absurd times apart
    · exact absurd times.symm apart
    · rfl
  · intro payload
    simp only [List.map_cons, List.map_nil, List.mem_cons, List.not_mem_nil]
    tauto

end DbusEv.Decoder
