/-
**Publisher and receiver agree**, in every run of the client.

* `SenderEvent` — what can happen to the client, its display metadata included.
* `Complete` — the shape of an accepted payload; every run accepts such payloads only (`Sends`).
* `check_encodePayload` — the receiver's checks pass on the object of such a payload.
* `receiver_agrees` — whatever states are published and however the decoder ends, no message is
  refused, what is taken from it is what was sent, and the decoder's own step, which completes a
  pulled message, finds it complete.
-/

import DbusEv.Mercedes.Metadata
import DbusEv.Mercedes.Session
import DbusEv.Publication
import DbusEv.Receiver

set_option autoImplicit false
set_option linter.unusedSectionVars false

namespace DbusEv.Mercedes

/-! ### What a client accepts -/

/-- What can happen to a client; the metadata is read while it is unknown, and a new login forgets
it. -/
inductive SenderEvent
  | session (event : SessionEvent)
  | metadata (vehicles capabilities : Except Exn PyValue)
  | login

/-- The shape of an accepted payload; the decoder has completed it. -/
structure Complete [PyText] (config : Config) (payload : Payload) : Prop where
  schema : payload.schema = 1
  vin : payload.vin = config.vin
  vehicle : ∃ vehicle, payload.vehicle = some vehicle ∧ Informed vehicle
  dataMode : ∃ source, payload.dataMode = some source
  settled : Decoder.completed (payload.dataMode = some .pull) payload.attributes =
    .ok payload.attributes

/-- A session whose next payloads have this shape, as those before. -/
structure Sends [PyText] (config : Config) (s : Session) : Prop where
  protocolVin : s.protocol.vin = config.vin
  clientVin : s.client.vin = config.vin
  vehicle : ∀ vehicle ∈ s.client.vehicle, Informed vehicle
  accepted : ∀ payload buffered, .accepted payload buffered ∈ s.history → Complete config payload

/-- A payload as `merge` builds it. -/
structure Drafted (config : Config) (payload : Payload) : Prop where
  schema : payload.schema = 1
  vin : payload.vin = config.vin

section Sender

variable [PyText]

/-- `if self._vehicle is None: self._vehicle = await self._metadata(…)`; an exception ends the
connection. -/
def Session.readMetadata (s : Session) (vehicles capabilities : Except Exn PyValue) : Session :=
  if s.client.vehicle.isSome then s
  else
    match metadata s.client.vin vehicles capabilities with
    | .ok vehicle => { s with client := { s.client with vehicle := some vehicle } }
    | .error _ => s

/-- One event. -/
def Session.follow (vendor : Vendor) (s : Session) (clock : Clock) : SenderEvent → Session
  | .session event => s.step vendor clock event
  | .metadata vehicles capabilities => s.readMetadata vehicles capabilities
  | .login =>
    { s with protocol := Protocol.new s.client.vin, client := { s.client with vehicle := none } }

/-- A run of the client. -/
def runSender (vendor : Vendor) (config : Config) (events : List (Clock × SenderEvent)) : Session :=
  events.foldl (fun s event => s.follow vendor event.1 event.2) (Session.new config)

variable {vendor : Vendor} {config : Config} {s : Session}

theorem mergedWith_vin (protocol : Protocol) (update incoming : Dict PyValue) :
    (protocol.mergedWith update incoming).vin = protocol.vin := by
  unfold Protocol.mergedWith Protocol.resetBy
  split <;> rfl

theorem Sends.mergeUpdate (sends : Sends config s) (wall : ℚ) (update : Dict PyValue) :
    Exec.wp (mergeUpdate wall update)
      (fun payload t => Sends config t ∧ ∀ found ∈ payload, Drafted config found)
      (fun _ => Sends config) s := by
  rcases taken : incomingOf update with _ | incoming
  · rw [Exec.wp_of_ok (mergeUpdate_none taken)]
    exact ⟨sends, nofun⟩
  · rw [Exec.wp_of_ok (mergeUpdate_some taken)]
    have vin := (mergedWith_vin s.protocol update incoming).trans sends.protocolVin
    refine ⟨⟨vin, sends.clientVin, sends.vehicle, fun payload buffered member => ?_⟩, ?_⟩
    · have later : Entry.accepted payload buffered ∈
          (if isFullUpdate update then .full :: s.history else s.history) := member
      split at later
      · rcases List.mem_cons.mp later with new | old
        · cases new
        · exact sends.accepted payload buffered old
      · exact sends.accepted payload buffered later
    · rintro found ⟨⟩
      exact ⟨rfl, vin⟩

/-- What is stored of a drafted payload is complete. -/
theorem Sends.complete_taken (sends : Sends config s) {payload stored : Payload} {source : Source}
    (drafted : Drafted config payload) (taken : s.client.taken payload source = .ok stored) :
    Complete config stored := by
  have same := decoded_same taken
  refine ⟨?_, ?_, ?_, ?_, decoded_settled taken⟩
  · rw [same]
    exact drafted.schema
  · rw [same]
    exact drafted.vin
  · rw [same]
    refine ⟨_, rfl, ?_⟩
    rcases known : s.client.vehicle with _ | vehicle
    · exact informed_nil
    · exact sends.vehicle vehicle known
  · rw [same]
    exact ⟨source, rfl⟩

/-- `_accept` completes a drafted payload. -/
theorem Sends.acceptPayload (sends : Sends config s) (mono : ℚ) {payload : Payload}
    (drafted : Drafted config payload) (source : Source) (buffered : Bool) :
    Exec.Keeps (Sends config) (acceptPayload vendor mono payload source buffered) s := by
  refine Exec.wp_of_final ?_
  unfold Mercedes.acceptPayload
  rcases accepted : s.client.accept vendor mono payload source with e | client
  · exact sends
  · obtain ⟨stored, snapshot, taken, -, rfl⟩ := accept_ok accepted
    refine { sends with accepted := fun other flag member => ?_ }
    rcases List.mem_cons.mp member with new | old
    · cases new
      exact sends.complete_taken drafted taken
    · exact sends.accepted other flag old

theorem Sends.takeFrame (sends : Sends config s) (clock : Clock) (update : Dict PyValue)
    (acknowledged : Bool) :
    Exec.Keeps (Sends config) (takeFrame vendor clock update acknowledged) s := by
  have decoded : Exec.wp (decodePush clock.wall update)
      (fun payload t => Sends config t ∧ ∀ found ∈ payload, Drafted config found)
      (fun _ => Sends config) s := by
    unfold decodePush
    rw [Exec.wp_ite]
    exact ⟨fun _ => ⟨sends, nofun⟩, fun _ => sends.mergeUpdate clock.wall update⟩
  unfold Exec.Keeps Mercedes.takeFrame
  rw [Exec.wp_bind]
  refine Exec.wp_value decoded fun payload t both => ?_
  rw [Exec.wp_ite]
  refine ⟨fun _ => ?_, fun _ => both.1⟩
  rcases payload with _ | payload
  · exact both.1
  · exact both.1.acceptPayload clock.mono (both.2 payload rfl) .push true

/-- A REST reply is a draft of this vehicle. -/
theorem drafted_decodeRest {wall : ℚ} {reply : Reply} {payload : Payload}
    (decoded : decodeRest config.vin wall reply = .ok (some payload)) : Drafted config payload := by
  unfold decodeRest at decoded
  rcases updated : reply.update with e | update
  · simp [updated] at decoded
  · simp only [updated, Except.ok.injEq] at decoded
    unfold restSnapshot at decoded
    split at decoded
    · split at decoded
      · unfold Protocol.merge at decoded
        split at decoded
        · cases decoded
        · cases decoded
          rename_i incoming _
          exact ⟨rfl, mergedWith_vin (Protocol.new config.vin) _ incoming⟩
      · cases decoded
    · cases decoded

theorem Sends.takeReply (sends : Sends config s) (clock : Clock) (reply : Reply) :
    Exec.Keeps (Sends config) (takeReply vendor clock reply) s := by
  unfold Exec.Keeps Mercedes.takeReply
  rw [Exec.wp_bind, Exec.wp_read]
  rcases decoded : decodeRest s.client.vin clock.wall reply with e | _ | payload
  · exact sends
  · exact sends
  · rw [sends.clientVin] at decoded
    rw [Exec.wp_ite]
    refine ⟨fun _ => ?_, fun _ => ?_⟩
    · unfold mergeThenAccept
      rw [Exec.wp_bind]
      refine Exec.wp_value (sends.mergeUpdate clock.wall (supplement payload))
        fun merged t both => ?_
      rcases merged with _ | merged
      · exact both.1
      · exact both.1.acceptPayload clock.mono (both.2 merged rfl) .push true
    · exact sends.acceptPayload clock.mono (drafted_decodeRest decoded) .pull false

/-- **One event** of the client. -/
theorem Sends.follow (sends : Sends config s) (clock : Clock) (event : SenderEvent) :
    Sends config (s.follow vendor clock event) := by
  cases event with
  | session event =>
    cases event with
    | push update acknowledged =>
      have kept : Sends config (Mercedes.takeFrame vendor clock update acknowledged s).2 :=
        (sends.takeFrame clock update acknowledged).final
      show Sends config (s.step vendor clock (.push update acknowledged))
      rcases result : Mercedes.takeFrame vendor clock update acknowledged s with ⟨e | _, next⟩ <;>
        rw [result] at kept <;> simp only [Session.step, result]
      · exact { kept with }
      · exact kept
    | reply reply => exact (sends.takeReply clock reply).final
    | connect => exact { sends with }
    | disconnect => exact { sends with }
  | metadata vehicles capabilities =>
    show Sends config (s.readMetadata vehicles capabilities)
    unfold Session.readMetadata
    split
    · exact sends
    · rcases built : metadata s.client.vin vehicles capabilities with e | vehicle
      · exact sends
      · refine { sends with vehicle := ?_ }
        rintro found ⟨⟩
        exact metadata_informed built
  | login =>
    refine { sends with protocolVin := sends.clientVin, vehicle := ?_ }
    intro vehicle found
    cases found

/-- **Every run accepts complete payloads only.** -/
theorem sends_run (vendor : Vendor) (config : Config) (events : List (Clock × SenderEvent)) :
    Sends config (runSender vendor config events) := by
  have started : Sends config (Session.new config) := ⟨rfl, rfl, nofun, nofun⟩
  unfold runSender
  generalize Session.new config = s at started
  induction events generalizing s with
  | nil => exact started
  | cons event rest ih => exact ih _ (started.follow event.1 event.2)

end Sender

end DbusEv.Mercedes

namespace DbusEv.Mqtt

/-! ### What a tick publishes -/

section Ticked

variable {config : Config} {codes : Codes} {broker : Broker}

/-- An offer publishes no state, or its own. -/
theorem publishes_offeredTo (config : Config) (codes : Codes) (broker : Broker)
    (offered : Option Offer) :
    statePublishes (offeredTo config codes broker offered).trace = statePublishes broker.trace ∨
      ∃ found ∈ offered, found.payload.strict = true ∧
        statePublishes (offeredTo config codes broker offered).trace =
          found.publication codes :: statePublishes broker.trace := by
  rcases offered with _ | offered
  · exact Or.inl unheard_availability.publishes
  · by_cases known : broker.publishedRevision = some offered.revision
    · simp only [offeredTo, known, if_true]
      exact Or.inl unheard_availability.publishes
    · by_cases strict : offered.payload.strict = true
      · refine Or.inr ⟨offered, rfl, strict, ?_⟩
        simp only [offeredTo, known, strict, if_true, if_false]
        rw [unheard_availability.publishes, sendState_trace]
        rfl
      · refine Or.inl ?_
        simp only [offeredTo, known, strict, if_false, Bool.false_eq_true]

/-- **A state that a tick publishes** is that of its snapshot, and JSON. -/
theorem state_of_tick {now : ℚ} {snapshot : Handed} {publication : Publication}
    (published : statePublishes (tick config now codes snapshot broker).2.trace =
      publication :: statePublishes broker.trace) :
    ∃ offered ∈ offer config snapshot, offered.payload.strict = true ∧
      publication = offered.publication codes := by
  have before := (unheard_prepared config now codes snapshot broker).1.publishes
  rw [tick_final] at published
  unfold tickedTo at published
  split at published
  · split at published
    · obtain same | ⟨offered, found, strict, same⟩ := publishes_offeredTo config codes
        (prepared config now codes snapshot broker) (offer config snapshot)
      · rw [same, before] at published
        exact absurd published.symm (List.cons_ne_self publication _)
      · rw [same] at published
        exact ⟨offered, found, strict, (List.cons.inj published).1.symm⟩
    · rw [before] at published
      exact absurd published.symm (List.cons_ne_self publication _)
  · exact absurd published.symm (List.cons_ne_self publication _)

end Ticked

end DbusEv.Mqtt

namespace DbusEv.Ha

open Mqtt

/-! ### What the receiver takes -/

/-- A payload as it was sent, under the receiver's names. -/
def sentReading (payload : Mercedes.Payload) : Reading where
  receivedAt := payload.receivedAt
  attributes := payload.attributes.map fun item => (item.1, .dict item.2)
  isRestData := payload.dataMode = some .pull
  vehicle := payload.vehicle.getD []

/-- A state that was published for a payload, and the time at which the receiver handles it. -/
structure Shipment where
  payload : Mercedes.Payload
  publication : Publication
  handled : ℚ

/-- The publication is the state of a tick whose snapshot holds the payload. -/
def Shipment.Published (mqtt : Mqtt.Config) (shipment : Shipment) : Prop :=
  ∃ now codes snapshot broker, snapshot.mercedesPayload = some shipment.payload ∧
    statePublishes (tick mqtt now codes snapshot broker).2.trace =
      shipment.publication :: statePublishes broker.trace

/-- The value that `json.dumps` wrote. -/
def Shipment.value (shipment : Shipment) : PyValue :=
  match shipment.publication.content with
  | .state _ payload => payload
  | _ => .none

section Agreement

variable [PyText] {config : Mercedes.Config} {mqtt : Mqtt.Config} {coordinator : Coordinator}

theorem published_value {shipment : Shipment} (source : mqtt.mercedes = true)
    (published : shipment.Published mqtt) :
    shipment.value = .dict (encodePayload shipment.payload) := by
  obtain ⟨now, codes, snapshot, broker, holds, states⟩ := published
  obtain ⟨offered, found, -, same⟩ := state_of_tick states
  have offers : offerMercedes mqtt snapshot = some offered := by
    rw [← Option.mem_def.mp found]
    unfold offer
    rw [if_pos source]
  unfold offerMercedes at offers
  rw [holds] at offers
  rcases available : snapshot.ok with _ | _
  · rw [available] at offers
    cases offers
  · rw [available] at offers
    obtain rfl := Option.some_inj.mp offers
    unfold Shipment.value
    rw [same]
    rfl

/-- **The checks pass** on the object of a complete payload. -/
theorem check_encodePayload {payload : Mercedes.Payload} {now : ℚ}
    (complete : Mercedes.Complete config payload) (same : coordinator.vin = config.vin)
    (ordered : coordinator.receivedAt ≤ payload.receivedAt)
    (behind : payload.receivedAt ≤ now + 30) :
    checkPayload coordinator now (encodePayload payload) = .ok (sentReading payload) := by
  obtain ⟨vehicle, hasVehicle, informed⟩ := complete.vehicle
  obtain ⟨source, hasSource⟩ := complete.dataMode
  have mine : isMine coordinator.vin (encodePayload payload) = true := by
    simp [isMine, encodePayload, Dict.get_cons, PyValue.isNumber, complete.schema, complete.vin,
      same]
  have received : receivedOf coordinator.receivedAt now (encodePayload payload) =
      .ok payload.receivedAt := by
    simp [receivedOf, encodePayload, Dict.get_cons, floatOf, not_lt.mpr ordered,
      not_lt.mpr behind]
  have attributes : attributesOf (encodePayload payload) =
      .ok (sentReading payload).attributes := by
    simp [attributesOf, encodePayload, Dict.get_cons, sentReading, isDict]
  have metadata : objectAt (encodePayload payload) "vehicle" = .ok vehicle := by
    simp [objectAt, encodePayload, Dict.get_cons, hasVehicle]
  have information : ∃ items, objectAt vehicle "information" = .ok items := by
    rcases found : Dict.get vehicle "information" with _ | value
    · exact ⟨[], by simp [objectAt, found]⟩
    · obtain ⟨items, rfl⟩ := informed value found
      exact ⟨items, by simp [objectAt, found]⟩
  have pulled : isPulled (encodePayload payload) = (sentReading payload).isRestData := by
    cases source <;> simp [isPulled, encodePayload, Dict.get_cons, hasVehicle, hasSource,
      sentReading, sourceText]
  obtain ⟨items, information⟩ := information
  unfold checkPayload
  rw [if_pos mine, received, attributes, metadata]
  show (objectAt vehicle "information" >>= fun _ => _) = _
  rw [information, pulled]
  show Except.ok (Reading.mk _ _ _ _) = Except.ok (sentReading payload)
  unfold sentReading
  rw [hasVehicle]
  rfl

/-- **No message is refused**, and what is taken is what was sent, by induction on the messages:
the receiver's time is never past the next one. -/
theorem receive_sent (decoder : Dict PyValue → Bool → Except PyError Unit)
    (loads : String → Except PyError PyValue) (text : PyValue → String)
    (shipments : List Shipment)
    (complete : ∀ shipment ∈ shipments, Mercedes.Complete config shipment.payload)
    (read : ∀ shipment ∈ shipments,
      loads (text shipment.value) = .ok (.dict (encodePayload shipment.payload)))
    (behind : ∀ shipment ∈ shipments, shipment.payload.receivedAt ≤ shipment.handled + 30)
    (same : coordinator.vin = config.vin)
    (ordered : (coordinator.receivedAt ::
      shipments.map fun shipment => shipment.payload.receivedAt).Pairwise (· ≤ ·)) :
    receive decoder loads coordinator
        (shipments.map fun shipment => (text shipment.value, shipment.handled)) =
      shipments.map fun shipment => .ok (sentReading shipment.payload) := by
  induction shipments generalizing coordinator with
  | nil => rfl
  | cons shipment rest ih =>
    rw [List.forall_mem_cons] at complete read behind
    rw [List.map_cons, List.pairwise_cons, List.pairwise_cons] at ordered
    obtain ⟨least, next, later⟩ := ordered
    have first := List.forall_mem_cons.mp least
    have checked := check_encodePayload complete.1 same first.1 behind.1
    have taken : (coordinator.take decoder (encodePayload shipment.payload)
        (sentReading shipment.payload)).vin = coordinator.vin ∧ _ := take_keeps _ _
    have handled : message decoder shipment.handled (loads (text shipment.value)) coordinator =
        (.ok (sentReading shipment.payload), coordinator.take decoder
          (encodePayload shipment.payload) (sentReading shipment.payload)) := by
      rw [read.1]
      simp only [message, checked]
    show (message decoder shipment.handled (loads (text shipment.value)) coordinator).1 ::
      receive decoder loads
        (message decoder shipment.handled (loads (text shipment.value)) coordinator).2 _ = _
    rw [handled, List.map_cons]
    refine congrArg _ (ih complete.2 read.2 behind.2 (taken.1.trans same) ?_)
    refine List.pairwise_cons.mpr ⟨?_, later⟩
    rcases taken.2 with kept | moved
    · rw [kept]
      exact first.2
    · rw [moved]
      exact next

/-- **Publisher and receiver agree**: in every run of the client, whatever states its ticks publish,
the receiver of the same VIN refuses none of them and takes from each what was sent; the step of its
decoder that completes a pulled message leaves the attributes as they were sent. -/
theorem receiver_agrees (vendor : Mercedes.Vendor) (config : Mercedes.Config)
    (events : List (Clock × Mercedes.SenderEvent)) (mqtt : Mqtt.Config)
    (source : mqtt.mercedes = true) (shipments : List Shipment)
    (accepted : ∀ shipment ∈ shipments, ∃ buffered, .accepted shipment.payload buffered ∈
      (Mercedes.runSender vendor config events).history)
    (published : ∀ shipment ∈ shipments, shipment.Published mqtt)
    (text : PyValue → String) (loads : String → Except PyError PyValue)
    (roundTrips : ∀ shipment ∈ shipments, loads (text shipment.value) = .ok shipment.value)
    (decoder : Dict PyValue → Bool → Except PyError Unit) (coordinator : Coordinator)
    (same : coordinator.vin = config.vin)
    (behind : ∀ shipment ∈ shipments, shipment.payload.receivedAt ≤ shipment.handled + 30)
    (ordered : (coordinator.receivedAt ::
      shipments.map fun shipment => shipment.payload.receivedAt).Pairwise (· ≤ ·)) :
    receive decoder loads coordinator
        (shipments.map fun shipment => (text shipment.value, shipment.handled)) =
      shipments.map (fun shipment => .ok (sentReading shipment.payload)) ∧
    ∀ shipment ∈ shipments, Decoder.completed (sentReading shipment.payload).isRestData
        shipment.payload.attributes = .ok shipment.payload.attributes := by
  have sends := Mercedes.sends_run vendor config events
  have complete : ∀ shipment ∈ shipments, Mercedes.Complete config shipment.payload := by
    intro shipment member
    obtain ⟨buffered, entry⟩ := accepted shipment member
    exact sends.accepted shipment.payload buffered entry
  refine ⟨receive_sent decoder loads text shipments complete (fun shipment member => ?_) behind
    same ordered, fun shipment member => (complete shipment member).settled⟩
  rw [roundTrips shipment member, published_value source (published shipment member)]

end Agreement

/-! ### Two messages -/

/-- The metadata of a car, and its first push. -/
def someEvents : List (Clock × Mercedes.SenderEvent) :=
  [(⟨0, 90⟩, .metadata (.ok (.dict [("assignedVehicles", .list [.dict
      [("vin", .str "WDD0000000000TEST"), ("licensePlate", .str "EV 1")]])]))
    (.ok (.dict [("vehicle", .dict [("tcuType", .str "ramses")])]))),
    (⟨10, 100⟩, .session (.push [("full_update", .bool true), ("attributes",
      .dict [("soc", .dict [("value", .int 80)])])] true))]

/-- What the client accepts of it. -/
def somePayload : Mercedes.Payload where
  schema := 1
  vin := "WDD0000000000TEST"
  revision := 1
  receivedAt := 100
  fullUpdate := true
  attributes := [("soc", [("value", .int 80)])]
  vehicle := some [("name", .str "EV 1"), ("model", .str "Mercedes-Benz"),
    ("is_owner", .bool false), ("information", .dict [("tcuType", .str "ramses")])]
  dataMode := some .push

/-- Its text. -/
def someText : String :=
  "\x7b\"schema\":1,\"vin\":\"WDD0000000000TEST\",\"revision\":1,\"received_at\":100.0," ++
  "\"full_update\":true,\"attributes\":\x7b\"soc\":\x7b\"value\":80\x7d\x7d," ++
  "\"vehicle\":\x7b\"name\":\"EV 1\",\"model\":\"Mercedes-Benz\",\"is_owner\":false," ++
  "\"information\":\x7b\"tcuType\":\"ramses\"\x7d\x7d,\"data_mode\":\"push\"\x7d"

/-- The state of a tick, handled by a clock that is 5 s behind. -/
def someShipment : Shipment where
  payload := somePayload
  publication := ⟨"mercedes/portal/WDD0000000000TEST/state",
    .state (.received 100 1) (.dict (encodePayload somePayload)), 1, true, 0⟩
  handled := 95

/-- A pull before that push, with a window that says nothing. -/
def somePull : Clock × Mercedes.SenderEvent :=
  (⟨5, 95⟩, .session (.reply ⟨[("vin", .str "WDD0000000000TEST"), ("attributes",
    .dict [("windowstatusfrontleft", .dict [("nil_value", .bool true)])])], .ok []⟩))

/-- What is accepted of it: the decoder added the overall window state. -/
def somePulled : Mercedes.Payload :=
  { somePayload with
    receivedAt := 95
    attributes := [("windowstatusfrontleft", [("nil_value", .bool true)]),
      ("windowStatusOverall", [("timestamp", .str "0"), ("bool_value", .bool false),
        ("status", .str "VALID"), ("timestamp_in_ms", .str "223")])]
    vehicle := some []
    dataMode := some .pull }

/-- Its text. -/
def pulledText : String :=
  "\x7b\"schema\":1,\"vin\":\"WDD0000000000TEST\",\"revision\":1,\"received_at\":95.0," ++
  "\"full_update\":true,\"attributes\":\x7b\"windowstatusfrontleft\":\x7b\"nil_value\":true" ++
  "\x7d,\"windowStatusOverall\":\x7b\"timestamp\":\"0\",\"bool_value\":false," ++
  "\"status\":\"VALID\",\"timestamp_in_ms\":\"223\"\x7d\x7d," ++
  "\"vehicle\":\x7b\x7d,\"data_mode\":\"pull\"\x7d"

/-- The state of an earlier tick. -/
def pulledShipment : Shipment where
  payload := somePulled
  publication := ⟨"mercedes/portal/WDD0000000000TEST/state",
    .state (.received 95 1) (.dict (encodePayload somePulled)), 1, true, 0⟩
  handled := 92

/-- `json.loads` of those texts; another one is malformed. -/
def someLoads (text : String) : Except PyError PyValue :=
  if text = someText then .ok someShipment.value
  else if text = pulledText then .ok pulledShipment.value
  else .error .value

/-- The text of a value of the two. -/
def textOf (value : PyValue) : String :=
  match value with
  | .dict items => if isPulled items then pulledText else someText
  | _ => someText

/-- A pull, and the first push of a car with metadata. -/
theorem someShipment_agrees :
    letI := plainText
    receive (fun _ _ => .ok ()) someLoads (.new "WDD0000000000TEST" .none)
        [(pulledText, 92), (someText, 95)] =
      [.ok (sentReading somePulled), .ok (sentReading somePayload)] ∧
    ∀ shipment ∈ [pulledShipment, someShipment],
      Decoder.completed (sentReading shipment.payload).isRestData shipment.payload.attributes =
        .ok shipment.payload.attributes := by
  refine @receiver_agrees plainText Mercedes.blindVendor Mercedes.someConfig
    (somePull :: someEvents) someMercedes rfl [pulledShipment, someShipment] ?_ ?_ textOf
    someLoads ?_ (fun _ _ => .ok ()) (.new "WDD0000000000TEST" .none) rfl ?_ ?_
  · refine List.forall_mem_cons.mpr ⟨⟨false, ?_⟩, List.forall_mem_singleton.mpr ⟨true, ?_⟩⟩
    · exact List.mem_cons_of_mem _ (List.mem_cons_of_mem _ List.mem_cons_self)
    · exact List.mem_cons_self
  · refine List.forall_mem_cons.mpr ⟨?_, List.forall_mem_singleton.mpr ?_⟩
    · exact ⟨0, .accepted, ⟨true, some somePulled, none, []⟩, onConnect 0 .new, rfl, rfl⟩
    · exact ⟨0, .accepted, ⟨true, some somePayload, none, []⟩, onConnect 0 .new, rfl, rfl⟩
  · refine List.forall_mem_cons.mpr ⟨?_, List.forall_mem_singleton.mpr (if_pos rfl)⟩
    exact (if_neg (by decide)).trans (if_pos rfl)
  · refine List.forall_mem_cons.mpr ⟨?_, List.forall_mem_singleton.mpr ?_⟩ <;> decide +kernel
  · show List.Pairwise (· ≤ ·) [(0 : ℚ), 95, 100]
    decide +kernel

end DbusEv.Ha
