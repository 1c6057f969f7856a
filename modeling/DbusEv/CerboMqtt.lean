/-
**The Cerbo MQTT session** (`dbus_ev/cerbo_mqtt.py`).

* `Broker` — the attributes of `CerboMqtt`, and what happened on the connection, newest first.
* `onConnect`, `onDisconnect`, `onMessage` — the callbacks of the client library.
* `meter` — the live readings of the local meter.
* `tick` — the periodic work: the meter is refreshed, and the state and the availability of the
  vehicle are published. The Mercedes and the generic source differ in what they offer.
-/

import DbusEv.Lib.Exec
import DbusEv.Mercedes.Protocol
import DbusEv.Python.Json

set_option autoImplicit false
set_option linter.unusedSectionVars false

namespace DbusEv.Mqtt

/-! ### Names -/

def availabilitySuffix : String := "/availability"

/-- `METER_PATHS`. -/
def meterPaths : List String :=
  ["/Connected", "/Ac/Power", "/Ac/Energy/Forward", "/Ac/Current", "/Ac/Frequency",
    "/Ac/L1/Power", "/Ac/L1/Voltage", "/Ac/L1/Current", "/Ac/L1/PowerFactor",
    "/Ac/L2/Power", "/Ac/L2/Voltage", "/Ac/L2/Current", "/Ac/L2/PowerFactor",
    "/Ac/L3/Power", "/Ac/L3/Voltage", "/Ac/L3/Current", "/Ac/L3/PowerFactor"]

/-- `KEEPALIVE_PAYLOAD`. -/
def keepalivePayload : String := "\x7b\"keepalive-options\":[\"suppress-republish\"]\x7d"

/-- `MQTT_FIELDS` of `vehicle.py`. -/
def mqttFields : List String :=
  ["soc", "target_soc", "power", "battery_capacity", "range_to_go", "odometer", "charging_status",
    "latitude", "longitude", "at_site"]

/-- The arguments of the constructor; `mercedes` is `source == "mercedes"`. -/
structure Config where
  portal : String
  publishHa : Bool
  meterInstance : Option ℤ
  meterTtl : ℚ
  mercedes : Bool
  vehicleId : String

namespace Config

/-- `self.prefix`. -/
def topicPrefix (config : Config) : String :=
  if config.mercedes then "mercedes/" ++ config.portal
  else "ev/" ++ config.portal ++ "/" ++ config.vehicleId

/-- `{meter_instance}` in a topic. -/
def meterName (config : Config) : String :=
  match config.meterInstance with
  | some number => toString number
  | none => "None"

/-- `self.meter_prefix`. -/
def meterPrefix (config : Config) : String :=
  "N/" ++ config.portal ++ "/acload/" ++ config.meterName

/-- `self._meter_topics`. -/
def meterTopics (config : Config) : Dict String :=
  meterPaths.map fun path => (config.meterPrefix ++ path, path)

end Config

/-! ### The state -/

/-- What `_published_revision` compares. -/
inductive Revision
  | received (receivedAt : ℚ) (revision : ℕ)
  | sampled (sampledAt : ℚ)
  deriving DecidableEq

/-- What is published. -/
inductive Content
  | keepalive (payload : String)
  | read (payload : String)
  | state (revision : Revision) (payload : PyValue)
  | availability (status : String)

/-- A call of `client.publish`, with the `rc` of its result. -/
structure Publication where
  topic : String
  content : Content
  qos : ℕ
  retain : Bool
  rc : ℤ

/-- An incoming message; `payload` is what `json.loads` returns or raises on it. -/
structure Message where
  topic : String
  payload : Except PyError PyValue
  retain : Bool

/-- What happens on the session. -/
inductive Event
  /-- The broker accepted a connection. -/
  | connected
  | disconnected
  | received (message : Message) (now : ℚ)
  /-- A tick was handed a snapshot that offers this revision. -/
  | ticked (offered : Option Revision)
  | published (publication : Publication)

/-- The attributes of `CerboMqtt`; a meter path holds its value and its time. -/
structure Broker where
  connected : Bool
  meter : Dict (Option ℚ × ℚ)
  publishedRevision : Option Revision
  lastKeepalive : Option ℚ
  lastMeterRefresh : Option ℚ
  availability : Option String
  /-- Newest first. -/
  trace : List Event

/-- `CerboMqtt.__init__`. -/
def Broker.new : Broker := ⟨false, [], none, none, none, none, []⟩

namespace Broker

def note (broker : Broker) (event : Event) : Broker :=
  { broker with trace := event :: broker.trace }

/-- `self.client.publish(…)`. -/
def publish (broker : Broker) (topic : String) (content : Content) (qos : ℕ) (retain : Bool)
    (rc : ℤ) : Broker :=
  broker.note (.published ⟨topic, content, qos, retain, rc⟩)

end Broker

/-! ### Callbacks -/

/-- `_on_connect`; a refused connection changes nothing. -/
def onConnect (reasonCode : ℤ) (broker : Broker) : Broker :=
  if reasonCode ≠ 0 then broker
  else
    { connected := true
      meter := []
      publishedRevision := none
      lastKeepalive := none
      lastMeterRefresh := none
      availability := none
      trace := .connected :: broker.trace }

/-- `_on_disconnect`. -/
def onDisconnect (broker : Broker) : Broker :=
  { broker.note .disconnected with connected := false, meter := [] }

section Messages

variable [PyText]

/-- `content["value"]`; nothing where it raises `KeyError`. -/
def valueItem : PyValue → Except PyError (Option PyValue)
  | .dict items => .ok (Dict.get items "value")
  | _ => .error .type

/-- The value of a message, `None` unless it is a finite number. -/
def readValue (payload : Except PyError PyValue) : Except PyError (Option ℚ) := do
  let content ← payload
  match ← valueItem content with
  | none | some .none => pure none
  | some value =>
    match ← floatOf value with
    | .finite number => pure (some number)
    | _ => pure none

/-- `except (TypeError, ValueError, KeyError): value = None`. -/
def messageValue (payload : Except PyError PyValue) : Except PyError (Option ℚ) :=
  match readValue payload with
  | .error .type | .error .value => .ok none
  | other => other

/-- `_on_message`; another exception leaves the cache as it was. -/
def onMessage (config : Config) (now : ℚ) (message : Message) : Exec Broker PyError Unit := do
  Exec.change fun broker => broker.note (.received message now)
  match config.meterTopics.get message.topic with
  | none => pure ()
  | some path =>
    if message.retain then pure ()
    else
      match messageValue message.payload with
      | .error e => Exec.raise e
      | .ok value =>
        Exec.change fun broker => { broker with meter := broker.meter.set path (value, now) }

end Messages

/-- `meter()` at monotonic time `now`. -/
def Broker.readings (broker : Broker) (config : Config) (now : ℚ) : Dict (Option ℚ) :=
  if broker.connected then
    (broker.meter.filter fun entry =>
      0 ≤ now - entry.2.2 && now - entry.2.2 < config.meterTtl).map fun entry =>
        (entry.1, entry.2.1)
  else []

/-! ### Publication -/

/-- The return codes of a tick's publications. -/
structure Codes where
  keepalive : ℤ
  read : String → ℤ
  state : ℤ
  availability : ℤ

/-- Every publication is accepted. -/
def Codes.accepted : Codes := ⟨0, fun _ => 0, 0, 0⟩

/-- `last is None or now - last >= period`. -/
def isDue (last : Option ℚ) (now period : ℚ) : Bool :=
  match last with
  | none => true
  | some last => period ≤ now - last

/-- The keepalive of `_refresh_meter`. -/
def keepAlive (config : Config) (now : ℚ) (codes : Codes) (broker : Broker) : Broker :=
  if isDue broker.lastKeepalive now 30 then
    let sent := broker.publish ("R/" ++ config.portal ++ "/keepalive")
      (.keepalive keepalivePayload) 0 false codes.keepalive
    if codes.keepalive = 0 then { sent with lastKeepalive := some now } else sent
  else broker

/-- The reads of `_refresh_meter`. -/
def readMeter (config : Config) (now : ℚ) (codes : Codes) (broker : Broker) : Broker :=
  if isDue broker.lastMeterRefresh now 10 then
    let base := "R/" ++ config.portal ++ "/acload/" ++ config.meterName
    let sent := meterPaths.foldl (fun broker path =>
      broker.publish (base ++ path) (.read "") 0 false (codes.read path)) broker
    if meterPaths.all fun path => codes.read path = 0 then
      { sent with lastMeterRefresh := some now }
    else sent
  else broker

/-- `_refresh_meter(now)`. -/
def refreshMeter (config : Config) (now : ℚ) (codes : Codes) (broker : Broker) : Broker :=
  if config.meterInstance.isSome then readMeter config now codes (keepAlive config now codes broker)
  else broker

/-- The snapshot a tick is handed; `fields` are its other keys. -/
structure Handed where
  ok : Bool
  mercedesPayload : Option Mercedes.Payload
  sampledAt : Option ℚ
  fields : Dict PyValue

/-- `snapshot.get(key)`. -/
def Handed.get (snapshot : Handed) (key : String) : PyValue := (snapshot.fields.get key).getD .none

/-- What an available snapshot offers for publication. -/
structure Offer where
  revision : Revision
  topic : String
  payload : PyValue

/-- `data_mode`. -/
def sourceText : Mercedes.Source → String
  | .push => "push"
  | .pull => "pull"

/-- A payload as a JSON object. -/
def encodePayload (payload : Mercedes.Payload) : Dict PyValue :=
  [("schema", .int payload.schema), ("vin", .str payload.vin), ("revision", .int payload.revision),
    ("received_at", .float (.finite payload.receivedAt)), ("full_update", .bool payload.fullUpdate),
    ("attributes", .dict (payload.attributes.map fun item => (item.1, .dict item.2)))] ++
    (payload.vehicle.map fun vehicle => ("vehicle", PyValue.dict vehicle)).toList ++
    (payload.dataMode.map fun source => ("data_mode", PyValue.str (sourceText source))).toList

/-- What the Mercedes source offers. -/
def offerMercedes (config : Config) (snapshot : Handed) : Option Offer :=
  match snapshot.ok, snapshot.mercedesPayload with
  | true, some payload => some
    { revision := .received payload.receivedAt payload.revision
      topic := config.topicPrefix ++ "/" ++ payload.vin ++ "/state"
      payload := .dict (encodePayload payload) }
  | _, _ => none

/-- What the generic source offers. -/
def offerVehicle (config : Config) (snapshot : Handed) : Option Offer :=
  match snapshot.ok, snapshot.sampledAt with
  | true, some sampledAt => some
    { revision := .sampled sampledAt
      topic := config.topicPrefix ++ "/state"
      payload := .dict (Dict.update (mqttFields.map fun key => (key, snapshot.get key))
        [("schema", .int 1), ("sampled_at", .float (.finite sampledAt)),
          ("source", snapshot.get "source")]) }
  | _, _ => none

/-- What the snapshot offers. -/
def offer (config : Config) (snapshot : Handed) : Option Offer :=
  if config.mercedes then offerMercedes config snapshot else offerVehicle config snapshot

/-- The state is sent; its revision is remembered when the publication is accepted. -/
def sendState (codes : Codes) (offered : Offer) (broker : Broker) : Broker :=
  let sent := broker.publish offered.topic (.state offered.revision offered.payload) 1 true
    codes.state
  if codes.state = 0 then { sent with publishedRevision := some offered.revision } else sent

/-- The state is published when its revision is another one than the last accepted. -/
def publishState (codes : Codes) (offered : Offer) : Exec Broker PyError Unit := do
  let broker ← Exec.read
  if broker.publishedRevision = some offered.revision then pure ()
  else
    match dumps offered.payload with
    | .error e => Exec.raise e
    | .ok _ => Exec.change (sendState codes offered)

/-- The availability is published when it is another one than the last accepted. -/
def publishAvailability (config : Config) (codes : Codes) (status : String) (broker : Broker) :
    Broker :=
  if broker.availability = some status then broker
  else
    let sent := broker.publish (config.topicPrefix ++ availabilitySuffix) (.availability status) 1
      true codes.availability
    if codes.availability = 0 then { sent with availability := some status } else sent

/-- The state, then the availability: what `tick` and `_publish_vehicle` have in common. -/
def publishOffer (config : Config) (codes : Codes) : Option Offer → Exec Broker PyError Unit
  | some offered => do
    publishState codes offered
    Exec.change (publishAvailability config codes "online")
  | none => Exec.change (publishAvailability config codes "offline")

/-- `tick(snapshot)` at monotonic time `now`. -/
def tick (config : Config) (now : ℚ) (codes : Codes) (snapshot : Handed) :
    Exec Broker PyError Unit := do
  Exec.change fun broker => broker.note (.ticked ((offer config snapshot).map Offer.revision))
  let broker ← Exec.read
  if broker.connected then do
    Exec.change (refreshMeter config now codes)
    if config.publishHa then publishOffer config codes (offer config snapshot) else pure ()
  else pure ()

/-! ### Runs -/

/-- What the client library calls. -/
inductive Callback
  | connect (reasonCode : ℤ)
  | disconnect
  | message (message : Message) (now : ℚ)

section Runs

variable [PyText]

def callback (config : Config) (broker : Broker) : Callback → Broker
  | .connect reasonCode => onConnect reasonCode broker
  | .disconnect => onDisconnect broker
  | .message message now => (onMessage config now message broker).2

/-- A callback, or a tick; callbacks run between ticks. -/
inductive Input
  | callback (callback : Callback)
  | tick (now : ℚ) (codes : Codes) (snapshot : Handed)

def step (config : Config) (broker : Broker) : Input → Broker
  | .callback called => callback config broker called
  | .tick now codes snapshot => (tick config now codes snapshot broker).2

def run (config : Config) (inputs : List Input) : Broker :=
  inputs.foldl (step config) .new

@[simp] theorem run_append (config : Config) (inputs : List Input) (input : Input) :
    run config (inputs ++ [input]) = step config (run config inputs) input := by
  unfold run
  rw [List.foldl_append]
  rfl

end Runs

/-! ### What a message does -/

/-- A message changes the cache of the meter alone. -/
theorem onMessage_eq [PyText] (config : Config) (now : ℚ) (message : Message) (broker : Broker) :
    ∃ meter, (onMessage config now message broker).2 =
      { broker.note (.received message now) with meter := meter } := by
  refine Exec.final_of_wp (I := fun final : Broker => ∃ meter, final =
    { broker.note (.received message now) with meter := meter }) ?_
  unfold onMessage
  rw [Exec.wp_bind, Exec.wp_change]
  cases config.meterTopics.get message.topic with
  | none => exact ⟨broker.meter, rfl⟩
  | some path =>
    show Exec.wp (if _ then _ else _) _ _ _
    rw [Exec.wp_ite]
    refine ⟨fun _ => ⟨broker.meter, rfl⟩, fun _ => ?_⟩
    cases messageValue message.payload with
    | error e => exact ⟨broker.meter, rfl⟩
    | ok value => exact ⟨_, rfl⟩

/-! ### What a tick does -/

/-- What the session sends is of one kind, and a part of its state stays. -/
structure Sends {α : Type} (part : Broker → α) (kind : Publication → Prop)
    (before after : Broker) : Prop where
  kept : part after = part before
  trace : ∃ sent : List Publication, after.trace = sent.map .published ++ before.trace ∧
    ∀ publication ∈ sent, kind publication

section Sends

variable {α : Type} {part : Broker → α} {kind : Publication → Prop}

theorem Sends.refl (broker : Broker) : Sends part kind broker broker :=
  ⟨rfl, [], rfl, List.forall_mem_nil _⟩

theorem Sends.trans {first second third : Broker} (one : Sends part kind first second)
    (two : Sends part kind second third) : Sends part kind first third := by
  obtain ⟨sent, trace, early⟩ := one.trace
  obtain ⟨more, last, late⟩ := two.trace
  refine ⟨two.kept.trans one.kept, more ++ sent, ?_, fun publication member => ?_⟩
  · rw [last, trace, List.map_append, List.append_assoc]
  · exact (List.mem_append.mp member).elim (late publication) (early publication)

end Sends

/-- The meter is not the vehicle's: its publications leave all but their own deadlines. -/
abbrev Quietly : Broker → Broker → Prop :=
  Sends (fun broker =>
      (broker.connected, broker.meter, broker.publishedRevision, broker.availability))
    fun publication => ∃ payload, publication.content = .keepalive payload ∨
      publication.content = .read payload

theorem Quietly.connected {before after : Broker} (quietly : Quietly before after) :
    after.connected = before.connected := congrArg Prod.fst quietly.kept

theorem Quietly.meter {before after : Broker} (quietly : Quietly before after) :
    after.meter = before.meter := congrArg (·.2.1) quietly.kept

theorem Quietly.publishedRevision {before after : Broker} (quietly : Quietly before after) :
    after.publishedRevision = before.publishedRevision := congrArg (·.2.2.1) quietly.kept

theorem Quietly.availability {before after : Broker} (quietly : Quietly before after) :
    after.availability = before.availability := congrArg (·.2.2.2) quietly.kept

theorem quietly_publish (broker : Broker) (topic : String) {content : Content} {payload : String}
    (quiet : content = .keepalive payload ∨ content = .read payload) (qos : ℕ) (retain : Bool)
    (rc : ℤ) : Quietly broker (broker.publish topic content qos retain rc) :=
  ⟨rfl, [⟨topic, content, qos, retain, rc⟩], rfl,
    List.forall_mem_singleton.mpr ⟨payload, quiet⟩⟩

theorem quietly_keepAlive (config : Config) (now : ℚ) (codes : Codes) (broker : Broker) :
    Quietly broker (keepAlive config now codes broker) := by
  have sent := quietly_publish broker ("R/" ++ config.portal ++ "/keepalive")
    (Or.inl rfl : Content.keepalive keepalivePayload = .keepalive keepalivePayload ∨ _) 0 false
    codes.keepalive
  unfold keepAlive
  by_cases due : isDue broker.lastKeepalive now 30 = true
  · rw [if_pos due]
    show Quietly broker (if _ then _ else _)
    split
    · exact { sent with }
    · exact sent
  · rw [if_neg due]
    exact .refl broker

theorem quietly_readMeter (config : Config) (now : ℚ) (codes : Codes) (broker : Broker) :
    Quietly broker (readMeter config now codes broker) := by
  have sent : ∀ (paths : List String) (base : String) (broker : Broker), Quietly broker
      (paths.foldl (fun broker path =>
        broker.publish (base ++ path) (.read "") 0 false (codes.read path)) broker) := by
    intro paths base
    induction paths with
    | nil => exact .refl
    | cons path rest ih =>
      exact fun broker => (quietly_publish broker _ (Or.inr rfl) _ _ _).trans (ih _)
  unfold readMeter
  by_cases due : isDue broker.lastMeterRefresh now 10 = true
  · rw [if_pos due]
    have reads := sent meterPaths ("R/" ++ config.portal ++ "/acload/" ++ config.meterName) broker
    show Quietly broker (if _ then _ else _)
    split
    · exact { reads with }
    · exact reads
  · rw [if_neg due]
    exact .refl broker

theorem quietly_refreshMeter (config : Config) (now : ℚ) (codes : Codes) (broker : Broker) :
    Quietly broker (refreshMeter config now codes broker) := by
  unfold refreshMeter
  split
  · exact (quietly_keepAlive config now codes broker).trans (quietly_readMeter config now codes _)
  · exact .refl broker

section Ticks

variable {config : Config} {codes : Codes} {broker : Broker}

/-- The broker after `publishOffer`: a payload that is not JSON ends the tick. -/
def offeredTo (config : Config) (codes : Codes) (broker : Broker) : Option Offer → Broker
  | none => publishAvailability config codes "offline" broker
  | some offered =>
    if broker.publishedRevision = some offered.revision then
      publishAvailability config codes "online" broker
    else if offered.payload.strict then
      publishAvailability config codes "online" (sendState codes offered broker)
    else broker

theorem publishOffer_final (offered : Option Offer) :
    (publishOffer config codes offered broker).2 = offeredTo config codes broker offered := by
  rcases offered with _ | offered
  · rfl
  · refine Exec.final_of_wp (I := fun final => final = offeredTo config codes broker _) ?_
    unfold publishOffer publishState offeredTo
    rw [Exec.wp_bind, Exec.wp_bind, Exec.wp_read, Exec.wp_ite]
    refine ⟨fun known => ?_, fun unknown => ?_⟩
    · simp only [known, if_true, Exec.wp_pure, Exec.wp_change]
    · by_cases strict : offered.payload.strict = true
      · simp only [dumps, strict, unknown, if_true, if_false, Exec.wp_change]
      · simp [dumps, strict, unknown]

/-- A tick is noted. -/
def noted (config : Config) (snapshot : Handed) (broker : Broker) : Broker :=
  broker.note (.ticked ((offer config snapshot).map Offer.revision))

/-- The broker a tick publishes on. -/
def prepared (config : Config) (now : ℚ) (codes : Codes) (snapshot : Handed) (broker : Broker) :
    Broker :=
  refreshMeter config now codes (noted config snapshot broker)

/-- The broker after a tick. -/
def tickedTo (config : Config) (now : ℚ) (codes : Codes) (snapshot : Handed) (broker : Broker) :
    Broker :=
  if broker.connected then
    if config.publishHa then
      offeredTo config codes (prepared config now codes snapshot broker) (offer config snapshot)
    else prepared config now codes snapshot broker
  else noted config snapshot broker

theorem tick_final (now : ℚ) (snapshot : Handed) :
    (tick config now codes snapshot broker).2 = tickedTo config now codes snapshot broker := by
  refine Exec.final_of_wp (I := fun final => final = tickedTo config now codes snapshot broker) ?_
  unfold tick tickedTo
  rw [Exec.wp_bind, Exec.wp_change, Exec.wp_bind, Exec.wp_read, Exec.wp_ite]
  refine ⟨fun connected => ?_, fun disconnected => ?_⟩
  · have live : broker.connected = true := connected
    rw [Exec.wp_bind, Exec.wp_change, Exec.wp_ite, if_pos live]
    refine ⟨fun enabled => ?_, fun disabled => ?_⟩
    · rw [if_pos enabled]
      exact Exec.wp_of_final (publishOffer_final _)
    · rw [if_neg disabled]
      rfl
  · have dead : ¬ broker.connected = true := disconnected
    rw [if_neg dead]
    rfl

/-- A tick whose payload is JSON returns. -/
theorem tick_returns {now : ℚ} {snapshot : Handed}
    (strict : ∀ offered ∈ offer config snapshot, offered.payload.strict = true) :
    (tick config now codes snapshot broker).1 = .ok () := by
  have returns : Exec.wp (tick config now codes snapshot) (fun _ _ => True) (fun _ _ => False)
      broker := by
    unfold tick
    rw [Exec.wp_bind, Exec.wp_change, Exec.wp_bind, Exec.wp_read, Exec.wp_ite]
    refine ⟨fun _ => ?_, fun _ => trivial⟩
    rw [Exec.wp_bind, Exec.wp_change, Exec.wp_ite]
    refine ⟨fun _ => ?_, fun _ => trivial⟩
    rcases offering : offer config snapshot with _ | offered
    · trivial
    · unfold publishOffer publishState
      rw [Exec.wp_bind, Exec.wp_bind, Exec.wp_read, Exec.wp_ite,
        dumps_of_strict (strict offered offering)]
      exact ⟨fun _ => trivial, fun _ => trivial⟩
  rcases result : tick config now codes snapshot broker with ⟨e | value, after⟩
  · rw [Exec.wp_of_error result] at returns
    exact returns.elim
  · rfl

/-- **The tick raises exactly where** it publishes a new payload that is not JSON. -/
theorem tick_raises_iff {now : ℚ} {snapshot : Handed} :
    (tick config now codes snapshot broker).1 ≠ .ok () ↔
      broker.connected = true ∧ config.publishHa = true ∧ ∃ offered ∈ offer config snapshot,
        broker.publishedRevision ≠ some offered.revision ∧ offered.payload.strict = false := by
  have same (event : Event) :
      (refreshMeter config now codes (broker.note event)).publishedRevision =
        broker.publishedRevision := (quietly_refreshMeter config now codes _).publishedRevision
  have outcome : Exec.wp (tick config now codes snapshot)
      (fun _ _ => ¬ (broker.connected = true ∧ config.publishHa = true ∧
        ∃ offered ∈ offer config snapshot, broker.publishedRevision ≠ some offered.revision ∧
          offered.payload.strict = false))
      (fun _ _ => broker.connected = true ∧ config.publishHa = true ∧
        ∃ offered ∈ offer config snapshot, broker.publishedRevision ≠ some offered.revision ∧
          offered.payload.strict = false) broker := by
    unfold tick
    rw [Exec.wp_bind, Exec.wp_change, Exec.wp_bind, Exec.wp_read, Exec.wp_ite]
    refine ⟨fun connected => ?_, fun dead live => dead live.1⟩
    rw [Exec.wp_bind, Exec.wp_change, Exec.wp_ite]
    refine ⟨fun enabled => ?_, fun disabled live => disabled live.2.1⟩
    rcases offering : offer config snapshot with _ | offered
    · rintro ⟨-, -, offered, none_, -⟩
      cases none_
    · unfold publishOffer publishState
      rw [Exec.wp_bind, Exec.wp_bind, Exec.wp_read, Exec.wp_ite]
      refine ⟨fun known => ?_, fun unknown => ?_⟩
      · rintro ⟨-, -, found, member, other, -⟩
        cases Option.some.inj member
        exact other ((same _).symm.trans known)
      · have other : broker.publishedRevision ≠ some offered.revision := fun known =>
          unknown ((same _).trans known)
        unfold dumps
        cases strict : offered.payload.strict with
        | true =>
          rintro ⟨-, -, found, member, -, loose⟩
          cases Option.some.inj member
          rw [strict] at loose
          cases loose
        | false => exact ⟨connected, enabled, offered, rfl, other, strict⟩
  rcases result : tick config now codes snapshot broker with ⟨e | value, after⟩
  · rw [Exec.wp_of_error result] at outcome
    exact ⟨fun _ => outcome, fun _ => nofun⟩
  · rw [Exec.wp_of_ok result] at outcome
    exact ⟨fun raised => absurd rfl raised, fun raised => absurd raised outcome⟩

end Ticks

end DbusEv.Mqtt
