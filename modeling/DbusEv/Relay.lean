/-
**From the Mercedes client to D-Bus and to Home Assistant** (`dbus_ev/mercedes/client.py`,
`dbus_ev/main.py`, `dbus_ev/cerbo_mqtt.py`, `ha/custom_components/mbapi2020/coordinator.py`).

* `Relay` — the process of the bridge, what its processes accepted and sent before it, and the
  integration (`Home`). Any state that was ever sent may arrive at any time, again, or never; the
  process and the integration may restart at any time.
* `Backs` — the client holds a payload that it accepted, with its own projection.
* `Faithful` — what was sent, what is on D-Bus and what the integration holds are accepted payloads;
  `relay_faithful` keeps it in every run.
-/

import DbusEv.Convergence
import DbusEv.MainLoop
import DbusEv.Reported

set_option autoImplicit false
set_option linter.unusedSectionVars false

namespace DbusEv.Mercedes

/-! ### What the client holds -/

/-- The payloads that were accepted, newest first. -/
def acceptedOf (history : List Entry) : List Payload :=
  history.filterMap fun entry =>
    match entry with
    | .accepted payload _ => some payload
    | .full => none

/-- The client holds nothing, or a payload that it accepted and the projection of it. -/
structure Backs [PyText] (vendor : Vendor) (config : Config) (s : Session) : Prop where
  capacity : s.client.capacity = config.capacity
  home : s.client.home = config.home
  held : (s.client.payload = none ∧ s.client.snapshot = none) ∨
    ∃ payload ∈ acceptedOf s.history, ∃ snapshot,
      project vendor payload config.capacity config.home = .ok snapshot ∧
        s.client.payload = some payload ∧ s.client.snapshot = some snapshot

/-- What was accepted stays so. -/
def Remembers (s t : Session) : Prop :=
  ∀ payload ∈ acceptedOf s.history, payload ∈ acceptedOf t.history

section Backs

variable [PyText] {vendor : Vendor} {config : Config} {s t : Session}

/-- A step that accepts nothing. -/
theorem Backs.same (backs : Backs vendor config s)
    (accepted : acceptedOf t.history = acceptedOf s.history)
    (capacity : t.client.capacity = s.client.capacity) (home : t.client.home = s.client.home)
    (payload : t.client.payload = s.client.payload)
    (snapshot : t.client.snapshot = s.client.snapshot) :
    Backs vendor config t ∧ Remembers s t := by
  refine ⟨⟨capacity.trans backs.capacity, home.trans backs.home, ?_⟩, ?_⟩
  · rw [accepted, payload, snapshot]
    exact backs.held
  · intro found member
    rw [accepted]
    exact member

/-- The predicate that every step keeps. -/
def Kept (vendor : Vendor) (config : Config) (s t : Session) : Prop :=
  Backs vendor config t ∧ Remembers s t

theorem kept_mergeUpdate (backs : Backs vendor config s) (wall : ℚ) (update : Dict PyValue) :
    Exec.Keeps (Kept vendor config s) (mergeUpdate wall update) s := by
  rcases taken : incomingOf update with _ | incoming
  · unfold Exec.Keeps
    rw [Exec.wp_of_ok (mergeUpdate_none taken)]
    exact backs.same rfl rfl rfl rfl rfl
  · unfold Exec.Keeps
    rw [Exec.wp_of_ok (mergeUpdate_some taken)]
    refine backs.same ?_ rfl rfl rfl rfl
    show acceptedOf (if isFullUpdate update then .full :: s.history else s.history) = _
    split <;> rfl

/-- **`_accept`** replaces the payload and the projection together. -/
theorem kept_acceptPayload (backs : Backs vendor config s) (mono : ℚ) (payload : Payload)
    (source : Source) (buffered : Bool) :
    Exec.Keeps (Kept vendor config s) (acceptPayload vendor mono payload source buffered) s := by
  refine Exec.wp_of_final ?_
  unfold acceptPayload
  rcases accepted : s.client.accept vendor mono payload source with e | client
  · exact backs.same rfl rfl rfl rfl rfl
  · obtain ⟨stored, snapshot, -, projected, rfl⟩ := accept_ok accepted
    rw [backs.capacity, backs.home] at projected
    refine ⟨⟨backs.capacity, backs.home, .inr ⟨_, List.mem_cons_self, snapshot, projected, rfl,
      rfl⟩⟩, fun found member => List.mem_cons_of_mem _ member⟩

theorem Kept.trans {u : Session} (first : Kept vendor config s t) (next : Kept vendor config t u) :
    Kept vendor config s u :=
  ⟨next.1, fun payload member => next.2 payload (first.2 payload member)⟩

/-- A program after one that kept the predicate. -/
theorem kept_after {α : Type} {x : Exec Session Exn α} (first : Kept vendor config s t)
    (next : Exec.Keeps (Kept vendor config t) x t) : Exec.Keeps (Kept vendor config s) x t :=
  Exec.wp_mono next (fun _ _ kept => first.trans kept) fun _ _ kept => first.trans kept

theorem kept_takeFrame (backs : Backs vendor config s) (clock : Clock) (update : Dict PyValue)
    (acknowledged : Bool) :
    Exec.Keeps (Kept vendor config s) (takeFrame vendor clock update acknowledged) s := by
  have decoded : Exec.Keeps (Kept vendor config s) (decodePush clock.wall update) s := by
    unfold decodePush
    exact Exec.keeps_ite (fun _ => backs.same rfl rfl rfl rfl rfl)
      fun _ => kept_mergeUpdate backs clock.wall update
  unfold takeFrame
  refine Exec.keeps_bind decoded fun payload t kept => Exec.keeps_ite (fun _ => ?_) fun _ => kept
  rcases payload with _ | payload
  · exact kept
  · exact kept_after kept (kept_acceptPayload kept.1 clock.mono payload .push true)

theorem kept_takeReply (backs : Backs vendor config s) (clock : Clock) (reply : Reply) :
    Exec.Keeps (Kept vendor config s) (takeReply vendor clock reply) s := by
  have here : Kept vendor config s s := backs.same rfl rfl rfl rfl rfl
  unfold takeReply
  refine Exec.keeps_read ?_
  rcases decodeRest s.client.vin clock.wall reply with e | _ | payload
  · exact here
  · exact here
  · refine Exec.keeps_ite (fun _ => ?_)
      fun _ => kept_acceptPayload backs clock.mono payload .pull false
    unfold mergeThenAccept
    refine Exec.keeps_bind (kept_mergeUpdate backs clock.wall _) fun merged t kept => ?_
    rcases merged with _ | merged
    · exact kept
    · exact kept_after kept (kept_acceptPayload kept.1 clock.mono merged .push true)

/-- **One event** of the client. -/
theorem kept_follow (backs : Backs vendor config s) (clock : Clock) (event : SenderEvent) :
    Kept vendor config s (s.follow vendor clock event) := by
  cases event with
  | session event =>
    cases event with
    | push update acknowledged =>
      have kept : Kept vendor config s (takeFrame vendor clock update acknowledged s).2 :=
        (kept_takeFrame backs clock update acknowledged).final
      show Kept vendor config s (s.step vendor clock (.push update acknowledged))
      rcases result : takeFrame vendor clock update acknowledged s with ⟨e | _, next⟩ <;>
        rw [result] at kept <;> simp only [Session.step, result]
      · exact kept.trans (kept.1.same rfl rfl rfl rfl rfl)
      · exact kept
    | reply reply => exact (kept_takeReply backs clock reply).final
    | connect => exact backs.same rfl rfl rfl rfl rfl
    | disconnect => exact backs.same rfl rfl rfl rfl rfl
  | metadata vehicles capabilities =>
    show Kept vendor config s (s.readMetadata vehicles capabilities)
    unfold Session.readMetadata
    split
    · exact backs.same rfl rfl rfl rfl rfl
    · split <;> exact backs.same rfl rfl rfl rfl rfl
  | login => exact backs.same rfl rfl rfl rfl rfl

end Backs

end DbusEv.Mercedes

namespace DbusEv.Relay

open Mqtt

/-! ### What is sent -/

section Sent

variable [PyText] {session : Mqtt.Config} {codes : Codes} {broker : Broker}

/-- A tick sends no state, or that of its snapshot. -/
theorem states_tick (now : ℚ) (snapshot : Handed) :
    statePublishes (Mqtt.tick session now codes snapshot broker).2.trace =
        statePublishes broker.trace ∨
      ∃ offered ∈ offer session snapshot,
        statePublishes (Mqtt.tick session now codes snapshot broker).2.trace =
          offered.publication codes :: statePublishes broker.trace := by
  have before := (unheard_prepared session now codes snapshot broker).1.publishes
  rw [tick_final]
  unfold tickedTo
  by_cases connected : broker.connected = true
  · rw [if_pos connected]
    by_cases enabled : session.publishHa = true
    · rw [if_pos enabled]
      rcases publishes_offeredTo session codes (prepared session now codes snapshot broker)
        (offer session snapshot) with same | ⟨offered, found, -, more⟩
      · exact .inl (same.trans before)
      · exact .inr ⟨offered, found, by rw [more, before]⟩
    · rw [if_neg enabled]
      exact .inl before
  · rw [if_neg connected]
    exact .inl rfl

/-- A callback sends no state. -/
theorem states_callback (called : Callback) :
    statePublishes (callback session broker called).trace = statePublishes broker.trace := by
  cases called with
  | connect reasonCode =>
    show statePublishes (onConnect reasonCode broker).trace = _
    unfold onConnect
    split <;> rfl
  | disconnect => rfl
  | message message now =>
    obtain ⟨meter, final⟩ := onMessage_eq session now message broker
    show statePublishes (onMessage session now message broker).2.trace = _
    rw [final]
    rfl

/-- The state of a payload, as it is sent. -/
def StateOf (session : Mqtt.Config) (payload : Mercedes.Payload)
    (publication : Publication) : Prop :=
  publication.topic = session.topicPrefix ++ "/" ++ payload.vin ++ "/state" ∧
    ∃ revision, publication.content = .state revision (.dict (encodePayload payload))

theorem stateOf_offered {snapshot : Handed} {offered : Offer} (source : session.mercedes = true)
    (offers : offered ∈ offer session snapshot) :
    ∃ payload, snapshot.mercedesPayload = some payload ∧
      StateOf session payload (offered.publication codes) := by
  have found : offerMercedes session snapshot = some offered := by
    rw [← Option.mem_def.mp offers]
    unfold offer
    rw [if_pos source]
  unfold offerMercedes at found
  split at found
  · rename_i payload _ holds
    cases Option.some.inj found
    exact ⟨payload, holds, rfl, _, rfl⟩
  · cases found

end Sent

/-! ### The main loop -/

section Main

variable [PyText] {config : Loop.Config} {at_ : Loop.Readings} {codes : Codes}
  {snapshot : Loop.Snapshot} {s : Loop.MainLoop}

/-- The state the broker is in, once it was handed a payload. -/
def Ticked (config : Loop.Config) (before : Broker) (payload : Option Mercedes.Payload)
    (after : Broker) : Prop :=
  after = before ∨ ∃ now codes handed, handed.mercedesPayload = payload ∧
    after = (Mqtt.tick config.session now codes handed before).2

/-- The outputs hand the latest snapshot to the broker. -/
theorem ticked_updateOutputs (s : Loop.MainLoop) :
    Exec.Keeps (fun t => Ticked config s.broker s.latest.mercedesPayload t.broker)
      (Loop.updateOutputs config at_ codes) s := by
  unfold Loop.updateOutputs
  refine Exec.keeps_read (Exec.keeps_bind ?_ fun _ t ticked => ?_)
  · unfold Loop.tickSession Loop.onBroker
    refine Exec.keeps_ite (fun _ => ?_) fun _ => .inl rfl
    unfold Exec.Keeps
    rw [Exec.wp_zoom]
    exact Exec.wp_of_final (.inr ⟨_, _, _, rfl, rfl⟩)
  · unfold Loop.updateCharger
    exact Exec.keeps_ite (fun _ => ticked) fun _ => ticked

/-- **A delivered snapshot** is handed to the broker once, whether it is shown or not. -/
theorem ticked_apply (config : Loop.Config) (at_ : Loop.Readings) (codes : Codes)
    (snapshot : Loop.Snapshot) (s : Loop.MainLoop) :
    Ticked config s.broker snapshot.mercedesPayload
      (Loop.step config s (.apply at_ codes snapshot)).broker := by
  have keeps : Exec.Keeps
      (fun t : Loop.MainLoop => Ticked config s.broker snapshot.mercedesPayload t.broker)
      (Loop.applySnapshot config at_ codes snapshot) s := by
    unfold Loop.applySnapshot Exec.Keeps
    rw [Exec.wp_bind, Exec.wp_change, Exec.wp_bind, Loop.wp_updateConnected, Exec.wp_bind]
    refine Exec.wp_value (ticked_updateOutputs _) fun _ t ticked => ?_
    unfold Loop.showVehicle Loop.onVehicle
    rw [Exec.wp_ite]
    refine ⟨fun _ => ?_, fun _ => ticked⟩
    rw [Exec.wp_zoom]
    exact Exec.wp_of_final ticked
  exact keeps.final

end Main

/-! ### The coordinator -/

section Home

variable [PyText] {client : Mercedes.Config}

/-- What follows the checks of a payload. -/
theorem held_takeReading (arrival : Decoder.Arrival) {payload : Mercedes.Payload}
    (settled : Mercedes.Complete client payload) (s : Decoder.Coordinator) :
    (Decoder.takeReading arrival (encodePayload payload) (Ha.sentReading payload) s).2.held =
        s.held ∨
      (Decoder.takeReading arrival (encodePayload payload) (Ha.sentReading payload) s).2.held =
        (payload.receivedAt, some (encodePayload payload)) := by
  have ends := Decoder.wp_takeReading arrival (encodePayload payload) (Ha.sentReading payload) s
  rcases run : Decoder.takeReading arrival (encodePayload payload) (Ha.sentReading payload) s with
    ⟨e | _, t⟩
  · rw [Exec.wp_of_error run] at ends
    rcases ends with ⟨-, complete, millis, accepts⟩ | ⟨received, data, -, -⟩
    · exact .inr (Decoder.held_of_accepts settled accepts)
    · exact .inl (Prod.ext received data)
  · rw [Exec.wp_of_ok run] at ends
    obtain ⟨-, complete, millis, accepts⟩ := ends
    exact .inr (Decoder.held_of_accepts settled accepts)

/-- **A message of a payload**, however it is decoded: what is held is as before, or the payload. -/
theorem held_next {s : Decoder.Coordinator} {arrival : Decoder.Arrival}
    {payload : Mercedes.Payload} (complete : Mercedes.Complete client payload)
    (same : s.vin = client.vin) (parsed : arrival.parsed = .ok (.dict (encodePayload payload))) :
    (s.next arrival).held = s.held ∨
      (s.next arrival).held = (payload.receivedAt, some (encodePayload payload)) := by
  rw [Decoder.next_eq]
  rcases Decoder.body_cases arrival s with ⟨_, ends, -⟩ | ⟨found, reading, sent, passed, -, runs⟩
  · exact .inl (congrArg (Decoder.Coordinator.held ∘ Prod.snd) ends)
  · rw [parsed] at sent
    cases sent
    by_cases untimely : payload.receivedAt < s.receivedAt ∨ arrival.now + 30 < payload.receivedAt
    · rw [Decoder.check_untimely complete same untimely] at passed
      cases passed
    · obtain ⟨ordered, behind⟩ := not_or.mp untimely
      have checked : Ha.checkPayload s.toHa arrival.now (encodePayload payload) =
          .ok (Ha.sentReading payload) :=
        Ha.check_encodePayload complete same (not_lt.mp ordered) (not_lt.mp behind)
      rw [checked] at passed
      cases passed
      rw [runs]
      exact held_takeReading arrival complete s

end Home

/-! ### The whole -/

/-- The bridge and the integration, which are configured for one vehicle. -/
structure Config where
  loop : Loop.Config
  client : Mercedes.Config
  vehicleName : PyValue
  maxAge : ℚ

/-- The coordinator, what it was told of the publisher, and its connection to the broker. -/
structure Home where
  coordinator : Decoder.Coordinator
  online : Bool
  linked : Bool

/-- `available` at wall time `now`. -/
def Home.available (home : Home) (maxAge now : ℚ) : Bool :=
  home.online && (0 ≤ now - home.coordinator.receivedAt &&
    now - home.coordinator.receivedAt < maxAge) && home.linked

/-- The process of the bridge with the inputs of its main loop, what the processes before it
accepted and sent, and the integration. -/
structure State where
  session : Mercedes.Session
  stopped : Bool
  inputs : List Loop.Input
  acceptedBefore : List Mercedes.Payload
  sentBefore : List Publication
  home : Home

namespace State

/-- Every payload that was ever accepted. -/
def accepted (s : State) : List Mercedes.Payload :=
  Mercedes.acceptedOf s.session.history ++ s.acceptedBefore

end State

/-- What happens. -/
inductive Event
  /-- The Mercedes client, at these clock readings. -/
  | sender (clock : Clock) (event : Mercedes.SenderEvent)
  /-- `_stop` is set. -/
  | stop
  /-- A tick that started then reads the cache. -/
  | tick (startedAt read : ℚ) (at_ : Loop.Readings) (codes : Codes)
  | callback (called : Callback)
  /-- The process ends, and another one starts. -/
  | restart
  /-- A state arrives, handled by this clock; the newest one is `0`. -/
  | state (index : ℕ) (now : ℚ) (around : Decoder.Surroundings)
      (listeners : Except Decoder.Raised Unit)
  /-- `_availability(message)`. -/
  | availability (payload : String)
  | linked (connected : Bool)
  /-- The integration is loaded again. -/
  | reload

section System

variable [PyText]

def State.main (config : Config) (s : State) : Loop.MainLoop := Loop.run config.loop s.inputs

/-- Every state that was ever sent. -/
def State.sent (config : Config) (s : State) : List Publication :=
  statePublishes (s.main config).broker.trace ++ s.sentBefore

def Home.new (config : Config) : Home :=
  ⟨.new config.client.vin config.vehicleName, false, false⟩

def State.new (config : Config) : State :=
  ⟨.new config.client, false, [], [], [], .new config⟩

/-- A message with the text of a publication; `json.loads` gives back what `json.dumps` was
given. -/
def arrivalOf (publication : Publication) (now : ℚ) (around : Decoder.Surroundings)
    (listeners : Except Decoder.Raised Unit) : Option Decoder.Arrival :=
  match publication.content with
  | .state _ payload => some ⟨now, .ok payload, around, listeners⟩
  | _ => none

/-- `_message(message)`, if there is one. -/
def Home.handle (home : Home) (arrival : Option Decoder.Arrival) : Home :=
  match arrival with
  | some arrival => { home with coordinator := home.coordinator.next arrival }
  | none => home

def step (config : Config) (s : State) : Event → State
  | .sender clock event =>
    { s with session := s.session.follow config.loop.vendor clock event }
  | .stop => { s with stopped := true }
  | .tick startedAt read at_ codes =>
    { s with
      inputs := s.inputs ++ [.apply at_ codes
        ((Loop.Snapshot.ofMercedes (s.session.client.cachedSnapshot s.stopped read)).startedAt
          startedAt)] }
  | .callback called => { s with inputs := s.inputs ++ [.callback called] }
  | .restart =>
    { s with
      session := .new config.client
      stopped := false
      inputs := []
      acceptedBefore := s.accepted
      sentBefore := s.sent config }
  | .state index now around listeners =>
    { s with
      home := s.home.handle
        ((s.sent config)[index]?.bind fun publication =>
          arrivalOf publication now around listeners) }
  | .availability payload => { s with home := { s.home with online := payload = "online" } }
  | .linked connected => { s with home := { s.home with linked := connected } }
  | .reload => { s with home := .new config }

def run (config : Config) (events : List Event) : State := events.foldl (step config) (.new config)

/-! ### What the main loop was given -/

/-- A snapshot of nothing, or of a payload with its projection. -/
def Viewed (config : Config) (payloads : List Mercedes.Payload) (snapshot : Loop.Snapshot) : Prop :=
  (snapshot.ok = false ∧ snapshot.mercedesPayload = none ∧ snapshot.fields = .missing) ∨
    ∃ payload ∈ payloads, ∃ view,
      Mercedes.project config.loop.vendor payload config.client.capacity config.client.home =
        .ok view ∧
      snapshot.mercedesPayload = some payload ∧ snapshot.fields = Sample.mercedesFields view

/-- **Everything that is shown and sent is an accepted payload.** -/
structure Faithful (config : Config) (s : State) : Prop where
  sends : Mercedes.Sends config.client s.session
  backs : Mercedes.Backs config.loop.vendor config.client s.session
  complete : ∀ payload ∈ s.accepted, Mercedes.Complete config.client payload
  viewed : ∀ at_ codes snapshot, .apply at_ codes snapshot ∈ s.inputs →
    Viewed config (Mercedes.acceptedOf s.session.history) snapshot
  sent : ∀ publication ∈ s.sent config, ∃ payload ∈ s.accepted,
    StateOf config.loop.session payload publication
  vin : s.home.coordinator.vin = config.client.vin
  held : s.home.coordinator.data = none ∨ ∃ payload ∈ s.accepted,
    s.home.coordinator.held = (payload.receivedAt, some (encodePayload payload))

variable {config : Config} {s : State}

theorem mem_acceptedOf {history : List Mercedes.Entry} {payload : Mercedes.Payload} :
    payload ∈ Mercedes.acceptedOf history ↔ ∃ buffered, .accepted payload buffered ∈ history := by
  unfold Mercedes.acceptedOf
  rw [List.mem_filterMap]
  constructor
  · rintro ⟨entry, member, found⟩
    cases entry with
    | full => cases found
    | accepted other buffered =>
      cases Option.some.inj found
      exact ⟨buffered, member⟩
  · rintro ⟨buffered, member⟩
    exact ⟨_, member, rfl⟩

theorem Viewed.more {payloads more : List Mercedes.Payload} {snapshot : Loop.Snapshot}
    (viewed : Viewed config payloads snapshot) (kept : ∀ payload ∈ payloads, payload ∈ more) :
    Viewed config more snapshot := by
  refine viewed.imp id ?_
  rintro ⟨payload, member, rest⟩
  exact ⟨payload, kept payload member, rest⟩

/-- What a client that backs its snapshot returns. -/
theorem viewed_cached (backs : Mercedes.Backs config.loop.vendor config.client s.session)
    (startedAt read : ℚ) :
    Viewed config (Mercedes.acceptedOf s.session.history)
      ((Loop.Snapshot.ofMercedes (s.session.client.cachedSnapshot s.stopped read)).startedAt
        startedAt) := by
  have fields : ((Loop.Snapshot.ofMercedes
      (s.session.client.cachedSnapshot s.stopped read)).startedAt startedAt).fields =
      (s.session.client.snapshot.map Sample.mercedesFields).getD .missing :=
    congrArg Sample.fields (Loop.Snapshot.sample_ofMercedes _)
  rcases backs.held with ⟨payload, snapshot⟩ | ⟨payload, member, view, projected, holds, shows⟩
  · refine .inl ⟨?_, payload, fields.trans ?_⟩
    · show (!s.stopped && s.session.client.fresh read &&
        (s.session.client.snapshot.bind (·.soc)).isSome) = false
      rw [snapshot]
      exact Bool.and_false _
    · rw [snapshot]
      rfl
  · refine .inr ⟨payload, member, view, projected, holds, fields.trans ?_⟩
    rw [shows]
    rfl

theorem Viewed.typed {payloads : List Mercedes.Payload} {snapshot : Loop.Snapshot}
    (viewed : Viewed config payloads snapshot) : EvService.Typed snapshot.fields := by
  rcases viewed with ⟨-, -, fields⟩ | ⟨payload, -, view, projected, -, fields⟩
  · rw [fields]
    exact typed_missing
  · rw [fields]
    exact typed_mercedes (known_project projected)

theorem Faithful.sound (faithful : Faithful config s) : ∀ input ∈ s.inputs, input.Sound := by
  intro input member
  cases input with
  | tick at_ codes => trivial
  | apply at_ codes snapshot => exact (faithful.viewed at_ codes snapshot member).typed
  | callback called => trivial

/-! ### One event -/

theorem main_append (config : Config) (s : State) (input : Loop.Input) :
    State.main config { s with inputs := s.inputs ++ [input] } =
      Loop.step config.loop (s.main config) input := Loop.run_append config.loop s.inputs input

/-- A tick sends no state, or one of the payload it is given. -/
theorem sent_tick (source : config.loop.session.mercedes = true) {at_ : Loop.Readings}
    {codes : Codes} {snapshot : Loop.Snapshot} {publication : Publication}
    (sent : publication ∈ statePublishes
      (Loop.step config.loop (s.main config) (.apply at_ codes snapshot)).broker.trace) :
    publication ∈ statePublishes (s.main config).broker.trace ∨
      ∃ payload, snapshot.mercedesPayload = some payload ∧
        StateOf config.loop.session payload publication := by
  rcases ticked_apply config.loop at_ codes snapshot (s.main config) with
    same | ⟨now, _, handed, holds, same⟩
  · rw [same] at sent
    exact .inl sent
  · rw [same] at sent
    rcases states_tick now handed with quiet | ⟨offered, offers, more⟩
    · rw [quiet] at sent
      exact .inl sent
    · rw [more] at sent
      rcases List.mem_cons.mp sent with rfl | earlier
      · obtain ⟨payload, held, state⟩ := stateOf_offered source offers
        exact .inr ⟨payload, holds.symm.trans held, state⟩
      · exact .inl earlier

/-- The client did something: what was accepted stays so. -/
theorem Faithful.sender (faithful : Faithful config s) (clock : Clock)
    (event : Mercedes.SenderEvent) : Faithful config (step config s (.sender clock event)) := by
  obtain ⟨backs, remembers⟩ :=
    Mercedes.kept_follow faithful.backs clock event
  have sends : Mercedes.Sends config.client (step config s (.sender clock event)).session :=
    faithful.sends.follow clock event
  have more : ∀ payload ∈ s.accepted, payload ∈ (step config s (.sender clock event)).accepted := by
    intro payload member
    rcases List.mem_append.mp member with new | old
    · exact List.mem_append_left _ (remembers payload new)
    · exact List.mem_append_right _ old
  refine ⟨sends, backs, fun payload member => ?_, fun at_ codes snapshot member =>
    (faithful.viewed at_ codes snapshot member).more remembers, fun publication member => ?_,
    faithful.vin, faithful.held.imp id fun held => ?_⟩
  · rcases List.mem_append.mp member with new | old
    · obtain ⟨buffered, entry⟩ := mem_acceptedOf.mp new
      exact sends.accepted payload buffered entry
    · exact faithful.complete payload (List.mem_append_right _ old)
  · obtain ⟨payload, inside, state⟩ := faithful.sent publication member
    exact ⟨payload, more payload inside, state⟩
  · obtain ⟨payload, inside, same⟩ := held
    exact ⟨payload, more payload inside, same⟩

theorem Faithful.tick (source : config.loop.session.mercedes = true) (faithful : Faithful config s)
    (startedAt read : ℚ) (at_ : Loop.Readings) (codes : Codes) :
    Faithful config (step config s (.tick startedAt read at_ codes)) := by
  have viewed := viewed_cached faithful.backs startedAt read
  refine ⟨faithful.sends, faithful.backs, faithful.complete, fun at_' codes' snapshot member => ?_,
    fun publication member => ?_, faithful.vin, faithful.held⟩
  · rcases List.mem_append.mp member with earlier | last
    · exact faithful.viewed at_' codes' snapshot earlier
    · cases List.mem_singleton.mp last
      exact viewed
  · rcases List.mem_append.mp member with now | before
    · have now : publication ∈ statePublishes (State.main config { s with
          inputs := s.inputs ++ [.apply at_ codes ((Loop.Snapshot.ofMercedes
            (s.session.client.cachedSnapshot s.stopped read)).startedAt
              startedAt)] }).broker.trace := now
      rw [main_append] at now
      rcases sent_tick source now with earlier | ⟨payload, holds, state⟩
      · exact faithful.sent publication (List.mem_append_left _ earlier)
      · rcases viewed with ⟨-, nothing, -⟩ | ⟨found, inside, view, -, held, -⟩
        · rw [nothing] at holds
          cases holds
        · rw [held] at holds
          cases holds
          exact ⟨payload, List.mem_append_left _ inside, state⟩
    · exact faithful.sent publication (List.mem_append_right _ before)

theorem Faithful.callback (faithful : Faithful config s) (called : Callback) :
    Faithful config (step config s (.callback called)) := by
  refine ⟨faithful.sends, faithful.backs, faithful.complete, fun at_ codes snapshot member => ?_,
    fun publication member => faithful.sent publication ?_, faithful.vin, faithful.held⟩
  · rcases List.mem_append.mp member with earlier | last
    · exact faithful.viewed at_ codes snapshot earlier
    · cases List.mem_singleton.mp last
  · rcases List.mem_append.mp member with now | before
    · refine List.mem_append_left _ ?_
      have now : publication ∈ statePublishes
          (State.main config { s with
            inputs := s.inputs ++ [.callback called] }).broker.trace := now
      rw [main_append] at now
      have quiet : statePublishes
          (Loop.step config.loop (s.main config) (.callback called)).broker.trace =
          statePublishes (s.main config).broker.trace := states_callback called
      rw [quiet] at now
      exact now
    · exact List.mem_append_right _ before

theorem Faithful.restart (faithful : Faithful config s) :
    Faithful config (step config s .restart) := by
  have sends : Mercedes.Sends config.client (.new config.client) := ⟨rfl, rfl, nofun, nofun⟩
  refine ⟨sends, ⟨rfl, rfl, .inl ⟨rfl, rfl⟩⟩, faithful.complete,
    fun _ _ _ member => absurd member List.not_mem_nil, fun publication member => ?_, faithful.vin,
    faithful.held⟩
  have member : publication ∈ s.sent config := member
  exact faithful.sent publication member

/-- **A state arrives.** -/
theorem Faithful.state (faithful : Faithful config s) (index : ℕ) (now : ℚ)
    (around : Decoder.Surroundings) (listeners : Except Decoder.Raised Unit) :
    Faithful config (step config s (.state index now around listeners)) := by
  unfold Relay.step
  simp only
  cases found : (s.sent config)[index]? with
  | none => exact faithful
  | some publication =>
    obtain ⟨payload, inside, -, revision, content⟩ :=
      faithful.sent publication (List.mem_of_getElem? found)
    have arrives : arrivalOf publication now around listeners =
        some ⟨now, .ok (.dict (encodePayload payload)), around, listeners⟩ := by
      unfold arrivalOf
      rw [content]
    simp only [Option.bind_some, arrives, Home.handle]
    refine { faithful with vin := ?_, held := ?_ }
    · exact (Decoder.vin_next _ _).trans faithful.vin
    · have parsed : (⟨now, .ok (.dict (encodePayload payload)), around, listeners⟩ :
          Decoder.Arrival).parsed = .ok (.dict (encodePayload payload)) := rfl
      rcases held_next (faithful.complete payload inside) faithful.vin parsed with same | taken
      · have data := congrArg Prod.snd same
        refine faithful.held.imp (fun none_ => data.trans none_) ?_
        rintro ⟨other, member, held⟩
        exact ⟨other, member, same.trans held⟩
      · exact .inr ⟨payload, inside, taken⟩

theorem Faithful.step (source : config.loop.session.mercedes = true) (faithful : Faithful config s)
    (event : Event) : Faithful config (step config s event) := by
  cases event with
  | sender clock event => exact faithful.sender clock event
  | stop => exact { faithful with }
  | tick startedAt read at_ codes => exact faithful.tick source startedAt read at_ codes
  | callback called => exact faithful.callback called
  | restart => exact faithful.restart
  | state index now around listeners => exact faithful.state index now around listeners
  | availability payload => exact { faithful with }
  | linked connected => exact { faithful with }
  | reload => exact { faithful with vin := rfl, held := .inl rfl }

theorem faithful_run (source : config.loop.session.mercedes = true) (events : List Event) :
    Faithful config (run config events) := by
  have started : Faithful config (.new config) := by
    have sends : Mercedes.Sends config.client (.new config.client) := ⟨rfl, rfl, nofun, nofun⟩
    have none_ : ∀ {α : Type} {P : α → Prop}, ∀ item ∈ ([] : List α), P item :=
      List.forall_mem_nil _
    exact ⟨sends, ⟨rfl, rfl, .inl ⟨rfl, rfl⟩⟩, none_, fun _ _ _ member => absurd member
      List.not_mem_nil, none_, rfl, .inl rfl⟩
  unfold run
  generalize State.new config = s at started
  induction events generalizing s with
  | nil => exact started
  | cons event rest ih => exact ih _ (started.step source event)

/-! ### Every run -/

/-- The time that is held does not decrease, but when the integration is loaded again. -/
theorem receivedAt_step (s : State) (event : Event) (kept : event ≠ .reload) :
    s.home.coordinator.receivedAt ≤ (step config s event).home.coordinator.receivedAt := by
  cases event with
  | state index now around listeners =>
    unfold step
    simp only
    cases (s.sent config)[index]?.bind fun publication =>
      arrivalOf publication now around listeners with
    | none => exact le_rfl
    | some arrival =>
      rcases Decoder.later_next arrival s.home.coordinator with same | ⟨received, later, same⟩
      · exact (congrArg Prod.fst same).ge
      · exact later.trans (congrArg Prod.fst same).ge
  | reload => exact absurd rfl kept
  | _ => exact le_rfl

/-- The vehicle shows nothing, or the projection of a payload that this process accepted. -/
theorem shown_main (capacity : EvService.IsFloat config.loop.capacity)
    (faithful : Faithful config s) :
    (∀ path ∈ EvService.recordPaths, (s.main config).vehicle.get path =
        (EvService.newPaths config.loop.identity).get path) ∨
      ∃ payload ∈ Mercedes.acceptedOf s.session.history, ∃ view written,
        Mercedes.project config.loop.vendor payload config.client.capacity config.client.home =
          .ok view ∧
        EvService.record config.loop.vedbus
          (serviceFields config.loop.toBridgeConfig (Sample.mercedesFields view)) = .ok written ∧
        EvService.Proper written ∧
        ∀ item ∈ written, (s.main config).vehicle.get item.1 = some item.2 := by
  have inStep := Loop.inStep_run capacity s.inputs faithful.sound
  rcases inStep.shown with blank | ⟨at_, codes, snapshot, written, member, good, shown, proper,
    values, -⟩
  · exact .inl blank.2
  · rcases faithful.viewed at_ codes snapshot member with
      ⟨bad, -⟩ | ⟨payload, inside, view, projected, -, fields⟩
    · have ok : snapshot.ok = true := ((Bool.and_eq_true _ _).mp good).1
      rw [bad] at ok
      cases ok
    · rw [fields] at shown
      exact .inr ⟨payload, inside, view, written, projected, shown, proper, values⟩

/-- **The relay is faithful**, in every run: states arrive in any order, again or never, and each
side may restart at any time. The integration holds an accepted payload, under the time of that
payload; while it is available, the payload is younger than its limit; it never turns to an older
one until it is loaded again. The bridge sends accepted payloads only, to the topic of their
vehicle, and shows the projection of one that its process accepted. -/
theorem relay_faithful (config : Config) (source : config.loop.session.mercedes = true)
    (capacity : EvService.IsFloat config.loop.capacity) (events : List Event) :
    let s := run config events
    (∀ data, s.home.coordinator.data = some data → ∃ payload ∈ s.accepted,
        Mercedes.Complete config.client payload ∧ data = encodePayload payload ∧
          s.home.coordinator.receivedAt = payload.receivedAt ∧
          ∀ now, s.home.available config.maxAge now = true →
            0 ≤ now - payload.receivedAt ∧ now - payload.receivedAt < config.maxAge) ∧
      (∀ more : List Event, .reload ∉ more → s.home.coordinator.receivedAt ≤
        (run config (events ++ more)).home.coordinator.receivedAt) ∧
      (∀ publication ∈ s.sent config, ∃ payload ∈ s.accepted,
        StateOf config.loop.session payload publication) ∧
      ((∀ path ∈ EvService.recordPaths, (s.main config).vehicle.get path =
          (EvService.newPaths config.loop.identity).get path) ∨
        ∃ payload ∈ Mercedes.acceptedOf s.session.history, ∃ view written,
          Mercedes.project config.loop.vendor payload config.client.capacity
            config.client.home = .ok view ∧
          EvService.record config.loop.vedbus
            (serviceFields config.loop.toBridgeConfig (Sample.mercedesFields view)) =
              .ok written ∧
          EvService.Proper written ∧
          ∀ item ∈ written, (s.main config).vehicle.get item.1 = some item.2) := by
  intro s
  have faithful : Faithful config s := faithful_run source events
  refine ⟨fun data held => ?_, fun more calm => ?_, faithful.sent, shown_main capacity faithful⟩
  · rcases faithful.held with none_ | ⟨payload, inside, same⟩
    · rw [none_] at held
      cases held
    · obtain ⟨time, shown⟩ := Prod.mk.inj same
      have shown : data = encodePayload payload := Option.some.inj (held.symm.trans shown)
      refine ⟨payload, inside, faithful.complete payload inside, shown, time, fun now live => ?_⟩
      unfold Home.available at live
      simp only [Bool.and_eq_true, decide_eq_true_eq] at live
      rw [time] at live
      exact live.1.2
  · have ran : run config (events ++ more) = more.foldl (step config) s := List.foldl_append
    rw [ran]
    clear ran faithful
    clear_value s
    induction more generalizing s with
    | nil => exact le_rfl
    | cons event rest ih =>
      rw [List.mem_cons, not_or] at calm
      exact (receivedAt_step s event (Ne.symm calm.1)).trans (ih _ calm.2)

end System

/-- A car that reads its state of charge. -/
def chargedVendor : Mercedes.Vendor where
  car _ := .ok fun group field =>
    if group = "electric" ∧ field = "soc" then some ⟨.int 80, .str "VALID", none⟩ else none
  distance _ _ _ _ := .ok 0

def someRelay : Config where
  loop := { Loop.someLoop with vendor := chargedVendor }
  client := Mercedes.someConfig
  vehicleName := .none
  maxAge := 900

/-- A push is accepted, published at the next tick, and arrives. -/
def someRelayed : List Event :=
  (Ha.someEvents.map fun item => .sender item.1 item.2) ++
    [.callback (.connect 0), .tick 20 20 ⟨20, 20, 20, 20, 20⟩ .accepted, .availability "online",
      .linked true,
      .state 0 110 ⟨0, .int 110, fun _ => none, fun _ => none, fun _ => false⟩ (.ok ())]

/-- It is held, and available. -/
theorem someRelayed_faithful : letI := plainText
    (run someRelay someRelayed).home.available 900 120 = true ∧
      ∀ data, (run someRelay someRelayed).home.coordinator.data = some data →
        ∃ payload ∈ (run someRelay someRelayed).accepted,
          Mercedes.Complete someRelay.client payload ∧ data = encodePayload payload ∧
            (run someRelay someRelayed).home.coordinator.receivedAt = payload.receivedAt ∧
            ∀ now, (run someRelay someRelayed).home.available someRelay.maxAge now = true →
              0 ≤ now - payload.receivedAt ∧ now - payload.receivedAt < someRelay.maxAge :=
  ⟨by decide +kernel, (@relay_faithful plainText someRelay rfl trivial someRelayed).1⟩

end DbusEv.Relay
