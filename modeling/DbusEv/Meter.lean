/-
**Local meter isolation** (`dbus_ev/main.py`, `_update_outputs`, with the MQTT session and the
charger).

* `Station` — the clock, the session, and what every update wrote, with what the session had heard
  by then.
* `Move` — a callback, the passing of time, or an update of the outputs. An update hands any
  snapshot to the session and then to the charger; callbacks run between its steps.
* `message_stored_iff` — the handler of messages stores a value and returns exactly when the payload
  can be stored.
* `local_meter_isolation` — two runs that differ in their snapshots write the same but `/Status`; a
  charger that is not connected shows no electrical value; where every live message can be read, a
  value that is shown is the one of the last of them, and fresh.
-/

import DbusEv.App
import DbusEv.Charger

set_option autoImplicit false
set_option linter.unusedSectionVars false

namespace DbusEv.Mqtt

/-! ### The station -/

/-- What happens to the session from outside. -/
inductive Signal
  | elapse (time : ℚ≥0)
  | connect (reasonCode : ℤ)
  | disconnect
  | message (message : Message)

/-- An update of the outputs, or what happens between two of them. -/
inductive Move
  | signal (signal : Signal)
  /-- The snapshot of the app and its `last_ok_time`; `between` happens before `meter()` reads the
  clock, and `waiting` from there to its lock. -/
  | outputs (latest : Handed) (lastOk : Option ℚ) (codes : Codes) (between waiting : List Signal)

/-- What an update of the charger wrote, when `meter()` read `now` and had heard `heard`. -/
structure Update where
  now : ℚ
  heard : List Event
  values : Dict PyValue

structure Station where
  clock : ℚ
  broker : Broker
  /-- Newest first. -/
  updates : List Update

def Station.new : Station := ⟨0, .new, []⟩

/-- The snapshot `_update_outputs` hands out. -/
def currentOf (latest : Handed) (lastOk : Option ℚ) (now timeout : ℚ) : Handed :=
  { latest with ok := latest.ok && isFresh lastOk now timeout }

section Runs

variable [PyText]

def Station.signalled (config : Config) (station : Station) : Signal → Station
  | .elapse time => { station with clock := station.clock + time }
  | .connect reasonCode => { station with broker := onConnect reasonCode station.broker }
  | .disconnect => { station with broker := onDisconnect station.broker }
  | .message message =>
    { station with broker := (onMessage config station.clock message station.broker).2 }

/-- `charger.update(snapshot, mqtt.meter(), require_meter=…)`. -/
def Station.project (config : Config) (snapshot : Handed) (waiting : List Signal)
    (station : Station) : Station :=
  let now := station.clock
  let station := waiting.foldl (Station.signalled config) station
  let values := chargerWrites snapshot (station.broker.readings config now)
    config.meterInstance.isSome
  { station with updates := ⟨now, station.broker.trace, values⟩ :: station.updates }

/-- `_update_outputs()`; an exception of `tick` leaves it. -/
def Station.outputs (config : Config) (timeout : ℚ) (latest : Handed) (lastOk : Option ℚ)
    (codes : Codes) (between waiting : List Signal) (station : Station) : Station :=
  let snapshot := currentOf latest lastOk station.clock timeout
  let ticked := tick config station.clock codes snapshot station.broker
  let station := { station with broker := ticked.2 }
  match ticked.1 with
  | .error _ => station
  | .ok _ => (between.foldl (Station.signalled config) station).project config snapshot waiting

def Station.moved (config : Config) (timeout : ℚ) (station : Station) : Move → Station
  | .signal signal => station.signalled config signal
  | .outputs latest lastOk codes between waiting =>
    station.outputs config timeout latest lastOk codes between waiting

/-- A run of the station. -/
def runStation (config : Config) (timeout : ℚ) (moves : List Move) : Station :=
  moves.foldl (Station.moved config timeout) .new

end Runs

/-! ### What is said about a run -/

/-- The last live message on the topic of a path since the connection, with its time. -/
def lastLive (config : Config) (path : String) :
    List Event → Option (Except PyError PyValue × ℚ)
  | [] => none
  | .connected :: _ => none
  | .received message now :: earlier =>
    if message.topic = config.meterPrefix ++ path ∧ message.retain = false then
      some (message.payload, now)
    else lastLive config path earlier
  | _ :: earlier => lastLive config path earlier

/-- The content of a message can be read: only a `ValueError` ends its parsing, and its value is no
integer beyond the doubles. -/
def isReadable : Except PyError PyValue → Bool
  | .error e => e = .value
  | .ok (.dict items) =>
    match Dict.get items "value" with
    | some (.int value) =>
      match PyFloat.ofRat value with
      | .finite _ => true
      | _ => false
    | _ => true
  | .ok _ => true

/-- A live message on a topic of the meter can be read. -/
def Signal.Readable (config : Config) : Signal → Prop
  | .message found => found.retain = false → (config.meterTopics.get found.topic).isSome →
    isReadable found.payload = true
  | _ => True

/-- The signals of a move. -/
def Move.signals : Move → List Signal
  | .signal one => [one]
  | .outputs _ _ _ between waiting => between ++ waiting

/-- The payload an update may publish is JSON. -/
def Move.Serializes (config : Config) : Move → Prop
  | .signal _ => True
  | .outputs latest _ _ _ _ =>
    ∀ offered ∈ offer config { latest with ok := true }, offered.payload.strict = true

/-- Two moves that differ at most in the snapshot, and in what depends on it. -/
def SameMeter : Move → Move → Prop
  | .signal signal, .signal signal' => signal = signal'
  | .outputs _ _ _ between waiting, .outputs _ _ _ between' waiting' =>
    between = between' ∧ waiting = waiting'
  | _, _ => False

/-- Two updates at one time that wrote the same but `/Status`. -/
structure SameButStatus (update update' : Update) : Prop where
  now : update.now = update'.now
  values : update.values.filter (·.1 ≠ "/Status") = update'.values.filter (·.1 ≠ "/Status")

/-- A charger that is not connected shows no electrical value. -/
def Update.Dark (update : Update) : Prop :=
  ("/Connected", .int 0) ∈ update.values → ∀ path source value, (path, source) ∈ electricalPaths →
    (path, value) ∈ update.values → value = .none

/-- An electrical value that is shown is the one of the last live message, and fresh. -/
def Update.Shown [PyText] (config : Config) (update : Update) : Prop :=
  ∀ path source value, (path, source) ∈ electricalPaths → (path, value) ∈ update.values →
    value ≠ .none → ∃ number payload instant, value = .float (.finite number) ∧
      lastLive config source update.heard = some (payload, instant) ∧
      messageValue payload = .ok (some number) ∧
      0 ≤ update.now - instant ∧ update.now - instant < config.meterTtl

/-! ### The cache -/

/-- **The cache holds the last live message of each path**, once. -/
structure Cached [PyText] (config : Config) (broker : Broker) : Prop where
  keys : (broker.meter.map Prod.fst).Nodup
  paths : ∀ entry ∈ broker.meter, entry.1 ∈ meterPaths
  live : ∀ entry ∈ broker.meter, ∃ payload,
    lastLive config entry.1 broker.trace = some (payload, entry.2.2) ∧
      messageValue payload = .ok entry.2.1

section Cache

variable [PyText] {config : Config} {broker after : Broker}

/-- The topics of the meter are its paths behind one prefix. -/
theorem meterTopics_get {topic path : String} (found : config.meterTopics.get topic = some path) :
    path ∈ meterPaths ∧ topic = config.meterPrefix ++ path := by
  obtain ⟨name, member, same⟩ := List.mem_map.mp (Dict.mem_of_get found)
  rw [Prod.mk.injEq] at same
  obtain ⟨rfl, rfl⟩ := same
  exact ⟨member, rfl⟩

theorem meterTopics_path (config : Config) {path : String} (member : path ∈ meterPaths) :
    config.meterTopics.get (config.meterPrefix ++ path) = some path := by
  unfold Config.meterTopics
  generalize meterPaths = paths at member ⊢
  induction paths with
  | nil => cases member
  | cons first rest ih =>
    rw [List.map_cons, Dict.get_cons]
    by_cases same : path = first
    · rw [if_pos (by rw [same]), same]
    · rw [if_neg fun equal => same ((String.append_right_inj _).mp equal)]
      exact ih ((List.mem_cons.mp member).resolve_left same)

/-- A readable payload has a value, `None` included. -/
theorem messageValue_of_readable {payload : Except PyError PyValue}
    (readable : isReadable payload = true) : ∃ value, messageValue payload = .ok value := by
  rcases payload with e | content
  · have same : e = .value := of_decide_eq_true readable
    subst same
    exact ⟨none, rfl⟩
  · cases content with
    | dict items =>
      unfold messageValue readValue valueItem
      unfold isReadable at readable
      rcases found : Dict.get items "value" with _ | value
      · simp [found, bind, Except.bind, pure, Except.pure]
      · cases value with
        | int number =>
          simp only [found] at readable
          rcases rounded : PyFloat.ofRat number with finite | _ | _
          · simp [found, bind, Except.bind, pure, Except.pure, floatOf, rounded]
          · simp [rounded] at readable
          · simp [rounded] at readable
        | str text =>
          rcases parsed : PyText.float text with _ | number
          · simp [found, bind, Except.bind, floatOf, parsed]
          · cases number <;> simp [found, bind, Except.bind, pure, Except.pure, floatOf, parsed]
        | float number =>
          cases number <;> simp [found, bind, Except.bind, pure, Except.pure, floatOf]
        | _ => simp [found, bind, Except.bind, pure, Except.pure, floatOf]
    | _ => exact ⟨none, rfl⟩

theorem Cached.unheard (cached : Cached config broker) (meter : after.meter = broker.meter)
    (last : ∀ path ∈ meterPaths,
      lastLive config path after.trace = lastLive config path broker.trace) :
    Cached config after := by
  refine ⟨meter ▸ cached.keys, meter ▸ cached.paths, fun entry member => ?_⟩
  rw [meter] at member
  rw [last entry.1 (cached.paths entry member)]
  exact cached.live entry member

/-- A message of another topic, or a retained one, is not the last of a path. -/
theorem lastLive_received {message : Message} {now : ℚ} {path : String} {earlier : List Event}
    (other : ¬ (message.topic = config.meterPrefix ++ path ∧ message.retain = false)) :
    lastLive config path (.received message now :: earlier) = lastLive config path earlier := by
  show (if _ then _ else _) = _
  rw [if_neg other]

theorem onMessage_foreign {now : ℚ} {message : Message}
    (foreign : config.meterTopics.get message.topic = none) :
    (onMessage config now message broker).2 = broker.note (.received message now) := by
  simp only [onMessage, foreign]
  rfl

theorem onMessage_retained {now : ℚ} {message : Message} {path : String}
    (found : config.meterTopics.get message.topic = some path) (retained : message.retain = true) :
    (onMessage config now message broker).2 = broker.note (.received message now) := by
  simp only [onMessage, found, retained, if_true]
  rfl

theorem onMessage_live {now : ℚ} {message : Message} {path : String} {value : Option ℚ}
    (found : config.meterTopics.get message.topic = some path) (live : message.retain = false)
    (read : messageValue message.payload = .ok value) :
    (onMessage config now message broker).2 =
      { broker.note (.received message now) with meter := broker.meter.set path (value, now) } := by
  simp only [onMessage, found, live, read, Bool.false_eq_true, if_false]
  rfl

theorem onMessage_unread {now : ℚ} {message : Message} {path : String} {e : PyError}
    (found : config.meterTopics.get message.topic = some path) (live : message.retain = false)
    (raised : messageValue message.payload = .error e) :
    (onMessage config now message broker).2 = broker.note (.received message now) := by
  simp only [onMessage, found, live, raised, Bool.false_eq_true, if_false]
  rfl

/-- **A live message** replaces the value of its path. -/
theorem Cached.message (cached : Cached config broker) (message : Message) (now : ℚ)
    (readable : message.retain = false → (config.meterTopics.get message.topic).isSome →
      isReadable message.payload = true) :
    Cached config (onMessage config now message broker).2 := by
  rcases found : config.meterTopics.get message.topic with _ | path
  · rw [onMessage_foreign found]
    refine cached.unheard rfl fun path member => lastLive_received fun both => ?_
    rw [both.1, meterTopics_path config member] at found
    cases found
  · obtain ⟨member, topic⟩ := meterTopics_get found
    rcases live : message.retain with _ | _
    · obtain ⟨value, read⟩ := messageValue_of_readable (readable live (by rw [found]; rfl))
      rw [onMessage_live found live read]
      refine ⟨Dict.nodup_set cached.keys path _, fun entry inside => ?_, fun entry inside => ?_⟩
      · rcases Dict.mem_set cached.keys inside with rfl | ⟨before, -⟩
        · exact member
        · exact cached.paths entry before
      · rcases Dict.mem_set cached.keys inside with rfl | ⟨before, differs⟩
        · refine ⟨message.payload, ?_, read⟩
          show (if _ then _ else _) = _
          rw [if_pos ⟨topic, live⟩]
        · obtain ⟨payload, last, value⟩ := cached.live entry before
          refine ⟨payload, ?_, value⟩
          rw [← last]
          refine lastLive_received fun both => differs ?_
          rw [topic] at both
          exact ((String.append_right_inj _).mp both.1).symm
    · rw [onMessage_retained found live]
      refine cached.unheard rfl fun path _ => lastLive_received fun both => ?_
      rw [live] at both
      exact Bool.noConfusion both.2

/-- What the session publishes is not the meter's. -/
theorem lastLive_published (path : String) (sent : List Publication) (earlier : List Event) :
    lastLive config path (sent.map .published ++ earlier) = lastLive config path earlier := by
  induction sent with
  | nil => rfl
  | cons publication rest ih => exact ih

/-- The connection and the cache are as before, and no message was heard. -/
structure Spares (config : Config) (before after : Broker) : Prop where
  connected : after.connected = before.connected
  meter : after.meter = before.meter
  last : ∀ path, lastLive config path after.trace = lastLive config path before.trace

theorem Spares.refl (broker : Broker) : Spares config broker broker := ⟨rfl, rfl, fun _ => rfl⟩

theorem Spares.trans {first second third : Broker} (one : Spares config first second)
    (two : Spares config second third) : Spares config first third :=
  ⟨two.connected.trans one.connected, two.meter.trans one.meter,
    fun path => (two.last path).trans (one.last path)⟩

theorem spares_quietly (quietly : Quietly broker after) : Spares config broker after := by
  obtain ⟨sent, trace, -⟩ := quietly.trace
  refine ⟨quietly.connected, quietly.meter, fun path => ?_⟩
  rw [trace, lastLive_published]

theorem spares_availability (codes : Codes) (status : String) (broker : Broker) :
    Spares config broker (publishAvailability config codes status broker) := by
  unfold publishAvailability
  split
  · exact .refl broker
  · show Spares config broker (if _ then _ else _)
    split <;> exact ⟨rfl, rfl, fun _ => rfl⟩

theorem spares_sendState (codes : Codes) (offered : Offer) (broker : Broker) :
    Spares config broker (sendState codes offered broker) := by
  show Spares config broker (if _ then _ else _)
  split <;> exact ⟨rfl, rfl, fun _ => rfl⟩

/-- **A tick** leaves the connection and the cache alone. -/
theorem spares_tick (config : Config) (now : ℚ) (codes : Codes) (snapshot : Handed)
    (broker : Broker) : Spares config broker (tick config now codes snapshot broker).2 := by
  have heard : Spares config broker (noted config snapshot broker) := ⟨rfl, rfl, fun _ => rfl⟩
  have ready : Spares config broker (prepared config now codes snapshot broker) :=
    heard.trans (spares_quietly (quietly_refreshMeter config now codes _))
  rw [tick_final]
  unfold tickedTo
  split
  · split
    · refine ready.trans ?_
      rcases offer config snapshot with _ | offered
      · exact spares_availability _ _ _
      · show Spares config _ (if _ then _ else _)
        split
        · exact spares_availability _ _ _
        · split
          · exact (spares_sendState _ _ _).trans (spares_availability _ _ _)
          · exact .refl _
    · exact ready
  · exact heard

/-- A reading is a cached value, and fresh. -/
theorem readings_fresh {now : ℚ} {path : String} {number : ℚ}
    (shown : meterAt (broker.readings config now) path = some number) :
    ∃ instant, (path, some number, instant) ∈ broker.meter ∧ 0 ≤ now - instant ∧
      now - instant < config.meterTtl := by
  have found : (broker.readings config now).get path = some (some number) := by
    unfold meterAt at shown
    rcases value : (broker.readings config now).get path with _ | reading
    · rw [value] at shown
      cases shown
    · rw [value] at shown
      exact congrArg some shown
  have member := Dict.mem_of_get found
  unfold Broker.readings at member
  split at member
  · obtain ⟨⟨key, value, instant⟩, inside, same⟩ := List.mem_map.mp member
    obtain ⟨rfl, rfl⟩ := Prod.mk.inj same
    obtain ⟨cached, fresh⟩ := List.mem_filter.mp inside
    rw [Bool.and_eq_true, decide_eq_true_eq, decide_eq_true_eq] at fresh
    exact ⟨instant, cached, fresh⟩
  · cases member

end Cache

/-! ### One run -/

section Shown

variable [PyText] {config : Config} {station : Station}

theorem cached_connect (cached : Cached config station.broker) (reasonCode : ℤ) :
    Cached config (onConnect reasonCode station.broker) := by
  unfold onConnect
  split
  · exact cached
  · exact ⟨List.nodup_nil, List.forall_mem_nil _, List.forall_mem_nil _⟩

theorem cached_signalled (cached : Cached config station.broker) {signal : Signal}
    (readable : signal.Readable config) :
    Cached config (station.signalled config signal).broker := by
  cases signal with
  | elapse time => exact cached
  | connect reasonCode => exact cached_connect cached reasonCode
  | disconnect => exact ⟨List.nodup_nil, List.forall_mem_nil _, List.forall_mem_nil _⟩
  | message message => exact cached.message message station.clock readable

theorem cached_signals (cached : Cached config station.broker) {signals : List Signal}
    (readable : ∀ signal ∈ signals, signal.Readable config) :
    Cached config (signals.foldl (Station.signalled config) station).broker := by
  induction signals generalizing station with
  | nil => exact cached
  | cons signal rest ih =>
    rw [List.forall_mem_cons] at readable
    exact ih (cached_signalled cached readable.1) readable.2

/-- Callbacks and time write nothing. -/
theorem updates_signals (station : Station) (signals : List Signal) :
    (signals.foldl (Station.signalled config) station).updates = station.updates := by
  induction signals generalizing station with
  | nil => rfl
  | cons signal rest ih =>
    rw [List.foldl_cons, ih]
    cases signal <;> rfl

/-- **What an update shows** was cached, so it is the last live message. -/
theorem shown_project (cached : Cached config station.broker)
    (metered : config.meterInstance.isSome) {snapshot : Handed} {now : ℚ} :
    Update.Shown config ⟨now, station.broker.trace, chargerWrites snapshot
      (station.broker.readings config now) config.meterInstance.isSome⟩ := by
  intro path source value listed written shown
  rw [metered] at written
  have same := electrical_write listed written
  split at same
  · rcases reading : meterAt (station.broker.readings config now) source with _ | number
    · rw [reading] at same
      exact absurd same shown
    · rw [reading] at same
      obtain ⟨instant, member, fresh⟩ := readings_fresh reading
      obtain ⟨payload, last, value⟩ := cached.live _ member
      exact ⟨number, payload, instant, same, last, value, fresh⟩
  · exact absurd same shown

theorem dark_project {snapshot : Handed} {meter : Dict (Option ℚ)} {now : ℚ} {heard : List Event}
    (metered : config.meterInstance.isSome) :
    Update.Dark ⟨now, heard, chargerWrites snapshot meter config.meterInstance.isSome⟩ := by
  intro connected path source value listed written
  rw [metered] at connected written
  have usable := connected_write connected
  have same := electrical_write listed written
  by_cases lit : meterUsable meter = true
  · rw [if_pos lit] at usable
    cases usable
  · rwa [if_neg lit] at same

/-- An update of the outputs adds what `project` adds, or nothing. -/
theorem outputs_cases (config : Config) (timeout : ℚ) (latest : Handed) (lastOk : Option ℚ)
    (codes : Codes) (between waiting : List Signal) (station : Station) :
    let snapshot := currentOf latest lastOk station.clock timeout
    let ticked := { station with broker := (tick config station.clock codes snapshot
      station.broker).2 }
    station.outputs config timeout latest lastOk codes between waiting = ticked ∨
      station.outputs config timeout latest lastOk codes between waiting =
        (between.foldl (Station.signalled config) ticked).project config snapshot waiting := by
  unfold Station.outputs
  dsimp only
  split
  · exact Or.inl rfl
  · exact Or.inr rfl

theorem dark_moved (metered : config.meterInstance.isSome) (timeout : ℚ)
    (dark : ∀ update ∈ station.updates, update.Dark) (move : Move) :
    ∀ update ∈ (station.moved config timeout move).updates, update.Dark := by
  cases move with
  | signal signal =>
    have same : (station.signalled config signal).updates = station.updates :=
      updates_signals station [signal]
    show ∀ update ∈ (station.signalled config signal).updates, update.Dark
    rw [same]
    exact dark
  | outputs latest lastOk codes between waiting =>
    show ∀ update ∈ (station.outputs config timeout latest lastOk codes between waiting).updates,
      update.Dark
    obtain same | same := outputs_cases config timeout latest lastOk codes between waiting station
    · rw [same]
      exact dark
    · rw [same]
      refine List.forall_mem_cons.mpr ⟨dark_project metered, ?_⟩
      rw [updates_signals, updates_signals]
      exact dark

/-- **A move whose messages can be read** keeps the cache and what is shown. -/
theorem shown_moved (metered : config.meterInstance.isSome) (timeout : ℚ)
    (cached : Cached config station.broker)
    (shown : ∀ update ∈ station.updates, update.Shown config) {move : Move}
    (readable : ∀ signal ∈ move.signals, signal.Readable config) :
    Cached config (station.moved config timeout move).broker ∧
      ∀ update ∈ (station.moved config timeout move).updates, update.Shown config := by
  cases move with
  | signal signal =>
    have same : (station.signalled config signal).updates = station.updates :=
      updates_signals station [signal]
    refine ⟨cached_signalled cached (readable signal (List.mem_singleton_self _)), ?_⟩
    show ∀ update ∈ (station.signalled config signal).updates, update.Shown config
    rw [same]
    exact shown
  | outputs latest lastOk codes between waiting =>
    obtain ⟨first, second⟩ := List.forall_mem_append.mp readable
    have ticked : Cached config (tick config station.clock codes
        (currentOf latest lastOk station.clock timeout) station.broker).2 := by
      have spared := spares_tick config station.clock codes
        (currentOf latest lastOk station.clock timeout) station.broker
      exact cached.unheard spared.meter fun path _ => spared.last path
    show Cached config (station.outputs config timeout latest lastOk codes between waiting).broker ∧
      ∀ update ∈ (station.outputs config timeout latest lastOk codes between waiting).updates, _
    obtain same | same := outputs_cases config timeout latest lastOk codes between waiting station
    · rw [same]
      exact ⟨ticked, shown⟩
    · rw [same]
      have heard : Cached config (between.foldl (Station.signalled config) { station with
          broker := (tick config station.clock codes
            (currentOf latest lastOk station.clock timeout) station.broker).2 }).broker :=
        cached_signals ticked first
      have waited := cached_signals heard second
      refine ⟨waited, List.forall_mem_cons.mpr ⟨shown_project waited metered, ?_⟩⟩
      rw [updates_signals, updates_signals]
      exact shown

end Shown

/-! ### Two runs -/

/-- Two stations whose meters agree, and that wrote the same but `/Status`. -/
structure Agree (station station' : Station) : Prop where
  clock : station.clock = station'.clock
  connected : station.broker.connected = station'.broker.connected
  meter : station.broker.meter = station'.broker.meter
  updates : List.Forall₂ SameButStatus station.updates station'.updates

section Pair

variable [PyText] {config : Config} {station station' : Station}

/-- A message does the same to equal caches. -/
theorem agree_message {broker broker' : Broker} (connected : broker.connected = broker'.connected)
    (meter : broker.meter = broker'.meter) (now : ℚ) (message : Message) :
    (onMessage config now message broker).2.connected =
        (onMessage config now message broker').2.connected ∧
      (onMessage config now message broker).2.meter =
        (onMessage config now message broker').2.meter := by
  rcases found : config.meterTopics.get message.topic with _ | path
  · rw [onMessage_foreign found, onMessage_foreign found]
    exact ⟨connected, meter⟩
  · rcases live : message.retain with _ | _
    · rcases read : messageValue message.payload with e | value
      · rw [onMessage_unread found live read, onMessage_unread found live read]
        exact ⟨connected, meter⟩
      · rw [onMessage_live found live read, onMessage_live found live read]
        exact ⟨connected, congrArg (fun meter => Dict.set meter path (value, now)) meter⟩
    · rw [onMessage_retained found live, onMessage_retained found live]
      exact ⟨connected, meter⟩

theorem Agree.signalled (agree : Agree station station') (signal : Signal) :
    Agree (station.signalled config signal) (station'.signalled config signal) := by
  cases signal with
  | elapse time => exact { agree with clock := congrArg (· + (time : ℚ)) agree.clock }
  | connect reasonCode =>
    by_cases refused : reasonCode ≠ 0
    · have same : ∀ broker, onConnect reasonCode broker = broker := fun _ => if_pos refused
      exact ⟨agree.clock, by simpa [Station.signalled, same] using agree.connected,
        by simpa [Station.signalled, same] using agree.meter, agree.updates⟩
    · have fresh : ∀ broker, (onConnect reasonCode broker).connected = true ∧
          (onConnect reasonCode broker).meter = [] := by
        intro broker
        unfold onConnect
        rw [if_neg refused]
        exact ⟨rfl, rfl⟩
      exact ⟨agree.clock, (fresh _).1.trans (fresh _).1.symm, (fresh _).2.trans (fresh _).2.symm,
        agree.updates⟩
  | disconnect => exact ⟨agree.clock, rfl, rfl, agree.updates⟩
  | message message =>
    have same : ∀ now, station.clock = now →
        (onMessage config station.clock message station.broker).2.connected =
            (onMessage config now message station'.broker).2.connected ∧
          (onMessage config station.clock message station.broker).2.meter =
            (onMessage config now message station'.broker).2.meter := by
      rintro now rfl
      exact agree_message agree.connected agree.meter station.clock message
    obtain ⟨connected, meter⟩ := same station'.clock agree.clock
    exact ⟨agree.clock, connected, meter, agree.updates⟩

theorem Agree.signals (agree : Agree station station') (signals : List Signal) :
    Agree (signals.foldl (Station.signalled config) station)
      (signals.foldl (Station.signalled config) station') := by
  induction signals generalizing station station' with
  | nil => exact agree
  | cons signal rest ih => exact ih (agree.signalled signal)

/-- **Stations that agree project the same meter**, whatever the snapshots. -/
theorem Agree.project (agree : Agree station station') (metered : config.meterInstance.isSome)
    (snapshot snapshot' : Handed) (waiting : List Signal) :
    Agree (station.project config snapshot waiting)
      (station'.project config snapshot' waiting) := by
  have heard : Agree (waiting.foldl (Station.signalled config) station)
      (waiting.foldl (Station.signalled config) station') := agree.signals waiting
  refine ⟨heard.clock, heard.connected, heard.meter, List.Forall₂.cons ?_ heard.updates⟩
  refine ⟨agree.clock, ?_⟩
  have readings : (waiting.foldl (Station.signalled config) station).broker.readings config
      station.clock = (waiting.foldl (Station.signalled config) station').broker.readings config
      station'.clock := by
    unfold Broker.readings
    rw [heard.connected, heard.meter, agree.clock]
  show List.filter _ (chargerWrites snapshot _ _) = List.filter _ (chargerWrites snapshot' _ _)
  rw [readings, metered]
  exact chargerWrites_same snapshot snapshot' _

/-- A snapshot that is not available offers nothing. -/
theorem currentOf_strict {latest : Handed} {lastOk : Option ℚ} {now timeout : ℚ}
    (strict : ∀ offered ∈ offer config { latest with ok := true }, offered.payload.strict = true) :
    ∀ offered ∈ offer config (currentOf latest lastOk now timeout),
      offered.payload.strict = true := by
  unfold currentOf
  rcases latest.ok && isFresh lastOk now timeout with _ | _
  · intro offered offers
    have silent : offer config { latest with ok := false } = none := by
      unfold offer
      split <;> rfl
    rw [silent] at offers
    cases offers
  · exact strict

theorem outputs_returns {timeout : ℚ} {latest : Handed} {lastOk : Option ℚ} {codes : Codes}
    {between waiting : List Signal}
    (serial : (Move.outputs latest lastOk codes between waiting).Serializes config) :
    station.outputs config timeout latest lastOk codes between waiting =
      (between.foldl (Station.signalled config) { station with broker := (tick config station.clock
        codes (currentOf latest lastOk station.clock timeout) station.broker).2 }).project config
          (currentOf latest lastOk station.clock timeout) waiting := by
  have returns : (tick config station.clock codes (currentOf latest lastOk station.clock timeout)
      station.broker).1 = .ok () := tick_returns (currentOf_strict serial)
  unfold Station.outputs
  simp only [returns]

theorem Agree.moved (agree : Agree station station') (metered : config.meterInstance.isSome)
    (timeout : ℚ) {move move' : Move} (same : SameMeter move move')
    (serial : move.Serializes config) (serial' : move'.Serializes config) :
    Agree (station.moved config timeout move) (station'.moved config timeout move') := by
  cases move with
  | signal signal =>
    cases move' with
    | signal signal' =>
      obtain rfl : signal = signal' := same
      exact agree.signalled signal
    | outputs _ _ _ _ _ => exact same.elim
  | outputs latest lastOk codes between waiting =>
    cases move' with
    | signal _ => exact same.elim
    | outputs latest' lastOk' codes' between' waiting' =>
      obtain ⟨rfl, rfl⟩ : between = between' ∧ waiting = waiting' := same
      show Agree (station.outputs config timeout latest lastOk codes between waiting)
        (station'.outputs config timeout latest' lastOk' codes' between waiting)
      rw [outputs_returns serial, outputs_returns serial']
      have spared := spares_tick config station.clock codes
        (currentOf latest lastOk station.clock timeout) station.broker
      have spared' := spares_tick config station'.clock codes'
        (currentOf latest' lastOk' station'.clock timeout) station'.broker
      have ticked : Agree
          { station with broker := (tick config station.clock codes
            (currentOf latest lastOk station.clock timeout) station.broker).2 }
          { station' with broker := (tick config station'.clock codes'
            (currentOf latest' lastOk' station'.clock timeout) station'.broker).2 } :=
        ⟨agree.clock, (spared.connected.trans agree.connected).trans spared'.connected.symm,
          (spared.meter.trans agree.meter).trans spared'.meter.symm, agree.updates⟩
      exact (ticked.signals between).project metered _ _ waiting

end Pair

/-! ### Every run -/

section Every

variable [PyText] {config : Config}

theorem agree_run (metered : config.meterInstance.isSome) (timeout : ℚ) {moves moves' : List Move}
    (same : List.Forall₂ SameMeter moves moves') (serial : ∀ move ∈ moves, move.Serializes config)
    (serial' : ∀ move ∈ moves', move.Serializes config) {station station' : Station}
    (agree : Agree station station') :
    Agree (moves.foldl (Station.moved config timeout) station)
      (moves'.foldl (Station.moved config timeout) station') := by
  induction same generalizing station station' with
  | nil => exact agree
  | cons first _ ih =>
    rw [List.forall_mem_cons] at serial serial'
    exact ih serial.2 serial'.2 (agree.moved metered timeout first serial.1 serial'.1)

theorem dark_run (metered : config.meterInstance.isSome) (timeout : ℚ) (moves : List Move)
    {station : Station} (dark : ∀ update ∈ station.updates, update.Dark) :
    ∀ update ∈ (moves.foldl (Station.moved config timeout) station).updates, update.Dark := by
  induction moves generalizing station with
  | nil => exact dark
  | cons move rest ih => exact ih (dark_moved metered timeout dark move)

theorem shown_run (metered : config.meterInstance.isSome) (timeout : ℚ) {moves : List Move}
    (readable : ∀ move ∈ moves, ∀ signal ∈ move.signals, signal.Readable config)
    {station : Station} (cached : Cached config station.broker)
    (shown : ∀ update ∈ station.updates, update.Shown config) :
    ∀ update ∈ (moves.foldl (Station.moved config timeout) station).updates,
      update.Shown config := by
  induction moves generalizing station with
  | nil => exact shown
  | cons move rest ih =>
    rw [List.forall_mem_cons] at readable
    obtain ⟨cached, shown⟩ := shown_moved metered timeout cached shown readable.1
    exact ih readable.2 cached shown

/-- **Local meter isolation**: two runs over the same callbacks and clock readings write the same
but `/Status`; a charger that is not connected shows no electrical value; and where every live
message can be read, each value shown is that of the last live message of its topic since the
connection, and fresh. -/
theorem local_meter_isolation (config : Config) (metered : config.meterInstance.isSome)
    (timeout : ℚ) (moves moves' : List Move) (same : List.Forall₂ SameMeter moves moves')
    (serial : ∀ move ∈ moves, move.Serializes config)
    (serial' : ∀ move ∈ moves', move.Serializes config) :
    List.Forall₂ SameButStatus (runStation config timeout moves).updates
        (runStation config timeout moves').updates ∧
      (∀ update ∈ (runStation config timeout moves).updates, update.Dark) ∧
      ((∀ move ∈ moves, ∀ signal ∈ move.signals, signal.Readable config) →
        ∀ update ∈ (runStation config timeout moves).updates, update.Shown config) := by
  refine ⟨?_, ?_, fun readable => ?_⟩
  · exact (agree_run metered timeout same serial serial' ⟨rfl, rfl, rfl, .nil⟩).updates
  · exact dark_run metered timeout moves (List.forall_mem_nil _)
  · exact shown_run metered timeout readable
      ⟨List.nodup_nil, List.forall_mem_nil _, List.forall_mem_nil _⟩ (List.forall_mem_nil _)

end Every

/-! ### One message -/

/-- A live message on the topic of `path` is handled without an exception: a finite number or `None`
is stored there with the time, and nothing else of the session changes. -/
def Stores [PyText] (config : Config) (now : ℚ) (path : String) (payload : Except PyError PyValue)
    (broker : Broker) : Prop :=
  let message : Message := ⟨config.meterPrefix ++ path, payload, false⟩
  ∃ (value : Option ℚ) (meter : Dict (Option ℚ × ℚ)),
    onMessage config now message broker =
        (.ok (), { broker.note (.received message now) with meter := meter }) ∧
      meter.get path = some (value, now) ∧
        ∀ other, other ≠ path → meter.get other = broker.meter.get other

/-- What `json.loads` raises is caught, and the value is no integer beyond the doubles. -/
def isStorable : Except PyError PyValue → Bool
  | .error e => e = .type || e = .value
  | payload => isReadable payload

/-- The value of a payload is stored exactly when it can be. -/
theorem messageValue_ok_iff [PyText] {payload : Except PyError PyValue} :
    (∃ value, messageValue payload = .ok value) ↔ isStorable payload = true := by
  cases payload with
  | error e =>
    cases e with
    | type => exact ⟨fun _ => rfl, fun _ => ⟨none, rfl⟩⟩
    | value => exact ⟨fun _ => rfl, fun _ => ⟨none, rfl⟩⟩
    | _ =>
      refine ⟨fun found => ?_, fun storable => ?_⟩
      · obtain ⟨_, same⟩ := found
        cases same
      · cases storable
  | ok content =>
    refine ⟨fun found => ?_, messageValue_of_readable⟩
    obtain ⟨value, read⟩ := found
    by_contra unreadable
    cases content with
    | dict items =>
      unfold isStorable isReadable at unreadable
      cases named : Dict.get items "value" with
      | none => simp [named] at unreadable
      | some value =>
        cases value with
        | int number =>
          cases rounded : PyFloat.ofRat number with
          | finite finite => simp [named, rounded] at unreadable
          | _ =>
            simp [messageValue, readValue, valueItem, named, bind, Except.bind, floatOf,
              rounded] at read
        | _ => simp [named] at unreadable
    | _ => exact unreadable rfl

/-- **The handler of messages is total and framed**, on every payload `loads` is given and in every
state of the session, exactly when the payload can be stored. -/
theorem message_stored_iff [PyText] (loads : List UInt8 → Except PyError PyValue) (config : Config)
    (now : ℚ) {path : String} (metered : path ∈ meterPaths) (payload : List UInt8)
    (broker : Broker) :
    Stores config now path (loads payload) broker ↔ isStorable (loads payload) = true := by
  have found := meterTopics_path config metered
  rw [← messageValue_ok_iff]
  refine ⟨fun stores => ?_, fun valued => ?_⟩
  · obtain ⟨_, _, returned, -, -⟩ := stores
    cases read : messageValue (loads payload) with
    | ok value => exact ⟨value, rfl⟩
    | error e =>
      simp only [onMessage, found, read, Bool.false_eq_true, if_false] at returned
      cases congrArg Prod.fst returned
  · obtain ⟨value, read⟩ := valued
    refine ⟨value, broker.meter.set path (value, now), ?_, Dict.get_set_self _ _ _,
      fun other differs => Dict.get_set_ne _ _ differs⟩
    simp only [onMessage, found, read, Bool.false_eq_true, if_false]
    rfl

/-! ### Single runs -/

/-- A charger with the meter 85. -/
def someMeter : Config := ⟨"portal", false, some 85, 15, true, "car"⟩

/-- A power that can be stored. -/
theorem power_stored : letI := plainText
    Stores someMeter 5 "/Ac/Power" (.ok (.dict [("value", .int 40)])) Broker.new :=
  (@message_stored_iff plainText (fun _ => .ok (.dict [("value", .int 40)])) someMeter 5 "/Ac/Power"
    (by decide) [] Broker.new).mpr (by decide +kernel)

/-- **An integer beyond the doubles** escapes the handler. -/
theorem huge_power_raises : letI := plainText
    ¬ Stores someMeter 5 "/Ac/Power" (.ok (.dict [("value", .int (10 ^ 400))])) Broker.new := by
  let := plainText
  rintro ⟨_, _, returned, -, -⟩
  have raised : (onMessage someMeter 5 ⟨someMeter.meterPrefix ++ "/Ac/Power",
      .ok (.dict [("value", .int (10 ^ 400))]), false⟩ Broker.new).1.toOption.isNone = true := by
    decide +kernel
  rw [returned] at raised
  cases raised

/-- A live message of the power. -/
def powerMessage (value : PyValue) : Move :=
  .signal (.message ⟨"N/portal/acload/85/Ac/Power", .ok (.dict [("value", value)]), false⟩)

/-- An update with this snapshot. -/
def someUpdate (latest : Handed) : Move := .outputs latest (some 0) .accepted [] []

/-- A parked car, and one that charges by its own account. -/
def parked : Handed := ⟨true, none, some 0, [("at_site", .bool true), ("charger_status", .int 1)]⟩
def cloudCharging : Handed :=
  ⟨true, none, some 0, [("charger_status", .int 2), ("power", .float (.finite 9000))]⟩

/-- The meter decides what both cars show, and shows its power. -/
theorem parked_and_charging :
    letI := plainText
    let moves := fun latest =>
      [.signal (.connect 0), powerMessage (.float (.finite 40)), someUpdate latest]
    List.Forall₂ SameButStatus (runStation someMeter 60 (moves parked)).updates
        (runStation someMeter 60 (moves cloudCharging)).updates ∧
      (∀ update ∈ (runStation someMeter 60 (moves parked)).updates, update.Dark) ∧
      ∀ update ∈ (runStation someMeter 60 (moves parked)).updates, update.Shown someMeter := by
  let := plainText
  have isolated := @local_meter_isolation plainText someMeter rfl 60
    [.signal (.connect 0), powerMessage (.float (.finite 40)), someUpdate parked]
    [.signal (.connect 0), powerMessage (.float (.finite 40)), someUpdate cloudCharging]
    (.cons rfl (.cons rfl (.cons ⟨rfl, rfl⟩ .nil)))
    (List.forall_mem_cons.mpr ⟨trivial, List.forall_mem_cons.mpr ⟨trivial,
      List.forall_mem_singleton.mpr nofun⟩⟩)
    (List.forall_mem_cons.mpr ⟨trivial, List.forall_mem_cons.mpr ⟨trivial,
      List.forall_mem_singleton.mpr nofun⟩⟩)
  refine ⟨isolated.1, isolated.2.1, isolated.2.2 ?_⟩
  refine List.forall_mem_cons.mpr ⟨?_, List.forall_mem_cons.mpr ⟨?_, ?_⟩⟩
  · exact List.forall_mem_singleton.mpr trivial
  · exact List.forall_mem_singleton.mpr fun _ _ => rfl
  · exact List.forall_mem_singleton.mpr (List.forall_mem_nil _)

/-- An integer beyond the doubles leaves the value of the message before on show. -/
theorem huge_value_shows_old :
    letI := plainText
    ¬ ∀ update ∈ (runStation someMeter 60 [.signal (.connect 0),
      powerMessage (.float (.finite 40)), powerMessage (.int (10 ^ 400)),
      someUpdate parked]).updates, update.Shown someMeter := by
  let := plainText
  intro shown
  have old : (runStation someMeter 60 [.signal (.connect 0), powerMessage (.float (.finite 40)),
      powerMessage (.int (10 ^ 400)), someUpdate parked]).updates.any (fun update =>
        update.values.any (fun item => item.1 = "/Ac/Power" && item.2.isNumber 40) &&
          (lastLive someMeter "/Ac/Power" update.heard).all fun found =>
            (messageValue found.1).toOption.isNone) = true := by
    decide +kernel
  obtain ⟨update, member, both⟩ := List.any_eq_true.mp old
  obtain ⟨written, unread⟩ := Bool.and_eq_true_iff.mp both
  obtain ⟨item, inside, named⟩ := List.any_eq_true.mp written
  obtain ⟨path, number⟩ := Bool.and_eq_true_iff.mp named
  have pair : ("/Ac/Power", item.2) ∈ update.values := of_decide_eq_true path ▸ inside
  have there : item.2 ≠ .none := by
    intro absent
    rw [absent] at number
    cases number
  obtain ⟨reading, payload, instant, -, last, value, -⟩ :=
    shown update member "/Ac/Power" "/Ac/Power" item.2 List.mem_cons_self pair there
  rw [last] at unread
  simp [value, Except.toOption] at unread

end DbusEv.Mqtt
