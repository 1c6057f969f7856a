/-
**The refresh requests of the local meter** (`dbus_ev/cerbo_mqtt.py`, `_refresh_meter`), in every
run of callbacks and ticks.

* `publishedAt` — what one input of a run publishes.
* `requests_tick` — a tick on a connection publishes the keepalive if it is due, then the reads if
  they are due, and then the vehicle.
* `keepaliveBeats`, `readBeats` — a run, as the two requests meet it; the deadlines of the session
  are what the two paced requests remember (`deadlines_run`).
* `refresh_paced` — the requests are paced, retried and independent of one another, and nothing is
  published without a connection.
-/

import DbusEv.Meter
import DbusEv.Publication
import DbusEv.Lib.Pacing

set_option autoImplicit false
set_option linter.unusedSectionVars false

namespace DbusEv.Mqtt

/-! ### The requests -/

/-- The keepalive of `_refresh_meter`, with its return code. -/
def keepaliveRequest (config : Config) (rc : ℤ) : Publication :=
  ⟨"R/" ++ config.portal ++ "/keepalive", .keepalive keepalivePayload, 0, false, rc⟩

/-- The read of one path, with its return code. -/
def readRequest (config : Config) (path : String) (rc : ℤ) : Publication :=
  ⟨"R/" ++ config.portal ++ "/acload/" ++ config.meterName ++ path, .read "", 0, false, rc⟩

def Publication.isKeepalive (publication : Publication) : Bool :=
  match publication.content with
  | .keepalive _ => true
  | _ => false

def Publication.isRead (publication : Publication) : Bool :=
  match publication.content with
  | .read _ => true
  | _ => false

def Event.publication : Event → Option Publication
  | .published publication => some publication
  | _ => none

/-- The publications of one step, oldest first. -/
def publishedSince (before after : List Event) : List Publication :=
  ((after.take (after.length - before.length)).filterMap Event.publication).reverse

theorem publishedSince_append (new before : List Event) :
    publishedSince before (new ++ before) = (new.filterMap Event.publication).reverse := by
  unfold publishedSince
  rw [List.length_append, Nat.add_sub_cancel, List.take_left]

theorem filterMap_published (sent : List Publication) :
    (sent.map Event.published).filterMap Event.publication = sent := by
  rw [List.filterMap_map]
  exact List.filterMap_some

/-! ### What a tick requests -/

section Requests

variable {config : Config} {codes : Codes} {broker : Broker}

/-- Nothing but the vehicle is published, and the deadlines are left alone. -/
abbrev Aside : Broker → Broker → Prop :=
  Sends (fun broker => (broker.connected, broker.lastKeepalive, broker.lastMeterRefresh))
    fun publication => publication.isKeepalive = false ∧ publication.isRead = false

theorem aside_availability (status : String) :
    Aside broker (publishAvailability config codes status broker) := by
  unfold publishAvailability
  by_cases known : broker.availability = some status
  · rw [if_pos known]
    exact .refl broker
  · rw [if_neg known]
    show Aside broker (if _ then _ else _)
    split
    · exact ⟨rfl, [_], rfl, List.forall_mem_singleton.mpr ⟨rfl, rfl⟩⟩
    · exact ⟨rfl, [_], rfl, List.forall_mem_singleton.mpr ⟨rfl, rfl⟩⟩

theorem aside_sendState (offered : Offer) : Aside broker (sendState codes offered broker) := by
  show Aside broker (if _ then _ else _)
  split
  · exact ⟨rfl, [_], rfl, List.forall_mem_singleton.mpr ⟨rfl, rfl⟩⟩
  · exact ⟨rfl, [_], rfl, List.forall_mem_singleton.mpr ⟨rfl, rfl⟩⟩

theorem aside_offeredTo (offered : Option Offer) :
    Aside broker (offeredTo config codes broker offered) := by
  cases offered with
  | none => exact aside_availability "offline"
  | some offered =>
    show Aside broker (if _ then _ else _)
    split
    · exact aside_availability "online"
    · split
      · exact (aside_sendState offered).trans (aside_availability "online")
      · exact .refl broker

/-- The keepalive a tick publishes. -/
def dueKeepalive (config : Config) (now : ℚ) (codes : Codes) (broker : Broker) :
    List Publication :=
  if isDue broker.lastKeepalive now 30 then [keepaliveRequest config codes.keepalive] else []

theorem dueKeepalive_reverse (now : ℚ) :
    (dueKeepalive config now codes broker).reverse = dueKeepalive config now codes broker := by
  unfold dueKeepalive
  split <;> rfl

/-- The reads a tick publishes. -/
def dueReads (config : Config) (now : ℚ) (codes : Codes) (broker : Broker) : List Publication :=
  if isDue broker.lastMeterRefresh now 10 then
    meterPaths.map fun path => readRequest config path (codes.read path)
  else []

/-- `all_reads_succeeded`. -/
def Codes.accepts (codes : Codes) : Bool := meterPaths.all fun path => codes.read path = 0

theorem keepAlive_eq (now : ℚ) : keepAlive config now codes broker =
    { broker with
      trace := (dueKeepalive config now codes broker).map .published ++ broker.trace
      lastKeepalive :=
        if isDue broker.lastKeepalive now 30 = true ∧ codes.keepalive = 0 then some now
        else broker.lastKeepalive } := by
  unfold keepAlive dueKeepalive
  by_cases due : isDue broker.lastKeepalive now 30 = true
  · rw [if_pos due, if_pos due]
    show (if codes.keepalive = 0 then _ else _ : Broker) = _
    by_cases accepted : codes.keepalive = 0
    · rw [if_pos accepted, if_pos ⟨due, accepted⟩]
      rfl
    · rw [if_neg accepted, if_neg fun both => accepted both.2]
      rfl
  · rw [if_neg due, if_neg due, if_neg fun both => due both.1]
    rfl

/-- The loop publishes the reads one after the other, and changes nothing else. -/
theorem foldl_publish (codes : Codes) (broker : Broker) (paths : List String) (base : String) :
    paths.foldl (fun broker path =>
        broker.publish (base ++ path) (.read "") 0 false (codes.read path)) broker =
      { broker with trace := (paths.map fun path => Event.published
        ⟨base ++ path, .read "", 0, false, codes.read path⟩).reverse ++ broker.trace } := by
  induction paths generalizing broker with
  | nil => rfl
  | cons path rest ih =>
    rw [List.foldl_cons, ih, List.map_cons, List.reverse_cons, List.append_assoc]
    rfl

theorem readMeter_eq (now : ℚ) : readMeter config now codes broker =
    { broker with
      trace := ((dueReads config now codes broker).map .published).reverse ++ broker.trace
      lastMeterRefresh :=
        if isDue broker.lastMeterRefresh now 10 = true ∧ codes.accepts = true then some now
        else broker.lastMeterRefresh } := by
  unfold readMeter dueReads
  by_cases due : isDue broker.lastMeterRefresh now 10 = true
  · have loop := foldl_publish codes broker meterPaths
      ("R/" ++ config.portal ++ "/acload/" ++ config.meterName)
    rw [if_pos due, if_pos due, List.map_map]
    show (if codes.accepts = true then _ else _ : Broker) = _
    rw [loop]
    by_cases accepted : codes.accepts = true
    · rw [if_pos accepted, if_pos ⟨due, accepted⟩]
      rfl
    · rw [if_neg accepted, if_neg fun both => accepted both.2]
      rfl
  · rw [if_neg due, if_neg due, if_neg fun both => due both.1]
    rfl

/-- **What a tick publishes on a connection**: the keepalive if it is due, the reads if they are
due, and then the vehicle. -/
theorem requests_tick (metered : config.meterInstance.isSome = true)
    (connected : broker.connected = true) (now : ℚ) (codes : Codes) (snapshot : Handed) :
    ∃ vehicle : List Publication,
      (∀ publication ∈ vehicle, publication.isKeepalive = false ∧ publication.isRead = false) ∧
      publishedSince broker.trace (tick config now codes snapshot broker).2.trace =
        dueKeepalive config now codes broker ++ (dueReads config now codes broker ++ vehicle) ∧
      (tick config now codes snapshot broker).2.connected = broker.connected ∧
      (tick config now codes snapshot broker).2.lastKeepalive =
        (if isDue broker.lastKeepalive now 30 = true ∧ codes.keepalive = 0 then some now
          else broker.lastKeepalive) ∧
      (tick config now codes snapshot broker).2.lastMeterRefresh =
        if isDue broker.lastMeterRefresh now 10 = true ∧ codes.accepts = true then some now
        else broker.lastMeterRefresh := by
  rw [tick_final]
  have aside : Aside (prepared config now codes snapshot broker)
      (tickedTo config now codes snapshot broker) := by
    unfold tickedTo
    rw [if_pos connected]
    split
    · exact aside_offeredTo _
    · exact .refl _
  have ready : prepared config now codes snapshot broker =
      readMeter config now codes (keepAlive config now codes (noted config snapshot broker)) :=
    if_pos metered
  obtain ⟨sent, trace, vehicle⟩ := aside.trace
  have kept := aside.kept
  simp only [Prod.mk.injEq] at kept
  obtain ⟨connection, keepalive, refresh⟩ := kept
  refine ⟨sent.reverse, fun p member => vehicle p (List.mem_reverse.mp member), ?_, ?_, ?_, ?_⟩
  · have added : sent.map .published ++ (prepared config now codes snapshot broker).trace =
        (sent.map .published ++ (((dueReads config now codes broker).map .published).reverse ++
          ((dueKeepalive config now codes broker).map .published ++
            [.ticked ((offer config snapshot).map Offer.revision)]))) ++ broker.trace := by
      rw [ready, readMeter_eq, keepAlive_eq]
      simp only [List.append_assoc]
      rfl
    rw [trace, added, publishedSince_append, List.filterMap_append, List.filterMap_append,
      List.filterMap_append, List.filterMap_reverse, filterMap_published, filterMap_published,
      filterMap_published, List.reverse_append, List.reverse_append, List.reverse_append,
      List.reverse_reverse, dueKeepalive_reverse, List.append_assoc]
    rfl
  · rw [connection, ready, readMeter_eq, keepAlive_eq]
    rfl
  · rw [keepalive, ready, readMeter_eq, keepAlive_eq]
    rfl
  · rw [refresh, ready, readMeter_eq, keepAlive_eq]
    rfl

end Requests

/-! ### The requests of a run -/

/-- The connection after one more input. -/
def connectedAfter (connected : Bool) : Input → Bool
  | .callback (.connect reasonCode) => if reasonCode = 0 then true else connected
  | .callback .disconnect => false
  | _ => connected

/-- Whether the session is connected after these inputs. -/
def online (inputs : List Input) : Bool := inputs.foldl connectedAfter false

open Pacing (Beat memory)

/-- How a request meets an input: a tick on a connection is a moment for it. -/
def beatOf (accepts : Codes → Bool) (connected : Bool) : Input → Beat ℚ
  | .callback (.connect reasonCode) => if reasonCode = 0 then .restart else .idle
  | .callback _ => .idle
  | .tick now codes _ => if connected then .moment now (accepts codes) else .idle

def beatsFrom (accepts : Codes → Bool) : Bool → List Input → List (Beat ℚ)
  | _, [] => []
  | connected, input :: rest =>
    beatOf accepts connected input :: beatsFrom accepts (connectedAfter connected input) rest

/-- A run, as a request meets it. -/
def beats (accepts : Codes → Bool) (inputs : List Input) : List (Beat ℚ) :=
  beatsFrom accepts false inputs

def keepaliveBeats : List Input → List (Beat ℚ) := beats fun codes => codes.keepalive = 0

def readBeats : List Input → List (Beat ℚ) := beats Codes.accepts

section Beats

variable {accepts : Codes → Bool}

theorem beatsFrom_append (connected : Bool) (inputs more : List Input) :
    beatsFrom accepts connected (inputs ++ more) = beatsFrom accepts connected inputs ++
      beatsFrom accepts (inputs.foldl connectedAfter connected) more := by
  induction inputs generalizing connected with
  | nil => rfl
  | cons input rest ih => exact congrArg (_ :: ·) (ih _)

theorem beats_append (inputs more : List Input) : beats accepts (inputs ++ more) =
    beats accepts inputs ++ beatsFrom accepts (online inputs) more :=
  beatsFrom_append false inputs more

theorem online_append (inputs more : List Input) :
    online (inputs ++ more) = more.foldl connectedAfter (online inputs) :=
  List.foldl_append

/-- A beat of a run is that of one of its inputs. -/
theorem exists_of_beatsFrom {connected : Bool} {inputs : List Input} {beat : Beat ℚ}
    {earlier between : List (Beat ℚ)}
    (shape : beatsFrom accepts connected inputs = earlier ++ beat :: between) :
    ∃ before input behind, inputs = before ++ input :: behind ∧
      beatsFrom accepts connected before = earlier ∧
      beatOf accepts (before.foldl connectedAfter connected) input = beat ∧
      beatsFrom accepts (connectedAfter (before.foldl connectedAfter connected) input) behind =
        between := by
  induction inputs generalizing connected earlier with
  | nil => exact absurd shape.symm (List.append_ne_nil_of_right_ne_nil _ (List.cons_ne_nil _ _))
  | cons input rest ih =>
    cases earlier with
    | nil =>
      obtain ⟨head, tail⟩ := List.cons.inj shape
      exact ⟨[], input, rest, rfl, rfl, head, tail⟩
    | cons first earlier =>
      obtain ⟨head, tail⟩ := List.cons.inj shape
      obtain ⟨before, found, behind, rfl, one, two, three⟩ := ih tail
      refine ⟨input :: before, found, behind, rfl, ?_, two, three⟩
      show beatOf accepts connected input :: _ = _
      rw [head, one]

/-- The times of the ticks. -/
def Input.time : Input → Option ℚ
  | .tick now _ _ => some now
  | .callback _ => none

/-- The ticks are in the order of their times. -/
def Ordered (inputs : List Input) : Prop := (inputs.filterMap Input.time).Pairwise (· ≤ ·)

/-- No broker accepts a connection among these inputs. -/
def SameConnection (inputs : List Input) : Prop := .callback (.connect 0) ∉ inputs

theorem times_beatsFrom (connected : Bool) (inputs : List Input) :
    ((beatsFrom accepts connected inputs).filterMap Beat.time).Sublist
      (inputs.filterMap Input.time) := by
  induction inputs generalizing connected with
  | nil => exact List.Sublist.refl _
  | cons input rest ih =>
    cases input with
    | callback called =>
      have none : (beatOf accepts connected (.callback called)).time = none := by
        cases called with
        | connect reasonCode =>
          show (if _ then _ else _ : Beat ℚ).time = _
          split <;> rfl
        | disconnect => rfl
        | message message now => rfl
      show (List.filterMap Beat.time (_ :: _)).Sublist _
      rw [List.filterMap_cons_none none]
      exact ih _
    | tick now codes snapshot =>
      cases connected with
      | false => exact (ih _).cons now
      | true => exact (ih _).cons_cons now

theorem ordered_beats (accepts : Codes → Bool) {inputs : List Input} (ordered : Ordered inputs) :
    Pacing.Ordered (beats accepts inputs) :=
  List.Pairwise.sublist (times_beatsFrom false inputs) ordered

theorem beatOf_eq_restart_iff {connected : Bool} {input : Input} :
    beatOf accepts connected input = .restart ↔ input = .callback (.connect 0) := by
  cases input with
  | callback called =>
    cases called with
    | connect reasonCode =>
      show (if reasonCode = 0 then Beat.restart else .idle : Beat ℚ) = .restart ↔ _
      by_cases accepted : reasonCode = 0 <;> simp [accepted]
    | disconnect => simp [beatOf]
    | message message now => simp [beatOf]
  | tick now codes snapshot => cases connected <;> simp [beatOf]

theorem restart_mem_iff {connected : Bool} {inputs : List Input} :
    .restart ∈ beatsFrom accepts connected inputs ↔ .callback (.connect 0) ∈ inputs := by
  induction inputs generalizing connected with
  | nil => simp [beatsFrom]
  | cons input rest ih =>
    rw [beatsFrom, List.mem_cons, List.mem_cons, ih, eq_comm, beatOf_eq_restart_iff, eq_comm]

end Beats

section Runs

variable [PyText] {config : Config} {codes : Codes}

/-- What one input of a run publishes, oldest first. -/
def publishedAt (config : Config) (before : List Input) (input : Input) : List Publication :=
  publishedSince (run config before).trace (step config (run config before) input).trace

theorem isDue_eq (last : Option ℚ) (now period : ℚ) :
    isDue last now period = Pacing.isDue period last now := by
  cases last with
  | none => rfl
  | some last => exact decide_eq_decide.mpr Iff.rfl

/-- **One input**: the connection, and the deadlines of the two requests. -/
theorem deadlines_step (metered : config.meterInstance.isSome = true) (broker : Broker)
    (input : Input) :
    (step config broker input).connected = connectedAfter broker.connected input ∧
      (step config broker input).lastKeepalive = Pacing.advance 30 broker.lastKeepalive
        (beatOf (fun codes => codes.keepalive = 0) broker.connected input) ∧
      (step config broker input).lastMeterRefresh = Pacing.advance 10 broker.lastMeterRefresh
        (beatOf Codes.accepts broker.connected input) := by
  cases input with
  | callback called =>
    cases called with
    | connect reasonCode =>
      show (onConnect reasonCode broker).connected = (if _ then _ else _) ∧
        (onConnect reasonCode broker).lastKeepalive = Pacing.advance 30 _ (if _ then _ else _) ∧
        (onConnect reasonCode broker).lastMeterRefresh = Pacing.advance 10 _ (if _ then _ else _)
      unfold onConnect
      by_cases accepted : reasonCode = 0
      · rw [if_neg (not_not.mpr accepted), if_pos accepted, if_pos accepted]
        exact ⟨rfl, rfl, rfl⟩
      · rw [if_pos accepted, if_neg accepted, if_neg accepted]
        exact ⟨rfl, rfl, rfl⟩
    | disconnect => exact ⟨rfl, rfl, rfl⟩
    | message message now =>
      obtain ⟨meter, after⟩ := onMessage_eq config now message broker
      show (onMessage config now message broker).2.connected = _ ∧
        (onMessage config now message broker).2.lastKeepalive = _ ∧
        (onMessage config now message broker).2.lastMeterRefresh = _
      rw [after]
      exact ⟨rfl, rfl, rfl⟩
  | tick now codes snapshot =>
    show (tick config now codes snapshot broker).2.connected = broker.connected ∧
      (tick config now codes snapshot broker).2.lastKeepalive =
        Pacing.advance 30 _ (if broker.connected then _ else _) ∧
      (tick config now codes snapshot broker).2.lastMeterRefresh =
        Pacing.advance 10 _ (if broker.connected then _ else _)
    by_cases connected : broker.connected = true
    · obtain ⟨_, -, -, same, keepalive, refresh⟩ :=
        requests_tick metered connected now codes snapshot
      rw [if_pos connected, if_pos connected, Pacing.advance_moment, Pacing.advance_moment,
        ← isDue_eq, ← isDue_eq, keepalive, refresh]
      refine ⟨same, ?_, rfl⟩
      simp
    · rw [if_neg connected, if_neg connected, tick_final]
      unfold tickedTo
      rw [if_neg connected]
      exact ⟨rfl, rfl, rfl⟩

/-- **The deadlines of the session are what the two requests remember.** -/
theorem deadlines_run (metered : config.meterInstance.isSome = true) (inputs : List Input) :
    (run config inputs).connected = online inputs ∧
      (run config inputs).lastKeepalive = memory 30 (keepaliveBeats inputs) ∧
      (run config inputs).lastMeterRefresh = memory 10 (readBeats inputs) := by
  induction inputs using List.reverseRecOn with
  | nil => exact ⟨rfl, rfl, rfl⟩
  | append_singleton inputs input ih =>
    obtain ⟨connected, keepalive, refresh⟩ := ih
    obtain ⟨nowConnected, nextKeepalive, nextRefresh⟩ :=
      deadlines_step metered (run config inputs) input
    unfold keepaliveBeats at keepalive ⊢
    unfold readBeats at refresh ⊢
    rw [run_append, online_append, beats_append, beats_append]
    refine ⟨?_, ?_, ?_⟩
    · rw [nowConnected, connected]
      rfl
    · rw [nextKeepalive, connected, keepalive]
      exact (Pacing.memory_concat _ _).symm
    · rw [nextRefresh, connected, refresh]
      exact (Pacing.memory_concat _ _).symm

/-! ### What a run publishes -/

theorem publishedAt_callback (before : List Input) (called : Callback) :
    publishedAt config before (.callback called) = [] := by
  have silent : ∃ event : List Event, event.filterMap Event.publication = [] ∧
      (callback config (run config before) called).trace =
        event ++ (run config before).trace := by
    cases called with
    | connect reasonCode =>
      show ∃ event, _ ∧ (onConnect reasonCode (run config before)).trace = _
      unfold onConnect
      split
      · exact ⟨[], rfl, rfl⟩
      · exact ⟨[.connected], rfl, rfl⟩
    | disconnect => exact ⟨[.disconnected], rfl, rfl⟩
    | message message now =>
      obtain ⟨meter, after⟩ := onMessage_eq config now message (run config before)
      exact ⟨[.received message now], rfl, congrArg Broker.trace after⟩
  obtain ⟨event, none, trace⟩ := silent
  show publishedSince _ (callback config (run config before) called).trace = []
  rw [trace, publishedSince_append, none]
  rfl

/-- **Nothing is published without a connection.** -/
theorem publishedAt_offline (metered : config.meterInstance.isSome = true) {before : List Input}
    (offline : online before = false) (input : Input) : publishedAt config before input = [] := by
  cases input with
  | callback called => exact publishedAt_callback before called
  | tick now codes snapshot =>
    have disconnected : ¬ (run config before).connected = true := by
      rw [(deadlines_run metered before).1, offline]
      exact Bool.false_ne_true
    show publishedSince _ (tick config now codes snapshot (run config before)).2.trace = []
    rw [tick_final]
    unfold tickedTo
    rw [if_neg disconnected]
    exact publishedSince_append [.ticked ((offer config snapshot).map Offer.revision)] _

/-- **What a tick on a connection publishes.** -/
theorem publishedAt_tick (metered : config.meterInstance.isSome = true) {before : List Input}
    (connected : online before = true) (now : ℚ) (codes : Codes) (snapshot : Handed) :
    ∃ vehicle : List Publication,
      (∀ publication ∈ vehicle, publication.isKeepalive = false ∧ publication.isRead = false) ∧
      publishedAt config before (.tick now codes snapshot) =
        (if Pacing.isDue 30 (memory 30 (keepaliveBeats before)) now then
            [keepaliveRequest config codes.keepalive] else []) ++
          ((if Pacing.isDue 10 (memory 10 (readBeats before)) now then
              meterPaths.map fun path => readRequest config path (codes.read path) else []) ++
            vehicle) := by
  obtain ⟨live, keepalive, refresh⟩ := deadlines_run metered before
  obtain ⟨vehicle, aside, published, -⟩ :=
    requests_tick metered (live.trans connected) now codes snapshot
  refine ⟨vehicle, aside, ?_⟩
  rw [← keepalive, ← refresh, ← isDue_eq, ← isDue_eq]
  exact published

/-- The requests among what a tick publishes. -/
theorem filter_publishedAt (metered : config.meterInstance.isSome = true) (before : List Input)
    (now : ℚ) (codes : Codes) (snapshot : Handed) {wanted : Publication → Bool}
    (requests : ∀ p : Publication, p.isKeepalive = false → p.isRead = false → wanted p = false) :
    (publishedAt config before (.tick now codes snapshot)).filter wanted =
      (if online before && Pacing.isDue 30 (memory 30 (keepaliveBeats before)) now then
          [keepaliveRequest config codes.keepalive] else []).filter wanted ++
        (if online before && Pacing.isDue 10 (memory 10 (readBeats before)) now then
          meterPaths.map fun path => readRequest config path (codes.read path)
          else []).filter wanted := by
  cases connected : online before with
  | false =>
    rw [publishedAt_offline metered connected]
    rfl
  | true =>
    obtain ⟨vehicle, aside, published⟩ := publishedAt_tick metered connected now codes snapshot
    have none : vehicle.filter wanted = [] := by
      apply List.filter_eq_nil_iff.mpr
      intro p member
      rw [requests p (aside p member).1 (aside p member).2]
      exact Bool.false_ne_true
    rw [published, List.filter_append, List.filter_append, none, List.append_nil]
    rfl

/-- **The keepalives of a tick.** -/
theorem keepalives_tick (metered : config.meterInstance.isSome = true) (before : List Input)
    (now : ℚ) (codes : Codes) (snapshot : Handed) :
    (publishedAt config before (.tick now codes snapshot)).filter Publication.isKeepalive =
      if online before && Pacing.isDue 30 (memory 30 (keepaliveBeats before)) now then
        [keepaliveRequest config codes.keepalive] else [] := by
  rw [filter_publishedAt metered before now codes snapshot fun _ none _ => none]
  split
  · split <;> rfl
  · split <;> rfl

/-- **The reads of a tick.** -/
theorem reads_tick (metered : config.meterInstance.isSome = true) (before : List Input)
    (now : ℚ) (codes : Codes) (snapshot : Handed) :
    (publishedAt config before (.tick now codes snapshot)).filter Publication.isRead =
      if online before && Pacing.isDue 10 (memory 10 (readBeats before)) now then
        meterPaths.map fun path => readRequest config path (codes.read path) else [] := by
  rw [filter_publishedAt metered before now codes snapshot fun _ _ none => none]
  split
  · split <;> rfl
  · split <;> rfl

/-- The keepalive is published where it is made, with its own return code. -/
theorem keepalive_published_iff (metered : config.meterInstance.isSome = true)
    {before : List Input} {now : ℚ} {snapshot : Handed} {rc : ℤ} :
    keepaliveRequest config rc ∈ publishedAt config before (.tick now codes snapshot) ↔
      (online before = true ∧ Pacing.Made 30 (keepaliveBeats before) now) ∧
        codes.keepalive = rc := by
  have among : keepaliveRequest config rc ∈
      publishedAt config before (.tick now codes snapshot) ↔ keepaliveRequest config rc ∈
        (publishedAt config before (.tick now codes snapshot)).filter Publication.isKeepalive :=
    ⟨fun member => List.mem_filter.mpr ⟨member, rfl⟩, fun member => (List.mem_filter.mp member).1⟩
  rw [among, keepalives_tick metered]
  split
  · next made =>
    rw [List.mem_singleton]
    constructor
    · intro same
      exact ⟨Bool.and_eq_true_iff.mp made, (congrArg Publication.rc same).symm⟩
    · rintro ⟨-, rfl⟩
      rfl
  · next none =>
    constructor
    · exact fun member => absurd member List.not_mem_nil
    · rintro ⟨made, -⟩
      exact absurd (Bool.and_eq_true_iff.mpr made) none

/-- A read is published where the batch is made, with its own return code. -/
theorem read_published_iff (metered : config.meterInstance.isSome = true)
    {before : List Input} {now : ℚ} {snapshot : Handed} {path : String} {rc : ℤ}
    (member : path ∈ meterPaths) :
    readRequest config path rc ∈ publishedAt config before (.tick now codes snapshot) ↔
      (online before = true ∧ Pacing.Made 10 (readBeats before) now) ∧ codes.read path = rc := by
  have among : readRequest config path rc ∈
      publishedAt config before (.tick now codes snapshot) ↔ readRequest config path rc ∈
        (publishedAt config before (.tick now codes snapshot)).filter Publication.isRead :=
    ⟨fun member => List.mem_filter.mpr ⟨member, rfl⟩, fun member => (List.mem_filter.mp member).1⟩
  rw [among, reads_tick metered]
  split
  · next made =>
    rw [List.mem_map]
    constructor
    · rintro ⟨other, _, same⟩
      have topics : other = path :=
        (String.append_right_inj _).mp (congrArg Publication.topic same)
      have returned : codes.read other = rc := congrArg Publication.rc same
      exact ⟨Bool.and_eq_true_iff.mp made, topics ▸ returned⟩
    · rintro ⟨-, rfl⟩
      exact ⟨path, member, rfl⟩
  · next none =>
    constructor
    · exact fun member => absurd member List.not_mem_nil
    · rintro ⟨made, -⟩
      exact absurd (Bool.and_eq_true_iff.mpr made) none

end Runs

/-! ### Pacing -/

structure Tick where
  now : ℚ
  codes : Codes
  snapshot : Handed

def Tick.input (tick : Tick) : Input := .tick tick.now tick.codes tick.snapshot

/-- All seventeen reads were published and accepted. -/
def BatchAccepted (config : Config) (published : List Publication) : Prop :=
  ∀ path ∈ meterPaths, readRequest config path 0 ∈ published

/-- No tick, no accepted connection and no disconnection. -/
def Undisturbed (between : List Input) : Prop :=
  ∀ input ∈ between, ∃ called, input = .callback called ∧ called ≠ .connect 0 ∧
    called ≠ .disconnect

/-- Two inputs that differ at most in their snapshots and in the codes that are not `seen`. -/
inductive Alike {β : Type} (seen : Codes → β) : Input → Input → Prop
  | callback (called : Callback) : Alike seen (.callback called) (.callback called)
  | tick (now : ℚ) {codes codes' : Codes} (snapshot snapshot' : Handed)
    (same : seen codes = seen codes') :
    Alike seen (.tick now codes snapshot) (.tick now codes' snapshot')

/-- **The refresh requests are paced and never starve**, in every run. -/
structure Paced [PyText] (config : Config) : Prop where
  /-- Two accepted keepalives of a connection are 30 s apart. -/
  keepalives_apart : ∀ before (first : Tick) between (second : Tick),
    Ordered (before ++ first.input :: (between ++ [second.input])) → SameConnection between →
    keepaliveRequest config 0 ∈ publishedAt config before first.input →
    keepaliveRequest config 0 ∈
      publishedAt config (before ++ first.input :: between) second.input →
    30 ≤ second.now - first.now
  /-- After an accepted batch the connection publishes no read for 10 s. -/
  reads_apart : ∀ before (first : Tick) between (second : Tick),
    Ordered (before ++ first.input :: (between ++ [second.input])) → SameConnection between →
    BatchAccepted config (publishedAt config before first.input) →
    (∃ read ∈ publishedAt config (before ++ first.input :: between) second.input,
      read.isRead = true) →
    10 ≤ second.now - first.now
  /-- A tick whose connection has no accepted batch of less than 10 s publishes all reads. -/
  reads_due : ∀ before (tick : Tick), online before = true →
    (∀ earlier (first : Tick) between, before = earlier ++ first.input :: between →
      SameConnection between → BatchAccepted config (publishedAt config earlier first.input) →
      10 ≤ tick.now - first.now) →
    (publishedAt config before tick.input).filter Publication.isRead =
      meterPaths.map fun path => readRequest config path (tick.codes.read path)
  /-- A keepalive that was not accepted is published again at the next tick. -/
  keepalive_retried : ∀ before (first : Tick) between (second : Tick),
    Ordered (before ++ first.input :: (between ++ [second.input])) → Undisturbed between →
    (∃ rc ≠ 0, keepaliveRequest config rc ∈ publishedAt config before first.input) →
    keepaliveRequest config second.codes.keepalive ∈
      publishedAt config (before ++ first.input :: between) second.input
  /-- What is answered to keepalives causes no read, and prevents none. -/
  reads_regardless : ∀ inputs inputs', List.Forall₂ (Alike Codes.read) inputs inputs' →
    ∀ tick tick' : Tick, Alike Codes.read tick.input tick'.input →
      (publishedAt config inputs tick.input).filter Publication.isRead =
        (publishedAt config inputs' tick'.input).filter Publication.isRead
  /-- A batch with a read that was not accepted is published again at the next tick. -/
  reads_retried : ∀ before (first : Tick) between (second : Tick),
    Ordered (before ++ first.input :: (between ++ [second.input])) → Undisturbed between →
    (∃ path ∈ meterPaths, ∃ rc ≠ 0,
      readRequest config path rc ∈ publishedAt config before first.input) →
    (publishedAt config (before ++ first.input :: between) second.input).filter
        Publication.isRead =
      meterPaths.map fun path => readRequest config path (second.codes.read path)
  /-- What is answered to reads causes no keepalive, and prevents none. -/
  keepalives_regardless : ∀ inputs inputs',
    List.Forall₂ (Alike Codes.keepalive) inputs inputs' →
    ∀ tick tick' : Tick, Alike Codes.keepalive tick.input tick'.input →
      (publishedAt config inputs tick.input).filter Publication.isKeepalive =
        (publishedAt config inputs' tick'.input).filter Publication.isKeepalive
  /-- Without a connection nothing is published. -/
  offline_silent : ∀ before input, online before = false → publishedAt config before input = []

section Pacing

variable {accepts : Codes → Bool}

theorem beats_first {before : List Input} (connected : online before = true) (first : Tick)
    (between : List Input) : beats accepts (before ++ first.input :: between) =
      beats accepts before ++ .moment first.now (accepts first.codes) ::
        beatsFrom accepts true between := by
  rw [beats_append, connected]
  rfl

theorem Ordered.initial {before between : List Input} {first second : Input}
    (ordered : Ordered (before ++ first :: (between ++ [second]))) :
    Ordered (before ++ first :: between) := by
  refine List.Pairwise.sublist (List.Sublist.filterMap _ ?_) ordered
  have shorter := (List.sublist_append_left between [second]).cons_cons first
  exact shorter.append_left before

theorem Ordered.le {before between : List Input} {first second : Tick}
    (ordered : Ordered (before ++ first.input :: (between ++ [second.input]))) :
    first.now ≤ second.now := by
  have times : [first.now, second.now].Sublist
      ((before ++ first.input :: (between ++ [second.input])).filterMap Input.time) := by
    have inputs : [first.input, second.input].Sublist
        (before ++ first.input :: (between ++ [second.input])) :=
      (((List.sublist_append_right between [second.input]).cons_cons first.input)).trans
        (List.sublist_append_right before _)
    exact inputs.filterMap Input.time
  have pair := List.Pairwise.sublist times ordered
  exact (List.pairwise_cons.mp pair).1 _ List.mem_cons_self

theorem beatsFrom_undisturbed (accepts : Codes → Bool) {between : List Input}
    (undisturbed : Undisturbed between) (connected : Bool) :
    (∀ beat ∈ beatsFrom accepts connected between, beat = .idle) ∧
      between.foldl connectedAfter connected = connected := by
  induction between with
  | nil => exact ⟨List.forall_mem_nil _, rfl⟩
  | cons input rest ih =>
    obtain ⟨called, rfl, noConnect, noDisconnect⟩ := undisturbed input List.mem_cons_self
    obtain ⟨idle, same⟩ := ih fun other inside => undisturbed other (List.mem_cons_of_mem _ inside)
    have here : beatOf accepts connected (.callback called) = .idle ∧
        connectedAfter connected (.callback called) = connected := by
      cases called with
      | connect reasonCode =>
        have refused : reasonCode ≠ 0 := fun zero => noConnect (congrArg Callback.connect zero)
        exact ⟨if_neg refused, if_neg refused⟩
      | disconnect => exact absurd rfl noDisconnect
      | message message now => exact ⟨rfl, rfl⟩
    rw [beatsFrom, List.foldl_cons, here.1, here.2]
    exact ⟨List.forall_mem_cons.mpr ⟨rfl, idle⟩, same⟩

theorem beatsFrom_alike {β : Type} {seen : Codes → β}
    (respects : ∀ codes codes', seen codes = seen codes' → accepts codes = accepts codes')
    {inputs inputs' : List Input} (alike : List.Forall₂ (Alike seen) inputs inputs')
    (connected : Bool) : beatsFrom accepts connected inputs = beatsFrom accepts connected inputs' ∧
      inputs.foldl connectedAfter connected = inputs'.foldl connectedAfter connected := by
  induction alike generalizing connected with
  | nil => exact ⟨rfl, rfl⟩
  | cons first rest ih =>
    cases first with
    | callback called =>
      obtain ⟨beats, live⟩ := ih (connectedAfter connected (.callback called))
      exact ⟨congrArg (_ :: ·) beats, live⟩
    | tick now snapshot snapshot' same =>
      obtain ⟨beats, live⟩ := ih connected
      refine ⟨?_, live⟩
      show (if _ then _ else _) :: _ = (if _ then _ else _) :: _
      rw [respects _ _ same]
      exact congrArg (_ :: ·) beats

variable [PyText] {config : Config} {before between : List Input} {first second : Tick}

/-- **A request that was accepted is not made for a period**, on one connection. -/
theorem period_le (ordered : Ordered (before ++ first.input :: (between ++ [second.input])))
    (stays : SameConnection between) (connected : online before = true) {period : ℚ}
    (made : Pacing.Made period (beats accepts before) first.now)
    (accepted : accepts first.codes = true)
    (again : Pacing.Made period (beats accepts (before ++ first.input :: between)) second.now) :
    period ≤ second.now - first.now := by
  have whole := ordered_beats accepts ordered.initial
  rw [beats_first connected, accepted] at whole again
  exact Pacing.period_le whole (fun inside => stays (restart_mem_iff.mp inside)) made again

/-- **A request that was not accepted is made again** at the next tick. -/
theorem made_again (ordered : Ordered (before ++ first.input :: (between ++ [second.input])))
    (undisturbed : Undisturbed between) (connected : online before = true) {period : ℚ}
    (made : Pacing.Made period (beats accepts before) first.now)
    (rejected : accepts first.codes = false) :
    online (before ++ first.input :: between) = true ∧
      Pacing.Made period (beats accepts (before ++ first.input :: between)) second.now := by
  obtain ⟨idle, same⟩ := beatsFrom_undisturbed accepts undisturbed true
  refine ⟨?_, ?_⟩
  · rw [online_append, connected]
    exact same
  · rw [beats_first connected, rejected]
    exact Pacing.made_again made idle ordered.le

/-- **A request is made when all accepted ones of the connection are a period old.** -/
theorem made_of_old {period now : ℚ}
    (old : ∀ earlier (first : Tick) between, before = earlier ++ first.input :: between →
      SameConnection between → online earlier = true →
      Pacing.Made period (beats accepts earlier) first.now → accepts first.codes = true →
      period ≤ now - first.now) :
    Pacing.Made period (beats accepts before) now := by
  apply Pacing.made_of_old
  intro earlier time between shape stays made
  obtain ⟨inputs, input, behind, whole, rfl, beat, rfl⟩ := exists_of_beatsFrom shape
  cases input with
  | callback called =>
    cases called with
    | connect reasonCode =>
      have reset : (if reasonCode = 0 then Beat.restart else .idle : Beat ℚ) =
          .moment time true := beat
      split at reset <;> cases reset
    | disconnect => cases beat
    | message message now => cases beat
  | tick at_ codes snapshot =>
    cases connected : online inputs with
    | false =>
      have none : (if online inputs then Beat.moment at_ (accepts codes) else .idle) =
          .moment time true := beat
      rw [connected] at none
      cases none
    | true =>
      have moment : (if online inputs then Beat.moment at_ (accepts codes) else .idle) =
          .moment time true := beat
      rw [connected, if_pos rfl] at moment
      obtain ⟨rfl, accepted⟩ := Beat.moment.inj moment
      exact old inputs ⟨at_, codes, snapshot⟩ behind whole
        (fun inside => stays (restart_mem_iff.mpr inside)) connected made accepted

theorem batchAccepted_iff (metered : config.meterInstance.isSome = true) :
    BatchAccepted config (publishedAt config before first.input) ↔
      (online before = true ∧ Pacing.Made 10 (readBeats before) first.now) ∧
        first.codes.accepts = true := by
  have one : "/Connected" ∈ meterPaths := List.mem_cons_self
  have all : first.codes.accepts = true ↔ ∀ path ∈ meterPaths, first.codes.read path = 0 := by
    unfold Codes.accepts
    rw [List.all_eq_true]
    exact forall₂_congr fun path _ => decide_eq_true_iff
  rw [all]
  constructor
  · intro accepted
    exact ⟨((read_published_iff metered one).mp (accepted _ one)).1, fun path member =>
      ((read_published_iff metered member).mp (accepted path member)).2⟩
  · rintro ⟨made, accepted⟩ path member
    exact (read_published_iff metered member).mpr ⟨made, accepted path member⟩

theorem reads_of_made (metered : config.meterInstance.isSome = true)
    (connected : online before = true) (made : Pacing.Made 10 (readBeats before) first.now) :
    (publishedAt config before first.input).filter Publication.isRead =
      meterPaths.map fun path => readRequest config path (first.codes.read path) :=
  (reads_tick metered before first.now first.codes first.snapshot).trans
    (if_pos (Bool.and_eq_true_iff.mpr ⟨connected, made⟩))

theorem made_of_reads (metered : config.meterInstance.isSome = true)
    (found : ∃ read ∈ publishedAt config before first.input, read.isRead = true) :
    Pacing.Made 10 (readBeats before) first.now := by
  obtain ⟨read, member, isRead⟩ := found
  have listed := List.mem_filter.mpr ⟨member, isRead⟩
  have reads := reads_tick metered before first.now first.codes first.snapshot
  by_cases due : (online before && Pacing.isDue 10 (memory 10 (readBeats before)) first.now) = true
  · exact (Bool.and_eq_true_iff.mp due).2
  · rw [if_neg due] at reads
    exact absurd (reads ▸ listed : read ∈ []) List.not_mem_nil

end Pacing

/-- **The refresh requests are paced and never starve.** -/
theorem refresh_paced [PyText] (config : Config) (metered : config.meterInstance.isSome = true) :
    Paced config where
  keepalives_apart before first between second ordered stays one two := by
    obtain ⟨⟨connected, made⟩, accepted⟩ := (keepalive_published_iff metered).mp one
    obtain ⟨⟨-, again⟩, -⟩ := (keepalive_published_iff metered).mp two
    exact period_le ordered stays connected made (decide_eq_true accepted) again
  reads_apart before first between second ordered stays one two := by
    obtain ⟨⟨connected, made⟩, accepted⟩ := (batchAccepted_iff metered).mp one
    exact period_le ordered stays connected made accepted (made_of_reads metered two)
  reads_due before tick connected old := by
    apply reads_of_made metered connected
    apply made_of_old
    intro earlier first between shape stays online made accepted
    exact old earlier first between shape stays
      ((batchAccepted_iff metered).mpr ⟨⟨online, made⟩, accepted⟩)
  keepalive_retried before first between second ordered undisturbed rejected := by
    obtain ⟨rc, nonzero, published⟩ := rejected
    obtain ⟨⟨connected, made⟩, returned⟩ := (keepalive_published_iff metered).mp published
    have refused : decide (first.codes.keepalive = 0) = false :=
      decide_eq_false (returned ▸ nonzero)
    exact (keepalive_published_iff metered).mpr
      ⟨made_again ordered undisturbed connected made refused, rfl⟩
  reads_regardless inputs inputs' alike tick tick' same := by
    have accepts : ∀ codes codes' : Codes, codes.read = codes'.read →
        codes.accepts = codes'.accepts := by
      intro codes codes' reads
      unfold Codes.accepts
      rw [reads]
    obtain ⟨beats, live⟩ := beatsFrom_alike accepts alike false
    have deadline : readBeats inputs = readBeats inputs' := beats
    have connection : online inputs = online inputs' := live
    obtain ⟨now, codes, snapshot⟩ := tick
    obtain ⟨now', codes', snapshot'⟩ := tick'
    cases same with
    | tick now snapshot snapshot' reads =>
      show (publishedAt config inputs (.tick now codes snapshot)).filter _ =
        (publishedAt config inputs' (.tick now codes' snapshot')).filter _
      rw [reads_tick metered, reads_tick metered, deadline, connection, reads]
  reads_retried before first between second ordered undisturbed rejected := by
    obtain ⟨path, member, rc, nonzero, published⟩ := rejected
    obtain ⟨⟨connected, made⟩, returned⟩ := (read_published_iff metered member).mp published
    have refused : first.codes.accepts = false := by
      apply Bool.eq_false_iff.mpr
      intro all
      have zero := of_decide_eq_true (List.all_eq_true.mp all path member)
      exact nonzero (returned.symm.trans zero)
    obtain ⟨still, again⟩ := made_again ordered undisturbed connected made refused
    exact reads_of_made metered still again
  keepalives_regardless inputs inputs' alike tick tick' same := by
    have accepts : ∀ codes codes' : Codes, codes.keepalive = codes'.keepalive →
        decide (codes.keepalive = 0) = decide (codes'.keepalive = 0) := by
      intro codes codes' keepalive
      rw [keepalive]
    obtain ⟨beats, live⟩ := beatsFrom_alike accepts alike false
    have deadline : keepaliveBeats inputs = keepaliveBeats inputs' := beats
    have connection : online inputs = online inputs' := live
    obtain ⟨now, codes, snapshot⟩ := tick
    obtain ⟨now', codes', snapshot'⟩ := tick'
    cases same with
    | tick now snapshot snapshot' keepalive =>
      show (publishedAt config inputs (.tick now codes snapshot)).filter _ =
        (publishedAt config inputs' (.tick now codes' snapshot')).filter _
      rw [keepalives_tick metered, keepalives_tick metered, deadline, connection, keepalive]
  offline_silent before input offline := publishedAt_offline metered offline input

/-- The first tick of a connection requests everything. -/
theorem someMeter_paced : letI := plainText
    Paced someMeter ∧
      (publishedAt someMeter [.callback (.connect 0)] (.tick 100 .accepted parked)).length = 18 :=
  ⟨@refresh_paced plainText someMeter rfl, by decide +kernel⟩

end DbusEv.Mqtt
