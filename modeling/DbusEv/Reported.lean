/-
**What the clients report can be shown**, in every run of the bridge.

The fields of a snapshot are typed when a client makes them: a charging state is one of the Venus
enumeration (`known_mapped`, `known_byStatus`), a number of the generic sources is finite. The
clients keep what they hold typed whatever they are asked (`keeping_poll` for the evcc client), the
worker and the main loop pass on what they are given (`Reporting`), so the properties the vehicle
service is told are a proper record in every run (`record_proper`).
-/

import DbusEv.Freshness
import DbusEv.Normalize
import DbusEv.VehicleService

set_option autoImplicit false
set_option linter.unusedSectionVars false

namespace DbusEv

open EvService

/-! ### Fields -/

section Fields

theorem isReading_ofNumber (value : Option ℚ) : IsReading (.ofNumber value) := by
  cases value <;> trivial

theorem isFloat_ofNumber (value : Option ℚ) : IsFloat (.ofNumber value) := by
  cases value <;> trivial

theorem isFloat_ofFloat (value : Option PyFloat) : IsFloat (.ofFloat value) := by
  cases value <;> trivial

theorem isText_ofText (value : Option String) : IsText (.ofText value) := by
  cases value <;> trivial

theorem isFlag_ofBool (value : Option Bool) : IsFlag (.ofBool value) := by
  cases value <;> trivial

/-- A charging state that a client holds. -/
abbrev Known (state : Option ℕ) : Prop := IsState (.ofNat state)

theorem chargingStateMap_known : ∀ item ∈ chargingStateMap, (item.2 : ℤ) ∈ venusStates := by decide

/-- **A word or a number of the provider** is a state of the enumeration. -/
theorem known_mapped [PyText] (state : String) : Known (some (mapChargingState state)) := by
  show ((mapChargingState state : ℕ) : ℤ) ∈ venusStates
  unfold mapChargingState
  simp only
  split
  · decide
  · cases found : chargingStateMap.get (PyText.lower (PyText.strip state)) with
    | none => decide
    | some entry => exact chargingStateMap_known _ (Dict.mem_of_get found)

/-- **A status of an engine** is a state of the enumeration. -/
theorem known_byStatus {status : PyValue} {state : Option ℕ}
    (looked : byStatus 0 0 3 status = .ok state) : Known state := by
  unfold byStatus at looked
  split at looked <;> cases looked
  · exact (by decide : (0 : ℤ) ∈ venusStates)
  · exact (by decide : (0 : ℤ) ∈ venusStates)
  · exact (by decide : (3 : ℤ) ∈ venusStates)
  · trivial

theorem typed_missing : Typed .missing :=
  ⟨trivial, trivial, trivial, trivial, trivial, trivial, trivial, trivial, trivial, trivial,
    trivial⟩

theorem typed_ha {polled : HaPolled} (known : Known polled.fields.chargingState) :
    Typed (Sample.ofHa polled).fields :=
  ⟨isReading_ofNumber _, isReading_ofNumber _, isText_ofText _, isFloat_ofNumber _, known,
    isFloat_ofNumber _, isFloat_ofNumber _, isReading_ofNumber _, isReading_ofNumber _,
    isFlag_ofBool _, isFloat_ofNumber _⟩

theorem typed_mercedes {snapshot : Mercedes.Snapshot} (known : Known snapshot.chargingState) :
    Typed (Sample.mercedesFields snapshot) :=
  ⟨isReading_ofNumber _, isReading_ofNumber _, trivial, isFloat_ofNumber _, known,
    isFloat_ofFloat _, isFloat_ofFloat _, isReading_ofNumber _, isReading_ofNumber _,
    isFlag_ofBool _, isFloat_ofFloat _⟩

theorem typed_vehicle {vehicle : Vehicle} (known : Known vehicle.chargingState) :
    Typed (Sample.vehicleFields vehicle) :=
  ⟨isReading_ofNumber _, isReading_ofNumber _, isText_ofText _, isFloat_ofNumber _, known,
    isFloat_ofNumber _, isFloat_ofNumber _, isReading_ofNumber _, isReading_ofNumber _,
    isFlag_ofBool _, isFloat_ofNumber _⟩

end Fields

/-! ### The Home Assistant client -/

section Ha

variable [PyText]

/-- A reply brings a state of the enumeration. -/
theorem known_readFields (config : HaConfig) (data : Dict PyValue) :
    Known (readFields config data).chargingState := by
  have mapped : ∀ text : Option String, Known (text.map mapChargingState) := by
    intro text
    cases text with
    | none => trivial
    | some word => exact known_mapped word
  exact mapped _

theorem known_received {client : HaClient} {outcome : HaOutcome} {fields : HaFields}
    (received : client.received outcome = some fields) : Known fields.chargingState := by
  unfold HaClient.received at received
  split at received
  · split at received
    · cases received
      exact known_readFields _ _
    · cases received
  · cases received

/-- **A poll** reports, and remembers, a state of the enumeration. -/
theorem known_finish {client after : HaClient} {mono : ℚ} {outcome : HaOutcome}
    {ended : Except PyError HaPolled} (known : Known client.lastKnown.chargingState)
    (finished : client.finish mono outcome = (ended, after)) :
    Known after.lastKnown.chargingState ∧
      ∀ polled, ended = .ok polled → Known polled.fields.chargingState := by
  have kept : ∀ polled : HaPolled, (.ok client.refused : Except PyError HaPolled) = .ok polled →
      Known polled.fields.chargingState := by
    rintro polled ⟨rfl⟩
    exact known
  unfold HaClient.finish at finished
  rcases outcome with _ | _ | ⟨status, body⟩ | e
  · cases finished
    exact ⟨known, kept⟩
  · cases finished
    exact ⟨known, kept⟩
  · simp only at finished
    cases received : client.received (.response status body) with
    | none =>
      rw [received] at finished
      cases finished
      exact ⟨known, kept⟩
    | some fields =>
      rw [received] at finished
      cases finished
      refine ⟨known_received received, ?_⟩
      rintro polled ⟨rfl⟩
      exact known_received received
  · cases finished
    refine ⟨known, fun polled same => ?_⟩
    cases same

end Ha

/-! ### The Mercedes client -/

/-- **The projection of a payload** is in a state of the enumeration. -/
theorem known_project [PyText] {vendor : Mercedes.Vendor} {payload : Mercedes.Payload}
    {capacity : Option ℚ} {home : Mercedes.Home} {snapshot : Mercedes.Snapshot}
    (projected : Mercedes.project vendor payload capacity home = .ok snapshot) :
    Known snapshot.chargingState := by
  unfold Mercedes.project Mercedes.vehicleSnapshot at projected
  split at projected
  · cases projected
  · rename_i viewed
    split at projected
    · cases projected
    · cases projected
      split at viewed
      · cases viewed
        unfold Mercedes.snapshotOf
        simp only
        split
        · trivial
        · exact known_mapped _
      · cases viewed

theorem known_accept [PyText] {vendor : Mercedes.Vendor} {client next : Mercedes.Client} {mono : ℚ}
    {payload : Mercedes.Payload} {source : Mercedes.Source}
    (accepted : client.accept vendor mono payload source = .ok next) :
    ∀ snapshot, next.snapshot = some snapshot → Known snapshot.chargingState := by
  obtain ⟨stored, snapshot, -, projected, rfl⟩ := Mercedes.accept_ok accepted
  intro found same
  cases Option.some.inj same
  exact known_project projected

/-! ### The evcc client -/

namespace Evcc

open Thread

/-- The snapshot of the client, if it has one, is in a state of the enumeration. -/
def Shows (s : State) : Prop := ∀ vehicle, s.1.snapshot = some vehicle → Known vehicle.chargingState

/-- A step keeps the client so. -/
def Keeping (s t : State) : Prop := Shows s → Shows t

theorem Keeping.same {s t : State} (same : t.1.snapshot = s.1.snapshot) : Keeping s t :=
  fun shows vehicle found => shows vehicle (same ▸ found)

section Steps

variable {α : Type}

theorem keeping_look : Stepwise Keeping look := stepwise_atomic fun _ _ => .same rfl

theorem keeping_alter {f : State → State} (keeping : ∀ s, Keeping s (f s)) :
    Stepwise Keeping (alter f) := stepwise_atomic fun _ s => keeping s

theorem keeping_attempt {raises : Answer → Option PyError} {f : State → State}
    (keeping : ∀ s, Keeping s (f s)) : Stepwise Keeping (attempt raises f) := by
  refine stepwise_atomic fun answer s => ?_
  rcases raises answer with _ | e
  · exact keeping s
  · exact .same rfl

theorem keeping_ofExcept (value : Except PyError α) : Stepwise Keeping (ofExcept value) := by
  rcases value with e | value
  · exact stepwise_raise e
  · exact stepwise_pure value

/-- What follows an outcome may use it. -/
theorem keeping_given {β : Type} {value : Except PyError β} {f : β → Program α}
    (next : ∀ b, value = .ok b → Stepwise Keeping (f b)) :
    Stepwise Keeping (ofExcept value >>= f) := by
  rcases value with e | b
  · exact stepwise_raise e
  · exact next b rfl

theorem keeping_save (changes : Dict PyValue) : Stepwise Keeping (save changes) :=
  keeping_attempt fun _ => .same rfl

theorem keeping_saveReading (changes : Dict PyValue) : Stepwise Keeping (saveReading changes) := by
  refine stepwise_atomic fun answer s => ?_
  rcases answer.saves with _ | e <;> exact .same rfl

theorem keeping_acquire (process : ℕ) : Stepwise Keeping (acquire process) := by
  unfold acquire
  refine stepwise_bind (keeping_attempt fun _ => .same rfl) fun _ => stepwise_bind ?_ fun _ =>
    keeping_attempt fun s => ?_
  · refine stepwise_atomic fun _ s => ?_
    rw [Exec.wp_bind, Exec.wp_read]
    rcases held : s.2.holder with _ | other
    · simp only [held]
      exact .same rfl
    · simp only [held]
      exact .same rfl
  · unfold reload
    rcases s.2.file with _ | data <;> exact .same rfl

theorem keeping_start (process : ℕ) : Stepwise Keeping (start process) := by
  unfold start
  refine stepwise_bind keeping_look fun _ => stepwise_ite (stepwise_pure ()) ?_
  exact stepwise_bind (keeping_acquire process) fun _ => keeping_alter fun _ => .same rfl

theorem keeping_stopEngine (guarded : Bool) : Stepwise Keeping (stopEngine guarded) := by
  unfold stopEngine
  refine stepwise_bind keeping_look fun _ => stepwise_ite ?_ (stepwise_pure ())
  refine stepwise_atomic fun answer s => ?_
  rcases answer.closes with _ | e <;> exact .same rfl

theorem keeping_ensureEngine (process : ℕ) (now : ℚ) :
    Stepwise Keeping (ensureEngine process now) := by
  unfold ensureEngine
  refine stepwise_bind keeping_look fun _ => stepwise_ite (stepwise_pure ()) ?_
  refine stepwise_atomic fun answer s => ?_
  rw [Exec.wp_bind, Exec.wp_change]
  rcases answer.builds with _ | e <;> exact .same rfl

theorem keeping_askEngine (process : ℕ) (now : ℚ) : Stepwise Keeping (askEngine process now) := by
  refine stepwise_atomic fun answer s => ?_
  rw [Exec.wp_bind, Exec.wp_change]
  rcases answer.reply with e | reply <;> exact .same rfl

variable [PyText]

theorem keeping_failure (config : Config) (guarded : Bool) (response : Dict PyValue) :
    Stepwise Keeping (failure config guarded response) := by
  unfold failure
  refine stepwise_bind keeping_look fun _ => keeping_given fun _ _ => ?_
  refine keeping_given fun _ _ => stepwise_bind keeping_look fun _ => ?_
  refine stepwise_bind (keeping_save _) fun _ => ?_
  exact stepwise_ite (keeping_stopEngine guarded) (stepwise_pure ())

theorem known_normalize {data : Dict PyValue} {vin : Option String} {capacity : PyValue}
    {site : Site} {vehicle : Vehicle}
    (normalized : normalize data vin capacity site = .ok vehicle) :
    Known vehicle.chargingState :=
  known_byStatus (normalize_eq_ok.mp normalized).chargingState

/-- **A reading** that replaces the snapshot is the projection of a reply. -/
theorem keeping_takeReading (config : Config) (startedAt now : ℚ) (data : Dict PyValue) :
    Stepwise Keeping (takeReading config startedAt now data) := by
  unfold takeReading
  refine keeping_given fun candidate normalized => ?_
  rcases candidate.soc with _ | value
  · exact stepwise_raise _
  · refine stepwise_bind (keeping_alter fun s shows vehicle found => ?_) fun _ => ?_
    · cases Option.some.inj found
      exact known_normalize normalized
    · exact stepwise_bind keeping_look fun _ => keeping_saveReading _

theorem keeping_pollEngine (config : Config) (process : ℕ) (now : ℚ) :
    Stepwise Keeping (pollEngine config process now) := by
  unfold pollEngine reserveLogin
  refine stepwise_bind (keeping_save _) fun _ => ?_
  refine stepwise_bind (stepwise_bind keeping_look fun _ =>
    stepwise_ite (stepwise_pure ()) (keeping_save _)) fun _ => ?_
  refine stepwise_bind keeping_look fun _ => stepwise_handle ?_ fun e recover handled => ?_
  · unfold useEngine
    refine stepwise_bind (keeping_ensureEngine process now) fun _ => ?_
    refine stepwise_bind (keeping_askEngine process now) fun response => ?_
    unfold takeReply
    rcases readingOf response with _ | data
    · exact keeping_failure config true response
    · exact keeping_takeReading config _ now data
  · unfold engineFailed at handled
    split at handled
    · cases handled
      exact stepwise_bind (keeping_stopEngine false) fun _ => keeping_failure config false _
    · cases handled

/-- **A poll** keeps the snapshot so by its steps, and returns the one it holds at its end. -/
theorem keeping_poll (config : Config) (process : ℕ) (s : State) :
    wp (Law.alone Keeping) (poll config process)
      (fun polled t => polled.snapshot = t.1.snapshot) (fun _ _ => True) s := by
  unfold poll
  rw [wp_bind]
  refine wp_mono (keeping_start process s) (fun _ t _ => ?_) fun _ _ _ => trivial
  rw [wp_bind]
  refine wp_mono (keeping_look t) (fun seen u _ => ?_) fun _ _ _ => trivial
  rw [wp_bind]
  refine wp_mono (keeping_ofExcept _ u) (fun admitted v _ => ?_) fun _ _ _ => trivial
  rw [wp_bind]
  have polled : Stepwise Keeping (pollIfAdmitted config process admitted seen.2.wall) :=
    stepwise_ite (keeping_pollEngine config process _) (stepwise_pure ())
  refine wp_mono (polled v) (fun _ w _ => ?_) fun _ _ _ => trivial
  rw [wp_bind]
  intro x _ _ _
  exact ⟨trivial, .same rfl, rfl⟩

theorem keeping_close (process : ℕ) : Stepwise Keeping (close process) :=
  stepwise_bind (keeping_stopEngine false) fun _ => keeping_alter fun _ => .same rfl

end Steps

end Evcc

/-! ### The bridge -/

/-- **What the bridge holds of a vehicle can be shown**: the clients hold typed fields, and what was
passed on is typed. -/
structure Reporting (config : BridgeConfig) (bridge : Bridge) : Prop where
  ha : Known bridge.ha.lastKnown.chargingState
  mercedes : ∀ snapshot, bridge.mercedes.snapshot = some snapshot → Known snapshot.chargingState
  evcc : ∀ vehicle, bridge.evcc.snapshot = some vehicle → Known vehicle.chargingState
  deliveries : ∀ worker, bridge.worker = some worker →
    ∀ sample ∈ worker.deliveries, Typed sample.fields
  latest : Typed bridge.app.latest.fields
  properties : Typed bridge.app.properties

namespace Bridge

open Routine Thread

/-- The law of every thread. -/
def reportingLaw (config : BridgeConfig) : Law (Unit × Bridge) :=
  ⟨fun _ _ => True, fun _ _ => True, fun s => Reporting config s.2⟩

section Rules

variable {config : BridgeConfig} {α : Type} {s : Unit × Bridge}

theorem wp_act {f : BridgeAnswer → Bridge → Except PyError α × Bridge}
    {Q : α → Unit × Bridge → Prop} {X : PyError → Unit × Bridge → Prop}
    (next : ∀ answer t, Reporting config t → Reporting config (f answer t).2 ∧
      match (f answer t).1 with
      | .ok value => Q value ((), (f answer t).2)
      | .error e => X e ((), (f answer t).2)) :
    wp (reportingLaw config) (act f) Q X s := by
  unfold act
  rw [wp_atomic]
  rintro ⟨_, t⟩ - reporting answer
  obtain ⟨kept, rest⟩ := next answer t reporting
  rw [Exec.wp_once]
  simp only
  rcases result : (f answer t).1 with e | value
  · rw [result] at rest
    exact ⟨kept, trivial, rest⟩
  · rw [result] at rest
    exact ⟨kept, trivial, rest⟩

theorem wp_alter {f : Bridge → Bridge} {X : PyError → Unit × Bridge → Prop}
    (next : ∀ t, Reporting config t → Reporting config (f t)) :
    wp (reportingLaw config) (alter f) (fun _ _ => True) X s := by
  unfold alter
  rw [wp_atomic]
  rintro ⟨_, t⟩ - reporting answer
  exact ⟨next t reporting, trivial, trivial⟩

theorem wp_look {Q : Bridge → Unit × Bridge → Prop} {X : PyError → Unit × Bridge → Prop}
    (next : ∀ t, Reporting config t → Q t ((), t)) : wp (reportingLaw config) look Q X s := by
  unfold look
  rw [wp_atomic]
  rintro ⟨_, t⟩ - reporting answer
  exact ⟨reporting, trivial, next t reporting⟩

end Rules

section Clients

variable [PyText] {config : BridgeConfig} {bridge : Bridge} {s : Unit × Bridge}

/-- A poll brings typed fields. -/
def Brings (config : BridgeConfig) (x : Routine Sample) : Prop :=
  ∀ s, Reporting config s.2 →
    wp (reportingLaw config) x (fun sample _ => Typed sample.fields) (fun _ _ => True) s

theorem brings_pollHa (startedAt : ℚ) : Brings config (pollHa startedAt) := by
  intro s _
  unfold pollHa
  rw [wp_bind]
  refine wp_act fun _ t reporting => ⟨?_, ?_⟩
  · have same : (t.ha.begin t.mono).2.lastKnown = t.ha.lastKnown := by
      unfold HaClient.begin
      split <;> rfl
    exact { reporting with ha := (congrArg (Known ·.chargingState) same).mpr reporting.ha }
  show wp _ (if (t.ha.begin t.mono).1 = true then _ else _) _ _ _
  rw [wp_ite]
  refine ⟨fun _ => wp_act fun answer u reporting => ?_, fun _ => wp_act fun _ u reporting =>
    ⟨reporting, typed_ha reporting.ha⟩⟩
  rcases finished : u.ha.finish u.mono answer.ha with ⟨ended, after⟩
  obtain ⟨known, polls⟩ := known_finish reporting.ha finished
  have kept : Reporting config { u with ha := after } := { reporting with ha := known }
  cases ended with
  | error e => exact ⟨kept, trivial⟩
  | ok polled =>
    have typed := typed_ha (polls polled rfl)
    simp only
    split
    · exact ⟨⟨kept.ha, kept.mercedes, kept.evcc, kept.deliveries, kept.latest, kept.properties⟩,
        typed⟩
    · exact ⟨kept, typed⟩

theorem brings_readCache : Brings config readCache := by
  intro s _
  refine wp_act fun _ t reporting => ⟨reporting, ?_⟩
  show Typed ((t.mercedes.snapshot.map Sample.mercedesFields).getD .missing)
  cases held : t.mercedes.snapshot with
  | none => exact typed_missing
  | some snapshot => exact typed_mercedes (reporting.mercedes snapshot held)

/-- What a step of the evcc client does to the bridge. -/
theorem reporting_setEvccState (reporting : Reporting config bridge) {part : Evcc.State}
    (keeping : Evcc.Keeping bridge.evccState part) :
    Reporting config (bridge.setEvccState part) :=
  ⟨reporting.ha, reporting.mercedes, keeping reporting.evcc, reporting.deliveries,
    reporting.latest, reporting.properties⟩

/-- A program of the evcc client, judged by its steps. -/
theorem wp_onEvcc {α : Type} {program : Evcc.Program α} {Q : α → Evcc.State → Prop}
    {Q' : α → Unit × Bridge → Prop} (reporting : Reporting config s.2)
    (value : ∀ a (t : Unit × Bridge) u, Reporting config (t.2.setEvccState u) → Q a u →
      Q' a ((), t.2.setEvccState u))
    (ended : ∀ a, Reporting config s.2 → Q a s.2.evccState → Q' a s)
    (holds : wp (Law.alone Evcc.Keeping) program Q (fun _ _ => True) s.2.evccState) :
    wp (reportingLaw config) (onEvcc program) Q' (fun _ _ => True) s := by
  refine wp_zoom (fun t u reporting keeping => ⟨reporting_setEvccState reporting keeping, trivial⟩)
    (fun a t u kept => value a t u kept) (fun _ _ _ _ _ => trivial)
    (fun a held => ended a reporting held) (fun _ _ => trivial) holds

theorem brings_pollEvcc : Brings config (pollEvcc config) := by
  intro s reporting
  have typed : ∀ (polled : Evcc.Polled) (t : Bridge), Reporting config t →
      polled.snapshot = t.evcc.snapshot → Typed (Sample.ofEvcc polled).fields := by
    intro polled t reporting same
    show Typed ((polled.snapshot.map Sample.vehicleFields).getD .missing)
    rw [same]
    cases held : t.evcc.snapshot with
    | none => exact typed_missing
    | some vehicle => exact typed_vehicle (reporting.evcc vehicle held)
  unfold pollEvcc
  rw [wp_bind]
  exact wp_onEvcc reporting (fun polled t u kept same => typed polled _ kept same)
    (fun polled kept same => typed polled _ kept same) (Evcc.keeping_poll config.evcc 0 _)

theorem brings_pollBackend (startedAt : ℚ) : Brings config (pollBackend config startedAt) := by
  unfold pollBackend
  rcases config.dataSource
  · exact brings_pollHa startedAt
  · exact brings_readCache
  · exact brings_pollEvcc

theorem reporting_note (reporting : Reporting config bridge) (event : BridgeEvent) :
    Reporting config (bridge.note event) :=
  ⟨reporting.ha, reporting.mercedes, reporting.evcc, reporting.deliveries, reporting.latest,
    reporting.properties⟩

theorem reporting_recordEnd {ok : Option Bool} {X : PyError → Unit × Bridge → Prop} :
    wp (reportingLaw config) (recordEnd ok) (fun _ _ => True) X s :=
  wp_alter fun _ reporting => reporting_note reporting _

/-- **`self.client.poll()`**, for every backend. -/
theorem brings_pollClient (startedAt : ℚ) : Brings config (pollClient config startedAt) := by
  intro s _
  unfold pollClient
  rw [wp_bind]
  refine wp_atomic _ |>.mpr fun t _ reporting _ => ⟨reporting_note reporting _, trivial, ?_⟩
  rw [wp_bind, wp_handle]
  refine wp_mono (brings_pollBackend startedAt _ (reporting_note reporting _))
    (fun sample u typed => ?_) fun e u _ => ?_
  · rw [wp_bind]
    exact wp_value reporting_recordEnd fun _ _ _ => typed
  · show wp _ (recordEnd none >>= fun _ => Thread.raise e) _ _ _
    rw [wp_bind]
    exact wp_value reporting_recordEnd fun _ _ _ => trivial

theorem reporting_closeClient (reporting : Reporting config s.2) :
    wp (reportingLaw config) (closeClient config) (fun _ _ => True) (fun _ _ => True) s := by
  unfold closeClient
  rcases config.dataSource
  · trivial
  · exact wp_alter fun t kept =>
      ⟨kept.ha, kept.mercedes, kept.evcc, kept.deliveries, kept.latest, kept.properties⟩
  · exact wp_onEvcc reporting (fun _ _ _ _ _ => trivial) (fun _ _ _ => trivial)
      (Evcc.keeping_close 0 _)

end Clients

/-! ### The threads -/

section Threads

variable [PyText] {config : BridgeConfig} {bridge : Bridge} {s : Unit × Bridge}

theorem reporting_updateConnected (reporting : Reporting config bridge) :
    Reporting config (updateConnected config bridge) :=
  ⟨reporting.ha, reporting.mercedes, reporting.evcc, reporting.deliveries, reporting.latest,
    reporting.properties⟩

theorem reporting_updateOutputs (reporting : Reporting config bridge) :
    Reporting config (updateOutputs config bridge) := by
  have handed : ∀ {bridge : Bridge}, Reporting config bridge → ∀ configured output now sample,
      Reporting config (handTo configured output now sample bridge) := by
    intro bridge reporting configured output now sample
    unfold handTo
    split
    · exact reporting_note reporting _
    · exact reporting
  exact handed (handed reporting _ _ _ _) _ _ _ _

/-- **`apply_snapshot`** tells the service typed fields. -/
theorem reporting_applySnapshot (capacity : IsFloat config.capacity) {sample : Sample}
    (typed : Typed sample.fields) :
    wp (reportingLaw config) (applySnapshot config sample) (fun _ _ => True) (fun _ _ => True)
      s := by
  unfold applySnapshot
  rw [wp_bind]
  refine wp_act fun _ t kept => ⟨?_, ?_⟩
  · exact ⟨kept.ha, kept.mercedes, kept.evcc, kept.deliveries, typed, kept.properties⟩
  simp only
  rw [wp_bind]
  refine wp_value (wp_alter fun u kept => reporting_updateConnected kept) fun _ _ _ => ?_
  rw [wp_bind]
  refine wp_value (wp_alter fun u kept => reporting_updateOutputs kept) fun _ _ _ => ?_
  refine wp_alter fun u kept => ?_
  unfold publish
  split
  · exact ⟨kept.ha, kept.mercedes, kept.evcc, kept.deliveries, kept.latest,
      typed_serviceFields capacity typed⟩
  · exact kept

theorem reporting_setWorker (reporting : Reporting config bridge) {worker : PollWorker}
    (typed : ∀ sample ∈ worker.deliveries, Typed sample.fields) :
    Reporting config (bridge.setWorker worker) := by
  refine ⟨reporting.ha, reporting.mercedes, reporting.evcc, fun other same => ?_,
    reporting.latest, reporting.properties⟩
  cases same
  exact typed

theorem reporting_dispatch (reporting : Reporting config bridge) {sample : Sample}
    (typed : Typed sample.fields) : Reporting config (dispatch sample bridge) := by
  unfold dispatch
  rcases living : bridge.worker with _ | worker
  · exact reporting
  · refine reporting_setWorker reporting fun other found => ?_
    rcases List.mem_append.mp found with found | found
    · exact reporting.deliveries worker living other found
    · rw [List.mem_singleton.mp found]
      exact typed

theorem reporting_requestPoll (reporting : Reporting config bridge) :
    Reporting config (requestPoll bridge) := by
  unfold requestPoll
  rcases living : bridge.worker with _ | worker
  · exact reporting
  · simp only
    split
    · exact reporting
    · exact reporting_setWorker reporting (reporting.deliveries worker living)

theorem reporting_stopWorker (reporting : Reporting config bridge) :
    Reporting config (stopWorker bridge) := by
  unfold stopWorker
  rcases living : bridge.worker with _ | worker
  · exact reporting
  · simp only
    split
    · exact reporting
    · exact reporting_setWorker reporting (reporting.deliveries worker living)

/-- **The worker's poll**: a failed one dispatches no fields at all. -/
theorem reporting_workOnce :
    wp (reportingLaw config) (workOnce config) (fun _ _ => True) (fun _ _ => True) s := by
  unfold workOnce
  rw [wp_bind]
  refine wp_look fun t reporting => ?_
  have dispatched : ∀ (sample : Sample) (u : Unit × Bridge), Typed sample.fields →
      wp (reportingLaw config) (alter (dispatch (sample.startedAt t.mono))) (fun _ _ => True)
        (fun _ _ => True) u := fun sample u typed => wp_alter fun v kept =>
    reporting_dispatch kept typed
  rw [wp_bind, wp_handle]
  exact wp_mono (brings_pollClient t.mono ((), t) reporting)
    (fun sample u typed => dispatched sample u typed) fun _ u _ =>
      dispatched .failed u typed_missing

theorem reporting_quit (reporting : Reporting config s.2) :
    wp (reportingLaw config) (quit config) (fun _ _ => True) (fun _ _ => True) s := by
  unfold quit
  rw [wp_bind]
  refine wp_mono (reporting_closeClient reporting) (fun _ t _ => wp_alter fun u kept => ?_)
    fun _ _ _ => trivial
  rcases living : u.worker with _ | worker
  · exact kept
  · exact reporting_setWorker kept (kept.deliveries worker living)

theorem reporting_work :
    wp (reportingLaw config) (work config) (fun _ _ => True) (fun _ _ => True) s := by
  have performs : ∀ (job : Option Job) (t : Unit × Bridge), Reporting config t.2 →
      wp (reportingLaw config) (perform config job) (fun _ _ => True) (fun _ _ => True) t := by
    intro job t reporting
    rcases job with _ | _ | _
    · trivial
    · show wp _ (workUnlessStopping config) _ _ t
      unfold workUnlessStopping
      rw [wp_bind]
      refine wp_look fun v _ => ?_
      rw [wp_ite]
      exact ⟨fun _ => trivial, fun _ => reporting_workOnce⟩
    · exact reporting_quit reporting
  unfold work
  rw [wp_bind]
  refine wp_act fun _ t reporting => ?_
  rcases living : t.worker with _ | worker
  · exact ⟨reporting, performs none _ reporting⟩
  · simp only
    split
    · exact ⟨reporting, performs none _ reporting⟩
    · have kept : Reporting config (t.setWorker { worker with queue := none }) :=
        reporting_setWorker reporting (reporting.deliveries worker living)
      exact ⟨kept, performs worker.queue _ kept⟩

theorem reporting_deliver (capacity : IsFloat config.capacity) :
    wp (reportingLaw config) (deliver config) (fun _ _ => True) (fun _ _ => True) s := by
  unfold deliver takeDelivery
  rw [wp_bind]
  refine wp_act fun _ t reporting => ?_
  rcases living : t.worker with _ | worker
  · exact ⟨reporting, trivial⟩
  · simp only
    rcases waiting : worker.deliveries with _ | ⟨sample, rest⟩
    · exact ⟨reporting, trivial⟩
    · have typed := reporting.deliveries worker living
      rw [waiting] at typed
      refine ⟨reporting_setWorker reporting fun other found =>
        typed other (List.mem_cons_of_mem _ found), ?_⟩
      simp only
      rcases worker.stopping with _ | _
      · exact reporting_applySnapshot capacity (typed sample List.mem_cons_self)
      · trivial

theorem reporting_tick (capacity : IsFloat config.capacity) :
    wp (reportingLaw config) (tick config) (fun _ _ => True) (fun _ _ => True) s := by
  unfold tick
  rw [wp_bind]
  refine wp_look fun t _ => ?_
  rw [wp_ite]
  refine ⟨fun _ => ?_, fun _ => ?_⟩
  · unfold tickWithWorker
    rw [wp_bind]
    refine wp_value (wp_alter fun u kept => reporting_updateConnected kept) fun _ _ _ => ?_
    rw [wp_bind]
    refine wp_value (wp_alter fun u kept => reporting_updateOutputs kept) fun _ _ _ => ?_
    exact wp_alter fun u kept => reporting_requestPoll kept
  · unfold tickAlone
    rw [wp_bind]
    refine wp_look fun u reporting => ?_
    have brings : Brings config (readSnapshot config u.mono) := by
      unfold readSnapshot
      split
      · exact brings_readCache
      · exact brings_pollClient u.mono
    rw [wp_bind]
    exact wp_mono (brings ((), u) reporting)
      (fun sample v typed => reporting_applySnapshot capacity typed) fun _ _ _ => trivial

theorem reporting_shutdown :
    wp (reportingLaw config) (shutdown config) (fun _ _ => True) (fun _ _ => True) s := by
  unfold shutdown
  rw [wp_bind]
  refine wp_look fun t reporting => ?_
  rw [wp_ite]
  exact ⟨fun _ => wp_alter fun u kept => reporting_stopWorker kept,
    fun _ => reporting_closeClient reporting⟩

/-- What happens outside. -/
theorem reporting_outside (reporting : Reporting config bridge) (event : Outside) :
    Reporting config (outside config event bridge) := by
  rcases event with ⟨mono, wall⟩ | ⟨payload, source⟩ | connected | metadata | ⟨file, holder⟩
  · exact ⟨reporting.ha, reporting.mercedes, reporting.evcc, reporting.deliveries,
      reporting.latest, reporting.properties⟩
  · unfold outside
    simp only
    rcases accepted : bridge.mercedes.accept config.vendor bridge.mono payload source with
      e | client
    · exact reporting
    · have kept : Reporting config { bridge with mercedes := client } :=
        ⟨reporting.ha, known_accept accepted, reporting.evcc, reporting.deliveries,
          reporting.latest, reporting.properties⟩
      simp only
      split
      · exact reporting_note kept _
      · exact kept
  · exact ⟨reporting.ha, reporting.mercedes, reporting.evcc, reporting.deliveries,
      reporting.latest, reporting.properties⟩
  · exact ⟨reporting.ha, reporting.mercedes, reporting.evcc, reporting.deliveries,
      reporting.latest, reporting.properties⟩
  · exact ⟨reporting.ha, reporting.mercedes, reporting.evcc, reporting.deliveries,
      reporting.latest, reporting.properties⟩

end Threads

/-! ### Every run -/

section Runs

variable [PyText] {config : BridgeConfig}

theorem reporting_start (dryRun : Bool) (ha : HaConfig) (breaker : CircuitBreaker)
    (mercedes : Mercedes.Config) (clock : Clock) (file : Option (Dict PyValue)) :
    Reporting config (Bridge.start config dryRun ha breaker mercedes clock file) := by
  refine ⟨trivial, fun snapshot held => ?_, fun vehicle held => ?_,
    fun worker living sample found => ?_, typed_missing, typed_missing⟩
  · cases held
  · cases held
  unfold Bridge.start at living
  simp only at living
  split at living
  · cases living
  · cases living
    cases found

/-- **In every run of the bridge the vehicle is shown properly.** Whatever the backends answer, and
however the main loop, the worker and the streams interleave, the properties that the vehicle
service is told can be written as a whole, and the record is proper. -/
theorem record_proper (capacity : IsFloat config.capacity) (vedbus dryRun : Bool) (ha : HaConfig)
    (breaker : CircuitBreaker) (mercedes : Mercedes.Config) (clock : Clock)
    (file : Option (Dict PyValue)) (moves : List (Move Role Duty Outside BridgeAnswer)) :
    let bridge := ((bridgeService config).run
      (Bridge.start config dryRun ha breaker mercedes clock file) moves).shared
    ∃ written, record vedbus bridge.app.properties = .ok written ∧ Proper written := by
  have programs : ∀ role duty, Thread.Keeps (fun s => True ∧ Reporting config s.2)
      ((bridgeService config).program role duty) := by
    have law : (⟨fun _ _ => True, fun _ _ => True, fun s => True ∧ Reporting config s.2⟩ :
        Law (Unit × Bridge)) = reportingLaw config := by
      unfold reportingLaw
      simp only [true_and]
    intro role duty s
    rw [law]
    rcases role with _ | _ <;> rcases duty with _ | _ | _ | _
    · exact reporting_tick capacity
    · exact reporting_deliver capacity
    · exact reporting_shutdown
    · trivial
    · trivial
    · trivial
    · trivial
    · exact reporting_work
  have sound := Service.always (bridgeService config) (A := fun _ => True)
    (B := Reporting config) (fun _ _ _ => trivial) programs (fun _ _ kept => kept)
    (fun event _ kept => reporting_outside kept event)
    (reporting_start dryRun ha breaker mercedes clock file) moves
  exact record_of_typed vedbus sound.shared.properties

end Runs

/-- A bridge that asks an engine. -/
def someBridge : BridgeConfig where
  dataSource := .evcc
  sensorStaleTimeout := 120
  mercedesStaleTimeout := 900
  evccStaleTimeout := 7500
  capacityLiteral := none
  capacity := .float (.finite 66)
  mqtt := true
  charger := false
  evcc := ⟨"hyundai", none, 3600, 7500, .none, ⟨.none, .none, .none, fun _ _ _ _ => 0⟩⟩
  vendor := Mercedes.blindVendor

/-- The engine replies with a state of charge, and a status. -/
def someAnswer : BridgeAnswer where
  ha := .timeout
  evcc := .plain [("schema", .int 1), ("ok", .bool true),
    ("data", .dict [("soc", .int 50), ("status", .str "C")])]

/-- The main loop requests a poll, the worker polls, and the main loop takes what it delivers. -/
def someMoves : List (Move Role Duty Outside BridgeAnswer) :=
  let rounds := (List.range 40).flatMap fun _ =>
    [.step .main someAnswer, .step .worker someAnswer]
  [.launch .main, .launch .worker, .call .main .tick] ++ rounds ++
    [.call .worker .work] ++ rounds ++ [.call .main .deliver] ++ rounds

theorem someMoves_proper : letI := plainText
    let bridge := ((bridgeService someBridge).run
      (Bridge.start someBridge false ⟨false, "", "", ""⟩ ⟨3, 60, 0, none⟩ Mercedes.someConfig
        ⟨100, 100⟩ none) someMoves).shared
    ∃ written, record true bridge.app.properties = .ok written ∧ Proper written :=
  @record_proper plainText someBridge trivial true false ⟨false, "", "", ""⟩ ⟨3, 60, 0, none⟩
    Mercedes.someConfig ⟨100, 100⟩ none someMoves

end Bridge

end DbusEv
