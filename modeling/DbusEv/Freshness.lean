/-
**Freshness, end to end.**

Whenever the vehicle service is written connected, or an output is handed a snapshot with `ok`, the
backend in use has acquired a state of charge less than the stale timeout ago (`Published`), for
every interleaving of the main loop, the worker thread and what happens to the clients
(`bridgeDiscipline`).

* `BridgeEvent.acquires` — the acquisitions of a backend, with their stamps.
* `Sound` — a snapshot that carries the stamp of an acquisition, or is not `ok`.
* `Fresh` — the invariant: every stamp the bridge holds is the stamp of an acquisition.
-/

import DbusEv.App
import DbusEv.Lib.Trace
import DbusEv.Providers.Acquisitions

set_option autoImplicit false
set_option linter.unusedSectionVars false

namespace DbusEv

open Thread Routine

/-! ### Acquisitions -/

/-- The stamp of the acquisition an event is, for a backend: the start of the poll, or the time of
the acceptance, of a reading with a state of charge. -/
def BridgeEvent.acquires : DataSource → BridgeEvent → Option ℚ
  | .ha, .fetched startedAt _ => some startedAt
  | .mercedes, .accepted mono snapshot => if snapshot.soc.isSome then some mono else none
  | .evcc, .engine (.acquired startedAt vehicle) =>
    if vehicle.soc.isSome then some startedAt else none
  | _, _ => none

/-- The backend acquired a state of charge with this stamp. -/
def Acquired (source : DataSource) (trace : List BridgeEvent) (stamp : ℚ) : Prop :=
  ∃ event ∈ trace, event.acquires source = some stamp

/-- A live acquisition at time `now`. -/
def Live (config : BridgeConfig) (trace : List BridgeEvent) (now : ℚ) : Prop :=
  ∃ stamp, Acquired config.dataSource trace stamp ∧ 0 ≤ now - stamp ∧
    now - stamp < config.staleTimeout

/-- **What is published as live is live.** -/
def Published (config : BridgeConfig) : BridgeEvent → List BridgeEvent → Prop
  | .connected now value, earlier => value = true → Live config earlier now
  | .handed _ now sample, earlier => sample.ok = true → Live config earlier now
  | _, _ => True

/-- A snapshot that is not `ok`, or whose stamp is that of an acquisition. -/
def Sound (source : DataSource) (trace : List BridgeEvent) (sample : Sample) : Prop :=
  sample.ok = true → ∀ now stamp, sample.stamp now = some stamp → Acquired source trace stamp

theorem Acquired.append {source : DataSource} {trace : List BridgeEvent} {stamp : ℚ}
    (acquired : Acquired source trace stamp) (new : List BridgeEvent) :
    Acquired source (new ++ trace) stamp := by
  obtain ⟨event, found, acquires⟩ := acquired
  exact ⟨event, List.mem_append_right new found, acquires⟩

/-- A snapshot that is not `ok` is sound. -/
theorem sound_of_stale {source : DataSource} {trace : List BridgeEvent} {sample : Sample}
    (stale : sample.ok = false) : Sound source trace sample := by
  intro ok
  rw [stale] at ok
  cases ok

theorem isFresh_true {stamp : Option ℚ} {now timeout : ℚ}
    (fresh : isFresh stamp now timeout = true) :
    ∃ s, stamp = some s ∧ 0 ≤ now - s ∧ now - s < timeout := by
  rcases stamp with _ | s
  · cases fresh
  · unfold isFresh at fresh
    simp only [Bool.and_eq_true, decide_eq_true_eq] at fresh
    exact ⟨s, rfl, fresh⟩

/-! ### The invariant -/

/-- The stamps the clients hold are the stamps of acquisitions. -/
structure ClientsFresh (config : BridgeConfig) (bridge : Bridge) : Prop where
  mercedes : config.dataSource = .mercedes → ∀ stamp, bridge.mercedes.received = some stamp →
    (bridge.mercedes.snapshot.bind (·.soc)).isSome = true → Acquired .mercedes bridge.trace stamp
  evcc : config.dataSource = .evcc → ∀ stamp, bridge.evcc.received = some stamp →
    Acquired .evcc bridge.trace stamp

/-- **The invariant**: every stamp of the bridge is the stamp of an acquisition, and what was
published as live was live. -/
structure Fresh (config : BridgeConfig) (bridge : Bridge) : Prop
    extends ClientsFresh config bridge where
  last : ∀ stamp, bridge.app.lastOkTime = some stamp →
    Acquired config.dataSource bridge.trace stamp
  deliveries : ∀ worker, bridge.worker = some worker → ∀ sample ∈ worker.deliveries,
    Sound config.dataSource bridge.trace sample
  published : Throughout (Published config) bridge.trace

/-- The trace grows. -/
def Grows (s t : Bridge) : Prop := ∃ new, t.trace = new ++ s.trace

theorem Grows.refl (bridge : Bridge) : Grows bridge bridge := ⟨[], rfl⟩

theorem Grows.trans {s t u : Bridge} (first : Grows s t) (second : Grows t u) : Grows s u := by
  obtain ⟨new, first⟩ := first
  obtain ⟨newer, second⟩ := second
  exact ⟨newer ++ new, by rw [second, first, List.append_assoc]⟩

theorem Grows.acquired {source : DataSource} {s t : Bridge} {stamp : ℚ} (grows : Grows s t)
    (acquired : Acquired source s.trace stamp) : Acquired source t.trace stamp := by
  obtain ⟨new, same⟩ := grows
  rw [same]
  exact acquired.append new

theorem Grows.sound {source : DataSource} {s t : Bridge} {sample : Sample} (grows : Grows s t)
    (sound : Sound source s.trace sample) : Sound source t.trace sample :=
  fun ok now stamp stamped => grows.acquired (sound ok now stamp stamped)

section Invariant

variable {config : BridgeConfig} {s t : Bridge}

/-- The clients are left alone while the trace grows. -/
theorem ClientsFresh.grows (fresh : ClientsFresh config s) (grows : Grows s t)
    (mercedes : t.mercedes = s.mercedes) (evcc : t.evcc = s.evcc) : ClientsFresh config t := by
  refine ⟨fun source stamp => ?_, fun source stamp => ?_⟩
  · rw [mercedes]
    exact fun received soc => grows.acquired (fresh.mercedes source stamp received soc)
  · rw [evcc]
    exact fun received => grows.acquired (fresh.evcc source stamp received)

/-- An event is recorded that publishes nothing stale. -/
theorem Fresh.note (fresh : Fresh config s) {event : BridgeEvent}
    (published : Published config event s.trace) : Fresh config (s.note event) := by
  have grows : Grows s (s.note event) := ⟨[event], rfl⟩
  exact ⟨fresh.toClientsFresh.grows grows rfl rfl, fun stamp last =>
      grows.acquired (fresh.last stamp last), fun worker same sample found =>
      grows.sound (fresh.deliveries worker same sample found), ⟨published, fresh.published⟩⟩

/-- A fresh last time is a live acquisition. -/
theorem Fresh.live (fresh : Fresh config s) {now : ℚ}
    (last : isFresh s.app.lastOkTime now config.staleTimeout = true) :
    Live config s.trace now := by
  obtain ⟨stamp, same, young⟩ := isFresh_true last
  exact ⟨stamp, fresh.last stamp same, young⟩

end Invariant

/-! ### The steps of a thread -/

/-- The law of every thread: the trace only grows, and the invariant holds. -/
def freshLaw (config : BridgeConfig) (role : Role) : Law (Unit × Bridge) where
  rely s t := t.1 = s.1 ∧ Grows s.2 t.2
  may s t := ∀ other, other ≠ role → Grows s.2 t.2
  inv s := Fresh config s.2

section Rules

variable {config : BridgeConfig} {role : Role} {α : Type} {s : Unit × Bridge}

theorem wp_act {f : BridgeAnswer → Bridge → Except PyError α × Bridge}
    {Q : α → Unit × Bridge → Prop} {X : PyError → Unit × Bridge → Prop}
    (next : ∀ answer t, Grows s.2 t → Fresh config t → Fresh config (f answer t).2 ∧
      Grows t (f answer t).2 ∧
      match (f answer t).1 with
      | .ok value => Q value ((), (f answer t).2)
      | .error e => X e ((), (f answer t).2)) :
    wp (freshLaw config role) (act f) Q X s := by
  unfold act
  rw [wp_atomic]
  rintro ⟨_, t⟩ ⟨-, grows⟩ fresh answer
  obtain ⟨kept, more, rest⟩ := next answer t grows fresh
  rw [Exec.wp_once]
  simp only
  rcases result : (f answer t).1 with e | value
  · rw [result] at rest
    exact ⟨kept, fun _ _ => more, rest⟩
  · rw [result] at rest
    exact ⟨kept, fun _ _ => more, rest⟩

theorem wp_alter {f : Bridge → Bridge} {Q : Unit → Unit × Bridge → Prop}
    {X : PyError → Unit × Bridge → Prop} (next : ∀ t, Grows s.2 t → Fresh config t →
      Fresh config (f t) ∧ Grows t (f t) ∧ Q () ((), f t)) :
    wp (freshLaw config role) (alter f) Q X s := by
  unfold alter
  rw [wp_atomic]
  rintro ⟨_, t⟩ ⟨-, grows⟩ fresh answer
  obtain ⟨kept, more, rest⟩ := next t grows fresh
  exact ⟨kept, fun _ _ => more, rest⟩

theorem wp_look {Q : Bridge → Unit × Bridge → Prop} {X : PyError → Unit × Bridge → Prop}
    (next : ∀ t, Grows s.2 t → Fresh config t → Q t ((), t)) :
    wp (freshLaw config role) look Q X s := by
  unfold look
  rw [wp_atomic]
  rintro ⟨_, t⟩ ⟨-, grows⟩ fresh answer
  exact ⟨fresh, fun _ _ => .refl t, next t grows fresh⟩

end Rules

/-! ### The outputs -/

section Outputs

variable [PyText] {config : BridgeConfig} {role : Role} {bridge : Bridge} {s : Unit × Bridge}

/-- `/Connected` is written as it is. -/
theorem Fresh.updateConnected (fresh : Fresh config bridge) :
    Fresh config (updateConnected config bridge) := by
  have noted : Fresh config (bridge.note (.connected bridge.mono
      (isFresh bridge.app.lastOkTime bridge.mono config.staleTimeout))) :=
    fresh.note fun live => fresh.live live
  exact ⟨⟨noted.mercedes, noted.evcc⟩, noted.last, noted.deliveries, noted.published⟩

theorem Fresh.handTo (fresh : Fresh config bridge) (configured : Bool) (output : Output) {now : ℚ}
    {sample : Sample} (live : sample.ok = true → Live config bridge.trace now) :
    Fresh config (handTo configured output now sample bridge) := by
  unfold DbusEv.handTo
  split
  · exact fresh.note live
  · exact fresh

theorem grows_handTo (configured : Bool) (output : Output) (now : ℚ) (sample : Sample)
    (bridge : Bridge) : Grows bridge (handTo configured output now sample bridge) := by
  unfold handTo
  split
  · exact ⟨[_], rfl⟩
  · exact .refl bridge

/-- **The outputs** are handed the current snapshot. -/
theorem Fresh.updateOutputs (fresh : Fresh config bridge) :
    Fresh config (updateOutputs config bridge) ∧ Grows bridge (updateOutputs config bridge) := by
  have live : (bridge.app.current bridge.mono config.staleTimeout).ok = true →
      Live config bridge.trace bridge.mono := by
    intro ok
    unfold App.current at ok
    simp only [Bool.and_eq_true] at ok
    exact fresh.live ok.2
  have first := grows_handTo config.mqtt .mqtt bridge.mono
    (bridge.app.current bridge.mono config.staleTimeout) bridge
  refine ⟨(fresh.handTo config.mqtt .mqtt live).handTo config.charger .charger fun ok => ?_,
    first.trans (grows_handTo _ _ _ _ _)⟩
  obtain ⟨stamp, acquired, young⟩ := live ok
  exact ⟨stamp, first.acquired acquired, young⟩

/-- **A snapshot is taken**: its stamp becomes the last one only if it is fresh. -/
theorem Fresh.take (fresh : Fresh config bridge) {sample : Sample}
    (sound : Sound config.dataSource bridge.trace sample) :
    Fresh config (take config sample bridge) := by
  refine ⟨⟨fresh.mercedes, fresh.evcc⟩, fun stamp last => ?_, fresh.deliveries, fresh.published⟩
  unfold DbusEv.take at last
  simp only at last
  split at last
  · rename_i ok
    unfold nowOk at ok
    simp only [Bool.and_eq_true] at ok
    exact sound ok.1 bridge.mono stamp last
  · split at last
    · exact fresh.last stamp last
    · cases last

/-- `apply_snapshot`. -/
theorem wp_applySnapshot {sample : Sample} (sound : Sound config.dataSource s.2.trace sample) :
    wp (freshLaw config role) (applySnapshot config sample) (fun _ _ => True) (fun _ _ => True)
      s := by
  unfold applySnapshot
  rw [wp_bind]
  refine wp_act fun _ t grows fresh => ⟨fresh.take (grows.sound sound), ⟨[], rfl⟩, ?_⟩
  simp only
  rw [wp_bind]
  refine wp_alter fun u _ fresh => ⟨fresh.updateConnected, ⟨[_], rfl⟩, ?_⟩
  rw [wp_bind]
  refine wp_alter fun v _ fresh => ⟨fresh.updateOutputs.1, fresh.updateOutputs.2, ?_⟩
  refine wp_alter fun x _ fresh => ?_
  unfold publish
  split
  · exact ⟨⟨⟨fresh.mercedes, fresh.evcc⟩, fresh.last, fresh.deliveries, fresh.published⟩,
      ⟨[], rfl⟩, trivial⟩
  · exact ⟨fresh, .refl x, trivial⟩

end Outputs

/-! ### The clients -/

section Clients

variable [PyText] {config : BridgeConfig} {role : Role} {bridge : Bridge} {s : Unit × Bridge}
  {startedAt : ℚ}

/-- A client's poll that started at `startedAt` returned a snapshot that is sound once it carries
that time. -/
def Polls (config : BridgeConfig) (startedAt : ℚ) (sample : Sample) (s : Unit × Bridge) : Prop :=
  Sound config.dataSource s.2.trace (sample.startedAt startedAt)

/-- The Home Assistant client changes nothing but itself. -/
theorem Fresh.setHa (fresh : Fresh config bridge) (ha : HaClient) :
    Fresh config { bridge with ha := ha } :=
  ⟨⟨fresh.mercedes, fresh.evcc⟩, fresh.last, fresh.deliveries, fresh.published⟩

/-- A Home Assistant poll is `ok` only with a state of charge of its own reply. -/
theorem finish_ok {client after : HaClient} {mono : ℚ} {outcome : HaOutcome} {polled : HaPolled}
    (finished : client.finish mono outcome = (.ok polled, after)) (ok : polled.ok = true) :
    polled.fields.soc.isSome = true := by
  unfold HaClient.finish at finished
  rcases outcome with _ | _ | ⟨status, body⟩ | e
  · cases finished
    cases ok
  · cases finished
    cases ok
  · simp only at finished
    split at finished
    · cases finished
      exact ok
    · cases finished
      cases ok
  · cases finished

/-- **`HaClient.poll`.** -/
theorem wp_pollHa (source : config.dataSource = .ha) :
    wp (freshLaw config role) (pollHa startedAt) (Polls config startedAt) (fun _ _ => True) s := by
  have stale : ∀ (sample : Sample) (t : Unit × Bridge), sample.ok = false →
      Polls config startedAt sample t := fun sample t stale => sound_of_stale stale
  unfold pollHa
  rw [wp_bind]
  refine wp_act fun _ t _ fresh => ⟨fresh.setHa _, ⟨[], rfl⟩, ?_⟩
  show wp _ (if (t.ha.begin t.mono).1 = true then _ else _) _ _ _
  rw [wp_ite]
  refine ⟨fun _ => wp_act fun answer u _ fresh => ?_, fun _ => wp_act fun _ u _ fresh =>
    ⟨fresh, .refl u, stale _ _ rfl⟩⟩
  rcases finished : u.ha.finish u.mono answer.ha with ⟨e | polled, after⟩
  · simp only
    exact ⟨fresh.setHa _, ⟨[], rfl⟩, trivial⟩
  · simp only
    rcases ok : polled.ok with _ | _
    · exact ⟨fresh.setHa _, ⟨[], rfl⟩, stale _ _ ok⟩
    · obtain ⟨soc, found⟩ := Option.isSome_iff_exists.mp (finish_ok finished ok)
      rw [found]
      refine ⟨(fresh.setHa after).note trivial, ⟨[_], rfl⟩, fun _ now stamp stamped => ?_⟩
      refine ⟨.fetched startedAt soc, List.mem_cons_self, ?_⟩
      rw [source]
      exact stamped

/-- **`cached_snapshot`** never touches what it reads. -/
theorem wp_readCache (source : config.dataSource = .mercedes) :
    wp (freshLaw config role) readCache (Polls config startedAt) (fun _ _ => True) s := by
  refine wp_act fun _ t _ fresh => ⟨fresh, .refl t, fun ok now stamp stamped => ?_⟩
  have held : (t.mercedes.snapshot.bind (·.soc)).isSome = true := by
    have ok : (!t.stopped && t.mercedes.fresh t.mono &&
      (t.mercedes.snapshot.bind (·.soc)).isSome) = true := ok
    simp only [Bool.and_eq_true] at ok
    exact ok.2
  rw [source]
  exact fresh.mercedes source stamp stamped held

/-- What a step of the evcc client does to the bridge. -/
theorem Fresh.setEvccState (fresh : Fresh config bridge) {part : Evcc.State}
    (acquires : Evcc.Acquires bridge.evccState part) :
    Fresh config (bridge.setEvccState part) ∧ Grows bridge (bridge.setEvccState part) := by
  have grows : Grows bridge (bridge.setEvccState part) := ⟨_, rfl⟩
  obtain ⟨new, trace, moved⟩ := acquires
  have engine : ∀ event ∈ part.2.trace, Published config (.engine event) bridge.trace :=
    fun _ _ => trivial
  have published : ∀ events : List Evcc.Event,
      Throughout (Published config) (events.map .engine ++ bridge.trace) := by
    intro events
    induction events with
    | nil => exact fresh.published
    | cons event rest ih => exact ⟨trivial, ih⟩
  refine ⟨⟨⟨fun source stamp received soc =>
      grows.acquired (fresh.mercedes source stamp received soc), fun source stamp received => ?_⟩,
    fun stamp last => grows.acquired (fresh.last stamp last), fun worker same sample found =>
      grows.sound (fresh.deliveries worker same sample found), published _⟩, grows⟩
  rcases moved with same | ⟨startedAt, vehicle, renewed, soc, found⟩
  · exact grows.acquired (fresh.evcc source stamp (same.symm.trans received))
  · refine ⟨.engine (.acquired startedAt vehicle), ?_, ?_⟩
    · refine List.mem_append_left _ (List.mem_map.mpr ⟨_, ?_, rfl⟩)
      rw [trace]
      exact List.mem_append_left _ found
    · have same : startedAt = stamp := Option.some.inj (renewed.symm.trans received)
      show (if vehicle.soc.isSome then some startedAt else none) = some stamp
      rw [if_pos soc, same]

/-- A program of the evcc client, judged by its steps. -/
theorem wp_onEvcc {α : Type} {program : Evcc.Program α} {Q : α → Evcc.State → Prop}
    {X : PyError → Evcc.State → Prop} {Q' : α → Unit × Bridge → Prop}
    {X' : PyError → Unit × Bridge → Prop}
    (value : ∀ a (t : Unit × Bridge) u, Fresh config (t.2.setEvccState u) → Q a u →
      Q' a ((), t.2.setEvccState u))
    (thrown : ∀ e t, X' e t) (ended : ∀ a, Q a s.2.evccState → Q' a s)
    (holds : wp (Law.alone Evcc.Acquires) program Q X s.2.evccState) :
    wp (freshLaw config role) (onEvcc program) Q' X' s := by
  refine wp_zoom (fun t u fresh moved => ?_) (fun a t u kept => value a t u kept)
    (fun e t u _ _ => thrown e _) ended (fun e _ => thrown e s) holds
  obtain ⟨kept, grows⟩ := Fresh.setEvccState fresh moved
  exact ⟨kept, fun _ _ => grows⟩

/-- **`EvccClient.poll`** returns a snapshot with the stamp its client holds. -/
theorem wp_pollEvcc (source : config.dataSource = .evcc) (fresh : Fresh config s.2) :
    wp (freshLaw config role) (pollEvcc config) (Polls config startedAt) (fun _ _ => True) s := by
  have sound : ∀ (polled : Evcc.Polled) (t : Unit × Bridge), Fresh config t.2 →
      polled.sourceSampleStartedAt = t.2.evcc.received →
      Polls config startedAt (.ofEvcc polled) t := by
    intro polled t fresh same ok now stamp stamped
    rw [source]
    exact fresh.evcc source stamp (same.symm.trans stamped)
  unfold pollEvcc
  rw [wp_bind]
  refine wp_onEvcc (fun polled t u kept held => sound polled _ kept ?_) (fun _ _ => trivial)
    (fun polled held => sound polled s fresh ?_) (Evcc.poll_acquires config.evcc 0 _)
  · rw [held]
    rfl
  · rw [held]
    rfl

theorem wp_pollBackend (fresh : Fresh config s.2) :
    wp (freshLaw config role) (pollBackend config startedAt) (Polls config startedAt)
      (fun _ _ => True) s := by
  unfold pollBackend
  rcases source : config.dataSource
  · exact wp_pollHa source
  · exact wp_readCache source
  · exact wp_pollEvcc source fresh

/-- The end of a poll is recorded, and its snapshot stays sound. -/
theorem wp_recordEnd {ok : Option Bool} {P : Unit × Bridge → Prop}
    {X : PyError → Unit × Bridge → Prop} (kept : ∀ t, Grows s.2 t → P ((), t)) :
    wp (freshLaw config role) (recordEnd ok) (fun _ => P) X s :=
  wp_alter fun _ grows fresh => ⟨fresh.note trivial, ⟨[_], rfl⟩, kept _ (grows.trans ⟨[_], rfl⟩)⟩

/-- **`self.client.poll()`**, for every backend. -/
theorem wp_pollClient :
    wp (freshLaw config role) (pollClient config startedAt) (Polls config startedAt)
      (fun _ _ => True) s := by
  unfold pollClient
  rw [wp_bind]
  refine wp_alter fun _ _ fresh => ⟨fresh.note trivial, ⟨[_], rfl⟩, ?_⟩
  rw [wp_bind, wp_handle]
  refine wp_mono (wp_pollBackend (fresh.note trivial)) (fun sample u sound => ?_) fun e u _ => ?_
  · rw [wp_bind]
    exact wp_recordEnd fun _ grows => grows.sound sound
  · show wp _ (recordEnd none >>= fun _ => Thread.raise e) _ _ _
    rw [wp_bind]
    exact wp_recordEnd fun _ _ => trivial

theorem wp_closeClient :
    wp (freshLaw config role) (closeClient config) (fun _ _ => True) (fun _ _ => True) s := by
  unfold closeClient
  rcases config.dataSource
  · trivial
  · refine wp_alter fun t _ fresh => ⟨?_, ⟨[], rfl⟩, trivial⟩
    exact ⟨⟨fresh.mercedes, fresh.evcc⟩, fresh.last, fresh.deliveries, fresh.published⟩
  · exact wp_onEvcc (fun _ _ _ _ _ => trivial) (fun _ _ => trivial) (fun _ _ => trivial)
      (Evcc.close_acquires 0 _)

end Clients

/-! ### The threads -/

section Threads

variable [PyText] {config : BridgeConfig} {role : Role} {bridge : Bridge} {s : Unit × Bridge}

/-- The worker changes, and its deliveries stay sound. -/
theorem Fresh.setWorker (fresh : Fresh config bridge) {worker : PollWorker}
    (sound : ∀ sample ∈ worker.deliveries, Sound config.dataSource bridge.trace sample) :
    Fresh config (bridge.setWorker worker) ∧ Grows bridge (bridge.setWorker worker) := by
  refine ⟨⟨⟨fresh.mercedes, fresh.evcc⟩, fresh.last, fun other same => ?_, fresh.published⟩,
    ⟨[], rfl⟩⟩
  cases same
  exact sound

/-- A change of the worker that delivers nothing new. -/
theorem Fresh.setWorker_same (fresh : Fresh config bridge) {before worker : PollWorker}
    (living : bridge.worker = some before) (same : worker.deliveries = before.deliveries) :
    Fresh config (bridge.setWorker worker) ∧ Grows bridge (bridge.setWorker worker) :=
  fresh.setWorker fun sample found => fresh.deliveries before living sample (same ▸ found)

theorem Fresh.requestPoll (fresh : Fresh config bridge) :
    Fresh config (requestPoll bridge) ∧ Grows bridge (requestPoll bridge) := by
  unfold DbusEv.requestPoll
  rcases living : bridge.worker with _ | worker
  · exact ⟨fresh, .refl bridge⟩
  · simp only
    split
    · exact ⟨fresh, .refl bridge⟩
    · exact fresh.setWorker_same living rfl

theorem Fresh.stopWorker (fresh : Fresh config bridge) :
    Fresh config (stopWorker bridge) ∧ Grows bridge (stopWorker bridge) := by
  unfold DbusEv.stopWorker
  rcases living : bridge.worker with _ | worker
  · exact ⟨fresh, .refl bridge⟩
  · simp only
    split
    · exact ⟨fresh, .refl bridge⟩
    · exact fresh.setWorker_same living rfl

/-- A sound snapshot is dispatched to the main loop. -/
theorem Fresh.dispatch (fresh : Fresh config bridge) {sample : Sample}
    (sound : Sound config.dataSource bridge.trace sample) :
    Fresh config (dispatch sample bridge) ∧ Grows bridge (dispatch sample bridge) := by
  unfold DbusEv.dispatch
  rcases living : bridge.worker with _ | worker
  · exact ⟨fresh, .refl bridge⟩
  · refine fresh.setWorker fun other found => ?_
    rcases List.mem_append.mp found with found | found
    · exact fresh.deliveries worker living other found
    · rw [List.mem_singleton.mp found]
      exact sound

/-- **The worker's poll**: a failed one is dispatched too, and is not `ok`. -/
theorem wp_workOnce :
    wp (freshLaw config role) (workOnce config) (fun _ _ => True) (fun _ _ => True) s := by
  unfold workOnce
  rw [wp_bind]
  refine wp_look fun t _ fresh => ?_
  have dispatched : ∀ sample (u : Unit × Bridge), Polls config t.mono sample u →
      wp (freshLaw config role) (alter (dispatch (sample.startedAt t.mono))) (fun _ _ => True)
        (fun _ _ => True) u := fun sample u sound => wp_alter fun v grows fresh => by
    obtain ⟨kept, more⟩ := fresh.dispatch (grows.sound sound)
    exact ⟨kept, more, trivial⟩
  rw [wp_bind, wp_handle]
  exact wp_mono wp_pollClient (fun sample u sound => dispatched sample u sound)
    fun _ u _ => dispatched .failed u (sound_of_stale rfl)

theorem wp_quit :
    wp (freshLaw config role) (quit config) (fun _ _ => True) (fun _ _ => True) s := by
  unfold quit
  rw [wp_bind]
  refine wp_mono wp_closeClient (fun _ t _ => wp_alter fun u _ fresh => ?_) fun _ _ _ => trivial
  rcases living : u.worker with _ | worker
  · exact ⟨fresh, .refl u, trivial⟩
  · obtain ⟨kept, more⟩ : Fresh config (u.setWorker { worker with exited := true }) ∧ Grows u _ :=
      fresh.setWorker_same living rfl
    exact ⟨kept, more, trivial⟩

theorem wp_perform (job : Option Job) :
    wp (freshLaw config role) (perform config job) (fun _ _ => True) (fun _ _ => True) s := by
  rcases job with _ | _ | _
  · trivial
  · show wp _ (workUnlessStopping config) _ _ s
    unfold workUnlessStopping
    rw [wp_bind]
    refine wp_look fun v _ _ => ?_
    rw [wp_ite]
    exact ⟨fun _ => trivial, fun _ => wp_workOnce⟩
  · exact wp_quit

/-- **One turn of the worker thread.** -/
theorem wp_work :
    wp (freshLaw config role) (work config) (fun _ _ => True) (fun _ _ => True) s := by
  unfold work
  rw [wp_bind]
  refine wp_act fun _ t _ fresh => ?_
  rcases living : t.worker with _ | worker
  · exact ⟨fresh, .refl t, wp_perform none⟩
  · simp only
    split
    · exact ⟨fresh, .refl t, wp_perform none⟩
    · obtain ⟨kept, more⟩ : Fresh config (t.setWorker { worker with queue := none }) ∧ Grows t _ :=
        fresh.setWorker_same living rfl
      exact ⟨kept, more, wp_perform worker.queue⟩

/-- **A delivery**, however late. -/
theorem wp_deliver :
    wp (freshLaw config role) (deliver config) (fun _ _ => True) (fun _ _ => True) s := by
  unfold deliver takeDelivery
  rw [wp_bind]
  refine wp_act fun _ t _ fresh => ?_
  rcases living : t.worker with _ | worker
  · exact ⟨fresh, .refl t, trivial⟩
  · simp only
    rcases waiting : worker.deliveries with _ | ⟨sample, rest⟩
    · exact ⟨fresh, .refl t, trivial⟩
    · have sound := fresh.deliveries worker living
      rw [waiting] at sound
      obtain ⟨kept, more⟩ : Fresh config (t.setWorker
          { worker with pending := false, deliveries := rest }) ∧ Grows t _ :=
        fresh.setWorker fun other found => sound other (List.mem_cons_of_mem _ found)
      refine ⟨kept, more, ?_⟩
      simp only
      rcases worker.stopping with _ | _
      · exact wp_applySnapshot (sound sample List.mem_cons_self)
      · trivial

/-- **A tick.** -/
theorem wp_tick :
    wp (freshLaw config role) (tick config) (fun _ _ => True) (fun _ _ => True) s := by
  unfold tick
  rw [wp_bind]
  refine wp_look fun t _ fresh => ?_
  rw [wp_ite]
  refine ⟨fun _ => ?_, fun _ => ?_⟩
  · unfold tickWithWorker
    rw [wp_bind]
    refine wp_alter fun u _ fresh => ⟨fresh.updateConnected, ⟨[_], rfl⟩, ?_⟩
    rw [wp_bind]
    refine wp_alter fun v _ fresh => ⟨fresh.updateOutputs.1, fresh.updateOutputs.2, ?_⟩
    exact wp_alter fun x _ fresh => ⟨fresh.requestPoll.1, fresh.requestPoll.2, trivial⟩
  · unfold tickAlone
    rw [wp_bind]
    refine wp_look fun u _ fresh => ?_
    have polled : wp (freshLaw config role) (readSnapshot config u.mono) (Polls config u.mono)
        (fun _ _ => True) ((), u) := by
      unfold readSnapshot
      rw [wp_ite]
      exact ⟨fun source => wp_readCache source, fun _ => wp_pollClient⟩
    rw [wp_bind]
    exact wp_mono polled (fun sample v sound => wp_applySnapshot sound) fun _ _ _ => trivial

theorem wp_shutdown :
    wp (freshLaw config role) (shutdown config) (fun _ _ => True) (fun _ _ => True) s := by
  unfold shutdown
  rw [wp_bind]
  refine wp_look fun t _ _ => ?_
  rw [wp_ite]
  refine ⟨fun _ => wp_alter fun u _ fresh => ?_, fun _ => wp_closeClient⟩
  exact ⟨fresh.stopWorker.1, fresh.stopWorker.2, trivial⟩

/-- **An acceptance** is an acquisition, if the snapshot has a state of charge. -/
theorem Fresh.accepted (fresh : Fresh config bridge) {client : Mercedes.Client}
    {snapshot : Mercedes.Snapshot} (held : client.snapshot = some snapshot)
    (received : client.received = some bridge.mono) :
    Fresh config (Bridge.note { bridge with mercedes := client }
      (.accepted bridge.mono snapshot)) := by
  have grows : Grows bridge (Bridge.note { bridge with mercedes := client }
      (.accepted bridge.mono snapshot)) := ⟨[_], rfl⟩
  refine ⟨⟨fun source stamp now soc => ?_, fun source stamp received =>
      grows.acquired (fresh.evcc source stamp received)⟩,
    fun stamp last => grows.acquired (fresh.last stamp last), fun worker same sample found =>
      grows.sound (fresh.deliveries worker same sample found), ⟨trivial, fresh.published⟩⟩
  have now : client.received = some stamp := now
  have soc : (client.snapshot.bind (·.soc)).isSome = true := soc
  rw [held] at soc
  rw [received] at now
  refine ⟨.accepted bridge.mono snapshot, List.mem_cons_self, ?_⟩
  have soc : snapshot.soc.isSome = true := soc
  show (if snapshot.soc.isSome then some bridge.mono else none) = some stamp
  rw [if_pos soc, now]

/-- **What happens outside**: only an acceptance moves the stamp of the Mercedes client. -/
theorem Fresh.outside (fresh : Fresh config bridge) (event : Outside) :
    Fresh config (outside config event bridge) ∧ Grows bridge (outside config event bridge) := by
  have same : ∀ host : Evcc.Host, Fresh config { bridge with host := host } := fun host =>
    ⟨⟨fresh.mercedes, fresh.evcc⟩, fresh.last, fresh.deliveries, fresh.published⟩
  rcases event with ⟨mono, wall⟩ | ⟨payload, source⟩ | connected | metadata | ⟨file, holder⟩
  · exact ⟨same _, ⟨[], rfl⟩⟩
  · unfold DbusEv.outside
    simp only
    rcases accepted : bridge.mercedes.accept config.vendor bridge.mono payload source with
      e | client
    · exact ⟨fresh, .refl bridge⟩
    · obtain ⟨stored, snapshot, -, -, rfl⟩ := Mercedes.accept_ok accepted
      exact ⟨fresh.accepted rfl rfl, ⟨[_], rfl⟩⟩
  · exact ⟨⟨⟨fresh.mercedes, fresh.evcc⟩, fresh.last, fresh.deliveries, fresh.published⟩, ⟨[], rfl⟩⟩
  · exact ⟨⟨⟨fresh.mercedes, fresh.evcc⟩, fresh.last, fresh.deliveries, fresh.published⟩, ⟨[], rfl⟩⟩
  · exact ⟨same _, ⟨[], rfl⟩⟩

end Threads

/-! ### What acquires nothing -/

/-- Nothing is acquired. -/
def Idles (source : DataSource) (s t : Bridge) : Prop :=
  ∀ stamp, Acquired source t.trace stamp → Acquired source s.trace stamp

/-- A write of `/Connected`, or a snapshot that is handed out. -/
def BridgeEvent.isPublication : BridgeEvent → Bool
  | .connected _ _ => true
  | .handed _ _ _ => true
  | _ => false

/-- A step that records publications only, and neither makes nor drops a worker. -/
structure Publishes (s t : Bridge) : Prop where
  worker : t.worker.isSome = s.worker.isSome
  trace : ∃ new, t.trace = new ++ s.trace ∧ ∀ event ∈ new, event.isPublication = true

section Publishing

variable [PyText] {config : BridgeConfig} {s t u : Bridge}

/-- A step that records nothing. -/
theorem Publishes.quiet (worker : t.worker.isSome = s.worker.isSome) (same : t.trace = s.trace) :
    Publishes s t := ⟨worker, [], same, List.forall_mem_nil _⟩

theorem Publishes.trans (first : Publishes s t) (second : Publishes t u) : Publishes s u := by
  obtain ⟨new, grown, published⟩ := first.trace
  obtain ⟨newer, grown', published'⟩ := second.trace
  refine ⟨second.worker.trans first.worker, newer ++ new, ?_, fun event found => ?_⟩
  · rw [grown', grown, List.append_assoc]
  · exact (List.mem_append.mp found).elim (published' event) (published event)

/-- **A publication** acquires nothing. -/
theorem Publishes.idles (publishes : Publishes s t) (source : DataSource) : Idles source s t := by
  rintro stamp ⟨event, found, acquires⟩
  obtain ⟨new, grown, published⟩ := publishes.trace
  rw [grown] at found
  rcases List.mem_append.mp found with found | found
  · have publication := published event found
    cases event <;> cases publication <;> cases source <;> cases acquires
  · exact ⟨event, found, acquires⟩

theorem publishes_alter {f : Bridge → Bridge} (publishes : ∀ bridge, Publishes bridge (f bridge)) :
    Stepwise (fun s t => Publishes s.2 t.2) (alter f) :=
  stepwise_atomic fun _ s => publishes s.2

theorem publishes_act {α : Type} {f : BridgeAnswer → Bridge → Except PyError α × Bridge}
    (publishes : ∀ answer bridge, Publishes bridge (f answer bridge).2) :
    Stepwise (fun s t => Publishes s.2 t.2) (act f) := by
  refine stepwise_atomic fun answer s => ?_
  rw [Exec.wp_once]
  simp only
  rcases (f answer s.2).1 with e | value <;> exact publishes answer s.2

theorem publishes_updateConnected (bridge : Bridge) :
    Publishes bridge (updateConnected config bridge) :=
  ⟨rfl, [_], rfl, List.forall_mem_singleton.mpr rfl⟩

theorem publishes_handTo (configured : Bool) (output : Output) (now : ℚ) (sample : Sample)
    (bridge : Bridge) : Publishes bridge (handTo configured output now sample bridge) := by
  unfold handTo
  split
  · exact ⟨rfl, [_], rfl, List.forall_mem_singleton.mpr rfl⟩
  · exact .quiet rfl rfl

theorem publishes_updateOutputs (bridge : Bridge) :
    Publishes bridge (updateOutputs config bridge) :=
  (publishes_handTo _ _ _ _ _).trans (publishes_handTo _ _ _ _ _)

theorem publishes_applySnapshot (sample : Sample) :
    Stepwise (fun s t => Publishes s.2 t.2) (applySnapshot config sample) := by
  unfold applySnapshot
  refine stepwise_bind (publishes_act fun _ _ => .quiet rfl rfl) fun _ => ?_
  refine stepwise_bind (publishes_alter publishes_updateConnected) fun _ => ?_
  refine stepwise_bind (publishes_alter publishes_updateOutputs) fun _ => ?_
  refine publishes_alter fun bridge => ?_
  unfold publish
  split <;> exact .quiet rfl rfl

/-- The worker is there before and after. -/
theorem publishes_setWorker {bridge : Bridge} {before worker : PollWorker}
    (living : bridge.worker = some before) : Publishes bridge (bridge.setWorker worker) := by
  refine .quiet ?_ rfl
  rw [living]
  rfl

theorem publishes_requestPoll (bridge : Bridge) : Publishes bridge (requestPoll bridge) := by
  unfold requestPoll
  rcases living : bridge.worker with _ | worker
  · exact .quiet rfl rfl
  · simp only
    split
    · exact .quiet rfl rfl
    · exact publishes_setWorker living

theorem publishes_stopWorker (bridge : Bridge) : Publishes bridge (stopWorker bridge) := by
  unfold stopWorker
  rcases living : bridge.worker with _ | worker
  · exact .quiet rfl rfl
  · simp only
    split
    · exact .quiet rfl rfl
    · exact publishes_setWorker living

theorem publishes_dispatch (sample : Sample) (bridge : Bridge) :
    Publishes bridge (dispatch sample bridge) := by
  unfold dispatch
  rcases living : bridge.worker with _ | worker
  · exact .quiet rfl rfl
  · exact publishes_setWorker living

/-- A delivery publishes only, however late it is. -/
theorem publishes_deliver : Stepwise (fun s t => Publishes s.2 t.2) (deliver config) := by
  unfold deliver takeDelivery
  refine stepwise_bind (publishes_act fun _ bridge => ?_) fun taken => ?_
  · rcases living : bridge.worker with _ | worker
    · exact .quiet rfl rfl
    · simp only
      rcases worker.deliveries with _ | ⟨sample, rest⟩
      · exact .quiet rfl rfl
      · exact publishes_setWorker living
  · rcases taken with _ | sample
    · exact stepwise_pure ()
    · exact publishes_applySnapshot sample

/-- A tick beside a worker publishes only. -/
theorem publishes_tickWithWorker :
    Stepwise (fun s t => Publishes s.2 t.2) (tickWithWorker config) := by
  unfold tickWithWorker
  refine stepwise_bind (publishes_alter publishes_updateConnected) fun _ => ?_
  refine stepwise_bind (publishes_alter publishes_updateOutputs) fun _ => ?_
  exact publishes_alter publishes_requestPoll

/-- A read of the cache records nothing. -/
theorem publishes_readCache : Stepwise (fun s t => Publishes s.2 t.2) readCache :=
  publishes_act fun _ _ => .quiet rfl rfl

/-- What publishes only acquires nothing. -/
theorem idles_of_publishes {α : Type} {x : Routine α} (source : DataSource)
    (publishes : Stepwise (fun s t => Publishes s.2 t.2) x) :
    Stepwise (fun s t => Idles source s.2 t.2) x :=
  stepwise_mono publishes fun _ _ publishes => publishes.idles source

/-- A reconnect, like everything outside but an acceptance, acquires nothing. -/
theorem idles_outside {source : DataSource} {event : Outside}
    (other : ∀ payload from_, event ≠ .accept payload from_) (bridge : Bridge) :
    Idles source bridge (outside config event bridge) := by
  cases event with
  | accept payload from_ => exact absurd rfl (other payload from_)
  | _ => exact (Publishes.quiet rfl rfl).idles source

end Publishing

/-! ### Every run -/

section Runs

variable [PyText]

/-- The discipline of the threads. -/
def bridgeDiscipline (config : BridgeConfig) : Discipline (bridgeService config) where
  rely _ := Grows
  inv := Fresh config
  idle _ _ := True
  rely_refl _ := Grows.refl
  rely_trans := Grows.trans
  idle_stable _ _ := trivial
  launch _ _ := trivial
  call {role state} duty _ := by
    have every : wp (freshLaw config role) ((bridgeService config).program role duty)
        (fun _ _ => True) (fun _ _ => True) state := by
      rcases role with _ | _ <;> rcases duty with _ | _ | _ | _
      · exact wp_tick
      · exact wp_deliver
      · exact wp_shutdown
      · trivial
      · trivial
      · trivial
      · trivial
      · exact wp_work
    exact every
  crash _ fresh := ⟨fresh, fun _ _ => .refl _⟩
  world event fresh := ⟨(fresh.outside event).1, fun _ => (fresh.outside event).2⟩

/-- Nothing is fresh at the start. -/
theorem fresh_start (config : BridgeConfig) (dryRun : Bool) (ha : HaConfig)
    (breaker : CircuitBreaker) (mercedes : Mercedes.Config) (clock : Clock)
    (file : Option (Dict PyValue)) :
    Fresh config (Bridge.start config dryRun ha breaker mercedes clock file) := by
  refine ⟨⟨fun _ stamp received => ?_, fun _ stamp received => ?_⟩, fun stamp last => ?_,
    fun worker living sample found => ?_, trivial⟩
  · cases received
  · cases received
  · cases last
  · unfold Bridge.start at living
    simp only at living
    split at living
    · cases living
    · cases living
      cases found

end Runs

end DbusEv
