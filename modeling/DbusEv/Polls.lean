/-
**A poll that fails acquires nothing.**

A poll of Home Assistant acquires a state of charge only if it returns `ok`, one of the evcc client
only if it asked the engine, saved the reading with no failure left, and returned. So a poll that
fails acquires nothing, and neither does one that is answered from the cache (`Honest`).

The evcc client shows a reading before it saves it. Where that save raises, the poll fails and the
reading stays (`unsaved_reading_shown`); in every run without such a save all polls are honest
(`freshness_sound`).

* `since` — the events since the last poll began.
* `Respects` — what the others do while a client is polled: they publish, and payloads are accepted.
* `At` — what the evcc client has recorded since its poll began.
-/

import DbusEv.Freshness

set_option autoImplicit false
set_option linter.unusedSectionVars false

namespace DbusEv

open Thread Routine

/-! ### The events of a poll -/

namespace Evcc

/-- The engine is asked. -/
def Event.asks : Event → Bool
  | .polled _ _ _ => true
  | _ => false

/-- The save of a reading: no failure is left. -/
def unfailed (data : Dict PyValue) : Bool :=
  match data.get "failures" with
  | some (.int 0) => true
  | _ => false

/-- The engine was asked, and its reading was acquired, and saved; newest first. -/
def succeeded : List Event → Bool
  | .saved data :: .acquired _ _ :: earlier => unfailed data && earlier.any Event.asks
  | _ => false

end Evcc

/-- A client's poll begins. -/
def BridgeEvent.isPolling : BridgeEvent → Bool
  | .polling => true
  | _ => false

/-- What happened in the evcc client. -/
def BridgeEvent.inEngine : BridgeEvent → Option Evcc.Event
  | .engine event => some event
  | _ => none

/-- The events since the last poll began. -/
def since (trace : List BridgeEvent) : List BridgeEvent := trace.takeWhile fun e => !e.isPolling

/-- What happened in the evcc client since then. -/
def engineSince (trace : List BridgeEvent) : List Evcc.Event :=
  (since trace).filterMap BridgeEvent.inEngine

/-- A poll succeeded; a read of the Mercedes cache is no acquisition, so it does not matter. -/
def succeeded (source : DataSource) (ok : Option Bool) (trace : List BridgeEvent) : Bool :=
  match source with
  | .ha => ok = some true
  | .mercedes => true
  | .evcc => ok.isSome && Evcc.succeeded (engineSince trace)

/-- **A poll acquires only if it succeeds.** -/
def Honest (config : BridgeConfig) : BridgeEvent → List BridgeEvent → Prop
  | .ended ok, earlier => (∃ event ∈ since earlier, event.acquires config.dataSource ≠ none) →
      succeeded config.dataSource ok earlier = true
  | _, _ => True

instance (config : BridgeConfig) : ∀ event earlier, Decidable (Honest config event earlier)
  | .ended ok, earlier => inferInstanceAs (Decidable
      ((∃ event ∈ since earlier, event.acquires config.dataSource ≠ none) →
        succeeded config.dataSource ok earlier = true))
  | .fetched _ _, _ => isTrue trivial
  | .accepted _ _, _ => isTrue trivial
  | .engine _, _ => isTrue trivial
  | .polling, _ => isTrue trivial
  | .connected _ _, _ => isTrue trivial
  | .handed _ _ _, _ => isTrue trivial

/-- No save of a reading raised. -/
def ReadingsSaved (trace : List BridgeEvent) : Prop := ∀ e, .engine (.unsaved e) ∉ trace

theorem ReadingsSaved.earlier (new : List BridgeEvent) {trace : List BridgeEvent}
    (saved : ReadingsSaved (new ++ trace)) : ReadingsSaved trace :=
  fun e found => saved e (List.mem_append_right new found)

/-! ### The events of the others -/

/-- What is recorded beside the polls of a client. -/
def BridgeEvent.isForeign : BridgeEvent → Bool
  | .accepted _ _ => true
  | event => event.isPublication

/-- The thread that polls the client. -/
def Bridge.poller (bridge : Bridge) : Role := if bridge.worker.isSome then .worker else .main

/-- What a thread relies on: while it polls the client, nobody else does. -/
structure Respects (role : Role) (s t : Bridge) : Prop where
  worker : t.worker.isSome = s.worker.isSome
  trace : ∃ new, t.trace = new ++ s.trace ∧
    (s.poller = role → ∀ event ∈ new, event.isForeign = true)

section Events

variable {config : BridgeConfig} {role : Role} {s t u : Bridge} {new trace : List BridgeEvent}

theorem Respects.poller (respects : Respects role s t) : t.poller = s.poller := by
  unfold Bridge.poller
  rw [respects.worker]

theorem Respects.refl (role : Role) (bridge : Bridge) : Respects role bridge bridge :=
  ⟨rfl, [], rfl, fun _ => List.forall_mem_nil _⟩

theorem Respects.trans (first : Respects role s t) (second : Respects role t u) :
    Respects role s u := by
  obtain ⟨new, grown, foreign⟩ := first.trace
  obtain ⟨newer, grown', foreign'⟩ := second.trace
  refine ⟨second.worker.trans first.worker, newer ++ new, ?_, fun mine event found => ?_⟩
  · rw [grown', grown, List.append_assoc]
  · exact (List.mem_append.mp found).elim (foreign' (first.poller.trans mine) event)
      (foreign mine event)

/-- What the thread that polls the client records is its own affair. -/
theorem respects_of_mine (mine : s.poller = role) (grown : t.trace = new ++ s.trace)
    (worker : t.worker.isSome = s.worker.isSome) {other : Role} (differs : other ≠ role) :
    Respects other s t :=
  ⟨worker, new, grown, fun his => absurd (his.symm.trans mine) differs⟩

/-- Without a worker the main loop polls the client. -/
theorem poller_alone (alone : ¬ s.worker.isSome = true) : s.poller = .main := by
  unfold Bridge.poller
  rw [if_neg alone]

theorem isForeign_of_publication {event : BridgeEvent} (publication : event.isPublication = true) :
    event.isForeign = true := by
  cases event <;> first | rfl | exact publication

theorem Publishes.respects (publishes : Publishes s t) (role : Role) : Respects role s t := by
  obtain ⟨new, grown, published⟩ := publishes.trace
  exact ⟨publishes.worker, new, grown, fun _ event found =>
    isForeign_of_publication (published event found)⟩

theorem since_append (later : ∀ event ∈ new, event.isPolling = false) :
    since (new ++ trace) = new ++ since trace := by
  refine List.takeWhile_append_of_pos fun event found => ?_
  rw [later event found]
  rfl

theorem isPolling_of_foreign {event : BridgeEvent} (foreign : event.isForeign = true) :
    event.isPolling = false := by
  cases event <;> first | rfl | cases foreign

theorem inEngine_of_foreign {event : BridgeEvent} (foreign : event.isForeign = true) :
    event.inEngine = none := by
  cases event <;> first | rfl | cases foreign

/-- The others leave alone what the client has recorded. -/
theorem engineSince_foreign (foreign : ∀ event ∈ new, event.isForeign = true) :
    engineSince (new ++ trace) = engineSince trace := by
  unfold engineSince
  rw [since_append fun event found => isPolling_of_foreign (foreign event found),
    List.filterMap_append,
    List.filterMap_eq_nil_iff.mpr fun event found => inEngine_of_foreign (foreign event found),
    List.nil_append]

/-- What the client records. -/
theorem engineSince_engine (events : List Evcc.Event) :
    engineSince (events.map .engine ++ trace) = events ++ engineSince trace := by
  have later : ∀ event ∈ events.map BridgeEvent.engine, event.isPolling = false := by
    intro event found
    obtain ⟨inner, -, rfl⟩ := List.mem_map.mp found
    rfl
  have own : (events.map BridgeEvent.engine).filterMap BridgeEvent.inEngine = events := by
    rw [List.filterMap_map]
    exact List.filterMap_some
  unfold engineSince
  rw [since_append later, List.filterMap_append, own]

/-- **The invariant**: in a run without a save of a reading that raises, every poll is honest. -/
def AllHonest (config : BridgeConfig) (bridge : Bridge) : Prop :=
  ReadingsSaved bridge.trace → Throughout (Honest config) bridge.trace

/-- Events other than the end of a poll. -/
theorem AllHonest.append (new : List BridgeEvent) (honest : AllHonest config s)
    (grown : t.trace = new ++ s.trace)
    (open_ : ∀ event ∈ new, ∀ ok, event ≠ .ended ok) : AllHonest config t := by
  intro saved
  rw [grown] at saved ⊢
  have before := honest (saved.earlier _)
  clear grown saved
  induction new with
  | nil => exact before
  | cons event rest ih =>
    obtain ⟨other, others⟩ := List.forall_mem_cons.mp open_
    refine ⟨?_, ih others⟩
    cases event with
    | ended ok => exact absurd rfl (other ok)
    | _ => trivial

theorem Publishes.honest (publishes : Publishes s t) (honest : AllHonest config s) :
    AllHonest config t := by
  obtain ⟨new, grown, published⟩ := publishes.trace
  refine honest.append _ grown fun event found ok same => ?_
  have publication := published event found
  rw [same] at publication
  cases publication

end Events

/-! ### The steps of a thread -/

/-- The law of a thread. -/
def pollLaw (config : BridgeConfig) (role : Role) : Law (Unit × Bridge) where
  rely s t := t.1 = s.1 ∧ Respects role s.2 t.2
  may s t := ∀ other, other ≠ role → Respects other s.2 t.2
  inv s := AllHonest config s.2

/-- What the client has recorded since its poll began, unless a save of a reading raised. -/
structure At (role : Role) (P : List Evcc.Event → Prop) (bridge : Bridge) : Prop where
  mine : bridge.poller = role
  holds : ReadingsSaved bridge.trace → P (engineSince bridge.trace)

section Steps

variable {config : BridgeConfig} {role : Role} {α : Type} {s : Unit × Bridge} {bridge : Bridge}
  {P P' : List Evcc.Event → Prop}

theorem At.mono (at_ : At role P bridge) (weaker : ∀ events, P events → P' events) :
    At role P' bridge :=
  ⟨at_.mine, fun saved => weaker _ (at_.holds saved)⟩

/-- The others do not move it. -/
theorem At.stable {t : Bridge} (at_ : At role P bridge) (others : Respects role bridge t) :
    At role P t := by
  obtain ⟨new, grown, foreign⟩ := others.trace
  refine ⟨others.poller.trans at_.mine, fun saved => ?_⟩
  rw [grown] at saved ⊢
  rw [engineSince_foreign (foreign at_.mine)]
  exact at_.holds (saved.earlier _)

/-- The others do not rely on what the evcc client records. -/
theorem respects_setEvccState (mine : bridge.poller = role) (part : Evcc.State) {other : Role}
    (differs : other ≠ role) : Respects other bridge (bridge.setEvccState part) := by
  have grown : (bridge.setEvccState part).trace = part.2.trace.map .engine ++ bridge.trace := rfl
  exact respects_of_mine mine grown rfl differs

theorem AllHonest.setEvccState (honest : AllHonest config bridge) (part : Evcc.State) :
    AllHonest config (bridge.setEvccState part) := by
  refine honest.append (part.2.trace.map .engine) rfl fun event found ok same => ?_
  obtain ⟨inner, -, rfl⟩ := List.mem_map.mp found
  cases same

/-- The client records events. -/
theorem At.record {part : Evcc.State} (new : List Evcc.Event) (at_ : At role P bridge)
    (trace : part.2.trace = new) (after : ∀ events, P events → P' (new ++ events)) :
    At role P' (bridge.setEvccState part) := by
  refine ⟨at_.mine, fun saved => ?_⟩
  have grown : (bridge.setEvccState part).trace = new.map .engine ++ bridge.trace := by
    rw [← trace]
    rfl
  rw [grown] at saved ⊢
  rw [engineSince_engine]
  exact after _ (at_.holds (saved.earlier _))

/-- A step that returns a value. -/
theorem wp_act_step {f : BridgeAnswer → Bridge → Except PyError α × Bridge}
    {Q : α → Unit × Bridge → Prop} {X : PyError → Unit × Bridge → Prop}
    (next : ∀ answer t, Respects role s.2 t → AllHonest config t →
      AllHonest config (f answer t).2 ∧ (∀ other, other ≠ role → Respects other t (f answer t).2) ∧
      match (f answer t).1 with
      | .ok value => Q value ((), (f answer t).2)
      | .error e => X e ((), (f answer t).2)) :
    wp (pollLaw config role) (act f) Q X s := by
  unfold act
  rw [wp_atomic]
  rintro ⟨_, t⟩ ⟨-, others⟩ honest answer
  obtain ⟨kept, allowed, rest⟩ := next answer t others honest
  rw [Exec.wp_once]
  simp only
  rcases result : (f answer t).1 with e | value
  · rw [result] at rest
    exact ⟨kept, allowed, rest⟩
  · rw [result] at rest
    exact ⟨kept, allowed, rest⟩

/-- A step of the evcc client. -/
theorem wp_onEvcc_atomic {x : Evcc.Answer → Exec Evcc.State PyError α}
    {Q : α → Unit × Bridge → Prop} {X : PyError → Unit × Bridge → Prop} (at_ : At role P s.2)
    (next : ∀ t, At role P t → ∀ answer, Exec.wp (x answer)
      (fun value u => Q value ((), t.setEvccState u)) (fun e u => X e ((), t.setEvccState u))
      t.evccState) :
    wp (pollLaw config role) (onEvcc (atomic x)) Q X s := by
  unfold onEvcc
  rw [wp_zoom_atomic]
  rintro ⟨_, t⟩ ⟨-, others⟩ honest answer
  have there := at_.stable others
  refine Exec.wp_mono (next t there answer.evcc) (fun value u holds => ?_) fun e u holds => ?_
  · exact ⟨AllHonest.setEvccState honest u, fun _ => respects_setEvccState there.mine u, holds⟩
  · exact ⟨AllHonest.setEvccState honest u, fun _ => respects_setEvccState there.mine u, holds⟩

/-- **A program of the evcc client that takes no reading.** -/
theorem wp_onEvcc_silent {x : Evcc.Program α} (silent : Stepwise Evcc.Silent x)
    (keeps : ∀ new events, (∀ event ∈ new, event.isSilent = true) → P events → P (new ++ events))
    (at_ : At role P s.2) :
    wp (pollLaw config role) (onEvcc x) (fun _ t => At role P t.2)
      (fun _ t => At role P t.2) s := by
  have steps : Stepwise (fun s t : Unit × Bridge => ∃ part, Evcc.Silent s.2.evccState part ∧
      t = ((), s.2.setEvccState part)) (onEvcc x) :=
    stepwise_zoom _ _ _ (fun t u silent => ⟨u, silent, rfl⟩) silent
  have stable : ∀ s t, (pollLaw config role).rely s t → At role P s.2 → At role P t.2 :=
    fun _ _ others at_ => at_.stable others.2
  refine wp_stepwise stable ?_ steps at_
  rintro s _ honest at_ ⟨part, ⟨-, new, trace, quiet⟩, rfl⟩
  refine ⟨AllHonest.setEvccState honest part, fun _ => respects_setEvccState at_.mine part,
    at_.record new (trace.trans (List.append_nil new)) fun events => keeps new events quiet⟩

/-- **A program that only publishes**, whoever runs it. -/
theorem wp_publishes {x : Routine α} (publishes : Stepwise (fun s t => Publishes s.2 t.2) x)
    (at_ : At role P s.2) :
    wp (pollLaw config role) x (fun _ t => At role P t.2) (fun _ t => At role P t.2) s :=
  wp_stepwise (fun _ _ others at_ => At.stable at_ others.2)
    (fun _ _ honest at_ publishes => ⟨publishes.honest honest, fun other _ =>
      publishes.respects other, At.stable at_ (publishes.respects role)⟩) publishes at_

end Steps

/-! ### A poll of the evcc client -/

namespace Evcc

/-- Nothing was acquired. -/
def Quiet (events : List Event) : Prop := ∀ event ∈ events, event.isSilent = true

/-- Nothing was acquired, and the engine was asked. -/
def Asked (events : List Event) : Prop := Quiet events ∧ events.any Event.asks = true

/-- A reading was just acquired. -/
def Taken (events : List Event) : Prop :=
  ∃ startedAt vehicle earlier, events = .acquired startedAt vehicle :: earlier ∧
    earlier.any Event.asks = true

/-- Nothing was acquired, or the poll succeeded. -/
def Ended (events : List Event) : Prop := Quiet events ∨ succeeded events = true

theorem Quiet.append {new events : List Event} (silent : ∀ event ∈ new, event.isSilent = true)
    (quiet : Quiet events) : Quiet (new ++ events) := fun event found =>
  (List.mem_append.mp found).elim (silent event) (quiet event)

end Evcc

section Evcc

variable [PyText] {config : BridgeConfig} {role : Role} {α β : Type} {s : Unit × Bridge}
  {P : List Evcc.Event → Prop}

theorem onEvcc_bind (x : Evcc.Program β) (f : β → Evcc.Program α) :
    onEvcc (x >>= f) = onEvcc x >>= fun value => onEvcc (f value) := zoom_bind _ _ _ x f

/-- A program that takes no reading, after which the poll goes on. -/
theorem wp_onEvcc_quiet {x : Evcc.Program α} (silent : Stepwise Evcc.Silent x)
    (at_ : At role Evcc.Quiet s.2) :
    wp (pollLaw config role) (onEvcc x) (fun _ t => At role Evcc.Quiet t.2)
      (fun _ t => At role Evcc.Quiet t.2) s :=
  wp_onEvcc_silent silent (fun _ _ => Evcc.Quiet.append) at_

/-- The state is read. -/
theorem wp_onEvcc_look {f : Evcc.State → Evcc.Program α} {Q : α → Unit × Bridge → Prop}
    {X : PyError → Unit × Bridge → Prop} (at_ : At role P s.2)
    (next : ∀ state t, At role P t → wp (pollLaw config role) (onEvcc (f state)) Q X ((), t)) :
    wp (pollLaw config role) (onEvcc (Evcc.look >>= f)) Q X s := by
  rw [onEvcc_bind, wp_bind]
  exact wp_onEvcc_atomic at_ fun t at_ _ =>
    next _ _ (at_.record [] rfl fun _ holds => holds)

theorem wp_onEvcc_ofExcept {value : Except PyError β} {f : β → Evcc.Program α}
    {Q : α → Unit × Bridge → Prop} {X : PyError → Unit × Bridge → Prop}
    (next : ∀ found, wp (pollLaw config role) (onEvcc (f found)) Q X s) (thrown : ∀ e, X e s) :
    wp (pollLaw config role) (onEvcc (Evcc.ofExcept value >>= f)) Q X s := by
  rcases value with e | found
  · exact thrown e
  · exact next found

/-- **A reading** is acquired and saved, or nothing is acquired. -/
theorem wp_onEvcc_takeReading {startedAt now : ℚ} {data : Dict PyValue}
    (at_ : At role Evcc.Asked s.2) :
    wp (pollLaw config role) (onEvcc (Evcc.takeReading config.evcc startedAt now data))
      (fun _ t => At role Evcc.Ended t.2) (fun _ t => At role Evcc.Quiet t.2) s := by
  have refused : At role Evcc.Quiet s.2 := at_.mono fun _ => And.left
  unfold Evcc.takeReading
  refine wp_onEvcc_ofExcept (fun candidate => ?_) fun _ => refused
  cases candidate.soc with
  | none => exact refused
  | some soc =>
    rw [onEvcc_bind, wp_bind]
    refine wp_onEvcc_atomic at_ fun t at_ _ => ?_
    have taken : At role Evcc.Taken
        (t.setEvccState (Evcc.acquired startedAt now candidate t.evccState)) :=
      at_.record [.acquired startedAt candidate] rfl fun events asked =>
        ⟨startedAt, candidate, events, rfl, asked.2⟩
    refine wp_onEvcc_look taken fun state u taken => ?_
    refine wp_onEvcc_atomic taken fun v taken answer => ?_
    cases answer.saves with
    | none =>
      refine taken.record [.saved _] rfl ?_
      rintro _ ⟨startedAt, vehicle, earlier, rfl, asked⟩
      refine .inr ?_
      show (Evcc.unfailed _ && earlier.any Evcc.Event.asks) = true
      rw [asked, Bool.and_true]
      simp [Evcc.unfailed, Dict.update]
    | some e =>
      -- the condition on the run is broken
      exact ⟨taken.mine, fun saved => absurd List.mem_cons_self (saved e)⟩

/-- The `try` of `_poll_engine`. -/
theorem wp_onEvcc_useEngine {process : ℕ} {startedAt now : ℚ} (at_ : At role Evcc.Quiet s.2) :
    wp (pollLaw config role) (onEvcc (Evcc.useEngine config.evcc process startedAt now))
      (fun _ t => At role Evcc.Ended t.2) (fun _ t => At role Evcc.Quiet t.2) s := by
  have asks : ∀ process now file, Evcc.Asked [Evcc.Event.polled process now file] :=
    fun _ _ _ => ⟨List.forall_mem_singleton.mpr rfl, rfl⟩
  unfold Evcc.useEngine
  rw [onEvcc_bind, wp_bind]
  refine wp_value (wp_onEvcc_quiet (Evcc.silent_ensureEngine process now) at_) fun _ t at_ => ?_
  rw [onEvcc_bind, wp_bind]
  refine wp_onEvcc_atomic at_ fun u at_ answer => ?_
  rw [Exec.wp_bind, Exec.wp_change]
  cases answer.reply with
  | error e =>
    exact at_.record [.polled _ _ _] rfl fun _ => Evcc.Quiet.append (asks _ _ _).1
  | ok reply =>
    show wp _ (onEvcc (Evcc.takeReply config.evcc startedAt now reply)) _ _ _
    unfold Evcc.takeReply
    cases Evcc.readingOf reply with
    | some data =>
      refine wp_onEvcc_takeReading (at_.record [.polled _ _ _] rfl fun _ quiet => ?_)
      exact ⟨Evcc.Quiet.append (asks _ _ _).1 quiet, rfl⟩
    | none =>
      refine wp_mono (wp_onEvcc_quiet (Evcc.silent_failure config.evcc true reply)
        (at_.record [.polled _ _ _] rfl fun _ => Evcc.Quiet.append (asks _ _ _).1))
        (fun _ _ at_ => at_.mono fun _ => .inl) fun _ _ at_ => at_

/-- `_poll_engine`. -/
theorem wp_onEvcc_pollEngine {process : ℕ} {now : ℚ} (at_ : At role Evcc.Quiet s.2) :
    wp (pollLaw config role) (onEvcc (Evcc.pollEngine config.evcc process now))
      (fun _ t => At role Evcc.Ended t.2) (fun _ t => At role Evcc.Quiet t.2) s := by
  unfold Evcc.pollEngine
  rw [onEvcc_bind, wp_bind]
  refine wp_value (wp_onEvcc_quiet (Evcc.silent_save _) at_) fun _ t at_ => ?_
  rw [onEvcc_bind, wp_bind]
  refine wp_value (wp_onEvcc_quiet (Evcc.silent_reserveLogin now) at_) fun _ u at_ => ?_
  refine wp_onEvcc_look at_ fun state v at_ => ?_
  show wp _ (Thread.zoom _ _ _ (Thread.handle _ _)) _ _ _
  rw [zoom_handle, wp_handle]
  refine wp_mono (wp_onEvcc_useEngine at_) (fun _ _ at_ => at_) fun e w at_ => ?_
  cases handled : Evcc.engineFailed config.evcc e with
  | none => exact at_
  | some recover =>
    exact wp_mono (wp_onEvcc_quiet (Evcc.silent_engineFailed handled) at_)
      (fun _ _ at_ => at_.mono fun _ => .inl) fun _ _ at_ => at_

/-- **`EvccClient.poll`.** -/
theorem wp_pollEvcc_ended (at_ : At role Evcc.Quiet s.2) :
    wp (pollLaw config role) (pollEvcc config) (fun _ t => At role Evcc.Ended t.2)
      (fun _ t => At role Evcc.Quiet t.2) s := by
  unfold pollEvcc Evcc.poll
  rw [wp_bind, onEvcc_bind, wp_bind]
  refine wp_value (wp_onEvcc_quiet (Evcc.silent_start 0) at_) fun _ t at_ => ?_
  refine wp_onEvcc_look at_ fun state u at_ => ?_
  refine wp_onEvcc_ofExcept (fun admitted => ?_) fun _ => at_
  rw [onEvcc_bind, wp_bind]
  have polled : wp (pollLaw config role)
      (onEvcc (Evcc.pollIfAdmitted config.evcc 0 admitted state.2.wall))
      (fun _ t => At role Evcc.Ended t.2) (fun _ t => At role Evcc.Quiet t.2) ((), u) := by
    unfold Evcc.pollIfAdmitted
    split
    · exact wp_onEvcc_pollEngine at_
    · exact at_.mono fun _ => .inl
  refine wp_value polled fun _ v at_ => ?_
  exact wp_onEvcc_look at_ fun _ _ at_ => at_

end Evcc

/-! ### A poll -/

/-- **A poll may end so**: if it acquired, it succeeded. -/
structure Sincere (config : BridgeConfig) (role : Role) (ok : Option Bool) (bridge : Bridge) :
    Prop where
  mine : bridge.poller = role
  honest : ReadingsSaved bridge.trace → Honest config (.ended ok) bridge.trace

section Polls

variable {config : BridgeConfig} {role : Role} {α : Type} {ok : Option Bool} {s : Unit × Bridge}
  {bridge t : Bridge}

/-- What is acquired beside the polls is a Mercedes payload. -/
theorem succeeded_of_foreign {event : BridgeEvent} (foreign : event.isForeign = true)
    {source : DataSource} (acquires : event.acquires source ≠ none) (ok : Option Bool)
    (trace : List BridgeEvent) : succeeded source ok trace = true := by
  cases source with
  | mercedes => rfl
  | _ => cases event <;> first | exact absurd rfl acquires | cases foreign

theorem succeeded_append {new trace : List BridgeEvent} {source : DataSource}
    (foreign : ∀ event ∈ new, event.isForeign = true) :
    succeeded source ok (new ++ trace) = succeeded source ok trace := by
  cases source with
  | evcc => exact congrArg (ok.isSome && Evcc.succeeded ·) (engineSince_foreign foreign)
  | _ => rfl

/-- The others do not make it less sincere. -/
theorem Sincere.stable (sincere : Sincere config role ok bridge) (others : Respects role bridge t) :
    Sincere config role ok t := by
  obtain ⟨new, grown, foreign⟩ := others.trace
  have foreign := foreign sincere.mine
  refine ⟨others.poller.trans sincere.mine, fun saved => ?_⟩
  rw [grown] at saved ⊢
  rintro ⟨event, found, acquires⟩
  rw [since_append fun event found => isPolling_of_foreign (foreign event found)] at found
  rcases List.mem_append.mp found with found | found
  · exact succeeded_of_foreign (foreign event found) acquires ok _
  · rw [succeeded_append foreign]
    exact sincere.honest (saved.earlier _) ⟨event, found, acquires⟩

/-- A poll that has acquired nothing may end in any way. -/
theorem Sincere.any (sincere : Sincere config role none bridge) (ok : Option Bool) :
    Sincere config role ok bridge := by
  refine ⟨sincere.mine, fun saved acquired => ?_⟩
  have failed := sincere.honest saved acquired
  cases source : config.dataSource <;> rw [source] at failed
  · cases failed
  · rfl
  · cases failed

/-- A poll that begins has acquired nothing. -/
theorem sincere_begun (mine : bridge.poller = role) :
    Sincere config role none (bridge.note .polling) :=
  ⟨mine, fun _ ⟨_, found, _⟩ => absurd found List.not_mem_nil⟩

/-- What the evcc client acquires, it records. -/
theorem acquired_mem {trace : List BridgeEvent}
    (acquired : ∃ event ∈ since trace, event.acquires .evcc ≠ none) :
    ¬ Evcc.Quiet (engineSince trace) := by
  obtain ⟨event, found, acquires⟩ := acquired
  intro quiet
  cases event with
  | engine inner =>
    have silent := quiet inner (List.mem_filterMap.mpr ⟨_, found, rfl⟩)
    cases inner <;> first | exact acquires rfl | cases silent
  | _ => exact acquires rfl

theorem sincere_of_quiet (source : config.dataSource = .evcc) (at_ : At role Evcc.Quiet bridge) :
    Sincere config role ok bridge := by
  refine ⟨at_.mine, fun saved acquired => ?_⟩
  rw [source] at acquired
  exact absurd (at_.holds saved) (acquired_mem acquired)

theorem sincere_of_ended {fresh : Bool} (source : config.dataSource = .evcc)
    (at_ : At role Evcc.Ended bridge) : Sincere config role (some fresh) bridge := by
  refine ⟨at_.mine, fun saved acquired => ?_⟩
  rw [source] at acquired ⊢
  exact (at_.holds saved).resolve_left (acquired_mem acquired)

/-- A step of the thread that polls the client. -/
theorem wp_act_polled {f : BridgeAnswer → Bridge → Except PyError α × Bridge}
    {Q : α → Unit × Bridge → Prop} {X : PyError → Unit × Bridge → Prop}
    (sincere : Sincere config role ok s.2)
    (next : ∀ answer t, Sincere config role ok t → (f answer t).2.worker = t.worker ∧
      (∃ new, (f answer t).2.trace = new ++ t.trace ∧ ∀ event ∈ new, ∀ ok, event ≠ .ended ok) ∧
      match (f answer t).1 with
      | .ok value => Q value ((), (f answer t).2)
      | .error e => X e ((), (f answer t).2)) :
    wp (pollLaw config role) (act f) Q X s := by
  refine wp_act_step fun answer t others honest => ?_
  have there := sincere.stable others
  obtain ⟨worker, ⟨new, grown, open_⟩, rest⟩ := next answer t there
  exact ⟨honest.append _ grown open_, fun _ differs =>
    respects_of_mine there.mine grown (congrArg Option.isSome worker) differs, rest⟩

/-- **`HaClient.poll`** acquires only what it returns as `ok`. -/
theorem wp_pollHa_sincere (source : config.dataSource = .ha) {startedAt : ℚ} [PyText]
    (begun : Sincere config role none s.2) :
    wp (pollLaw config role) (pollHa startedAt)
      (fun sample t => Sincere config role (some sample.ok) t.2)
      (fun _ t => Sincere config role none t.2) s := by
  unfold pollHa
  rw [wp_bind]
  refine wp_act_polled begun fun _ t begun => ⟨rfl, ⟨[], rfl, List.forall_mem_nil _⟩, ?_⟩
  have begun : Sincere config role none { t with ha := (t.ha.begin t.mono).2 } := ⟨begun.1, begun.2⟩
  show wp _ (if (t.ha.begin t.mono).1 = true then _ else _) _ _ _
  rw [wp_ite]
  refine ⟨fun _ => wp_act_polled begun fun answer u begun => ?_, fun _ =>
    wp_act_polled begun fun _ u begun => ⟨rfl, ⟨[], rfl, List.forall_mem_nil _⟩, begun.any _⟩⟩
  rcases u.ha.finish u.mono answer.ha with ⟨e | polled, after⟩
  · exact ⟨rfl, ⟨[], rfl, List.forall_mem_nil _⟩, begun.1, begun.2⟩
  · have same : Sincere config role none { u with ha := after } := ⟨begun.1, begun.2⟩
    have other := same.any (some (Sample.ofHa polled).ok)
    rcases ok : polled.ok with _ | _
    · simp only [ok]
      exact ⟨trivial, ⟨[], rfl, List.forall_mem_nil _⟩, other⟩
    · cases soc : polled.fields.soc with
      | none =>
        simp only [ok, soc]
        exact ⟨trivial, ⟨[], rfl, List.forall_mem_nil _⟩, other⟩
      | some number =>
        simp only [ok, soc]
        refine ⟨rfl, ⟨[_], rfl, List.forall_mem_singleton.mpr nofun⟩, begun.1, fun _ _ => ?_⟩
        rw [source, Sample.ofHa, ok]
        rfl

end Polls

/-! ### The threads -/

section Threads

variable [PyText] {config : BridgeConfig} {role : Role} {s : Unit × Bridge} {startedAt : ℚ}

/-- **The poll of the backend**, for each of them. -/
theorem wp_pollBackend_sincere (begun : Sincere config role none s.2)
    (quiet : At role Evcc.Quiet s.2) :
    wp (pollLaw config role) (pollBackend config startedAt)
      (fun sample t => Sincere config role (some sample.ok) t.2)
      (fun _ t => Sincere config role none t.2) s := by
  unfold pollBackend
  cases source : config.dataSource with
  | ha => exact wp_pollHa_sincere source begun
  | mercedes =>
    exact wp_act_polled begun fun _ t begun => ⟨rfl, ⟨[], rfl, List.forall_mem_nil _⟩, begun.any _⟩
  | evcc =>
    exact wp_mono (wp_pollEvcc_ended quiet) (fun _ _ at_ => sincere_of_ended source at_)
      fun _ _ at_ => sincere_of_quiet source at_

/-- The poll ends as it may. -/
theorem wp_recordEnd_sincere {ok : Option Bool} {X : PyError → Unit × Bridge → Prop}
    (sincere : Sincere config role ok s.2) :
    wp (pollLaw config role) (recordEnd ok) (fun _ t => t.2.poller = role) X s := by
  unfold recordEnd alter
  rw [wp_atomic]
  rintro ⟨_, t⟩ ⟨-, others⟩ honest -
  have there := sincere.stable others
  have ends : AllHonest config (t.note (.ended ok)) := fun saved =>
    ⟨there.honest (saved.earlier [_]), honest (saved.earlier [_])⟩
  have grown : (t.note (.ended ok)).trace = [.ended ok] ++ t.trace := rfl
  exact ⟨ends, fun _ differs => respects_of_mine there.mine grown rfl differs, there.mine⟩

/-- **`self.client.poll()`** is honest. -/
theorem wp_pollClient_honest (mine : s.2.poller = role) :
    wp (pollLaw config role) (pollClient config startedAt) (fun _ t => t.2.poller = role)
      (fun _ t => t.2.poller = role) s := by
  unfold pollClient alter
  rw [wp_bind, wp_atomic]
  rintro ⟨_, t⟩ ⟨-, others⟩ honest -
  have mine : t.poller = role := others.poller.trans mine
  have grown : (t.note .polling).trace = [.polling] ++ t.trace := rfl
  refine ⟨honest.append _ grown (List.forall_mem_singleton.mpr nofun), fun _ differs =>
    respects_of_mine mine grown rfl differs, ?_⟩
  have quiet : At role Evcc.Quiet (t.note .polling) := ⟨mine, fun _ => List.forall_mem_nil _⟩
  rw [wp_bind, wp_handle]
  refine wp_mono (wp_pollBackend_sincere (sincere_begun mine) quiet) (fun sample u sincere => ?_)
    fun e u sincere => ?_
  · rw [wp_bind]
    exact wp_recordEnd_sincere sincere
  · show wp _ (recordEnd none >>= fun _ => Thread.raise e) _ _ _
    rw [wp_bind]
    exact wp_recordEnd_sincere sincere

/-- What only publishes leaves the client to the thread that polls it. -/
theorem wp_publishes_mine {α : Type} {x : Routine α}
    (publishes : Stepwise (fun s t => Publishes s.2 t.2) x) (mine : s.2.poller = role) :
    wp (pollLaw config role) x (fun _ t => t.2.poller = role) (fun _ t => t.2.poller = role) s :=
  wp_mono (wp_publishes (P := fun _ => True) publishes ⟨mine, fun _ => trivial⟩)
    (fun _ _ at_ => at_.mine) fun _ _ at_ => at_.mine

/-- What only publishes may be run by any thread. -/
theorem wp_publishes_any {α : Type} {x : Routine α}
    (publishes : Stepwise (fun s t => Publishes s.2 t.2) x) :
    wp (pollLaw config role) x (fun _ _ => True) (fun _ _ => True) s :=
  wp_stepwise (A := fun _ => True) (fun _ _ _ _ => trivial)
    (fun _ _ honest _ publishes => ⟨publishes.honest honest, fun other _ =>
      publishes.respects other, trivial⟩) publishes trivial

/-- `self.client.close()`. -/
theorem wp_closeClient_mine (mine : s.2.poller = role) :
    wp (pollLaw config role) (closeClient config) (fun _ t => t.2.poller = role)
      (fun _ t => t.2.poller = role) s := by
  unfold closeClient
  cases config.dataSource with
  | ha => exact mine
  | mercedes => exact wp_publishes_mine (publishes_alter fun _ => .quiet rfl rfl) mine
  | evcc =>
    refine wp_mono (wp_onEvcc_silent (P := fun _ => True) (Evcc.silent_close 0)
      (fun _ _ _ _ => trivial) ⟨mine, fun _ => trivial⟩) (fun _ _ at_ => at_.mine)
      fun _ _ at_ => at_.mine

/-- The state is read by the thread that polls the client. -/
theorem wp_look_mine {Q : Bridge → Unit × Bridge → Prop} {X : PyError → Unit × Bridge → Prop}
    (mine : s.2.poller = role) (next : ∀ t, t.poller = role → Q t ((), t)) :
    wp (pollLaw config role) look Q X s := by
  unfold look
  rw [wp_atomic]
  rintro ⟨_, t⟩ ⟨-, others⟩ honest -
  exact ⟨honest, fun other _ => .refl other t, next t (others.poller.trans mine)⟩

/-- What a job does. -/
theorem wp_perform_mine (job : Option Job) (mine : s.2.poller = role) :
    wp (pollLaw config role) (perform config job) (fun _ _ => True) (fun _ _ => True) s := by
  have ends : ∀ {x : Routine Unit} {t : Unit × Bridge},
      Stepwise (fun s t => Publishes s.2 t.2) x →
      wp (pollLaw config role) x (fun _ _ => True) (fun _ _ => True) t := wp_publishes_any
  rcases job with _ | _ | _
  · trivial
  · show wp _ (workUnlessStopping config) _ _ s
    unfold workUnlessStopping workOnce
    rw [wp_bind]
    refine wp_look_mine mine fun t mine => ?_
    rw [wp_ite]
    refine ⟨fun _ => trivial, fun _ => ?_⟩
    rw [wp_bind]
    refine wp_look_mine mine fun u mine => ?_
    rw [wp_bind, wp_handle]
    exact wp_mono (wp_pollClient_honest mine)
      (fun sample _ _ => ends (publishes_alter (publishes_dispatch _)))
      fun _ _ _ => ends (publishes_alter (publishes_dispatch _))
  · show wp _ (quit config) _ _ s
    unfold quit
    rw [wp_bind]
    refine wp_mono (wp_closeClient_mine mine) (fun _ _ _ => ends (publishes_alter fun bridge => ?_))
      fun _ _ _ => trivial
    rcases living : bridge.worker with _ | worker
    · exact .quiet rfl rfl
    · exact publishes_setWorker living

/-- A step that only publishes, by any thread. -/
theorem wp_act_publishes {α : Type} {f : BridgeAnswer → Bridge → Except PyError α × Bridge}
    {Q : α → Unit × Bridge → Prop} {X : PyError → Unit × Bridge → Prop}
    (next : ∀ answer t, Publishes t (f answer t).2 ∧
      match (f answer t).1 with
      | .ok value => Q value ((), (f answer t).2)
      | .error e => X e ((), (f answer t).2)) :
    wp (pollLaw config role) (act f) Q X s :=
  wp_act_step fun answer t _ honest =>
    have ⟨publishes, rest⟩ := next answer t
    ⟨publishes.honest honest, fun other _ => publishes.respects other, rest⟩

/-- **One turn of the worker thread.** -/
theorem wp_work_honest :
    wp (pollLaw config .worker) (work config) (fun _ _ => True) (fun _ _ => True) s := by
  unfold work takeJob
  rw [wp_bind]
  refine wp_act_publishes fun answer t => ?_
  rcases living : t.worker with _ | worker
  · exact ⟨.quiet rfl rfl, trivial⟩
  · have mine : t.poller = .worker := by
      unfold Bridge.poller
      rw [living]
      rfl
    simp only
    split
    · exact ⟨.quiet rfl rfl, wp_perform_mine _ mine⟩
    · exact ⟨publishes_setWorker living, wp_perform_mine _ rfl⟩

/-- **A tick**: without a worker the main loop polls. -/
theorem wp_tick_honest :
    wp (pollLaw config .main) (tick config) (fun _ _ => True) (fun _ _ => True) s := by
  unfold tick look
  rw [wp_bind, wp_atomic]
  rintro ⟨_, t⟩ - honest -
  refine ⟨honest, fun other _ => .refl other t, ?_⟩
  show wp _ (if t.worker.isSome = true then _ else _) _ _ _
  rw [wp_ite]
  refine ⟨fun _ => wp_publishes_any publishes_tickWithWorker, fun alone => ?_⟩
  have mine := poller_alone alone
  unfold tickAlone
  rw [wp_bind]
  refine wp_look_mine mine fun u mine => ?_
  have polled : wp (pollLaw config .main) (readSnapshot config u.mono)
      (fun _ t => t.2.poller = .main) (fun _ t => t.2.poller = .main) ((), u) := by
    unfold readSnapshot
    rw [wp_ite]
    exact ⟨fun _ => wp_publishes_mine publishes_readCache mine, fun _ => wp_pollClient_honest mine⟩
  rw [wp_bind]
  exact wp_mono polled (fun _ _ _ => wp_publishes_any (publishes_applySnapshot _))
    fun _ _ _ => trivial

theorem wp_shutdown_honest :
    wp (pollLaw config .main) (shutdown config) (fun _ _ => True) (fun _ _ => True) s := by
  unfold shutdown look
  rw [wp_bind, wp_atomic]
  rintro ⟨_, t⟩ - honest -
  refine ⟨honest, fun other _ => .refl other t, ?_⟩
  show wp _ (if t.worker.isSome = true then _ else _) _ _ _
  rw [wp_ite]
  refine ⟨fun _ => wp_publishes_any (publishes_alter publishes_stopWorker), fun alone => ?_⟩
  exact wp_mono (wp_closeClient_mine (poller_alone alone)) (fun _ _ _ => trivial)
    fun _ _ _ => trivial

/-- What happens outside is recorded beside the polls. -/
theorem outside_respects (role : Role) (event : Outside) (bridge : Bridge) :
    Respects role bridge (outside config event bridge) ∧
      (AllHonest config bridge → AllHonest config (outside config event bridge)) := by
  have same : ∀ t : Bridge, Publishes bridge t →
      Respects role bridge t ∧ (AllHonest config bridge → AllHonest config t) :=
    fun t publishes => ⟨publishes.respects role, publishes.honest⟩
  cases event with
  | accept payload from_ =>
    unfold outside
    simp only
    cases bridge.mercedes.accept config.vendor bridge.mono payload from_ with
    | error e => exact same bridge (.quiet rfl rfl)
    | ok client =>
      simp only
      cases client.snapshot with
      | none => exact same _ (.quiet rfl rfl)
      | some snapshot =>
        refine ⟨⟨rfl, [_], rfl, fun _ => List.forall_mem_singleton.mpr rfl⟩, fun honest => ?_⟩
        exact honest.append [_] rfl (List.forall_mem_singleton.mpr nofun)
  | _ => exact same _ (.quiet rfl rfl)

end Threads

/-! ### Every run -/

section Runs

variable [PyText]

/-- The discipline of the threads. -/
def pollDiscipline (config : BridgeConfig) : Discipline (bridgeService config) where
  rely := Respects
  inv := AllHonest config
  idle _ _ := True
  rely_refl := Respects.refl
  rely_trans := Respects.trans
  idle_stable _ _ := trivial
  launch _ _ := trivial
  call {role state} duty _ := by
    have every : wp (pollLaw config role) ((bridgeService config).program role duty)
        (fun _ _ => True) (fun _ _ => True) state := by
      rcases role with _ | _ <;> rcases duty with _ | _ | _ | _
      · exact wp_tick_honest
      · exact wp_publishes_any publishes_deliver
      · exact wp_shutdown_honest
      · trivial
      · trivial
      · trivial
      · trivial
      · exact wp_work_honest
    exact every
  crash _ honest := ⟨honest, fun other _ => .refl other _⟩
  world event honest :=
    ⟨(outside_respects .main event _).2 honest, fun other => (outside_respects other event _).1⟩

/-- **Freshness soundness, end to end.** In every run, what is published as live is live, and the
time the app takes for its last good one is the stamp of an acquisition. Deliveries, ticks beside a
worker, reads of the cache, reconnects and payloads that are refused acquire nothing; and where no
save of a reading raises, neither does a poll that fails or is answered from the cache. -/
theorem freshness_sound (config : BridgeConfig) (dryRun : Bool) (ha : HaConfig)
    (breaker : CircuitBreaker) (mercedes : Mercedes.Config) (clock : Clock)
    (file : Option (Dict PyValue)) (moves : List (Move Role Duty Outside BridgeAnswer)) :
    let bridge := ((bridgeService config).run
      (Bridge.start config dryRun ha breaker mercedes clock file) moves).shared
    Throughout (Published config) bridge.trace ∧
      (∀ stamp, bridge.app.lastOkTime = some stamp →
        Acquired config.dataSource bridge.trace stamp) ∧
      Stepwise (fun s t => Idles config.dataSource s.2 t.2) (deliver config) ∧
      Stepwise (fun s t => Idles config.dataSource s.2 t.2) (tickWithWorker config) ∧
      Stepwise (fun s t => Idles config.dataSource s.2 t.2) readCache ∧
      (∀ event, (∀ payload from_, event ≠ .accept payload from_) →
        Idles config.dataSource bridge (outside config event bridge)) ∧
      (∀ payload from_ e,
        bridge.mercedes.accept config.vendor bridge.mono payload from_ = .error e →
          outside config (.accept payload from_) bridge = bridge) ∧
      (ReadingsSaved bridge.trace → Throughout (Honest config) bridge.trace) := by
  intro bridge
  have start := fresh_start config dryRun ha breaker mercedes clock file
  have fresh : Fresh config bridge := Discipline.keeps (bridgeDiscipline config) start moves
  have begun : AllHonest config (Bridge.start config dryRun ha breaker mercedes clock file) :=
    fun _ => trivial
  have honest : AllHonest config bridge := Discipline.keeps (pollDiscipline config) begun moves
  refine ⟨fresh.published, fresh.last, idles_of_publishes _ publishes_deliver,
    idles_of_publishes _ publishes_tickWithWorker, idles_of_publishes _ publishes_readCache,
    fun _ other => idles_outside other bridge, fun payload from_ e refused => ?_, honest⟩
  simp only [outside, refused]

end Runs

/-! ### A reading that is shown, and not saved -/

/-- A bridge that asks an engine. -/
def engineBridge : BridgeConfig where
  dataSource := .evcc
  sensorStaleTimeout := 120
  mercedesStaleTimeout := 900
  evccStaleTimeout := 7500
  capacityLiteral := none
  capacity := .float (.finite 66)
  mqtt := false
  charger := false
  evcc := ⟨"hyundai", none, 3600, 7500, .none, ⟨.none, .none, .none, fun _ _ _ _ => 0⟩⟩
  vendor := Mercedes.blindVendor

/-- The engine replies with a state of charge; what happens at a save. -/
def charged (saves : Option PyError) : BridgeAnswer where
  ha := .timeout
  evcc :=
    { Evcc.Answer.plain [("ok", .bool true), ("data", .dict [("soc", .int 50)])] with
      saves := saves }

/-- A thread performs a duty, with the same answer at every step. -/
def turn (role : Role) (duty : Duty) (count : ℕ) (answer : BridgeAnswer) :
    List (Move Role Duty Outside BridgeAnswer) :=
  .call role duty :: List.replicate count (.step role answer)

/-- The state file cannot be written once a poll has its reading; one second later there is another
poll, which the cache answers. -/
def unsavedReading : List (Move Role Duty Outside BridgeAnswer) :=
  [.launch .main, .launch .worker] ++ turn .main .tick 4 (charged none) ++
    turn .worker .work 19 (charged none) ++
    List.replicate 8 (.step .worker (charged (some .os))) ++
    turn .main .deliver 5 (charged none) ++ [.world (.elapse 1 1)] ++
    turn .main .tick 4 (charged none) ++ turn .worker .work 12 (charged none) ++
    turn .main .deliver 5 (charged none)

/-- **A poll that fails acquires** when its reading cannot be saved: the poll after it is answered
from the cache, and `/Connected` is 1. -/
theorem unsaved_reading_shown : letI := plainText
    let bridge := ((bridgeService engineBridge).run
      (Bridge.start engineBridge false ⟨false, "", "", ""⟩ ⟨3, 60, 0, none⟩ Mercedes.someConfig
        ⟨0, 100000⟩ none) unsavedReading).shared
    ¬ Throughout (Honest engineBridge) bridge.trace ∧ bridge.app.connected = true := by
  decide +kernel

end DbusEv
