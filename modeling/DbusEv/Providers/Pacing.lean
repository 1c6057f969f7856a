/-
**The pacing of the evcc clients: laws, invariant, and what a poll knows at each of its steps.**

* `Paced` — the law of the engine uses: polls and logins are spaced, and reserved on disk before.
* `Latched` — after a saved block the engine is not used.
* `Bars` — a state file that keeps polls or logins out before a deadline; `Kept` says it bars what
  every earlier use forbids.
* `Admitted` … `Working` — what a poll knows at each of its steps. It holds the lock, so nobody
  else touches the file or uses an engine.
-/

import DbusEv.Lib.Trace
import DbusEv.Providers.Evcc

set_option autoImplicit false
set_option linter.unusedSectionVars false

namespace DbusEv.Evcc

open Thread

/-! ### The laws of a trace -/

/-- The file on disk holds this deadline. -/
def Holds (file : Option (Dict PyValue)) (key : String) (deadline : ℚ) : Prop :=
  (file.getD []).get key = some (.float (.finite deadline))

/-- Polls are an interval apart, constructions a login interval, and both are reserved on disk. -/
def Paced (config : ℕ → Config) : Event → List Event → Prop
  | .constructed p now file, earlier =>
    (∀ q before found, .constructed q before found ∈ earlier → before + loginInterval ≤ now) ∧
      Holds file "next_poll" (now + (config p).pollInterval) ∧
      Holds file "next_login" (now + loginInterval)
  | .polled p now file, earlier =>
    (∀ q before found, .polled q before found ∈ earlier →
        before + (config q).pollInterval ≤ now) ∧
      Holds file "next_poll" (now + (config p).pollInterval) ∧
      ∀ q found, .constructed q now found ∈ earlier → Holds file "next_login" (now + loginInterval)
  | _, _ => True

/-- The event is a save of a block. -/
def Event.blocks : Event → Bool
  | .saved data => blocked data
  | _ => false

/-- After a saved block no engine is constructed or polled. -/
def Latched : Event → List Event → Prop
  | .constructed _ _ _, earlier => ∀ event ∈ earlier, event.blocks = false
  | .polled _ _ _, earlier => ∀ event ∈ earlier, event.blocks = false
  | _, _ => True

instance : ∀ event earlier, Decidable (Latched event earlier)
  | .constructed _ _ _, earlier =>
    inferInstanceAs (Decidable (∀ event ∈ earlier, event.blocks = false))
  | .polled _ _ _, earlier =>
    inferInstanceAs (Decidable (∀ event ∈ earlier, event.blocks = false))
  | .saved _, _ => isTrue trivial
  | .stopRaised _ _ _, _ => isTrue trivial
  | .acquired _ _, _ => isTrue trivial
  | .unsaved _, _ => isTrue trivial

/-- No engine that is stopped after a saved block, inside the `try` of `_poll_engine`, raises an
exception its handler catches. -/
def StopsQuietly (trace : List Event) : Prop :=
  ∀ e, .stopRaised true true e ∈ trace → isCaught e = false

/-- The process and the admission instant of a use of an engine. -/
def Event.use : Event → Option (ℕ × ℚ)
  | .constructed p now _ => some (p, now)
  | .polled p now _ => some (p, now)
  | _ => none

/-- The configured interval is a lower bound of the effective one. -/
theorem Config.le_pollInterval (config : Config) : config.interval ≤ config.pollInterval := by
  unfold Config.pollInterval
  split
  · exact (le_max_right _ _).trans (le_max_right _ _)
  · exact le_max_right _ _

theorem Config.pollInterval_pos (config : Config) : 0 < config.pollInterval := by
  have least : minInterval ≤ config.pollInterval := by
    unfold Config.pollInterval
    split
    · exact (le_max_left _ _).trans (le_max_right _ _)
    · exact le_max_left _ _
  unfold minInterval at least
  linarith

/-! ### The state file -/

/-- The file keeps out whoever comes before the deadline. -/
def Bars (file : Option (Dict PyValue)) (key : String) (deadline : ℚ) : Prop :=
  ∀ now, due (file.getD []) key now = .ok true → deadline ≤ now

theorem Holds.bars {file : Option (Dict PyValue)} {key : String} {until_ deadline : ℚ}
    (holds : Holds file key until_) (le : deadline ≤ until_) : Bars file key deadline := by
  intro now reached
  unfold due at reached
  rw [holds] at reached
  simp only [Option.getD_some, PyValue.reachedAt, Except.ok.injEq, decide_eq_true_eq] at reached
  exact le.trans reached

/-- A write to other keys bars what was barred before. -/
theorem Bars.of_same {file other : Option (Dict PyValue)} {key : String} {deadline : ℚ}
    (bars : Bars file key deadline) (same : (other.getD []).get key = (file.getD []).get key) :
    Bars other key deadline := by
  intro now reached
  refine bars now ?_
  unfold due at *
  rw [← same]
  exact reached

/-- **The invariant of the shared state.** -/
structure Kept (config : ℕ → Config) (host : Host) : Prop where
  polls : ∀ event ∈ host.trace, ∀ q before, event.use = some (q, before) →
    Bars host.file "next_poll" (before + (config q).pollInterval)
  logins : ∀ q before found, .constructed q before found ∈ host.trace →
    Bars host.file "next_login" (before + loginInterval)
  paced : Throughout (Paced config) host.trace
  latched : StopsQuietly host.trace → Throughout Latched host.trace ∧
    ∀ event ∈ host.trace, event.blocks = true → blocked (host.file.getD []) = true

/-! ### What a process relies on -/

/-- What the other processes and the world leave alone. -/
structure Rely (process : ℕ) (s t : Host) : Prop where
  wall : s.wall ≤ t.wall
  mine : s.holder = some process → t.holder = some process ∧ t.file = s.file ∧ t.trace = s.trace
  kept : t.file = none → s.file = none

theorem Rely.refl (process : ℕ) (host : Host) : Rely process host host :=
  ⟨le_rfl, fun mine => ⟨mine, rfl, rfl⟩, id⟩

theorem Rely.trans {process : ℕ} {s t u : Host} (first : Rely process s t)
    (second : Rely process t u) : Rely process s u := by
  refine ⟨first.wall.trans second.wall, fun mine => ?_, fun gone => first.kept (second.kept gone)⟩
  obtain ⟨held, file, trace⟩ := first.mine mine
  obtain ⟨held, file', trace'⟩ := second.mine held
  exact ⟨held, file'.trans file, trace'.trans trace⟩

/-- The holder of the lock may write, use engines and let go. -/
theorem Rely.of_holder {p q : ℕ} {s t : Host} (differs : q ≠ p) (mine : s.holder = some p)
    (wall : s.wall ≤ t.wall) (kept : t.file = none → s.file = none) : Rely q s t :=
  ⟨wall, fun theirs => absurd (Option.some.inj (theirs.symm.trans mine)) differs, kept⟩

/-- Letting go of the lock disturbs nobody else. -/
theorem Rely.release {p q : ℕ} (differs : q ≠ p) (host : Host) : Rely q host (host.release p) := by
  refine ⟨le_rfl, fun theirs => ⟨?_, rfl, rfl⟩, id⟩
  show (if host.holder = some p then none else host.holder) = some q
  rw [if_neg ?_, theirs]
  rw [theirs]
  exact fun same => differs (Option.some.inj same)

/-- Time passes. -/
theorem Rely.elapse (process : ℕ) (host : Host) (mono wall : ℚ≥0) :
    Rely process host (host.elapse mono wall) := by
  refine ⟨?_, fun mine => ⟨mine, rfl, rfl⟩, id⟩
  show (host.clock.wall : ℚ) ≤ ((host.clock.wall + wall : ℚ≥0) : ℚ)
  rw [NNRat.coe_add]
  exact le_add_of_nonneg_right wall.coe_nonneg

/-- The law of a process. -/
def law (config : ℕ → Config) (process : ℕ) : Law State where
  rely s t := t.1 = s.1 ∧ Rely process s.2 t.2
  may s t := ∀ q, q ≠ process → Rely q s.2 t.2
  inv s := Kept config s.2

/-- An assertion the others do not disturb. -/
def Stable (process : ℕ) (P : State → Prop) : Prop :=
  ∀ s t : State, t.1 = s.1 → Rely process s.2 t.2 → P s → P t

/-- Nobody touches what the process owns. -/
theorem Stable.own {process : ℕ} {P : State → Prop} (stable : Stable process P)
    (A : EvccClient → Prop) : Stable process fun s => P s ∧ A s.1 := by
  rintro s t same others ⟨holds, own⟩
  exact ⟨stable s t same others holds, same ▸ own⟩

/-- For the holder of the lock nothing but the clock moves. -/
theorem stable_of_holder {process : ℕ} {P : State → Prop}
    (holder : ∀ s, P s → s.2.holder = some process)
    (later : ∀ (s : State) (clock : Clock), s.2.wall ≤ clock.wall → P s →
      P (s.1, { s.2 with clock := clock })) : Stable process P := by
  rintro ⟨own, host⟩ ⟨own', ⟨clock, file, lock, trace⟩⟩ rfl others holds
  obtain ⟨rfl, rfl, rfl⟩ : lock = some process ∧ file = host.file ∧ trace = host.trace :=
    others.mine (holder _ holds)
  have same : ({ host with clock := clock } : Host) =
      ⟨clock, host.file, some process, host.trace⟩ := by
    rw [← holder _ holds]
  have moved := later (own', host) clock others.wall holds
  rw [same] at moved
  exact moved

/-! ### The steps of a process -/

section Steps

variable {config : ℕ → Config} {process : ℕ} {P : State → Prop} {s : State}

theorem wp_look {Q : State → State → Prop} {X : PyError → State → Prop} (stable : Stable process P)
    (holds : P s) (next : ∀ t, P t → Kept config t.2 → Q t t) :
    wp (law config process) look Q X s := by
  unfold look
  rw [wp_atomic]
  rintro t ⟨own, others⟩ inv answer
  exact ⟨inv, fun q _ => Rely.refl q t.2, next t (stable s t own others holds) inv⟩

theorem wp_alter {f : State → State} {Q : Unit → State → Prop} {X : PyError → State → Prop}
    (stable : Stable process P) (holds : P s) (next : ∀ t, P t → Kept config t.2 →
      Kept config (f t).2 ∧ (∀ q, q ≠ process → Rely q t.2 (f t).2) ∧ Q () (f t)) :
    wp (law config process) (alter f) Q X s := by
  unfold alter
  rw [wp_atomic]
  rintro t ⟨own, others⟩ inv answer
  exact next t (stable s t own others holds) inv

theorem wp_attempt {raises : Answer → Option PyError} {f : State → State}
    {Q : Unit → State → Prop} {X : PyError → State → Prop} (stable : Stable process P)
    (holds : P s) (next : ∀ t, P t → Kept config t.2 →
      Kept config (f t).2 ∧ (∀ q, q ≠ process → Rely q t.2 (f t).2) ∧ Q () (f t))
    (raised : ∀ e t, P t → X e t) :
    wp (law config process) (attempt raises f) Q X s := by
  unfold attempt
  rw [wp_atomic]
  rintro t ⟨own, others⟩ inv answer
  have there : P t := stable s t own others holds
  rcases raises answer with _ | e
  · exact next t there inv
  · exact ⟨inv, fun q _ => Rely.refl q t.2, raised e t there⟩

theorem wp_ofExcept {α : Type} {value : Except PyError α} {Q : α → State → Prop}
    {X : PyError → State → Prop} :
    wp (law config process) (ofExcept value) Q X s ↔
      match value with
      | .ok value => Q value s
      | .error e => X e s := by
  rcases value with e | value <;> exact Iff.rfl

/-! ### The invariant, event by event -/

/-- An event that is neither a use of an engine nor the save of a block. -/
theorem Kept.note {host : Host} (kept : Kept config host) {event : Event}
    (unused : event.use = none) (unsaved : event.blocks = false) :
    Kept config (host.note event) := by
  have paced : Paced config event host.trace := by
    cases event <;> trivial
  have latched : Latched event host.trace := by
    cases event <;> trivial
  refine ⟨fun other found q before used => ?_, fun q before file found => ?_, ⟨paced, kept.paced⟩,
    fun quiet => ?_⟩
  · rcases List.mem_cons.mp found with rfl | found
    · rw [unused] at used
      cases used
    · exact kept.polls other found q before used
  · rcases List.mem_cons.mp found with same | found
    · rw [← same] at unused
      cases unused
    · exact kept.logins q before file found
  · obtain ⟨holds, last⟩ := kept.latched fun e found => quiet e (List.mem_cons_of_mem _ found)
    refine ⟨⟨latched, holds⟩, fun other found shut => ?_⟩
    rcases List.mem_cons.mp found with rfl | found
    · rw [unsaved] at shut
      cases shut
    · exact last other found shut

/-- A save that bars what every earlier use forbids, and keeps a block that was saved. -/
theorem Kept.stored {data : Dict PyValue} (kept : Kept config s.2)
    (polls : ∀ event ∈ s.2.trace, ∀ q before, event.use = some (q, before) →
      Bars (some data) "next_poll" (before + (config q).pollInterval))
    (logins : ∀ q before found, .constructed q before found ∈ s.2.trace →
      Bars (some data) "next_login" (before + loginInterval))
    (block : StopsQuietly s.2.trace → ∀ event ∈ s.2.trace, event.blocks = true →
      blocked data = true) : Kept config (stored data s).2 := by
  refine ⟨fun other found q before used => ?_, fun q before file found => ?_,
    ⟨trivial, kept.paced⟩, fun quiet => ?_⟩
  · rcases List.mem_cons.mp found with rfl | found
    · cases used
    · exact polls other found q before used
  · rcases List.mem_cons.mp found with same | found
    · cases same
    · exact logins q before file found
  · have quiet : StopsQuietly s.2.trace := fun e found => quiet e (List.mem_cons_of_mem _ found)
    refine ⟨⟨trivial, (kept.latched quiet).1⟩, fun other found shut => ?_⟩
    rcases List.mem_cons.mp found with rfl | found
    · exact shut
    · exact block quiet other found shut

end Steps

/-! ### What a poll knows -/

/-- The process owns the store. -/
structure Owns (process : ℕ) (s : State) : Prop where
  holder : s.2.holder = some process
  started : s.1.started = true
  data : s.1.data = s.2.file.getD []

/-- Nothing blocked was saved. -/
def Unblocked (s : State) : Prop :=
  StopsQuietly s.2.trace → blocked s.1.data = false ∧
    ∀ event ∈ s.2.trace, event.blocks = false

/-- A poll after its use of the engine, with the uses it has to bar. -/
structure Working (config : ℕ → Config) (process : ℕ) (now : ℚ) (s : State) : Prop
    extends Owns process s where
  past : now ≤ s.2.wall
  uses : ∀ event ∈ s.2.trace, ∀ q before, event.use = some (q, before) →
    before + (config q).pollInterval ≤ now + (config process).pollInterval
  unblocked : Unblocked s

/-- A poll that was admitted at `now`: nobody used an engine for too long. -/
structure Admitted (config : ℕ → Config) (process : ℕ) (now : ℚ) (s : State) : Prop
    extends Owns process s where
  past : now ≤ s.2.wall
  spaced : ∀ event ∈ s.2.trace, ∀ q before, event.use = some (q, before) →
    before + (config q).pollInterval ≤ now
  logins : s.1.engine = false → ∀ q before found, .constructed q before found ∈ s.2.trace →
    before + loginInterval ≤ now
  unblocked : Unblocked s

/-- … that has reserved its poll. -/
structure Reserved (config : ℕ → Config) (process : ℕ) (now : ℚ) (s : State) : Prop
    extends Admitted config process now s where
  poll : Holds s.2.file "next_poll" (now + (config process).pollInterval)

/-- … and its login, if it needs one. -/
structure Secured (config : ℕ → Config) (process : ℕ) (now : ℚ) (s : State) : Prop
    extends Reserved config process now s where
  login : s.1.engine = false → Holds s.2.file "next_login" (now + loginInterval)

/-- A poll with an engine, which it may have constructed. -/
structure Armed (config : ℕ → Config) (process : ℕ) (now : ℚ) (s : State) : Prop
    extends Working config process now s where
  spaced : ∀ q before found, .polled q before found ∈ s.2.trace →
    before + (config q).pollInterval ≤ now
  poll : Holds s.2.file "next_poll" (now + (config process).pollInterval)
  login : ∀ q found, .constructed q now found ∈ s.2.trace →
    Holds s.2.file "next_login" (now + loginInterval)

section Knowledge

variable {config : ℕ → Config} {process : ℕ} {now : ℚ} {s : State}

theorem Owns.stable : Stable process (Owns process) :=
  stable_of_holder (fun _ owns => owns.holder) fun _ _ _ owns =>
    ⟨owns.holder, owns.started, owns.data⟩

theorem Working.stable : Stable process (Working config process now) :=
  stable_of_holder (fun _ working => working.holder) fun _ _ later working =>
    ⟨⟨working.holder, working.started, working.data⟩, working.past.trans later, working.uses,
      working.unblocked⟩

theorem Admitted.later {clock : Clock} (later : s.2.wall ≤ clock.wall)
    (admitted : Admitted config process now s) :
    Admitted config process now (s.1, { s.2 with clock := clock }) :=
  ⟨⟨admitted.holder, admitted.started, admitted.data⟩, admitted.past.trans later, admitted.spaced,
    admitted.logins, admitted.unblocked⟩

theorem Admitted.stable : Stable process (Admitted config process now) :=
  stable_of_holder (fun _ admitted => admitted.holder) fun _ _ later admitted =>
    admitted.later later

theorem Reserved.stable : Stable process (Reserved config process now) :=
  stable_of_holder (fun _ reserved => reserved.holder) fun _ _ later reserved =>
    ⟨reserved.toAdmitted.later later, reserved.poll⟩

theorem Secured.stable : Stable process (Secured config process now) :=
  stable_of_holder (fun _ secured => secured.holder) fun _ _ later secured =>
    ⟨⟨secured.toAdmitted.later later, secured.poll⟩, secured.login⟩

theorem Armed.stable : Stable process (Armed config process now) :=
  stable_of_holder (fun _ armed => armed.holder) fun _ _ later armed =>
    ⟨⟨⟨armed.holder, armed.started, armed.data⟩, armed.past.trans later, armed.uses,
      armed.unblocked⟩, armed.spaced, armed.poll, armed.login⟩

/-- The holder may do anything to the file but delete it. -/
theorem Owns.may (owns : Owns process s) {host : Host} (wall : host.wall = s.2.wall)
    (kept : host.file = none → s.2.file = none) : ∀ q, q ≠ process → Rely q s.2 host :=
  fun _ differs => .of_holder differs owns.holder wall.ge kept

end Knowledge

end DbusEv.Evcc
