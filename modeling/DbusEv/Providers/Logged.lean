/-
**The evcc client with a log** of what its engine replied and what it recorded.

The programs of `EvccClient` again, with notes at the steps that matter: the reply of the engine, a
save that raises, a failure or a reading that was saved. `forgets_poll` and `forgets_run` say that
they do, step by step, what the client does; one client runs at a time, as often as it is started.

* `Note` — what is written down.
* `Logged.failure` … `Logged.poll` — the programs.
* `Records` — the log of a run beside its host.
-/

import DbusEv.Lib.Watch
import DbusEv.Providers.Evcc

set_option autoImplicit false
set_option linter.unusedSectionVars false

namespace DbusEv.Evcc

open Thread

/-! ### The notes -/

/-- What is written down, newest first. -/
inductive Note
  /-- The engine replied; the saved state and the trace at that step. -/
  | answered (response data : Dict PyValue) (trace : List Event)
  /-- A save of these changes raised. -/
  | unsaved (changes : Dict PyValue)
  /-- `_failure(response)`, which read the clock at `recordedAt`, saved this state. -/
  | failed (recordedAt : ℚ) (response data : Dict PyValue) (trace : List Event)
  /-- The acquisition of a reading was saved. -/
  | succeeded
  /-- The process died. -/
  | died

/-- The host, with the log. -/
abbrev Records := Host × List Note

abbrev LoggedState := EvccClient × Records

/-- A program that keeps the log. -/
abbrev LoggedProgram (α : Type) := Thread Answer LoggedState PyError α

namespace Logged

/-- A program that notes nothing. -/
def quietly {α : Type} (x : Program α) : LoggedProgram α := x.watch fun _ _ _ => []

/-- `_save(**changes)`. -/
def save (changes : Dict PyValue) (saved : State → List Note) : LoggedProgram Unit :=
  (Evcc.save changes).watch fun answer _ after =>
    match answer.saves with
    | some _ => [.unsaved changes]
    | none => saved after

/-- `_save(**changes)` after a reading. -/
def saveReading (changes : Dict PyValue) : LoggedProgram Unit :=
  (Evcc.saveReading changes).watch fun answer _ _ =>
    match answer.saves with
    | some _ => [.unsaved changes]
    | none => [.succeeded]

/-- `self.engine.poll()`. -/
def askEngine (process : ℕ) (now : ℚ) : LoggedProgram (Dict PyValue) :=
  (Evcc.askEngine process now).watch fun answer _ after =>
    match answer.reply with
    | .error _ => []
    | .ok response => [.answered response after.1.data after.2.trace]

variable [PyText]

/-- `_failure(response)`. -/
def failure (config : Config) (guarded : Bool) (response : Dict PyValue) : LoggedProgram Unit := do
  let kind := (response.get "error").getD (.str "provider")
  let (client, _) ← quietly look
  let failures ← quietly (ofExcept (failureCount client.data))
  let retryAfter ← quietly (ofExcept (numberAt response "retry_after" atLeastZero))
  let (_, host) ← quietly look
  save [("next_poll", .float (.finite (host.wall + failureDelay config failures retryAfter))),
    ("failures", .int failures), ("blocked", .bool (needsOperator kind))]
    fun after => [.failed host.wall response after.1.data after.2.trace]
  if needsOperator kind || isRateLimit kind then quietly (stopEngine guarded) else pure ()

/-- What the `try` of `_poll_engine` does with a reading. -/
def takeReading (config : Config) (startedAt now : ℚ) (data : Dict PyValue) :
    LoggedProgram Unit := do
  let candidate ← quietly (ofExcept (normalize data config.vin config.capacity config.home))
  match candidate.soc with
  | none => Thread.raise .value
  | some _ => do
    quietly (alter (acquired startedAt now candidate))
    let (_, host) ← quietly look
    saveReading
      [("failures", .int 0), ("next_poll", .float (.finite (host.wall + config.pollInterval)))]

/-- What the `try` of `_poll_engine` does with a reply. -/
def takeReply (config : Config) (startedAt now : ℚ) (response : Dict PyValue) :
    LoggedProgram Unit :=
  match readingOf response with
  | some data => takeReading config startedAt now data
  | none => failure config true response

/-- The `try` of `_poll_engine`. -/
def useEngine (config : Config) (process : ℕ) (startedAt now : ℚ) : LoggedProgram Unit := do
  quietly (ensureEngine process now)
  let response ← askEngine process now
  takeReply config startedAt now response

/-- The handler of `_poll_engine`. -/
def engineFailed (config : Config) (e : PyError) : Option (LoggedProgram Unit) :=
  if isCaught e then
    some do
      quietly (stopEngine false)
      failure config false [("error", .str "transport")]
  else none

/-- `if self.engine is None: self._save(next_login=…)`. -/
def reserveLogin (now : ℚ) : LoggedProgram Unit := do
  let (client, _) ← quietly look
  if client.engine then pure ()
  else save [("next_login", .float (.finite (now + loginInterval)))] fun _ => []

/-- `_poll_engine(now)`. -/
def pollEngine (config : Config) (process : ℕ) (now : ℚ) : LoggedProgram Unit := do
  save [("next_poll", .float (.finite (now + config.pollInterval)))] fun _ => []
  reserveLogin now
  let (_, host) ← quietly look
  (useEngine config process host.mono now).handle (engineFailed config)

/-- `if …: self._poll_engine(now)`. -/
def pollIfAdmitted (config : Config) (process : ℕ) (admitted : Bool) (now : ℚ) :
    LoggedProgram Unit :=
  if admitted then pollEngine config process now else pure ()

/-- `poll()`. -/
def poll (config : Config) (process : ℕ) : LoggedProgram Polled := do
  quietly (start process)
  let (client, host) ← quietly look
  let admitted ← quietly (ofExcept (client.admits host.wall))
  pollIfAdmitted config process admitted host.wall
  let (client, host) ← quietly look
  pure (client.polled config host.mono)

/-! ### The log changes nothing -/

theorem forgets_quietly {α : Type} (x : Program α) : Forgets (quietly x) x := forgets_watch _ x

theorem forgets_save (changes : Dict PyValue) (saved : State → List Note) :
    Forgets (save changes saved) (Evcc.save changes) := forgets_watch _ _

theorem forgets_failure (config : Config) (guarded : Bool) (response : Dict PyValue) :
    Forgets (failure config guarded response) (Evcc.failure config guarded response) := by
  unfold failure Evcc.failure
  refine forgets_bind (forgets_quietly _) fun before => ?_
  refine forgets_bind (forgets_quietly _) fun failures => ?_
  refine forgets_bind (forgets_quietly _) fun retryAfter => ?_
  refine forgets_bind (forgets_quietly _) fun then_ => ?_
  refine forgets_bind (forgets_save _ _) fun _ => ?_
  exact forgets_ite (forgets_quietly _) (forgets_pure ())

theorem forgets_takeReading (config : Config) (startedAt now : ℚ) (data : Dict PyValue) :
    Forgets (takeReading config startedAt now data)
      (Evcc.takeReading config startedAt now data) := by
  unfold takeReading Evcc.takeReading
  refine forgets_bind (forgets_quietly _) fun candidate => ?_
  cases candidate.soc with
  | none => exact forgets_raise _
  | some soc =>
    refine forgets_bind (forgets_quietly _) fun _ => ?_
    refine forgets_bind (forgets_quietly _) fun then_ => ?_
    exact forgets_watch _ _

theorem forgets_takeReply (config : Config) (startedAt now : ℚ) (response : Dict PyValue) :
    Forgets (takeReply config startedAt now response)
      (Evcc.takeReply config startedAt now response) := by
  unfold takeReply Evcc.takeReply
  cases readingOf response with
  | none => exact forgets_failure config true response
  | some data => exact forgets_takeReading config startedAt now data

theorem forgets_engineFailed (config : Config) (e : PyError) :
    Option.Rel Forgets (engineFailed config e) (Evcc.engineFailed config e) := by
  unfold engineFailed Evcc.engineFailed
  by_cases caught : isCaught e = true
  · rw [if_pos caught, if_pos caught]
    exact .some (forgets_bind (forgets_quietly _) fun _ => forgets_failure config false _)
  · rw [if_neg caught, if_neg caught]
    exact .none

theorem forgets_pollEngine (config : Config) (process : ℕ) (now : ℚ) :
    Forgets (pollEngine config process now) (Evcc.pollEngine config process now) := by
  unfold pollEngine Evcc.pollEngine
  refine forgets_bind (forgets_save _ _) fun _ => ?_
  refine forgets_bind ?_ fun _ => forgets_bind (forgets_quietly _) fun before => ?_
  · unfold reserveLogin Evcc.reserveLogin
    refine forgets_bind (forgets_quietly _) fun before => ?_
    exact forgets_ite (forgets_pure ()) (forgets_save _ _)
  · refine forgets_handle ?_ (forgets_engineFailed config)
    unfold useEngine Evcc.useEngine
    refine forgets_bind (forgets_quietly _) fun _ => ?_
    exact forgets_bind (forgets_watch _ _) fun response =>
      forgets_takeReply config _ now response

/-- **A poll with the log** does what the client does. -/
theorem forgets_poll (config : Config) (process : ℕ) :
    Forgets (poll config process) (Evcc.poll config process) := by
  unfold poll Evcc.poll
  refine forgets_bind (forgets_quietly _) fun _ => ?_
  refine forgets_bind (forgets_quietly _) fun before => ?_
  refine forgets_bind (forgets_quietly _) fun admitted => ?_
  refine forgets_bind ?_ fun _ => forgets_bind (forgets_quietly _) fun after => forgets_pure _
  unfold pollIfAdmitted Evcc.pollIfAdmitted
  exact forgets_ite (forgets_pollEngine config process _) (forgets_pure ())

end Logged

/-! ### What a client relies on -/

namespace Logged

/-- Time passes, and nothing else happens. -/
def Waits (s t : Records) : Prop :=
  ∃ clock : Clock, s.1.wall ≤ clock.wall ∧ t = ({ s.1 with clock := clock }, s.2)

theorem Waits.refl (s : Records) : Waits s s := ⟨s.1.clock, le_rfl, rfl⟩

theorem Waits.trans {s t u : Records} (first : Waits s t) (second : Waits t u) : Waits s u := by
  obtain ⟨_, later, rfl⟩ := first
  obtain ⟨clock, latest, rfl⟩ := second
  exact ⟨clock, later.trans latest, rfl⟩

theorem Waits.elapse (s : Records) (mono wall : ℚ≥0) : Waits s (s.1.elapse mono wall, s.2) := by
  refine ⟨_, ?_, rfl⟩
  show (s.1.clock.wall : ℚ) ≤ ((s.1.clock.wall + wall : ℚ≥0) : ℚ)
  rw [NNRat.coe_add]
  exact le_add_of_nonneg_right wall.coe_nonneg

/-- The law of the client, which keeps `I`. -/
def law (I : Records → Prop) : Law LoggedState where
  rely s t := t.1 = s.1 ∧ Waits s.2 t.2
  may _ _ := True
  inv s := I s.2

/-- An assertion that no clock disturbs. -/
def Stable (P : LoggedState → Prop) : Prop := ∀ s t, t.1 = s.1 → Waits s.2 t.2 → P s → P t

theorem stable_of_clock {P : LoggedState → Prop}
    (later : ∀ (own : EvccClient) (host : Host) (log : List Note) (clock : Clock),
      host.wall ≤ clock.wall → P (own, host, log) → P (own, { host with clock := clock }, log)) :
    Stable P := by
  rintro s t own ⟨clock, after, moved⟩ holds
  have same : t = (s.1, { s.2.1 with clock := clock }, s.2.2) := Prod.ext own moved
  rw [same]
  exact later s.1 s.2.1 s.2.2 clock after holds

section Rules

variable {I : Records → Prop} {P : LoggedState → Prop} {s : LoggedState} {α : Type}

/-- A step of the client. -/
theorem wp_step {x : Answer → Exec State PyError α} {note : Answer → State → State → List Note}
    {Q : α → LoggedState → Prop} {X : PyError → LoggedState → Prop} (stable : Stable P)
    (holds : P s) (next : ∀ t, P t → I t.2 → ∀ answer,
      let after := fun u : State => (u.1, u.2, note answer (unlogged t) u ++ t.2.2)
      Exec.wp (x answer) (fun value u => I (after u).2 ∧ Q value (after u))
        (fun e u => I (after u).2 ∧ X e (after u)) (unlogged t)) :
    wp (law I) ((atomic x).watch note) Q X s := by
  rw [wp_watch_atomic]
  rintro t ⟨own, others⟩ inv answer
  exact Exec.wp_mono (next t (stable s t own others holds) inv answer)
    (fun _ _ both => ⟨both.1, trivial, both.2⟩) fun _ _ both => ⟨both.1, trivial, both.2⟩

theorem wp_look {f : State → LoggedProgram α} {Q : α → LoggedState → Prop}
    {X : PyError → LoggedState → Prop} (stable : Stable P) (holds : P s)
    (next : ∀ t, P t → I t.2 → wp (law I) (f (unlogged t)) Q X t) :
    wp (law I) (quietly look >>= f) Q X s := by
  rw [wp_bind]
  exact wp_step stable holds fun t there inv _ => ⟨inv, next t there inv⟩

/-- A program that reads the state first. -/
theorem wp_quietly_look {f : State → Program α} {Q : α → LoggedState → Prop}
    {X : PyError → LoggedState → Prop} (stable : Stable P) (holds : P s)
    (next : ∀ t, P t → I t.2 → wp (law I) (quietly (f (unlogged t))) Q X t) :
    wp (law I) (quietly (look >>= f)) Q X s := by
  unfold quietly
  rw [watch_bind]
  exact wp_look stable holds next

theorem wp_alter {f : State → State} {Q : Unit → LoggedState → Prop}
    {X : PyError → LoggedState → Prop} (stable : Stable P) (holds : P s)
    (next : ∀ t, P t → I t.2 → I ((f (unlogged t)).2, t.2.2) ∧
      Q () ((f (unlogged t)).1, (f (unlogged t)).2, t.2.2)) :
    wp (law I) (quietly (alter f)) Q X s :=
  wp_step stable holds fun t there inv _ => next t there inv

/-- A call that raises leaves everything as it was. -/
theorem wp_attempt {raises : Answer → Option PyError} {f : State → State}
    {Q : Unit → LoggedState → Prop} {X : PyError → LoggedState → Prop} (stable : Stable P)
    (holds : P s) (next : ∀ t, P t → I t.2 → I ((f (unlogged t)).2, t.2.2) ∧
      Q () ((f (unlogged t)).1, (f (unlogged t)).2, t.2.2)) (raised : ∀ e t, P t → X e t) :
    wp (law I) (quietly (attempt raises f)) Q X s := by
  refine wp_step stable holds fun t there inv answer => ?_
  cases raises answer with
  | none => exact next t there inv
  | some e => exact ⟨inv, raised e t there⟩

theorem wp_ofExcept {value : Except PyError α} {Q : α → LoggedState → Prop}
    {X : PyError → LoggedState → Prop} :
    wp (law I) (quietly (ofExcept value)) Q X s ↔
      match value with
      | .ok value => Q value s
      | .error e => X e s := by
  cases value <;> exact Iff.rfl

/-- A save, or the note that it raised. -/
theorem wp_save {changes : Dict PyValue} {saved : State → List Note}
    {Q : Unit → LoggedState → Prop} {X : PyError → LoggedState → Prop} (stable : Stable P)
    (holds : P s)
    (next : ∀ t, P t → I t.2 →
      let after := stored (t.1.data.update changes) (unlogged t)
      I (after.2, saved after ++ t.2.2) ∧ Q () (after.1, after.2, saved after ++ t.2.2))
    (raised : ∀ e t, P t → I t.2 →
      I (t.2.1, .unsaved changes :: t.2.2) ∧ X e (t.1, t.2.1, .unsaved changes :: t.2.2)) :
    wp (law I) (save changes saved) Q X s := by
  refine wp_step stable holds fun t there inv answer => ?_
  cases failed : answer.saves with
  | none => exact next t there inv
  | some e => exact raised e t there inv

/-- The save of a reading. -/
theorem wp_saveReading {changes : Dict PyValue} {Q : Unit → LoggedState → Prop}
    {X : PyError → LoggedState → Prop} (stable : Stable P) (holds : P s)
    (next : ∀ t, P t → I t.2 →
      let after := stored (t.1.data.update changes) (unlogged t)
      I (after.2, .succeeded :: t.2.2) ∧ Q () (after.1, after.2, .succeeded :: t.2.2))
    (raised : ∀ e t, P t → I t.2 →
      let after := t.2.1.note (.unsaved e)
      I (after, .unsaved changes :: t.2.2) ∧ X e (t.1, after, .unsaved changes :: t.2.2)) :
    wp (law I) (saveReading changes) Q X s := by
  refine wp_step stable holds fun t there inv answer => ?_
  cases failed : answer.saves with
  | none => exact next t there inv
  | some e => exact raised e t there inv

/-- Stopping an engine. -/
theorem wp_stopEngine {guarded : Bool} {Q : Unit → LoggedState → Prop}
    {X : PyError → LoggedState → Prop} (stable : Stable P) (holds : P s)
    (none : ∀ t, P t → Q () t)
    (stopped : ∀ t, P t → I t.2 → Q () ({ t.1 with engine := false }, t.2))
    (raised : ∀ e t, P t → I t.2 →
      let after := t.2.1.note (.stopRaised guarded (blocked t.1.data) e)
      I (after, t.2.2) ∧ X e (t.1, after, t.2.2)) :
    wp (law I) (quietly (stopEngine guarded)) Q X s := by
  have closes : ∀ t, P t → wp (law I) (quietly (closeEngine guarded)) Q X t := by
    intro t there
    refine wp_step stable there fun u there inv answer => ?_
    cases answer.closes with
    | none => exact ⟨inv, stopped u there inv⟩
    | some e => exact raised e u there inv
  unfold stopEngine
  refine wp_quietly_look stable holds fun t there _ => ?_
  show wp (law I) (quietly (if t.1.engine = true then _ else _)) Q X t
  split
  · exact closes t there
  · exact none t there

/-- Starting an engine, if there is none. -/
theorem wp_ensureEngine {process : ℕ} {now : ℚ} {Q : Unit → LoggedState → Prop}
    {X : PyError → LoggedState → Prop} (stable : Stable P) (holds : P s)
    (running : ∀ t, P t → I t.2 → Q () t)
    (built : ∀ t, P t → I t.2 → ∀ engine,
      let after := t.2.1.note (.constructed process now t.2.1.file)
      let own : EvccClient := { t.1 with engine := engine }
      I (after, t.2.2) ∧ Q () (own, after, t.2.2) ∧ ∀ e, X e (own, after, t.2.2)) :
    wp (law I) (quietly (ensureEngine process now)) Q X s := by
  unfold ensureEngine
  refine wp_quietly_look stable holds fun t there inv => ?_
  show wp (law I) (quietly (if t.1.engine = true then _ else _)) Q X t
  split
  · exact running t there inv
  · refine wp_step stable there fun u there inv answer => ?_
    simp only [Exec.wp_bind, Exec.wp_change]
    cases answer.builds with
    | none => exact ⟨(built u there inv true).1, (built u there inv true).2.1⟩
    | some e => exact ⟨(built u there inv u.1.engine).1, (built u there inv u.1.engine).2.2 e⟩

/-- The engine is polled. -/
theorem wp_askEngine {process : ℕ} {now : ℚ} {Q : Dict PyValue → LoggedState → Prop}
    {X : PyError → LoggedState → Prop} (stable : Stable P) (holds : P s)
    (raised : ∀ e t, P t → I t.2 →
      let after := t.2.1.note (.polled process now t.2.1.file)
      I (after, t.2.2) ∧ X e (t.1, after, t.2.2))
    (replied : ∀ response t, P t → I t.2 →
      let after := t.2.1.note (.polled process now t.2.1.file)
      let log := .answered response t.1.data after.trace :: t.2.2
      I (after, log) ∧ Q response (t.1, after, log)) :
    wp (law I) (askEngine process now) Q X s := by
  refine wp_step stable holds fun t there inv answer => ?_
  simp only [Exec.wp_bind, Exec.wp_change]
  cases answer.reply with
  | error e => exact raised e t there inv
  | ok response => exact replied response t there inv

end Rules

/-! ### Between two calls -/

/-- The client started, and its data is that on disk. -/
structure Owns (s : LoggedState) : Prop where
  started : s.1.started = true
  data : s.1.data = s.2.1.file.getD []

/-- What neither the clock nor the lock changes. -/
def Lockless (R : Records → Prop) : Prop :=
  ∀ host log clock holder, R (host, log) → R ({ host with clock := clock, holder := holder }, log)

/-- A client at rest, in `R`: its data is that on disk, or will be when it starts. -/
structure AtRest (R : Records → Prop) (s : LoggedState) : Prop where
  rest : R s.2
  data : s.1.started = true ∨ s.2.1.file = none → s.1.data = s.2.1.file.getD []

section Rest

variable {I R : Records → Prop} {s : LoggedState}

theorem Lockless.waits (lockless : Lockless R) {s t : Records} (waits : Waits s t) (holds : R s) :
    R t := by
  obtain ⟨clock, -, rfl⟩ := waits
  exact lockless s.1 s.2 clock s.1.holder holds

theorem Owns.atRest (owns : Owns s) (rest : R s.2) : AtRest R s := ⟨rest, fun _ => owns.data⟩

theorem AtRest.stable (lockless : Lockless R) : Stable (AtRest R) := by
  rintro s t own waits ⟨rest, data⟩
  refine ⟨lockless.waits waits rest, fun known => ?_⟩
  obtain ⟨clock, -, moved⟩ := waits
  rw [own, moved] at known ⊢
  exact data known

/-- A client that has not started yet. -/
structure Starting (R : Records → Prop) (s : LoggedState) : Prop extends AtRest R s where
  stopped : s.1.started = false

theorem Starting.stable (lockless : Lockless R) : Stable (Starting R) :=
  fun s t own waits starting =>
    ⟨AtRest.stable lockless s t own waits starting.toAtRest, own ▸ starting.stopped⟩

/-- The lock changes hands. -/
theorem Starting.lock (lockless : Lockless R) (starting : Starting R s) (holder : Option ℕ) :
    Starting R (s.1, { s.2.1 with holder := holder }, s.2.2) :=
  ⟨⟨lockless _ _ s.2.1.clock holder starting.rest, starting.data⟩, starting.stopped⟩

/-- The state file is read again. -/
theorem Starting.reload (starting : Starting R s) {t : State} (read : t = reload (unlogged s)) :
    Starting R (t.1, t.2, s.2.2) ∧ t.1.data = t.2.file.getD [] := by
  unfold Evcc.reload at read
  cases saved : s.2.1.file with
  | none =>
    rw [saved] at read
    subst read
    exact ⟨starting, starting.data (.inr saved)⟩
  | some data =>
    rw [saved] at read
    subst read
    have same : data = s.2.1.file.getD [] := by
      rw [saved]
      rfl
    exact ⟨⟨⟨starting.rest, fun _ => same⟩, starting.stopped⟩, same⟩

variable {process : ℕ}

/-- **`store.acquire`**: the data is that on disk. -/
theorem wp_acquire (lockless : Lockless R) (kept : ∀ s, R s → I s) (starting : Starting R s) :
    wp (law I) (quietly (acquire process))
      (fun _ t => Starting R t ∧ t.1.data = t.2.1.file.getD []) (fun _ => Starting R) s := by
  have stable := Starting.stable lockless
  unfold acquire quietly
  rw [watch_bind, wp_bind]
  refine wp_attempt stable starting (fun t starting _ => ?_) fun _ _ starting => starting
  have unlocked := starting.lock lockless (t.2.1.release process).holder
  refine ⟨kept _ unlocked.rest, ?_⟩
  rw [watch_bind, wp_bind]
  have locked : wp (law I) (quietly (flock process)) (fun _ => Starting R) (fun _ => Starting R)
      (t.1, t.2.1.release process, t.2.2) := by
    refine wp_step stable unlocked fun u starting inv _ => ?_
    rw [Exec.wp_bind, Exec.wp_read]
    cases free : u.2.1.holder with
    | some other =>
      simp only [free]
      exact ⟨inv, starting⟩
    | none =>
      have mine := starting.lock lockless (some process)
      simp only [free]
      exact ⟨kept _ mine.rest, mine⟩
  refine wp_value locked fun _ u starting => ?_
  refine wp_attempt stable starting (fun v starting inv => ?_) fun _ _ starting => starting
  obtain ⟨reloaded, data⟩ := starting.reload rfl
  exact ⟨kept _ reloaded.rest, reloaded, data⟩

/-- **`start`**: a client that started has the data on disk. -/
theorem wp_start (lockless : Lockless R) (kept : ∀ s, R s → I s) (rest : AtRest R s) :
    wp (law I) (quietly (start process)) (fun _ t => Owns t ∧ R t.2) (fun _ => AtRest R) s := by
  unfold start
  refine wp_quietly_look (AtRest.stable lockless) rest fun t rest _ => ?_
  show wp (law I) (quietly (if t.1.started = true then _ else _)) _ _ t
  split
  · rename_i started
    exact ⟨⟨started, rest.data (.inl started)⟩, rest.rest⟩
  · rename_i stopped
    have starting : Starting R t := ⟨rest, Bool.eq_false_iff.mpr stopped⟩
    unfold quietly
    rw [watch_bind, wp_bind]
    refine wp_mono (wp_acquire lockless kept starting) (fun _ u loaded => ?_)
      fun _ _ starting => starting.toAtRest
    have stable : Stable fun u => Starting R u ∧ u.1.data = u.2.1.file.getD [] := by
      rintro u v own waits ⟨starting, data⟩
      refine ⟨Starting.stable lockless u v own waits starting, ?_⟩
      obtain ⟨clock, -, moved⟩ := waits
      rw [own, moved]
      exact data
    exact wp_alter stable loaded fun v loaded inv => ⟨inv, ⟨rfl, loaded.2⟩, loaded.1.rest⟩

/-- **`close`**, from rest to rest. -/
theorem wp_close (lockless : Lockless R) (kept : ∀ s, R s → I s)
    (noted : ∀ s shut e, R s → R (s.1.note (.stopRaised false shut e), s.2))
    (rest : AtRest R s) :
    wp (law I) (quietly (close process)) (fun _ => AtRest R) (fun _ => AtRest R) s := by
  have stable := AtRest.stable lockless
  unfold close quietly
  rw [watch_bind, wp_bind]
  have stops : wp (law I) (quietly (stopEngine false)) (fun _ => AtRest R)
      (fun _ => AtRest R) s := by
    refine wp_stopEngine stable rest (fun _ rest => rest) (fun t rest _ => ?_) fun e t rest _ => ?_
    · exact ⟨rest.rest, rest.data⟩
    · have holds := noted t.2 (blocked t.1.data) e rest.rest
      exact ⟨kept _ holds, holds, rest.data⟩
  refine wp_value stops fun _ t rest => wp_alter stable rest fun u rest _ => ?_
  have holds := lockless _ _ u.2.1.clock (u.2.1.release process).holder rest.rest
  refine ⟨kept _ holds, holds, fun known => ?_⟩
  cases known with
  | inl started => cases started
  | inr gone => exact rest.data (.inr gone)

end Rest

end Logged

/-! ### One client at a time -/

variable [PyText]

/-- One client of the state file. -/
def client (config : Config) : Service Unit Call Passing Answer EvccClient Host PyError where
  launch _ host := EvccClient.new host
  program _ := (service fun _ => config).program 0
  crash _ host := host.release 0
  world := (service fun _ => config).world

/-- What it runs, with the log. -/
def Logged.program (config : Config) : Call → LoggedProgram Unit
  | .poll => do
    let _ ← Logged.poll config 0
    pure ()
  | .close => Logged.quietly (close 0)

/-- A run of the client, with its log. -/
def records (config : Config) (clock : Clock) (file : Option (Dict PyValue))
    (moves : List (Move Unit Call Passing Answer)) : Records :=
  (((client config).logged (fun _ => Logged.program config) [.died]).run
    (⟨clock, file, none, []⟩, []) moves).shared

/-- **Without its log**, a run is a run of the client. -/
theorem records_host (config : Config) (clock : Clock) (file : Option (Dict PyValue))
    (moves : List (Move Unit Call Passing Answer)) :
    (records config clock file moves).1 =
      ((client config).run ⟨clock, file, none, []⟩ moves).shared := by
  refine ((client config).forgets_run (fun _ program => ?_) _ moves).shared
  cases program with
  | poll => exact forgets_bind (Logged.forgets_poll config 0) fun _ => forgets_pure ()
  | close => exact Logged.forgets_quietly _

/-! ### What holds in every run -/

/-- What the client keeps in every run: `inv` at each step, `rest` between two calls, `vacant` when
no process lives. -/
structure Conduct (config : Config) where
  inv : Records → Prop
  rest : Records → Prop
  vacant : Records → Prop
  kept : ∀ s, rest s → inv s
  lockless : Logged.Lockless rest
  waits : Logged.Lockless inv
  empty : Logged.Lockless vacant
  noted : ∀ s shut e, rest s → rest (s.1.note (.stopRaised false shut e), s.2)
  launch : ∀ s, vacant s → rest s
  crash : ∀ s, inv s → inv (s.1.release 0, .died :: s.2) ∧ vacant (s.1.release 0, .died :: s.2)
  poll : ∀ s, Logged.AtRest rest s → wp (Logged.law inv) (Logged.poll config 0)
    (fun _ => Logged.AtRest rest) (fun _ => Logged.AtRest rest) s

/-- The law of the client. -/
def Conduct.solo {config : Config} (conduct : Conduct config) :
    Solo ((client config).logged (fun _ => Logged.program config) [.died]) where
  rely := Logged.Waits
  inv := conduct.inv
  vacant := conduct.vacant
  idle := Logged.AtRest conduct.rest
  rely_refl := Logged.Waits.refl
  rely_trans := Logged.Waits.trans
  vacant_stable waits vacant := conduct.empty.waits waits vacant
  idle_stable {own s t} waits rest :=
    Logged.AtRest.stable conduct.lockless (own, s) (own, t) rfl waits rest
  launch {s} vacant := ⟨conduct.launch s vacant, fun _ => rfl⟩
  call {state} program rest := by
    cases program with
    | poll =>
      show wp (Logged.law conduct.inv) (Logged.poll config 0 >>= fun _ => pure ()) _ _ _
      rw [wp_bind]
      exact wp_value (conduct.poll state rest) fun _ _ rest => rest
    | close => exact Logged.wp_close conduct.lockless conduct.kept conduct.noted rest
  crash {s} inv := conduct.crash s inv
  world {s} passing inv :=
    have elapsed := Logged.Waits.elapse s passing.mono passing.wall
    ⟨conduct.waits.waits elapsed inv, elapsed⟩

/-- **In every run** the client keeps what it keeps in each step. -/
theorem Conduct.keeps {config : Config} (conduct : Conduct config) {clock : Clock}
    {file : Option (Dict PyValue)} (inv : conduct.inv (⟨clock, file, none, []⟩, []))
    (vacant : conduct.vacant (⟨clock, file, none, []⟩, []))
    (moves : List (Move Unit Call Passing Answer)) :
    conduct.inv (records config clock file moves) := conduct.solo.keeps inv vacant moves

end DbusEv.Evcc
