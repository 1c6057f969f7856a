/-
**Upstream pacing of the evcc clients**, for every run of any number of processes.

Every program of a process is run symbolically under its law, from what it knows before to what it
knows after. The pacing holds in every run; the latch holds as long as no engine that `_failure`
stops in the `try` of `_poll_engine` raises an exception the handler catches (`upstream_paced`).
Such an exception lets the handler save `blocked=False` (`block_lifted`).
-/

import DbusEv.Providers.Pacing

set_option autoImplicit false
set_option linter.unusedSectionVars false

namespace DbusEv.Evcc

open Thread

/-- What a failed step in the `try` leaves: if its exception is caught, the handler may work on. -/
def Fails (config : ℕ → Config) (process : ℕ) (now : ℚ) (e : PyError) (s : State) : Prop :=
  Owns process s ∧ (isCaught e = true → Working config process now s)

/-- A process with nothing to run. -/
structure Idle (process : ℕ) (s : State) : Prop where
  owns : s.1.started = true → Owns process s
  engine : s.1.engine = true → s.1.started = true
  data : s.2.file = none → s.1.data = []

section Saves

variable {config : ℕ → Config} {process : ℕ} {now : ℚ} {s : State}

theorem Working.fails (working : Working config process now s) (e : PyError) :
    Fails config process now e s := ⟨working.toOwns, fun _ => working⟩

theorem Owns.idle (owns : Owns process s) : Idle process s :=
  ⟨fun _ => owns, fun _ => owns.started, fun gone => by rw [owns.data, gone]; rfl⟩

theorem Idle.stable : Stable process (Idle process) := by
  rintro ⟨own, host⟩ ⟨_, host'⟩ rfl others idle
  refine ⟨fun started => ?_, idle.engine, fun gone => idle.data (others.kept gone)⟩
  exact Owns.stable (_, host) (_, host') rfl others (idle.owns started)

/-- What an admitted poll has to bar. -/
theorem Admitted.working (admitted : Admitted config process now s) :
    Working config process now s :=
  ⟨admitted.toOwns, admitted.past, fun event found q before used =>
    (admitted.spaced event found q before used).trans
      (le_add_of_nonneg_right (config process).pollInterval_pos.le), admitted.unblocked⟩

/-! ### Saves -/

theorem blocked_update {data changes : Dict PyValue}
    (other : (data.update changes).get "blocked" = data.get "blocked")
    (open_ : blocked data = false) : blocked (data.update changes) = false := by
  unfold blocked at *
  rw [other, open_]

/-- A save of the state. -/
theorem wp_save {P : State → Prop} {changes : Dict PyValue} {Q : Unit → State → Prop}
    {X : PyError → State → Prop} (stable : Stable process P) (owns : ∀ t, P t → Owns process t)
    (holds : P s) (written : ∀ t, P t → Kept config t.2 →
      Kept config (stored (t.1.data.update changes) t).2 ∧
        Q () (stored (t.1.data.update changes) t))
    (raised : ∀ e t, P t → X e t) : wp (law config process) (save changes) Q X s := by
  unfold save
  refine wp_attempt stable holds (fun t there kept => ?_) raised
  obtain ⟨stored, done⟩ := written t there kept
  exact ⟨stored, (owns t there).may rfl nofun, done⟩

theorem Owns.stored (owns : Owns process s) (data : Dict PyValue) : Owns process (stored data s) :=
  ⟨owns.holder, owns.started, rfl⟩

theorem Unblocked.stored (unblocked : Unblocked s) {data : Dict PyValue}
    (same : blocked s.1.data = false → blocked data = false) : Unblocked (stored data s) := by
  intro quiet
  have quiet : StopsQuietly s.2.trace := fun e found => quiet e (List.mem_cons_of_mem _ found)
  obtain ⟨open_, saves⟩ := unblocked quiet
  refine ⟨same open_, fun other found => ?_⟩
  rcases List.mem_cons.mp found with rfl | found
  · exact same open_
  · exact saves other found

/-- A save after the admission: a poll that is late enough, and logins that are barred. -/
theorem Working.kept_stored (working : Working config process now s) (kept : Kept config s.2)
    {data : Dict PyValue} {next : ℚ} (poll : data.get "next_poll" = some (.float (.finite next)))
    (late : now + (config process).pollInterval ≤ next)
    (logins : ∀ q before found, .constructed q before found ∈ s.2.trace →
      Bars (some data) "next_login" (before + loginInterval)) : Kept config (stored data s).2 := by
  have holds : Holds (some data) "next_poll" next := poll
  refine kept.stored (fun event found q before used => ?_) logins fun quiet event found shut => ?_
  · exact holds.bars ((working.uses event found q before used).trans late)
  · rw [(working.unblocked quiet).2 event found] at shut
    cases shut

/-- A save that leaves `next_login` alone. -/
theorem Working.logins_same (working : Working config process now s) (kept : Kept config s.2)
    {data : Dict PyValue} (login : data.get "next_login" = s.1.data.get "next_login") :
    ∀ q before found, .constructed q before found ∈ s.2.trace →
      Bars (some data) "next_login" (before + loginInterval) := by
  intro q before file found
  refine (kept.logins q before file found).of_same ?_
  rw [← working.data]
  exact login

theorem Working.stored (working : Working config process now s) {data : Dict PyValue}
    (same : blocked s.1.data = false → blocked data = false) :
    Working config process now (stored data s) := by
  refine ⟨working.toOwns.stored data, working.past, fun event found => ?_,
    working.unblocked.stored same⟩
  rcases List.mem_cons.mp found with rfl | found
  · exact nofun
  · exact working.uses event found

theorem Admitted.stored (admitted : Admitted config process now s) {data : Dict PyValue}
    (same : blocked s.1.data = false → blocked data = false) :
    Admitted config process now (stored data s) := by
  refine ⟨admitted.toOwns.stored data, admitted.past, fun event found => ?_, fun none => ?_,
    admitted.unblocked.stored same⟩
  · rcases List.mem_cons.mp found with rfl | found
    · exact nofun
    · exact admitted.spaced event found
  · intro q before file found
    rcases List.mem_cons.mp found with same | found
    · cases same
    · exact admitted.logins none q before file found

/-- The reservation of a poll. -/
theorem wp_reservePoll {Q : Unit → State → Prop} {X : PyError → State → Prop}
    (admitted : Admitted config process now s) (done : ∀ t, Reserved config process now t → Q () t)
    (raised : ∀ e t, Owns process t → X e t) :
    wp (law config process)
      (save [("next_poll", .float (.finite (now + (config process).pollInterval)))]) Q X s := by
  refine wp_save Admitted.stable (fun _ admitted => admitted.toOwns) admitted
    (fun t admitted kept => ?_) fun e t admitted => raised e t admitted.toOwns
  have login : (t.1.data.update [("next_poll",
      .float (.finite (now + (config process).pollInterval)))]).get "next_login" =
        t.1.data.get "next_login" := by
    simp [Dict.update]
  exact ⟨admitted.working.kept_stored kept (by simp [Dict.update]) le_rfl
      (admitted.working.logins_same kept login),
    done _ ⟨admitted.stored (blocked_update (by simp [Dict.update])), by
      simp [Dict.update, Holds, stored]⟩⟩

/-- The reservation of a login, when the poll needs one. -/
theorem wp_reserveLogin {Q : Unit → State → Prop} {X : PyError → State → Prop}
    (reserved : Reserved config process now s) (done : ∀ t, Secured config process now t → Q () t)
    (raised : ∀ e t, Owns process t → X e t) :
    wp (law config process) (reserveLogin now) Q X s := by
  unfold reserveLogin
  rw [wp_bind]
  refine wp_look Reserved.stable reserved fun t reserved _ => ?_
  rw [wp_ite]
  refine ⟨fun engine => done t ⟨reserved, fun none => ?_⟩, fun _ => ?_⟩
  · rw [engine] at none
    cases none
  · rename_i vacant
    have absent : t.1.engine = false := Bool.eq_false_iff.mpr vacant
    refine wp_save (Reserved.stable.own fun own => own.engine = false)
      (fun _ both => both.1.toOwns) ⟨reserved, absent⟩ (fun u both kept => ?_)
      fun e u both => raised e u both.1.toOwns
    obtain ⟨reserved, absent⟩ := both
    have login : Holds (some (u.1.data.update [("next_login",
        .float (.finite (now + loginInterval)))])) "next_login" (now + loginInterval) := by
      simp [Dict.update, Holds]
    have poll : (u.1.data.update [("next_login", .float (.finite (now + loginInterval)))]).get
        "next_poll" = some (.float (.finite (now + (config process).pollInterval))) := by
      have before : u.1.data.get "next_poll" =
          some (.float (.finite (now + (config process).pollInterval))) := by
        rw [reserved.data]
        exact reserved.poll
      simp [Dict.update, before]
    have late : now ≤ now + loginInterval := le_add_of_nonneg_right (by norm_num [loginInterval])
    exact ⟨reserved.working.kept_stored kept poll le_rfl fun q before file found =>
        login.bars ((reserved.logins absent q before file found).trans late),
      done _ ⟨⟨reserved.stored (blocked_update (by simp [Dict.update])), poll⟩, fun _ => login⟩⟩

end Saves

/-! ### The engine -/

section Engine

variable {config : ℕ → Config} {process : ℕ} {now : ℚ} {s : State}

/-- An event of the process that is no save and leaves the block of a quiet run alone. -/
theorem Unblocked.note (unblocked : Unblocked s) {event : Event} {own : EvccClient}
    (same : own.data = s.1.data) (unsaved : event.blocks = false) :
    Unblocked (own, s.2.note event) := by
  intro quiet
  obtain ⟨open_, saves⟩ := unblocked fun e found => quiet e (List.mem_cons_of_mem _ found)
  refine ⟨by rw [← open_, same], fun other found => ?_⟩
  rcases List.mem_cons.mp found with rfl | found
  · exact unsaved
  · exact saves other found

theorem Owns.note (owns : Owns process s) (event : Event) {own : EvccClient}
    (data : own.data = s.1.data) (started : own.started = s.1.started) :
    Owns process (own, s.2.note event) :=
  ⟨owns.holder, started.trans owns.started, data.trans owns.data⟩

/-- An event of a working poll that is neither a use nor a save. -/
theorem Working.note (working : Working config process now s) {event : Event} {own : EvccClient}
    (data : own.data = s.1.data) (started : own.started = s.1.started) (unused : event.use = none)
    (unsaved : event.blocks = false) :
    Working config process now (own, s.2.note event) := by
  refine ⟨working.toOwns.note event data started, working.past, fun other found => ?_,
    working.unblocked.note data unsaved⟩
  rcases List.mem_cons.mp found with rfl | found
  · rw [unused]
    exact nofun
  · exact working.uses other found

/-- The use of an engine by a working poll. -/
theorem Working.use (working : Working config process now s) {event : Event} {own : EvccClient}
    (data : own.data = s.1.data) (started : own.started = s.1.started)
    (used : event.use = some (process, now)) (unsaved : event.blocks = false) :
    Working config process now (own, s.2.note event) := by
  refine ⟨working.toOwns.note event data started, working.past, fun other found q before use => ?_,
    working.unblocked.note data unsaved⟩
  rcases List.mem_cons.mp found with rfl | found
  · rw [used] at use
    cases use
    exact le_rfl
  · exact working.uses other found q before use

/-- **The use of an engine** is lawful when it is spaced, and its reservations are on disk. -/
theorem Kept.use (kept : Kept config s.2) (unblocked : Unblocked s) {event : Event}
    (used : event.use = some (process, now))
    (poll : Holds s.2.file "next_poll" (now + (config process).pollInterval))
    (login : ∀ q before file, event = .constructed q before file →
      Holds s.2.file "next_login" (now + loginInterval))
    (paced : Paced config event s.2.trace) : Kept config (s.2.note event) := by
  refine ⟨fun other found q before use => ?_, fun q before file found => ?_, ⟨paced, kept.paced⟩,
    fun quiet => ?_⟩
  · rcases List.mem_cons.mp found with rfl | found
    · rw [used] at use
      cases use
      exact poll.bars le_rfl
    · exact kept.polls other found q before use
  · rcases List.mem_cons.mp found with same | found
    · have holds := login q before file same.symm
      rw [← same] at used
      cases used
      exact holds.bars le_rfl
    · exact kept.logins q before file found
  · have quiet : StopsQuietly s.2.trace := fun e found => quiet e (List.mem_cons_of_mem _ found)
    obtain ⟨holds, last⟩ := kept.latched quiet
    have saves := (unblocked quiet).2
    refine ⟨⟨?_, holds⟩, fun other found shut => ?_⟩
    · cases event <;> first | exact saves | trivial
    · rcases List.mem_cons.mp found with rfl | found
      · cases other <;> first | cases shut | cases used
      · exact last other found shut

/-- `ensureEngine`: an engine is constructed under its reservation. -/
theorem wp_ensureEngine {Q : Unit → State → Prop} {X : PyError → State → Prop}
    (secured : Secured config process now s) (done : ∀ t, Armed config process now t → Q () t)
    (raised : ∀ e t, Working config process now t → X e t) :
    wp (law config process) (ensureEngine process now) Q X s := by
  have polled : ∀ t, Secured config process now t → ∀ q before found,
      .polled q before found ∈ t.2.trace → before + (config q).pollInterval ≤ now :=
    fun t secured q before found use => secured.spaced _ use q before rfl
  unfold ensureEngine
  rw [wp_bind]
  refine wp_look Secured.stable secured fun t secured _ => ?_
  rw [wp_ite]
  refine ⟨fun _ => done t ⟨secured.working, polled t secured, secured.poll, ?_⟩, fun vacant => ?_⟩
  · intro q found use
    have early : now + (config q).pollInterval ≤ now := secured.spaced _ use q now rfl
    exact absurd early (not_le.mpr (lt_add_of_pos_right now (config q).pollInterval_pos))
  · have absent : t.1.engine = false := Bool.eq_false_iff.mpr vacant
    unfold construct
    rw [wp_atomic]
    rintro u ⟨own, others⟩ kept answer
    have secured : Secured config process now u := Secured.stable t u own others secured
    have absent : u.1.engine = false := own ▸ absent
    have login := secured.login absent
    have paced : Paced config (.constructed process now u.2.file) u.2.trace :=
      ⟨secured.logins absent, secured.poll, login⟩
    have kept : Kept config (u.2.note (.constructed process now u.2.file)) :=
      kept.use secured.unblocked rfl secured.poll (fun _ _ _ _ => login) paced
    have may : ∀ q, q ≠ process → Rely q u.2 (u.2.note (.constructed process now u.2.file)) :=
      secured.toOwns.may rfl id
    rw [Exec.wp_bind, Exec.wp_change]
    rcases answer.builds with _ | e
    · refine ⟨kept, may, done _ ⟨secured.working.use rfl rfl rfl rfl, ?_, secured.poll,
        fun _ _ _ => login⟩⟩
      intro q before found use
      rcases List.mem_cons.mp use with same | use
      · cases same
      · exact polled u secured q before found use
    · exact ⟨kept, may, raised e _ (secured.working.use rfl rfl rfl rfl)⟩

/-- `engine.poll()`. -/
theorem wp_askEngine {Q : Dict PyValue → State → Prop} {X : PyError → State → Prop}
    (armed : Armed config process now s)
    (done : ∀ reply t, Working config process now t → Q reply t)
    (raised : ∀ e t, Working config process now t → X e t) :
    wp (law config process) (askEngine process now) Q X s := by
  unfold askEngine
  rw [wp_atomic]
  rintro t ⟨own, others⟩ kept answer
  have armed : Armed config process now t := Armed.stable s t own others armed
  have kept : Kept config (t.2.note (.polled process now t.2.file)) :=
    kept.use armed.unblocked rfl armed.poll nofun ⟨armed.spaced, armed.poll, armed.login⟩
  have may : ∀ q, q ≠ process → Rely q t.2 (t.2.note (.polled process now t.2.file)) :=
    armed.toOwns.may rfl id
  have working : Working config process now (t.1, t.2.note (.polled process now t.2.file)) :=
    armed.toWorking.use rfl rfl rfl rfl
  rw [Exec.wp_bind, Exec.wp_change]
  rcases answer.reply with e | reply
  · exact ⟨kept, may, raised e _ working⟩
  · exact ⟨kept, may, done reply _ working⟩

/-- `_stop_engine()`: the exception of an engine that does not close leaves a trace. -/
theorem wp_stopEngine {P : State → Prop} {guarded : Bool} {Q : Unit → State → Prop}
    {X : PyError → State → Prop} (stable : Stable process P)
    (owns : ∀ t, P t → t.1.engine = true → Owns process t) (holds : P s)
    (vacant : ∀ t, P t → t.1.engine = false → Q () t)
    (closed : ∀ t, P t → t.1.engine = true → Q () ({ t.1 with engine := false }, t.2))
    (raised : ∀ e t, P t → t.1.engine = true →
      X e (t.1, t.2.note (.stopRaised guarded (blocked t.1.data) e))) :
    wp (law config process) (stopEngine guarded) Q X s := by
  unfold stopEngine
  rw [wp_bind]
  refine wp_look stable holds fun t there _ => ?_
  rw [wp_ite]
  refine ⟨fun engine => ?_, fun absent => vacant t there (Bool.eq_false_iff.mpr absent)⟩
  unfold closeEngine
  rw [wp_atomic]
  rintro u ⟨own, others⟩ kept answer
  have there : P u := stable t u own others there
  have engine : u.1.engine = true := own ▸ engine
  rcases answer.closes with _ | e
  · exact ⟨kept, fun q _ => Rely.refl q u.2, closed u there engine⟩
  · have kept : Kept config (u.2.note (.stopRaised guarded (blocked u.1.data) e)) :=
      kept.note rfl rfl
    exact ⟨kept, (owns u there engine).may rfl id, raised e u there engine⟩

end Engine

/-! ### A failure, and a reading -/

section Polls

variable [PyText] {config : ℕ → Config} {process : ℕ} {now : ℚ} {s : State}

theorem le_failureDelay (config : Config) (failures : ℤ) (retryAfter : Option ℚ) :
    config.pollInterval ≤ failureDelay config failures retryAfter :=
  (le_max_left _ _).trans (le_max_left _ _)

/-- A poll whose failure was saved, with or without a block. -/
structure Failed (config : ℕ → Config) (process : ℕ) (now : ℚ) (kind : PyValue) (s : State) :
    Prop extends Owns process s where
  open_ : needsOperator kind = false → Working config process now s
  shut : needsOperator kind = true → blocked s.1.data = true
  past : now ≤ s.2.wall
  uses : ∀ event ∈ s.2.trace, ∀ q before, event.use = some (q, before) →
    before + (config q).pollInterval ≤ now + (config process).pollInterval

theorem Failed.stable {kind : PyValue} : Stable process (Failed config process now kind) := by
  rintro s t same others failed
  have owns := Owns.stable s t same others failed.toOwns
  obtain ⟨-, -, trace⟩ := others.mine failed.holder
  exact ⟨owns, fun open_ => Working.stable s t same others (failed.open_ open_),
    fun shut => same ▸ failed.shut shut, failed.past.trans others.wall, by
      rw [trace]
      exact failed.uses⟩

/-- The state after the save of a failure. -/
theorem Working.failed {kind : PyValue} (working : Working config process now s)
    {data : Dict PyValue} (block : blocked data = needsOperator kind) :
    Failed config process now kind (Evcc.stored data s) := by
  refine ⟨working.toOwns.stored data, fun open_ => working.stored fun _ => block.trans open_,
    fun shut => block.trans shut, working.past, fun event found => ?_⟩
  rcases List.mem_cons.mp found with rfl | found
  · exact nofun
  · exact working.uses event found

/-- The save of a failure, with or without a block. -/
theorem wp_saveFailure {Q : Unit → State → Prop} {X : PyError → State → Prop} {kind : PyValue}
    {until_ : ℚ} (failures : ℤ) (working : Working config process now s)
    (late : now + (config process).pollInterval ≤ until_)
    (done : ∀ t, Failed config process now kind t → Q () t)
    (raised : ∀ e t, Working config process now t → X e t) :
    wp (law config process) (save [("next_poll", .float (.finite until_)),
      ("failures", .int failures), ("blocked", .bool (needsOperator kind))]) Q X s := by
  refine wp_save Working.stable (fun _ working => working.toOwns) working
    (fun t working kept => ?_) raised
  generalize written : t.1.data.update [("next_poll", .float (.finite until_)),
    ("failures", .int failures), ("blocked", .bool (needsOperator kind))] = data
  have poll : data.get "next_poll" = some (.float (.finite until_)) := by
    simp [← written, Dict.update]
  have login : data.get "next_login" = t.1.data.get "next_login" := by
    simp [← written, Dict.update]
  have block : blocked data = needsOperator kind := by
    simp [← written, Dict.update, blocked, PyValue.truthy]
  exact ⟨working.kept_stored kept poll late (working.logins_same kept login),
    done _ (working.failed block)⟩

/-- An engine that is not stopped after a failure: its exception is caught after a block only where
the run is not quiet, so the poll may work on. -/
theorem Failed.interrupted {kind : PyValue} (failed : Failed config process now kind s)
    {e : PyError} (caught : isCaught e = true) :
    Working config process now (s.1, s.2.note (.stopRaised true (blocked s.1.data) e)) := by
  rcases operator : needsOperator kind
  · exact (failed.open_ operator).note rfl rfl rfl rfl
  · have loud : ∀ trace : List Event,
        StopsQuietly (.stopRaised true (blocked s.1.data) e :: trace) → False := by
      intro trace quiet
      rw [failed.shut operator] at quiet
      rw [quiet e List.mem_cons_self] at caught
      cases caught
    refine ⟨failed.toOwns.note _ rfl rfl, failed.past, fun event found => ?_,
      fun quiet => (loud _ quiet).elim⟩
    rcases List.mem_cons.mp found with rfl | found
    · exact nofun
    · exact failed.uses event found

/-- The engine of a failed poll is stopped. -/
theorem wp_stopFailed (guarded : Bool) {kind : PyValue}
    (failed : Failed config process now kind s) :
    wp (law config process) (stopEngine guarded) (fun _ t => Owns process t)
      (fun e t => Owns process t ∧ (guarded = true → isCaught e = true →
        Working config process now t)) s := by
  refine wp_stopEngine Failed.stable (fun _ failed _ => failed.toOwns) failed
    (fun _ failed _ => failed.toOwns)
    (fun _ failed _ => ⟨failed.holder, failed.started, failed.data⟩) fun e t failed _ => ?_
  refine ⟨failed.toOwns.note _ rfl rfl, fun guard caught => ?_⟩
  subst guard
  exact failed.interrupted caught

/-- **`_failure`**: guarded by a handler, what it raises leaves a poll that may work on. -/
theorem wp_failure (guarded : Bool) (response : Dict PyValue)
    (working : Working config process now s) :
    wp (law config process) (failure (config process) guarded response)
      (fun _ t => Owns process t)
      (fun e t => Owns process t ∧ (guarded = true → isCaught e = true →
        Working config process now t)) s := by
  have spoiled : ∀ (e : PyError) t, Working config process now t → Owns process t ∧
      (guarded = true → isCaught e = true → Working config process now t) :=
    fun e t working => ⟨working.toOwns, fun _ _ => working⟩
  unfold failure
  simp only
  rw [wp_bind]
  refine wp_look Working.stable working fun t working _ => ?_
  rw [wp_bind, wp_ofExcept]
  rcases failureCount t.1.data with e | failures
  · exact spoiled e t working
  simp only
  rw [wp_bind, wp_ofExcept]
  rcases numberAt response "retry_after" atLeastZero with e | retryAfter
  · exact spoiled e t working
  simp only
  rw [wp_bind]
  refine wp_look Working.stable working fun u working _ => ?_
  rw [wp_bind]
  have late : now + (config process).pollInterval ≤
      u.2.wall + failureDelay (config process) failures retryAfter :=
    add_le_add working.past (le_failureDelay _ _ _)
  refine wp_saveFailure failures working late (fun v failed => ?_) spoiled
  rw [wp_ite]
  exact ⟨fun _ => wp_stopFailed guarded failed, fun _ => failed.toOwns⟩

/-- The save of a reading; one that raises is an event of the poll. -/
theorem wp_saveReading {Q : Unit → State → Prop} {X : PyError → State → Prop}
    {changes : Dict PyValue} (working : Working config process now s)
    (written : ∀ t, Working config process now t → Kept config t.2 →
      Kept config (stored (t.1.data.update changes) t).2 ∧
        Q () (stored (t.1.data.update changes) t))
    (raised : ∀ e t, Working config process now t → X e t) :
    wp (law config process) (saveReading changes) Q X s := by
  unfold saveReading
  rw [wp_atomic]
  rintro t ⟨own, others⟩ kept answer
  have working : Working config process now t := Working.stable s t own others working
  rcases answer.saves with _ | e
  · obtain ⟨stored, done⟩ := written t working kept
    exact ⟨stored, working.toOwns.may rfl nofun, done⟩
  · exact ⟨kept.note rfl rfl, working.toOwns.may rfl id,
      raised e _ (working.note rfl rfl rfl rfl)⟩

/-- **A reading** replaces the snapshot; the failures are over. -/
theorem wp_takeReading (startedAt : ℚ) (data : Dict PyValue)
    (working : Working config process now s) :
    wp (law config process) (takeReading (config process) startedAt now data)
      (fun _ t => Owns process t) (Fails config process now) s := by
  unfold takeReading
  rw [wp_bind, wp_ofExcept]
  rcases normalize data (config process).vin (config process).capacity (config process).home with
    e | candidate
  · exact working.fails e
  simp only
  rcases candidate.soc with _ | soc
  · exact working.fails .value
  simp only
  rw [wp_bind]
  refine wp_alter Working.stable working fun t working kept => ?_
  have kept : Kept config (acquired startedAt now candidate t).2 := kept.note rfl rfl
  have may : ∀ q, q ≠ process → Rely q t.2 (acquired startedAt now candidate t).2 :=
    working.toOwns.may rfl id
  have working : Working config process now (acquired startedAt now candidate t) :=
    working.note rfl rfl rfl rfl
  refine ⟨kept, may, ?_⟩
  rw [wp_bind]
  refine wp_look Working.stable working fun u working _ => ?_
  have late : now + (config process).pollInterval ≤ u.2.wall + (config process).pollInterval :=
    add_le_add working.past le_rfl
  refine wp_saveReading working (fun v working kept => ?_) fun e _ working => working.fails e
  have login : (v.1.data.update [("failures", .int 0), ("next_poll",
      .float (.finite (u.2.wall + (config process).pollInterval)))]).get "next_login" =
        v.1.data.get "next_login" := by
    simp [Dict.update]
  exact ⟨working.kept_stored kept (by simp [Dict.update]) late (working.logins_same kept login),
    working.toOwns.stored _⟩

theorem wp_takeReply (startedAt : ℚ) (response : Dict PyValue)
    (working : Working config process now s) :
    wp (law config process) (takeReply (config process) startedAt now response)
      (fun _ t => Owns process t) (Fails config process now) s := by
  unfold takeReply
  rcases readingOf response with _ | data
  · refine wp_mono (wp_failure true response working) (fun _ _ owns => owns) ?_
    exact fun e t ⟨owns, guarded⟩ => ⟨owns, guarded rfl⟩
  · exact wp_takeReading startedAt data working

/-- **The `try` of `_poll_engine`.** -/
theorem wp_useEngine (startedAt : ℚ) (secured : Secured config process now s) :
    wp (law config process) (useEngine (config process) process startedAt now)
      (fun _ t => Owns process t) (Fails config process now) s := by
  unfold useEngine
  rw [wp_bind]
  refine wp_ensureEngine secured (fun t armed => ?_) fun e _ working => working.fails e
  rw [wp_bind]
  exact wp_askEngine armed (fun reply _ working => wp_takeReply startedAt reply working)
    fun e _ working => working.fails e

/-- **The handler of `_poll_engine`.** -/
theorem wp_engineFailed {recover : Program Unit} {e : PyError}
    (handled : engineFailed (config process) e = some recover)
    (fails : Fails config process now e s) :
    wp (law config process) recover (fun _ t => Owns process t) (fun _ t => Owns process t) s := by
  unfold engineFailed at handled
  split at handled
  · rename_i caught
    cases handled
    have closed : ∀ t, Working config process now t →
        Working config process now ({ t.1 with engine := false }, t.2) := fun t working =>
      ⟨⟨working.holder, working.started, working.data⟩, working.past, working.uses,
        working.unblocked⟩
    have failed : ∀ t, Working config process now t →
        wp (law config process)
          (failure (config process) false [("error", .str "transport")])
          (fun _ t => Owns process t) (fun _ t => Owns process t) t := fun t working =>
      wp_mono (wp_failure false _ working) (fun _ _ owns => owns) fun _ _ raised => raised.1
    rw [wp_bind]
    exact wp_stopEngine Working.stable (fun _ working _ => working.toOwns) (fails.2 caught)
      (fun t working _ => failed t working) (fun t working _ => failed _ (closed t working))
      fun _ _ working _ => working.toOwns.note _ rfl rfl
  · cases handled

/-- **`_poll_engine`**: whatever the engine and the saves do, the process owns its store. -/
theorem wp_pollEngine (admitted : Admitted config process now s) :
    wp (law config process) (pollEngine (config process) process now)
      (fun _ t => Owns process t) (fun _ t => Owns process t) s := by
  unfold pollEngine
  rw [wp_bind]
  refine wp_reservePoll admitted (fun t reserved => ?_) fun _ _ owns => owns
  rw [wp_bind]
  refine wp_reserveLogin reserved (fun u secured => ?_) fun _ _ owns => owns
  rw [wp_bind]
  refine wp_look Secured.stable secured fun v secured _ => ?_
  rw [wp_handle]
  refine wp_mono (wp_useEngine v.2.mono secured) (fun _ _ owns => owns) fun e t fails => ?_
  rcases handled : engineFailed (config process) e with _ | recover
  · exact fails.1
  · exact wp_engineFailed handled fails

/-! ### The store -/

/-- **The admission**: the file bars whoever comes too early, or after a saved block. -/
theorem admitted_of_admits (owns : Owns process s) (kept : Kept config s.2)
    (admits : s.1.admits s.2.wall = .ok true) : Admitted config process s.2.wall s := by
  unfold EvccClient.admits at admits
  split at admits
  · cases admits
  · rename_i unblocked
    have unblocked : blocked s.1.data = false := Bool.eq_false_iff.mpr unblocked
    rcases poll : due s.1.data "next_poll" s.2.wall with e | _ | _
    · rw [poll] at admits
      cases admits
    · rw [poll] at admits
      cases admits
    · rw [poll] at admits
      simp only at admits
      rw [owns.data] at poll
      refine ⟨owns, le_rfl, fun event found q before used =>
        kept.polls event found q before used _ poll, fun absent q before file found => ?_,
        fun quiet => ⟨unblocked, fun event found => ?_⟩⟩
      · rw [absent, if_neg Bool.false_ne_true, owns.data] at admits
        exact kept.logins q before file found _ admits
      · refine Bool.eq_false_iff.mpr fun shut => ?_
        have last := (kept.latched quiet).2 event found shut
        rw [← owns.data, unblocked] at last
        cases last

/-- A process that is starting. -/
structure Starting (s : State) : Prop where
  started : s.1.started = false
  engine : s.1.engine = false
  data : s.2.file = none → s.1.data = []

theorem Starting.idle (starting : Starting s) : Idle process s := by
  refine ⟨fun started => ?_, fun engine => ?_, starting.data⟩
  · rw [starting.started] at started
    cases started
  · rw [starting.engine] at engine
    cases engine

theorem Starting.stable : Stable process Starting := by
  rintro s t same others starting
  exact ⟨same ▸ starting.started, same ▸ starting.engine,
    fun gone => same ▸ starting.data (others.kept gone)⟩

theorem Starting.stable_locked : Stable process fun s =>
    Starting s ∧ s.2.holder = some process := by
  rintro s t same others ⟨starting, mine⟩
  exact ⟨Starting.stable s t same others starting, (others.mine mine).1⟩

/-- Under the lock, the data of the store is the file's. -/
theorem reload_data (starting : Starting s) : (reload s).1.data = s.2.file.getD [] := by
  unfold reload
  rcases found : s.2.file with _ | data
  · exact starting.data found
  · rfl

theorem reload_host (s : State) : (reload s).2 = s.2 := by
  unfold reload
  rcases s.2.file with _ | data <;> rfl

theorem stable_loaded : Stable process fun s =>
    s.2.holder = some process ∧ s.1.data = s.2.file.getD [] :=
  stable_of_holder (fun _ loaded => loaded.1) fun _ _ _ loaded => loaded

theorem Kept.release (kept : Kept config s.2) (process : ℕ) : Kept config (s.2.release process) :=
  ⟨kept.polls, kept.logins, kept.paced, kept.latched⟩

/-- **The lock** goes to one process: nobody else relied on it. -/
theorem wp_flock (starting : Starting s) :
    wp (law config process) (flock process)
      (fun _ t => Starting t ∧ t.2.holder = some process) (fun _ t => Starting t) s := by
  unfold flock
  rw [wp_atomic]
  rintro t ⟨own, others⟩ kept answer
  have starting : Starting t := Starting.stable s t own others starting
  rw [Exec.wp_bind, Exec.wp_read]
  rcases free : t.2.holder with _ | other
  · simp only [free]
    have may : ∀ q, q ≠ process → Rely q t.2 { t.2 with holder := some process } := by
      refine fun q _ => ⟨le_rfl, fun theirs => ?_, id⟩
      rw [free] at theirs
      cases theirs
    exact ⟨⟨kept.polls, kept.logins, kept.paced, kept.latched⟩, may,
      ⟨starting.started, starting.engine, starting.data⟩, rfl⟩
  · simp only [free]
    exact ⟨kept, fun q _ => Rely.refl q t.2, starting⟩

/-- **`store.acquire`**: the lock, and the data that is then on disk. -/
theorem wp_acquire (starting : Starting s) :
    wp (law config process) (acquire process)
      (fun _ t => t.2.holder = some process ∧ t.1.data = t.2.file.getD [])
      (fun _ t => Starting t) s := by
  unfold acquire
  rw [wp_bind]
  refine wp_attempt Starting.stable starting (fun t starting kept =>
    ⟨kept.release process, fun q differs => .release differs t.2, ?_⟩) fun _ _ starting => starting
  have starting : Starting (openLock process t) :=
    ⟨starting.started, starting.engine, starting.data⟩
  rw [wp_bind]
  refine wp_value (wp_flock starting) fun _ u both => ?_
  refine wp_attempt Starting.stable_locked both (fun v both kept => ?_) fun _ _ both => both.1
  obtain ⟨starting, mine⟩ := both
  rw [reload_host, reload_data starting]
  exact ⟨kept, fun q _ => .refl q v.2, mine, rfl⟩

/-- **`start`**: a process that started owns the store, with the data on disk. -/
theorem wp_start (idle : Idle process s) :
    wp (law config process) (start process) (fun _ t => Owns process t)
      (fun _ t => Idle process t) s := by
  unfold start
  rw [wp_bind]
  refine wp_look Idle.stable idle fun t idle _ => ?_
  rw [wp_ite]
  refine ⟨fun started => idle.owns started, fun stopped => ?_⟩
  have stopped : t.1.started = false := Bool.eq_false_iff.mpr stopped
  have starting : Starting t := by
    refine ⟨stopped, Bool.eq_false_iff.mpr fun engine => ?_, idle.data⟩
    rw [idle.engine engine] at stopped
    cases stopped
  rw [wp_bind]
  refine wp_mono (wp_acquire starting) (fun _ u loaded => ?_) fun _ _ starting => starting.idle
  exact wp_alter stable_loaded loaded fun v loaded kept =>
    ⟨kept, fun q _ => .refl q v.2, ⟨loaded.1, rfl, loaded.2⟩⟩

/-- **`poll`**, from idle to idle. -/
theorem wp_poll (idle : Idle process s) :
    wp (law config process) (poll (config process) process) (fun _ t => Idle process t)
      (fun _ t => Idle process t) s := by
  unfold poll
  rw [wp_bind]
  refine wp_value (wp_start idle) fun _ t owns => ?_
  rw [wp_bind]
  refine wp_look Owns.stable owns fun u owns kept => ?_
  rw [wp_bind, wp_ofExcept]
  rcases admits : u.1.admits u.2.wall with e | admitted
  · exact owns.idle
  simp only
  have polled : wp (law config process)
      (pollIfAdmitted (config process) process admitted u.2.wall)
      (fun _ t => Owns process t) (fun _ t => Owns process t) u := by
    unfold pollIfAdmitted
    rw [wp_ite]
    refine ⟨fun yes => ?_, fun _ => owns⟩
    subst yes
    exact wp_pollEngine (admitted_of_admits owns kept admits)
  rw [wp_bind]
  refine wp_mono polled (fun _ v owns => ?_) fun _ _ owns => owns.idle
  rw [wp_bind]
  exact wp_look Owns.stable owns fun _ owns _ => owns.idle

/-- **`close`**, from idle to idle. -/
theorem wp_close (idle : Idle process s) :
    wp (law config process) (close process) (fun _ t => Idle process t)
      (fun _ t => Idle process t) s := by
  have released : ∀ t, Idle process t → t.1.engine = false → wp (law config process)
      (alter fun state => ({ state.1 with started := false }, state.2.release process))
      (fun _ t => Idle process t) (fun _ t => Idle process t) t := by
    intro t idle absent
    refine wp_alter (Idle.stable.own fun own => own.engine = false) ⟨idle, absent⟩
      fun u both kept => ⟨kept.release process, fun q differs => .release differs u.2, nofun, ?_,
        both.1.data⟩
    intro engine
    rw [show u.1.engine = true from engine] at both
    cases both.2
  unfold close
  rw [wp_bind]
  refine wp_stopEngine Idle.stable (fun _ idle engine => idle.owns (idle.engine engine)) idle
    (fun t idle absent => released t idle absent) (fun t idle _ => released _ ?_ rfl)
    fun _ t idle engine => ?_
  · refine ⟨fun started => ?_, nofun, idle.data⟩
    have owns := idle.owns started
    exact ⟨owns.holder, owns.started, owns.data⟩
  · exact ((idle.owns (idle.engine engine)).note _ rfl rfl).idle

end Polls

/-! ### Every run -/

section Runs

variable [PyText]

/-- The discipline of the processes. -/
def discipline (config : ℕ → Config) : Discipline (service config) where
  rely := Rely
  inv := Kept config
  idle := Idle
  rely_refl := Rely.refl
  rely_trans := Rely.trans
  idle_stable {p own s t} others idle := Idle.stable (own, s) (own, t) rfl others idle
  launch p kept := ⟨nofun, nofun, fun gone => by
    unfold service EvccClient.new
    simp only at gone ⊢
    rw [gone]
    rfl⟩
  call program idle := by
    rcases program with _ | _
    · show wp (law config _) (poll _ _ >>= fun _ => pure ()) _ _ _
      rw [wp_bind]
      exact wp_value (wp_poll idle) fun _ _ idle => idle
    · exact wp_close idle
  crash p kept := ⟨⟨kept.polls, kept.logins, kept.paced, kept.latched⟩,
    fun _ differs => .release differs _⟩
  world {host} passing kept := ⟨⟨kept.polls, kept.logins, kept.paced, kept.latched⟩,
    fun p => .elapse p host passing.mono passing.wall⟩

/-- **Upstream pacing and login reservation**, for any number of processes on one state file, any
interleaving of their steps, crashes, and failures: by at least the configured interval. The block
of an authorization failure is lasting if every engine it stops is stopped quietly. -/
theorem upstream_paced (config : ℕ → Config) (clock : Clock) (file : Option (Dict PyValue))
    (moves : List (Move ℕ Call Passing Answer)) :
    (∀ process, (config process).interval ≤ (config process).pollInterval) ∧
      Throughout (Paced config) (run config clock file moves).trace ∧
      (StopsQuietly (run config clock file moves).trace →
        Throughout Latched (run config clock file moves).trace) := by
  have empty : Kept config ⟨clock, file, none, []⟩ :=
    ⟨fun _ found => absurd found List.not_mem_nil,
      fun _ _ _ found => absurd found List.not_mem_nil, trivial,
      fun _ => ⟨trivial, fun _ found => absurd found List.not_mem_nil⟩⟩
  have kept : Kept config (run config clock file moves) :=
    Discipline.keeps (discipline config) empty moves
  exact ⟨fun process => (config process).le_pollInterval, kept.paced,
    fun quiet => (kept.latched quiet).1⟩

end Runs

/-! ### A block that does not last -/

/-- A configuration. -/
def hyundai : Config where
  template := "hyundai"
  vin := some "WDD00000000000001"
  interval := 3600
  staleTimeout := 7500
  capacity := .none
  home := ⟨.none, .none, .none, fun _ _ _ _ => 0⟩

/-- One step, with the same answer as often as it takes. -/
def steps (count : ℕ) (answer : Answer) : List (Move ℕ Call Passing Answer) :=
  List.replicate count (.step 0 answer)

/-- The engine asks for an operator. -/
def unauthorized : Answer := .plain [("ok", .bool false), ("error", .str "auth")]

/-- An engine that needs an operator does not close in time; 30000 s later it is polled again. -/
def stuckEngine : List (Move ℕ Call Passing Answer) :=
  [.launch 0, .call 0 .poll] ++ steps 17 unauthorized ++
    [.step 0 { unauthorized with closes := some .subprocess }] ++ steps 6 unauthorized ++
    [.world ⟨30000, 30000⟩, .call 0 .poll] ++ steps 9 unauthorized

/-- **The block is lifted** without an operator. -/
theorem block_lifted : letI := plainText
    ¬ Throughout Latched (run (fun _ => hyundai) ⟨0, 100000⟩ none stuckEngine).trace := by
  decide +kernel

end DbusEv.Evcc
