/-
**The failure backoff of the evcc client, in runs with restarts.**

* `backoff`, `asksFor`, `streak` — the bound of a failure, what its reply asked for, and how many
  failures stand in a row.
* `Graceful` — the condition: no engine that a failure stops raises into the handler of
  `_poll_engine`, which would put a shorter delay in the place of the one the reply asked for.
* `Kept` — the invariant: the state file bars every recorded failure.
* `backed_off` — in every run that meets the condition, no poll is admitted too early.
* `retry_after_lost` — an engine that cannot be closed makes the client forget `retry_after`.
-/

import DbusEv.Lib.Trace
import DbusEv.Providers.Latch
import DbusEv.Providers.Answered

set_option autoImplicit false
set_option linter.unusedSectionVars false

namespace DbusEv.Evcc

open Thread

/-! ### The bound -/

/-- The least delay after the `k`-th failure in a row, for a `retry_after`. -/
def backoff (config : Config) (k : ℕ) (retryAfter : ℚ) : ℚ :=
  max (max config.pollInterval (min loginInterval (1800 * 2 ^ (min k 5 - 1)))) retryAfter

/-- The `retry_after` of a reply when it is a finite number that is not negative, and 0
otherwise. -/
def asksFor (response : Dict PyValue) : ℚ :=
  match (response.get "retry_after").getD .none with
  | .int value =>
    match PyFloat.ofRat value with
    | .finite rounded => if 0 ≤ value then rounded else 0
    | _ => 0
  | .float (.finite value) => if 0 ≤ value then value else 0
  | _ => 0

/-- The failures in a row, newest first, after `start` of them. -/
def streak (start : ℕ) : List Note → ℕ
  | [] => start
  | .failed _ _ _ _ :: earlier => streak start earlier + 1
  | .succeeded :: _ => 0
  | _ :: earlier => streak start earlier

/-- The bound does not decrease from failure to failure. -/
theorem backoff_mono (config : Config) (retryAfter : ℚ) :
    Monotone fun k => backoff config k retryAfter := by
  intro k l le
  have powers : (2 : ℚ) ^ (min k 5 - 1) ≤ 2 ^ (min l 5 - 1) :=
    pow_le_pow_right₀ one_le_two (by omega)
  show backoff config k retryAfter ≤ backoff config l retryAfter
  unfold backoff
  gcongr

theorem pollInterval_le_backoff (config : Config) (k : ℕ) (retryAfter : ℚ) :
    config.pollInterval ≤ backoff config k retryAfter :=
  (le_max_left _ _).trans (le_max_left _ _)

/-- What the reply asks for only makes the delay longer. -/
theorem backoff_zero_le (config : Config) (k : ℕ) (retryAfter : ℚ) :
    backoff config k 0 ≤ backoff config k retryAfter := by
  have positive := (config.pollInterval_pos).le.trans (le_max_left config.pollInterval
    (min loginInterval (1800 * 2 ^ (min k 5 - 1))))
  exact max_le (le_max_left _ _) (positive.trans (le_max_left _ _))

/-- A reply that asks for no more than the next failure is due anyway. -/
theorem backoff_le_next {config : Config} {k : ℕ} {retryAfter : ℚ}
    (little : retryAfter ≤ backoff config (k + 1) 0) :
    backoff config k retryAfter ≤ backoff config (k + 1) 0 := by
  have next : backoff config k 0 ≤ backoff config (k + 1) 0 := backoff_mono config 0 k.le_succ
  exact max_le ((le_max_left _ _).trans next) little

/-- The converted `retry_after`. -/
theorem retryAfter_eq {response : Dict PyValue} {retryAfter : Option ℚ}
    (converted : numberAt response "retry_after" atLeastZero = .ok retryAfter) :
    retryAfter.getD 0 = asksFor response := by
  unfold numberAt at converted
  unfold asksFor
  generalize (response.get "retry_after").getD .none = value at converted
  have admits : ∀ number : ℚ, atLeastZero.admit number = decide (0 ≤ number) := by
    intro number
    simp [ Bounds.admit, atLeastZero]
  cases value with
  | int value =>
    simp only [number, admits] at converted
    cases rounds : PyFloat.ofRat value with
    | finite rounded =>
      rw [rounds] at converted
      cases converted
      by_cases nonneg : 0 ≤ value <;> simp [nonneg, rounds]
    | inf negative =>
      rw [rounds] at converted
      cases converted
    | nan =>
      rw [rounds] at converted
      cases converted
  | float value =>
    cases value with
    | finite value =>
      simp only [number, admits] at converted
      cases converted
      by_cases nonneg : 0 ≤ value <;> simp [nonneg]
    | _ =>
      cases converted
      rfl
  | _ =>
    cases converted
    rfl

/-- The delay `_failure` saves. -/
theorem failureDelay_eq (config : Config) {k : ℕ} (failed : 0 < k) {retryAfter : Option ℚ} :
    failureDelay config (min 5 k : ℕ) retryAfter = backoff config k (retryAfter.getD 0) := by
  have power : (2 : ℚ) ^ (((min 5 k : ℕ) : ℤ) - 1) = 2 ^ (min k 5 - 1) := by
    rw [show ((min 5 k : ℕ) : ℤ) - 1 = ((min k 5 - 1 : ℕ) : ℤ) by omega, zpow_natCast]
  unfold failureDelay backoff
  rw [power]

/-! ### The condition and the invariant -/

/-- No use of an engine since is admitted before the deadline. -/
def Spared (deadline : ℚ) (before trace : List Event) : Prop :=
  ∃ newer, trace = newer ++ before ∧
    ∀ event ∈ newer, ∀ p now, event.use = some (p, now) → deadline ≤ now

theorem Spared.refl (deadline : ℚ) (trace : List Event) : Spared deadline trace trace :=
  ⟨[], rfl, List.forall_mem_nil _⟩

theorem Spared.cons {deadline : ℚ} {before trace : List Event} {event : Event}
    (spared : Spared deadline before trace)
    (late : ∀ p now, event.use = some (p, now) → deadline ≤ now) :
    Spared deadline before (event :: trace) := by
  obtain ⟨newer, rfl, uses⟩ := spared
  exact ⟨event :: newer, rfl, List.forall_mem_cons.mpr ⟨late, uses⟩⟩

/-- An event that is no use of an engine. -/
theorem Spared.note {deadline : ℚ} {before trace : List Event} {event : Event}
    (spared : Spared deadline before trace) (unused : event.use = none) :
    Spared deadline before (event :: trace) :=
  spared.cons fun p now used => by
    rw [unused] at used
    cases used

/-- The deadline of every recorded failure, with the trace at its record. -/
def deadlines (config : Config) (start : ℕ) : List Note → List (ℚ × List Event)
  | [] => []
  | .failed recordedAt response _ trace :: earlier =>
    (recordedAt + backoff config (streak start earlier + 1) (asksFor response), trace) ::
      deadlines config start earlier
  | _ :: earlier => deadlines config start earlier

/-- A failure is saved with its count, up to five, and its deadline. -/
def Exact (config : Config) (start : ℕ) : Note → List Note → Prop
  | .failed recordedAt response data _, earlier =>
    let k := streak start earlier + 1
    data.get "failures" = some (.int (min 5 k : ℕ)) ∧
      data.get "next_poll" =
        some (.float (.finite (recordedAt + backoff config k (asksFor response))))
  | _, _ => True

/-- Every save returned. -/
def Reliable (log : List Note) : Prop := ∀ changes, .unsaved changes ∉ log

/-- **What leaves a recorded failure alone**: either its reply asks for no more than the next
failure in a row is due anyway, or the engine that is stopped right after it does not raise what the
handler of `_poll_engine` catches. -/
def Graceful (config : Config) (start : ℕ) (s : Records) : Prop :=
  ∀ recordedAt response data trace earlier,
    .failed recordedAt response data trace :: earlier <:+ s.2 →
      asksFor response ≤ backoff config (streak start earlier + 2) 0 ∨
        ∀ shut e, .stopRaised true shut e :: trace <:+ s.1.trace → isCaught e = false

/-- **What every recorded failure is owed**: until its deadline the state file keeps polls out, and
no engine is used in a poll that was admitted before it. -/
def Awaited (config : Config) (start : ℕ) (s : Records) : Prop :=
  ∀ recordedAt response data trace earlier,
    .failed recordedAt response data trace :: earlier <:+ s.2 →
      let deadline := recordedAt + backoff config (streak start earlier + 1) (asksFor response)
      Bars s.1.file "next_poll" deadline ∧ Spared deadline trace s.1.trace

namespace Logged.Backoff

/-- The condition on a run. -/
structure Sound (config : Config) (start : ℕ) (s : Records) : Prop where
  saves : Reliable s.2
  stops : Graceful config start s

/-- The saved count, up to five. -/
def Tallied (data : Dict PyValue) (k : ℕ) : Prop := ∃ n : ℕ, Counts data n ∧ min 5 n = min 5 k

/-- What is kept. -/
structure Held (config : Config) (start : ℕ) (s : Records) : Prop where
  bars : ∀ deadline ∈ deadlines config start s.2, Bars s.1.file "next_poll" deadline.1
  spared : ∀ deadline ∈ deadlines config start s.2, Spared deadline.1 deadline.2 s.1.trace
  exact : Throughout (Exact config start) s.2
  tallied : Tallied (s.1.file.getD []) (streak start s.2)

/-- **The invariant.** -/
def Kept (config : Config) (start : ℕ) (s : Records) : Prop :=
  Sound config start s → Held config start s

section Lemmas

variable {config : Config} {start : ℕ} {s t : Records}

theorem sound_before (sound : Sound config start t) (log : s.2 <:+ t.2)
    (events : s.1.trace <:+ t.1.trace) : Sound config start s := by
  refine ⟨fun changes found => sound.saves changes (log.subset found),
    fun recordedAt response data trace earlier found => ?_⟩
  refine (sound.stops recordedAt response data trace earlier (found.trans log)).imp_right
    fun quiet shut e raised => ?_
  exact quiet shut e (raised.trans events)

theorem not_sound_unsaved {host : Host} {log : List Note} {changes : Dict PyValue} :
    ¬ Sound config start (host, .unsaved changes :: log) := fun sound =>
  sound.saves changes List.mem_cons_self

theorem lockless_kept : Logged.Lockless (Kept config start) := by
  intro host log clock holder kept sound
  have held := kept (sound_before sound List.suffix_rfl List.suffix_rfl)
  exact ⟨held.bars, held.spared, held.exact, held.tallied⟩

theorem mem_deadlines {recordedAt : ℚ} {response data : Dict PyValue} {trace : List Event}
    {earlier log : List Note} (found : .failed recordedAt response data trace :: earlier <:+ log) :
    (recordedAt + backoff config (streak start earlier + 1) (asksFor response), trace) ∈
      deadlines config start log := by
  obtain ⟨later, rfl⟩ := found
  induction later with
  | nil => exact List.mem_cons_self
  | cons note later ih =>
    cases note with
    | failed => exact List.mem_cons_of_mem _ ih
    | _ => exact ih

/-- An event, which is no use of an engine that is admitted too early. -/
theorem Kept.note (kept : Kept config start s) {event : Event}
    (late : Sound config start s → ∀ p now, event.use = some (p, now) →
      ∀ deadline ∈ deadlines config start s.2, deadline.1 ≤ now) :
    Kept config start (s.1.note event, s.2) := by
  intro sound
  have before : Sound config start s :=
    sound_before sound List.suffix_rfl (List.suffix_cons event s.1.trace)
  have held := kept before
  exact ⟨held.bars, fun deadline found => (held.spared deadline found).cons fun p now used =>
    late before p now used deadline found, held.exact, held.tallied⟩

/-- A note of a reply. -/
theorem Kept.answered {host : Host} {log : List Note} (kept : Kept config start (host, log))
    (response data : Dict PyValue) (trace : List Event) :
    Kept config start (host, .answered response data trace :: log) := by
  intro sound
  have held := kept (sound_before sound (List.suffix_cons _ log) List.suffix_rfl)
  exact ⟨held.bars, held.spared, ⟨trivial, held.exact⟩, held.tallied⟩

/-- The note of a death. -/
theorem Kept.died {host : Host} {log : List Note} (kept : Kept config start (host, log)) :
    Kept config start (host, .died :: log) := by
  intro sound
  have held := kept (sound_before sound (List.suffix_cons _ log) List.suffix_rfl)
  exact ⟨held.bars, held.spared, ⟨trivial, held.exact⟩, held.tallied⟩

theorem Kept.unsaved {host : Host} {log : List Note} {changes : Dict PyValue} :
    Kept config start (host, .unsaved changes :: log) := fun sound =>
  absurd sound not_sound_unsaved

/-- A save whose deadline bars what was barred before. -/
theorem Kept.saved {own : EvccClient} (kept : Kept config start s) {data : Dict PyValue}
    (bars : Sound config start s → Held config start s →
      ∀ deadline ∈ deadlines config start s.2, Bars (some data) "next_poll" deadline.1)
    (tallied : Sound config start s → Held config start s →
      Tallied data (streak start s.2)) :
    Kept config start ((stored data (own, s.1)).2, s.2) := by
  intro sound
  have before : Sound config start s :=
    sound_before sound List.suffix_rfl (List.suffix_cons _ s.1.trace)
  have held := kept before
  exact ⟨bars before held, fun deadline found => (held.spared deadline found).note rfl, held.exact,
    tallied before held⟩

/-- A reading is saved. -/
theorem Kept.succeeded {own : EvccClient} (kept : Kept config start s) {data : Dict PyValue}
    (bars : Sound config start s → Held config start s →
      ∀ deadline ∈ deadlines config start s.2, Bars (some data) "next_poll" deadline.1)
    (count : data.get "failures" = some (.int 0)) :
    Kept config start ((stored data (own, s.1)).2, .succeeded :: s.2) := by
  intro sound
  have before : Sound config start s :=
    sound_before sound (List.suffix_cons _ s.2) (List.suffix_cons _ s.1.trace)
  have held := kept before
  refine ⟨bars before held, fun deadline found => (held.spared deadline found).note rfl,
    ⟨trivial, held.exact⟩, 0, ⟨?_, le_rfl⟩, rfl⟩
  show (data.get "failures").getD (.int 0) = .int 0
  rw [count]
  rfl

/-- A failure is saved. -/
theorem Kept.failed {own : EvccClient} (kept : Kept config start s) {recordedAt : ℚ}
    {response data : Dict PyValue}
    (saved : Sound config start s → Exact config start
      (.failed recordedAt response data (stored data (own, s.1)).2.trace) s.2)
    (yields : Sound config start s → ∀ deadline ∈ deadlines config start s.2,
      deadline.1 ≤ recordedAt + backoff config (streak start s.2 + 1) (asksFor response)) :
    Kept config start ((stored data (own, s.1)).2,
      .failed recordedAt response data (stored data (own, s.1)).2.trace :: s.2) := by
  intro sound
  have before : Sound config start s :=
    sound_before sound (List.suffix_cons _ s.2) (List.suffix_cons _ s.1.trace)
  have held := kept before
  obtain ⟨count, until_⟩ := saved before
  have bars : ∀ deadline : ℚ, deadline ≤ recordedAt +
      backoff config (streak start s.2 + 1) (asksFor response) →
        Bars (some data) "next_poll" deadline := fun deadline le =>
    Holds.bars (show Holds (some data) "next_poll" _ from until_) le
  refine ⟨fun deadline found => ?_, fun deadline found => ?_, ⟨saved before, held.exact⟩, ?_⟩
  · cases List.mem_cons.mp found with
    | inl new =>
      rw [new]
      exact bars _ le_rfl
    | inr old => exact bars _ (yields before deadline old)
  · cases List.mem_cons.mp found with
    | inl new =>
      rw [new]
      exact .refl _ _
    | inr old => exact (held.spared deadline old).note rfl
  · refine ⟨min 5 (streak start s.2 + 1), ⟨?_, Int.natCast_nonneg _⟩, ?_⟩
    · show (data.get "failures").getD (.int 0) = _
      rw [count]
      rfl
    · show min 5 (min 5 (streak start s.2 + 1)) = min 5 (streak start s.2 + 1)
      omega

end Lemmas

/-! ### What a poll knows -/

section Knowledge

variable {config : Config} {start : ℕ} {s : LoggedState} {response : Dict PyValue} {now : ℚ}

/-- The client owns the store. -/
structure Known (config : Config) (start : ℕ) (s : LoggedState) : Prop extends Owns s where
  kept : Kept config start s.2

/-- A poll that was admitted at `now`, after every deadline. -/
structure Waited (config : Config) (start : ℕ) (now : ℚ) (s : LoggedState) : Prop
    extends Known config start s where
  past : now ≤ s.2.1.wall
  due : Sound config start s.2 → ∀ deadline ∈ deadlines config start s.2.2, deadline.1 ≤ now

/-- A poll whose next failure bars what every earlier one does, whatever its reply asks for. -/
structure Yielding (config : Config) (start : ℕ) (s : LoggedState) : Prop
    extends Known config start s where
  due : Sound config start s.2 → ∀ deadline ∈ deadlines config start s.2.2,
    deadline.1 ≤ s.2.1.wall + backoff config (streak start s.2.2 + 1) 0

/-- … with the count that it will save. -/
structure Counting (config : Config) (start : ℕ) (failures : ℤ) (s : LoggedState) : Prop
    extends Yielding config start s where
  count : Sound config start s.2 → failures = (min 5 (streak start s.2.2 + 1) : ℕ)

/-- A failure that is about to be saved. -/
structure Recording (config : Config) (start : ℕ) (recordedAt : ℚ) (failures : ℤ)
    (s : LoggedState) : Prop extends Known config start s where
  past : recordedAt ≤ s.2.1.wall
  due : Sound config start s.2 → ∀ deadline ∈ deadlines config start s.2.2,
    deadline.1 ≤ recordedAt + backoff config (streak start s.2.2 + 1) 0
  count : Sound config start s.2 → failures = (min 5 (streak start s.2.2 + 1) : ℕ)

/-- A failure that was just saved. -/
structure Recorded (config : Config) (start : ℕ) (response : Dict PyValue) (s : LoggedState) :
    Prop extends Known config start s where
  last : ∃ recordedAt data earlier,
    s.2.2 = .failed recordedAt response data s.2.1.trace :: earlier ∧
      recordedAt ≤ s.2.1.wall ∧
        (Sound config start s.2 → ∀ deadline ∈ deadlines config start earlier,
          deadline.1 ≤ recordedAt + backoff config (streak start earlier + 1) 0)

theorem sound_clock {host : Host} {log : List Note} {clock : Clock}
    (sound : Sound config start ({ host with clock := clock }, log)) :
    Sound config start (host, log) := sound_before sound List.suffix_rfl List.suffix_rfl

theorem Known.later {own : EvccClient} {host : Host} {log : List Note}
    (known : Known config start (own, host, log)) (clock : Clock) :
    Known config start (own, { host with clock := clock }, log) :=
  ⟨⟨known.started, known.data⟩, lockless_kept host log clock host.holder known.kept⟩

theorem Known.stable : Stable (Known config start) :=
  stable_of_clock fun _ _ _ clock _ known => known.later clock

theorem Waited.stable : Stable (Waited config start now) :=
  stable_of_clock fun _ _ _ clock later waited =>
    ⟨waited.toKnown.later clock, waited.past.trans later, fun sound =>
      waited.due (sound_clock sound)⟩

theorem Yielding.stable : Stable (Yielding config start) :=
  stable_of_clock fun _ _ _ clock later yielding =>
    ⟨yielding.toKnown.later clock, fun sound deadline found =>
      (yielding.due (sound_clock sound) deadline found).trans (add_le_add_left later _)⟩

theorem Counting.stable {failures : ℤ} : Stable (Counting config start failures) :=
  fun s t own waits counting => by
    refine ⟨Yielding.stable s t own waits counting.toYielding, fun sound => ?_⟩
    obtain ⟨clock, -, moved⟩ := waits
    rw [moved] at sound ⊢
    exact counting.count (sound_clock sound)

theorem Recording.stable {recordedAt : ℚ} {failures : ℤ} :
    Stable (Recording config start recordedAt failures) :=
  stable_of_clock fun _ _ _ clock later recording =>
    ⟨recording.toKnown.later clock, recording.past.trans later, fun sound =>
      recording.due (sound_clock sound), fun sound => recording.count (sound_clock sound)⟩

theorem Recorded.stable : Stable (Recorded config start response) := by
  refine stable_of_clock fun own host log clock later recorded => ?_
  obtain ⟨recordedAt, data, earlier, last, past, due⟩ := recorded.last
  exact ⟨recorded.toKnown.later clock, recordedAt, data, earlier, last, past.trans later,
    fun sound => due (sound_clock sound)⟩

theorem Waited.yielding (waited : Waited config start now s) : Yielding config start s := by
  refine ⟨waited.toKnown, fun sound deadline found => ?_⟩
  have interval := pollInterval_le_backoff config (streak start s.2.2 + 1) 0
  have positive := config.pollInterval_pos
  linarith [waited.due sound deadline found, waited.past]

/-- Whatever breaks the condition leaves nothing to know. -/
theorem Known.unsaved (known : Known config start s) {changes : Dict PyValue} {host : Host}
    (same : host.file = s.2.1.file) :
    Yielding config start (s.1, host, .unsaved changes :: s.2.2) := by
  have data : s.1.data = host.file.getD [] := by rw [same, known.data]
  exact ⟨⟨⟨known.started, data⟩, .unsaved⟩, fun sound => absurd sound not_sound_unsaved⟩

/-! ### A failure -/

/-- The count `_failure` saves is that of its streak. -/
theorem Known.counts [PyText] (known : Known config start s) {failures : ℤ}
    (counted : failureCount s.1.data = .ok failures) (sound : Sound config start s.2) :
    failures = (min 5 (streak start s.2.2 + 1) : ℕ) := by
  obtain ⟨n, counts, capped⟩ := (known.kept sound).tallied
  rw [← known.data] at counts
  rw [failureCount_eq counts] at counted
  cases counted
  push_cast
  omega

/-- An engine that could not be stopped after a failure: the next one yields to it. -/
theorem Recorded.raised (recorded : Recorded config start response s) {shut : Bool} {e : PyError}
    (caught : isCaught e = true) :
    Yielding config start (s.1, s.2.1.note (.stopRaised true shut e), s.2.2) := by
  obtain ⟨recordedAt, data, earlier, last, past, due⟩ := recorded.last
  have kept : Kept config start (s.2.1.note (.stopRaised true shut e), s.2.2) :=
    recorded.kept.note fun _ p now used => by cases used
  refine ⟨⟨⟨recorded.started, recorded.data⟩, kept⟩, fun sound deadline found => ?_⟩
  have before : Sound config start s.2 :=
    sound_before sound List.suffix_rfl (List.suffix_cons _ s.2.1.trace)
  have asked : asksFor response ≤ backoff config (streak start earlier + 2) 0 := by
    cases sound.stops recordedAt response data s.2.1.trace earlier (by rw [last]) with
    | inl little => exact little
    | inr quiet =>
      rw [quiet shut e List.suffix_rfl] at caught
      cases caught
  rw [last] at found ⊢
  show deadline.1 ≤ s.2.1.wall + backoff config (streak start earlier + 2) 0
  have next := backoff_mono config 0 (streak start earlier + 1).le_succ
  cases List.mem_cons.mp found with
  | inl new =>
    have bound := backoff_le_next asked
    rw [new]
    simp only
    linarith
  | inr old =>
    have bound := due before deadline old
    simp only at next
    linarith

/-- The failure is saved. -/
theorem Recording.saved {recordedAt : ℚ} {failures : ℤ}
    (recording : Recording config start recordedAt failures s) {retryAfter : Option ℚ}
    (converted : numberAt response "retry_after" atLeastZero = .ok retryAfter)
    {data : Dict PyValue} (count : data.get "failures" = some (.int failures))
    (until_ : data.get "next_poll" =
      some (.float (.finite (recordedAt + failureDelay config failures retryAfter)))) :
    Recorded config start response ((stored data (unlogged s)).1, (stored data (unlogged s)).2,
      .failed recordedAt response data (stored data (unlogged s)).2.trace :: s.2.2) := by
  have delay : Sound config start s.2 → failureDelay config failures retryAfter =
      backoff config (streak start s.2.2 + 1) (asksFor response) := fun sound => by
    rw [recording.count sound, failureDelay_eq config (Nat.succ_pos _), retryAfter_eq converted]
  have kept : Kept config start ((stored data (unlogged s)).2,
      .failed recordedAt response data (stored data (unlogged s)).2.trace :: s.2.2) := by
    refine recording.kept.failed (fun sound => ⟨?_, ?_⟩) fun sound deadline found => ?_
    · rw [count, recording.count sound]
    · rw [until_, delay sound]
    · exact (recording.due sound deadline found).trans
        (add_le_add_right (backoff_zero_le config _ _) _)
  exact ⟨⟨⟨recording.started, rfl⟩, kept⟩, recordedAt, data, s.2.2, rfl, recording.past,
    fun sound => recording.due (sound_before sound (List.suffix_cons _ _) (List.suffix_cons _ _))⟩

variable [PyText] {guarded : Bool}

/-- The stop of the engine after a failure was saved. -/
theorem wp_stopEngine_recorded (recorded : Recorded config start response s) :
    wp (law (Kept config start)) (quietly (stopEngine guarded)) (fun _ => Known config start)
      (fun e t => Known config start t ∧
        (guarded = true → isCaught e = true → Yielding config start t)) s := by
  refine wp_stopEngine Recorded.stable recorded (fun _ recorded => recorded.toKnown)
    (fun t recorded _ => ⟨⟨recorded.started, recorded.data⟩, recorded.kept⟩)
    fun e t recorded kept => ?_
  have noted : Kept config start (t.2.1.note (.stopRaised guarded (blocked t.1.data) e), t.2.2) :=
    kept.note fun _ p now used => by cases used
  refine ⟨noted, ⟨⟨recorded.started, recorded.data⟩, noted⟩, fun inside caught => ?_⟩
  subst inside
  exact recorded.raised caught

theorem Recorded.stops (recorded : Recorded config start response s) (stopped : Prop)
    [Decidable stopped] : Kept config start s.2 ∧
      wp (law (Kept config start)) (if stopped then quietly (stopEngine guarded) else pure ())
        (fun _ => Known config start) (fun e t => Known config start t ∧
          (guarded = true → isCaught e = true → Yielding config start t)) s := by
  rw [wp_ite]
  exact ⟨recorded.kept, fun _ => wp_stopEngine_recorded recorded, fun _ => recorded.toKnown⟩

/-- **`_failure(response)`**: one failure more, whose deadline bars what every earlier one does. -/
theorem wp_failure (yielding : Yielding config start s) :
    wp (law (Kept config start)) (failure config guarded response) (fun _ => Known config start)
      (fun e t => Known config start t ∧
        (guarded = true → isCaught e = true → Yielding config start t)) s := by
  unfold failure
  refine wp_look Yielding.stable yielding fun t yielding _ => ?_
  rw [wp_bind, wp_ofExcept]
  cases counted : failureCount t.1.data with
  | error e => exact ⟨yielding.toKnown, fun _ _ => yielding⟩
  | ok failures =>
    simp only
    rw [wp_bind, wp_ofExcept]
    cases converted : numberAt response "retry_after" atLeastZero with
    | error e => exact ⟨yielding.toKnown, fun _ _ => yielding⟩
    | ok retryAfter =>
      have counting : Counting config start failures t :=
        ⟨yielding, yielding.toKnown.counts counted⟩
      refine wp_look Counting.stable counting fun u counting _ => ?_
      have recording : Recording config start u.2.1.wall failures u :=
        ⟨counting.toKnown, le_rfl, counting.due, counting.count⟩
      rw [wp_bind]
      refine wp_save Recording.stable recording (fun v recording _ => ?_)
        fun e v recording _ => ?_
      · refine (recording.saved converted ?_ ?_).stops _
        · simp [Dict.update]
        · simp [Dict.update]
      · exact ⟨.unsaved, (recording.toKnown.unsaved rfl).toKnown,
          fun _ _ => recording.toKnown.unsaved rfl⟩

/-! ### A poll -/

/-- A save of a poll before its engine is used. -/
theorem Waited.saved (waited : Waited config start now s) {data : Dict PyValue}
    (bars : ∀ deadline ≤ now, Bars s.2.1.file "next_poll" deadline →
      Bars (some data) "next_poll" deadline)
    (same : data.get "failures" = s.1.data.get "failures") :
    Kept config start ((stored data (unlogged s)).2, s.2.2) ∧
      Waited config start now
        ((stored data (unlogged s)).1, (stored data (unlogged s)).2, s.2.2) := by
  have kept : Kept config start ((stored data (unlogged s)).2, s.2.2) := by
    refine waited.kept.saved (fun sound held deadline found => ?_) fun _ held => ?_
    · exact bars _ (waited.due sound deadline found) (held.bars deadline found)
    · obtain ⟨n, counts, capped⟩ := held.tallied
      rw [← waited.data] at counts
      exact ⟨n, ⟨by rw [same]; exact counts.1, counts.2⟩, capped⟩
  exact ⟨kept, ⟨⟨waited.started, rfl⟩, kept⟩, waited.past, fun sound =>
    waited.due (sound_before sound List.suffix_rfl (List.suffix_cons _ _))⟩

/-- The poll is reserved. -/
theorem wp_reserve (waited : Waited config start now s) :
    wp (law (Kept config start))
      (save [("next_poll", .float (.finite (now + config.pollInterval)))] fun _ => [])
      (fun _ => Waited config start now) (fun _ => Known config start) s := by
  refine wp_save Waited.stable waited (fun t waited _ => ?_) fun e t waited _ =>
    ⟨.unsaved, (waited.toKnown.unsaved rfl).toKnown⟩
  refine waited.saved (fun deadline le _ => ?_) (by simp [Dict.update])
  have holds : Holds (some (t.1.data.update
      [("next_poll", .float (.finite (now + config.pollInterval)))])) "next_poll"
        (now + config.pollInterval) := by
    simp [Holds, Dict.update]
  exact holds.bars (by linarith [config.pollInterval_pos])

/-- … and its login. -/
theorem wp_reserveLogin (waited : Waited config start now s) :
    wp (law (Kept config start)) (reserveLogin now)
      (fun _ => Waited config start now) (fun _ => Known config start) s := by
  unfold reserveLogin
  refine wp_look Waited.stable waited fun t waited _ => ?_
  rw [wp_ite]
  refine ⟨fun _ => waited, fun _ => ?_⟩
  refine wp_save Waited.stable waited (fun u waited _ => ?_) fun e u waited _ =>
    ⟨.unsaved, (waited.toKnown.unsaved rfl).toKnown⟩
  refine waited.saved (fun deadline _ bars => bars.of_same ?_) (by simp [Dict.update])
  simp [Dict.update, waited.data]

/-- An event of the poll. -/
theorem Waited.note (waited : Waited config start now s) (own : EvccClient) (event : Event)
    (owns : own.started = true ∧ own.data = s.1.data)
    (used : ∀ p admitted, event.use = some (p, admitted) → admitted = now) :
    Kept config start (s.2.1.note event, s.2.2) ∧
      Waited config start now (own, s.2.1.note event, s.2.2) := by
  have kept : Kept config start (s.2.1.note event, s.2.2) := by
    refine waited.kept.note fun sound p admitted use deadline found => ?_
    rw [used p admitted use]
    exact waited.due sound deadline found
  exact ⟨kept, ⟨⟨owns.1, owns.2.trans waited.data⟩, kept⟩, waited.past, fun sound =>
    waited.due (sound_before sound List.suffix_rfl (List.suffix_cons _ _))⟩

variable {process : ℕ}

theorem wp_ensureEngine_waited (waited : Waited config start now s) :
    wp (law (Kept config start)) (quietly (ensureEngine process now))
      (fun _ => Waited config start now) (fun _ => Waited config start now) s := by
  refine wp_ensureEngine Waited.stable waited (fun _ waited _ => waited) fun t waited _ engine => ?_
  have noted := waited.note { t.1 with engine := engine }
    (.constructed process now t.2.1.file) ⟨waited.started, rfl⟩ fun p admitted use => by
      cases use
      rfl
  exact ⟨noted.1, noted.2, fun _ => noted.2⟩

theorem wp_askEngine_waited (waited : Waited config start now s) :
    wp (law (Kept config start)) (askEngine process now)
      (fun _ => Waited config start now) (fun _ => Waited config start now) s := by
  have noted : ∀ t, Waited config start now t →
      Kept config start (t.2.1.note (.polled process now t.2.1.file), t.2.2) ∧
        Waited config start now (t.1, t.2.1.note (.polled process now t.2.1.file), t.2.2) :=
    fun t waited => waited.note t.1 _ ⟨waited.started, rfl⟩ fun p admitted use => by
      cases use
      rfl
  refine wp_askEngine Waited.stable waited (fun e t waited _ => noted t waited)
    fun response t waited _ => ?_
  obtain ⟨kept, after⟩ := noted t waited
  have answered := kept.answered response t.1.data
    (t.2.1.note (.polled process now t.2.1.file)).trace
  refine ⟨answered, ⟨⟨after.started, after.data⟩, answered⟩, after.past, fun sound => ?_⟩
  exact after.due (sound_before sound (List.suffix_cons _ _) List.suffix_rfl)

/-- A reading is saved. -/
theorem Known.succeeded (known : Known config start s) {data : Dict PyValue}
    (bars : Sound config start s.2 → Held config start s.2 →
      ∀ deadline ∈ deadlines config start s.2.2, Bars (some data) "next_poll" deadline.1)
    (count : data.get "failures" = some (.int 0)) :
    Kept config start ((stored data (unlogged s)).2, .succeeded :: s.2.2) ∧
      Known config start ((stored data (unlogged s)).1, (stored data (unlogged s)).2,
        .succeeded :: s.2.2) :=
  have kept := known.kept.succeeded bars count
  ⟨kept, ⟨known.started, rfl⟩, kept⟩

/-- A reading, after every deadline, is saved with an interval. -/
theorem wp_takeReading {startedAt : ℚ} {data : Dict PyValue} (waited : Waited config start now s) :
    wp (law (Kept config start)) (takeReading config startedAt now data)
      (fun _ => Known config start) (fun _ => Yielding config start) s := by
  unfold takeReading
  rw [wp_bind, wp_ofExcept]
  cases normalize data config.vin config.capacity config.home with
  | error e => exact waited.yielding
  | ok candidate =>
    simp only
    cases candidate.soc with
    | none => exact waited.yielding
    | some soc =>
      rw [wp_bind]
      refine wp_alter Waited.stable waited fun t waited _ => ?_
      have taken := waited.note (acquired startedAt now candidate (unlogged t)).1
        (.acquired startedAt candidate) ⟨waited.started, rfl⟩ fun p admitted use => by cases use
      refine ⟨taken.1, wp_look Waited.stable taken.2 fun u waited _ => ?_⟩
      have late : now ≤ u.2.1.wall := waited.past
      refine wp_saveReading Waited.stable waited (fun v waited _ => ?_) fun e v waited _ =>
        ⟨.unsaved, waited.toKnown.unsaved rfl⟩
      refine (waited.toKnown.succeeded (fun sound _ deadline found => ?_) ?_)
      · have holds : Holds (some (v.1.data.update [("failures", .int 0), ("next_poll",
            .float (.finite (u.2.1.wall + config.pollInterval)))])) "next_poll"
              (u.2.1.wall + config.pollInterval) := by
          simp [Holds, Dict.update]
        exact holds.bars (by linarith [waited.due sound deadline found, config.pollInterval_pos])
      · simp [Dict.update]

/-- What `_poll_engine` may catch leaves a poll that yields to what was recorded. -/
theorem wp_takeReply {startedAt : ℚ} (waited : Waited config start now s) :
    wp (law (Kept config start)) (takeReply config startedAt now response)
      (fun _ => Known config start) (fun e t => Known config start t ∧
        (isCaught e = true → Yielding config start t)) s := by
  unfold takeReply
  cases readingOf response with
  | some data =>
    exact wp_mono (wp_takeReading waited) (fun _ _ known => known) fun _ _ yielding =>
      ⟨yielding.toKnown, fun _ => yielding⟩
  | none =>
    exact wp_mono (wp_failure waited.yielding) (fun _ _ known => known) fun _ _ both =>
      ⟨both.1, both.2 rfl⟩

/-- **`_poll_engine`** of a poll that was admitted after every deadline. -/
theorem wp_pollEngine (waited : Waited config start now s) :
    wp (law (Kept config start)) (pollEngine config process now) (fun _ => Known config start)
      (fun _ => Known config start) s := by
  unfold pollEngine
  rw [wp_bind]
  refine wp_value (wp_reserve waited) fun _ t waited => ?_
  rw [wp_bind]
  refine wp_value (wp_reserveLogin waited) fun _ u waited => ?_
  refine wp_look Waited.stable waited fun v waited _ => ?_
  rw [wp_handle]
  have used : wp (law (Kept config start)) (useEngine config process v.2.1.mono now)
      (fun _ => Known config start) (fun e t => Known config start t ∧
        (isCaught e = true → Yielding config start t)) v := by
    have passed : ∀ (e : PyError) (w : LoggedState), Waited config start now w →
        Known config start w ∧ (isCaught e = true → Yielding config start w) :=
      fun _ _ waited => ⟨waited.toKnown, fun _ => waited.yielding⟩
    unfold useEngine
    rw [wp_bind]
    refine wp_mono (wp_ensureEngine_waited waited) (fun _ w waited => ?_) passed
    rw [wp_bind]
    exact wp_mono (wp_askEngine_waited waited) (fun _ _ waited => wp_takeReply waited) passed
  refine wp_mono used (fun _ _ known => known) fun e w ended => ?_
  unfold engineFailed
  by_cases caught : isCaught e = true
  · rw [if_pos caught]
    simp only
    rw [wp_bind]
    have stops : wp (law (Kept config start)) (quietly (stopEngine false))
        (fun _ => Yielding config start) (fun _ => Known config start) w := by
      refine wp_stopEngine Yielding.stable (ended.2 caught) (fun _ yielding => yielding)
        (fun x yielding _ => ?_) fun e x yielding kept => ?_
      · exact ⟨⟨⟨yielding.started, yielding.data⟩, yielding.kept⟩, yielding.due⟩
      · have noted : Kept config start
            (x.2.1.note (.stopRaised false (blocked x.1.data) e), x.2.2) :=
          kept.note fun _ p now used => by cases used
        exact ⟨noted, ⟨yielding.started, yielding.data⟩, noted⟩
    refine wp_value stops fun _ x yielding => ?_
    exact wp_mono (wp_failure yielding) (fun _ _ known => known) fun _ _ both => both.1
  · rw [if_neg caught]
    exact ended.1

/-- A poll that is admitted comes after every deadline. -/
theorem Known.admitted (known : Known config start s)
    (admits : s.1.admits s.2.1.wall = .ok true) : Waited config start s.2.1.wall s := by
  refine ⟨known, le_rfl, fun sound deadline found => ?_⟩
  have reached : due s.1.data "next_poll" s.2.1.wall = .ok true := by
    unfold EvccClient.admits at admits
    split at admits
    · cases admits
    · cases next : due s.1.data "next_poll" s.2.1.wall with
      | error e =>
        rw [next] at admits
        cases admits
      | ok answer =>
        cases answer with
        | true => rfl
        | false =>
          rw [next] at admits
          cases admits
  rw [known.data] at reached
  exact (known.kept sound).bars deadline found _ reached

/-- **`poll`**, from rest to rest. -/
theorem wp_poll (rest : AtRest (Kept config start) s) :
    wp (law (Kept config start)) (poll config process) (fun _ => AtRest (Kept config start))
      (fun _ => AtRest (Kept config start)) s := by
  have atRest : ∀ t, Known config start t → AtRest (Kept config start) t := fun _ known =>
    known.toOwns.atRest known.kept
  unfold poll
  rw [wp_bind]
  refine wp_value (wp_start lockless_kept (fun _ kept => kept) rest) fun _ t started => ?_
  have known : Known config start t := ⟨started.1, started.2⟩
  refine wp_look Known.stable known fun u known _ => ?_
  rw [wp_bind, wp_ofExcept]
  cases admits : u.1.admits u.2.1.wall with
  | error e => exact atRest u known
  | ok admitted =>
    simp only
    rw [wp_bind]
    have polled : wp (law (Kept config start)) (pollIfAdmitted config process admitted u.2.1.wall)
        (fun _ => Known config start) (fun _ => Known config start) u := by
      unfold pollIfAdmitted
      rw [wp_ite]
      refine ⟨fun yes => ?_, fun _ => known⟩
      subst yes
      exact wp_pollEngine (known.admitted admits)
    refine wp_mono polled (fun _ v known => ?_) fun _ v known => atRest v known
    exact wp_look Known.stable known fun w known _ => atRest w known

end Knowledge

end Logged.Backoff

/-! ### Every run -/

section Runs

variable [PyText]

/-- What the client keeps. -/
def backingOff (config : Config) (start : ℕ) : Conduct config where
  inv := Logged.Backoff.Kept config start
  rest := Logged.Backoff.Kept config start
  vacant := Logged.Backoff.Kept config start
  kept _ kept := kept
  lockless := Logged.Backoff.lockless_kept
  waits := Logged.Backoff.lockless_kept
  empty := Logged.Backoff.lockless_kept
  noted _ _ _ kept := kept.note fun _ p now used => by cases used
  launch _ kept := kept
  crash s kept :=
    have released := Logged.Backoff.lockless_kept s.1 s.2 s.1.clock (s.1.release 0).holder kept
    ⟨released.died, released.died⟩
  poll _ rest := Logged.Backoff.wp_poll rest

/-- **The failure backoff** in every run of the client, with restarts at any point, whose saves
return and whose recorded failures are left alone: each of them is awaited, and saved with its count
and its deadline. The bound does not decrease from failure to failure, and after a reading the count
starts again. -/
theorem backed_off (config : Config) (clock : Clock) (file : Option (Dict PyValue)) (start : ℕ)
    (counts : Counts (file.getD []) start) (moves : List (Move Unit Call Passing Answer))
    (reliable : Reliable (records config clock file moves).2)
    (graceful : Graceful config start (records config clock file moves)) :
    Awaited config start (records config clock file moves) ∧
      Throughout (Exact config start) (records config clock file moves).2 ∧
        (∀ retryAfter, Monotone fun k => backoff config k retryAfter) ∧
          ∀ earlier, streak start (.succeeded :: earlier) = 0 := by
  have empty : Logged.Backoff.Kept config start (⟨clock, file, none, []⟩, []) := fun _ =>
    ⟨fun _ found => absurd found List.not_mem_nil, fun _ found => absurd found List.not_mem_nil,
      trivial, start, counts, rfl⟩
  have held : Logged.Backoff.Held config start (records config clock file moves) :=
    (backingOff config start).keeps empty empty moves ⟨reliable, graceful⟩
  refine ⟨fun recordedAt response data trace earlier found => ?_, held.exact, backoff_mono config,
    fun _ => rfl⟩
  exact ⟨held.bars _ (Logged.Backoff.mem_deadlines found),
    held.spared _ (Logged.Backoff.mem_deadlines found)⟩

end Runs

/-! ### Runs that can be checked -/

section Checks

variable {config : Config} {start : ℕ} {s : Records}

/-- The save that a note is about returned. -/
def Note.isSaved : Note → Bool
  | .unsaved _ => false
  | _ => true

theorem reliable_of_all {log : List Note} (saved : log.all Note.isSaved = true) : Reliable log :=
  fun changes found => by cases List.all_eq_true.mp saved (.unsaved changes) found

/-- No engine that a failure stops raises. -/
theorem graceful_of_all (quiet : s.1.trace.all Event.isQuiet = true) : Graceful config start s := by
  intro recordedAt response data trace earlier _
  refine .inr fun shut e raised => ?_
  have checked : (!isCaught e) = true :=
    List.all_eq_true.mp quiet _ (raised.subset List.mem_cons_self)
  rwa [Bool.not_eq_true'] at checked

/-- The use of an engine is admitted before the deadline. -/
def Event.isEarly (deadline : ℚ) (event : Event) : Bool :=
  event.use.any fun use => use.2 < deadline

/-- A failure whose deadline is not awaited. -/
def outrun (config : Config) (start : ℕ) (s : Records) : Bool :=
  (deadlines config start s.2).any fun deadline =>
    (s.1.trace.take (s.1.trace.length - deadline.2.length)).any (Event.isEarly deadline.1)

theorem exists_of_mem_deadlines {log : List Note} {deadline : ℚ × List Event}
    (found : deadline ∈ deadlines config start log) :
    ∃ recordedAt response data earlier,
      .failed recordedAt response data deadline.2 :: earlier <:+ log ∧
        deadline.1 = recordedAt + backoff config (streak start earlier + 1) (asksFor response) := by
  induction log with
  | nil => cases found
  | cons note log ih =>
    have later : deadline ∈ deadlines config start log → ∃ recordedAt response data earlier,
        .failed recordedAt response data deadline.2 :: earlier <:+ note :: log ∧
          deadline.1 = recordedAt +
            backoff config (streak start earlier + 1) (asksFor response) := fun found => by
      obtain ⟨recordedAt, response, data, earlier, suffix, same⟩ := ih found
      exact ⟨recordedAt, response, data, earlier, suffix.trans (List.suffix_cons _ _), same⟩
    cases note with
    | failed recordedAt response data trace =>
      cases List.mem_cons.mp found with
      | inl new =>
        rw [new]
        exact ⟨recordedAt, response, data, log, List.suffix_rfl, rfl⟩
      | inr old => exact later old
    | _ => exact later found

theorem Spared.not_early {deadline : ℚ} {before trace : List Event}
    (spared : Spared deadline before trace) :
    (trace.take (trace.length - before.length)).any (Event.isEarly deadline) = false := by
  obtain ⟨newer, rfl, uses⟩ := spared
  rw [List.length_append, Nat.add_sub_cancel, List.take_left]
  refine List.any_eq_false.mpr fun event found early => ?_
  cases used : event.use with
  | none =>
    unfold Event.isEarly at early
    rw [used] at early
    cases early
  | some use =>
    unfold Event.isEarly at early
    rw [used] at early
    exact absurd (uses event found use.1 use.2 used) (not_le.mpr (of_decide_eq_true early))

end Checks

/-- The engine is told to wait for 100001 s. -/
def limited : Answer := .plain [("ok", .bool false), ("error", .str "rate_limit"),
  ("retry_after", .int 100001)]

/-- A rate limit, and what the engine that is stopped for it raises; the client is polled again
51000 s later. -/
def rateLimited (closes : Option PyError) : List (Move Unit Call Passing Answer) :=
  [.launch (), .call () .poll] ++ again 17 limited ++
    [.step () { limited with closes := closes }] ++ again 8 limited ++
    [.world ⟨51000, 51000⟩, .call () .poll] ++ again 9 limited

/-- An engine that is closed in time. -/
theorem backed_off_once : letI := plainText
    Awaited hyundai 0 (records hyundai ⟨0, 100000⟩ none (rateLimited none)) :=
  (@backed_off plainText hyundai ⟨0, 100000⟩ none 0 ⟨rfl, le_rfl⟩ (rateLimited none)
    (reliable_of_all (by decide +kernel)) (graceful_of_all (by decide +kernel))).1

/-- **`retry_after` is lost** when the engine that is stopped for it cannot be closed at once, even
if every save returns: the client is polled again after 50000 s. -/
theorem retry_after_lost : letI := plainText
    Reliable (records hyundai ⟨0, 100000⟩ none (rateLimited (some .subprocess))).2 ∧
      ¬ Awaited hyundai 0 (records hyundai ⟨0, 100000⟩ none (rateLimited (some .subprocess))) := by
  refine ⟨reliable_of_all (by decide +kernel), fun awaited => ?_⟩
  have early : outrun hyundai 0
      (@records plainText hyundai ⟨0, 100000⟩ none (rateLimited (some .subprocess))) = true := by
    decide +kernel
  obtain ⟨deadline, found, early⟩ := List.any_eq_true.mp early
  obtain ⟨recordedAt, response, data, earlier, suffix, same⟩ := exists_of_mem_deadlines found
  have spared := (awaited recordedAt response data deadline.2 earlier suffix).2
  rw [← same] at spared
  rw [spared.not_early] at early
  cases early

end DbusEv.Evcc
