/-
**When reconnects are spaced.**

`_serve` computes a retry delay for the end of an attempt and passes it to `_cooldown`. While an API
pause is running `_cooldown` waits for that pause alone, so a pause that ends before the retry delay
cuts the delay short (`cut_short`).

* `Spaced` — the next attempt respects the retry delay and the pause of every ending before it.
* `SpacedWhen` — it always respects the pause, and the retry delay of an ending at which no pause
  was running, or one at least as long (`reconnects_spaced`, for every run).
-/

import DbusEv.Mercedes.Walk

set_option autoImplicit false
set_option linter.unusedSectionVars false

namespace DbusEv.Mercedes

open Exec

/-! ### The law -/

/-- The end of an attempt. -/
structure Ending where
  time : ℚ
  retry : ℚ
  remaining : ℚ

/-- The endings among some events. -/
def endings (events : List Event) : List Ending :=
  events.filterMap fun event =>
    match event with
    | .attemptEnded time retry remaining => some ⟨time, retry, remaining⟩
    | _ => none

/-- The start of an attempt. -/
def startOf : Event → Option ℚ
  | .attemptStarted mono => some mono
  | _ => none

/-- The next attempt waits for the retry delay and for the pause. -/
def Spaced (event : Event) (earlier : List Event) : Prop :=
  ∀ start ∈ startOf event, ∀ ending ∈ endings earlier,
    ending.time + ending.retry ≤ start ∧ ending.time + ending.remaining ≤ start

instance (event : Event) (earlier : List Event) : Decidable (Spaced event earlier) :=
  inferInstanceAs (Decidable (∀ start ∈ startOf event, ∀ ending ∈ endings earlier,
    ending.time + ending.retry ≤ start ∧ ending.time + ending.remaining ≤ start))

/-- At this ending no pause is running, or one as long as the retry delay. -/
def Ending.Clear (ending : Ending) : Prop :=
  ending.remaining = 0 ∨ ending.retry ≤ ending.remaining

/-- The attempt that starts now respects this ending. -/
def Ending.Over (ending : Ending) (now : ℚ) : Prop :=
  (ending.Clear → ending.time + ending.retry ≤ now) ∧ ending.time + ending.remaining ≤ now

/-- The next attempt waits for the pause, and for the retry delay of a clear ending. -/
def SpacedWhen (event : Event) (earlier : List Event) : Prop :=
  ∀ start ∈ startOf event, ∀ ending ∈ endings earlier, ending.Over start

/-! ### The invariant -/

theorem Ending.Over.mono {ending : Ending} {now later : ℚ} (passed : ending.Over now)
    (passes : now ≤ later) : ending.Over later :=
  ⟨fun clear => (passed.1 clear).trans passes, passed.2.trans passes⟩

/-- Every ending but the current ones is over, unless the task is to stop. -/
structure Rests (current : List Ending) (w : World) : Prop where
  trace : Throughout SpacedWhen w.trace
  passed : ∀ ending ∈ endings w.trace, ending.Over w.mono ∨ ending ∈ current ∨ w.stop = true
  past : ∀ ending ∈ current, ending.time ≤ w.mono

section Acts

variable {current : List Ending} {w : World}

/-- An event that is neither the start nor the end of an attempt. -/
theorem Rests.note (rests : Rests current w) {event : Event} (start : startOf event = none)
    (ending : endings [event] = []) : Rests current (w.note event) := by
  refine ⟨⟨?_, rests.trace⟩, ?_, rests.past⟩
  · intro time found
    rw [start] at found
    cases found
  · have same : endings (w.note event).trace = endings w.trace := by
      show endings ([event] ++ w.trace) = _
      unfold endings at ending ⊢
      rw [List.filterMap_append, ending, List.nil_append]
    rw [same]
    exact rests.passed

theorem Rests.pass (rests : Rests current w) (time : ℚ≥0) (stops : Bool) :
    Rests current (w.pass time stops) := by
  have later : w.mono ≤ (w.pass time stops).mono := le_add_of_nonneg_right time.coe_nonneg
  refine ⟨rests.trace, fun ending found => ?_,
    fun ending now => (rests.past ending now).trans later⟩
  rcases rests.passed ending found with passed | now | stop
  · exact .inl (passed.mono later)
  · exact .inr (.inl now)
  · refine .inr (.inr ?_)
    show (w.stop || stops) = true
    rw [stop, Bool.true_or]

theorem Rests.quiet {t : World} (rests : Rests current w) (trace : t.trace = w.trace)
    (clock : t.clock = w.clock) (stop : t.stop = w.stop) : Rests current t := by
  have mono : t.mono = w.mono := congrArg Clock.mono clock
  refine ⟨?_, ?_, ?_⟩
  · rw [trace]
    exact rests.trace
  · rw [trace, mono, stop]
    exact rests.passed
  · rw [mono]
    exact rests.past

theorem Rests.persist (rests : Rests current w) (write : LimitsWrite) :
    Rests current (w.persist write) := by
  have stored : Rests current { w with file := w.limits.data.encode } := rests.quiet rfl rfl rfl
  have saved : Rests current (World.note { w with file := w.limits.data.encode }
      (.saved write w.clock.wall w.remaining w.limits.data)) := stored.note rfl rfl
  exact saved

theorem closed_rests (current : List Ending) : Closed (Rests current) := by
  refine ⟨?_, fun w delay _ _ rests => ?_⟩
  · intro w t act rests
    cases act with
    | quiet same => exact rests.quiet same.trace same.clock same.stop
    | pass time stops => exact rests.pass time stops
    | requested owner step => exact rests.note rfl rfl
    | raised owner step e => exact rests.note rfl rfl
    | saveRaised inside => exact rests.note rfl rfl
    | accepted received =>
      rename_i session
      have taken : Rests current { w with session := session } := rests.quiet rfl rfl rfl
      have noted : Rests current (World.note { w with session := session } (.accepted w.mono)) :=
        taken.note rfl rfl
      exact noted
    | pullStarted due => exact rests.note rfl rfl
    | pulled delay least => exact rests.quiet rfl rfl rfl
    | interrupted delay paused least => exact rests.note rfl rfl
    | paused delay => exact rests.quiet rfl rfl rfl
    | rateLimited header => exact rests.quiet rfl rfl rfl
    | healthy => exact rests.quiet rfl rfl rfl
    | loginFailed => exact rests.quiet rfl rfl rfl
    | reserve free => exact rests.quiet rfl rfl rfl
    | reserved free =>
      rename_i limits
      have reserved : Rests current (w.setLimits limits) := rests.quiet rfl rfl rfl
      exact reserved.persist _
    | persisted write _ _ => exact rests.persist write
    | credentialsRead _ => exact rests.note rfl rfl
    | credentialsSent _ => exact rests.note rfl rfl
  · have planned : Rests current w.planPull := rests.quiet rfl rfl rfl
    have noted : Rests current (w.planPull.note (.pullEnded w.mono delay)) := planned.note rfl rfl
    exact noted

/-! ### One iteration of the loop -/

/-- An attempt starts when every ending is over. -/
theorem Rests.attemptStarted (rests : Rests [] w) (goesOn : w.stop = false) :
    Rests [] (w.note (.attemptStarted w.mono)) := by
  have passed : ∀ ending ∈ endings w.trace, ending.Over w.mono := by
    intro ending found
    rcases rests.passed ending found with passed | now | stop
    · exact passed
    · cases now
    · rw [goesOn] at stop
      cases stop
  refine ⟨⟨?_, rests.trace⟩, fun ending found => .inl (passed ending found), nofun⟩
  intro start same
  cases same
  exact passed

/-- An attempt ends. -/
theorem Rests.attemptEnded (rests : Rests [] w) (retry remaining : ℚ) :
    Rests [⟨w.mono, retry, remaining⟩] (w.note (.attemptEnded w.mono retry remaining)) := by
  refine ⟨⟨nofun, rests.trace⟩, fun ending found => ?_, fun ending now => ?_⟩
  · rcases List.mem_cons.mp found with rfl | earlier
    · exact .inr (.inl List.mem_cons_self)
    · rcases rests.passed ending earlier with passed | now | stop
      · exact .inl passed
      · cases now
      · exact .inr (.inr stop)
  · rw [List.mem_singleton] at now
    subst now
    exact le_rfl

/-- The current ending is over, or the task is to stop. -/
theorem Rests.settle {ending : Ending} (rests : Rests [ending] w)
    (passed : w.stop = true ∨ ending.Over w.mono) : Rests [] w := by
  refine ⟨rests.trace, fun other found => ?_, nofun⟩
  rcases rests.passed other found with done | now | stop
  · exact .inl done
  · rw [List.mem_singleton] at now
    subst now
    exact passed.elim (fun stop => .inr (.inr stop)) .inl
  · exact .inr (.inr stop)

variable {env : Env} {vendor : Vendor}

/-- `_wait_for_api` waits until the pause is over. -/
theorem waitForApi_waits (fuel : ℕ) :
    wp (waitForApi env fuel)
      (fun _ t => t.stop = true ∨ w.mono + w.remaining ≤ t.mono ∨ w.remaining = 0)
      (fun _ _ => True) w := by
  have law : ∀ (fuel : ℕ) (u : World), u.limits.deadline = w.limits.deadline →
      wp (waitForApi env fuel) (fun _ t => t.stop = true ∨ w.limits.deadline ≤ t.mono)
        (fun _ _ => True) u := by
    intro fuel
    induction fuel with
    | zero => exact fun _ _ => trivial
    | succ fuel ih =>
      intro u same
      unfold waitForApi
      rw [wp_bind, wp_read, wp_ite]
      refine ⟨?_, fun _ => ?_⟩
      · rintro (stop | free)
        · exact .inl stop
        · exact .inr (same ▸ left_eq_zero.mp free)
      · rw [wp_bind, wp_await]
        rcases env.fate u.steps with _ | _ | _
        · exact ih _ same
        · trivial
        · trivial
  refine wp_mono (law fuel w rfl) ?_ fun _ _ _ => trivial
  rintro _ t (stop | past)
  · exact .inl stop
  · rcases eq_or_ne w.remaining 0 with none | some
    · exact .inr (.inr none)
    · refine .inr (.inl ?_)
      have running : 0 < w.remaining := lt_of_le_of_ne (left_nonneg _ _) some.symm
      have same : w.remaining = w.limits.deadline - w.mono :=
        max_eq_right (sub_pos.mpr (left_pos.mp running)).le
      linarith

variable [PyText]

/-- The loop of `_cooldown` ends at its deadline. -/
theorem cooldownLoop_waits (deadline : ℚ) (fuel : ℕ) :
    wp (cooldownLoop env vendor deadline fuel) (fun _ t => t.stop = true ∨ deadline ≤ t.mono)
      (fun _ _ => True) w := by
  induction fuel generalizing w with
  | zero => exact trivial
  | succ fuel ih =>
    unfold cooldownLoop
    rw [wp_bind, wp_read]
    simp only
    rw [wp_ite]
    refine ⟨?_, fun _ => ?_⟩
    · rintro (stop | past)
      · exact .inl stop
      · exact .inr (sub_nonpos.mp past)
    · rw [wp_ite]
      have anyway : ∀ x : Serve Unit, wp x (fun _ _ => True) (fun _ _ => True) w := fun x => by
        unfold wp
        rcases x w with ⟨_ | _, _⟩ <;> trivial
      refine ⟨fun _ => ?_, fun _ => ?_⟩
      · rw [wp_bind]
        exact wp_mono (anyway _) (fun _ t _ => ih) fun _ _ _ => trivial
      · rw [wp_bind]
        exact wp_mono (anyway _) (fun _ t _ => ih) fun _ _ _ => trivial

/-- **The cooldown after an ending** waits for its pause, or for its retry delay if no pause is
running. -/
theorem cooldown_settles {retry : ℚ} (fuel : ℕ)
    (rests : Rests [⟨w.mono, retry, w.remaining⟩] w) :
    wp (cooldown env vendor fuel retry) (fun _ => Rests [])
      (fun _ t => Throughout SpacedWhen t.trace) w := by
  have kept : Keeps (Rests [⟨w.mono, retry, w.remaining⟩]) (cooldown env vendor fuel retry) w :=
    keeps_cooldown (closed_rests _) rests fuel retry
  have waits : wp (cooldown env vendor fuel retry) (fun _ t => t.stop = true ∨
      (w.mono + w.remaining ≤ t.mono ∧ w.remaining ≠ 0) ∨
      (w.mono + retry ≤ t.mono ∧ w.remaining = 0)) (fun _ _ => True) w := by
    unfold cooldown
    rw [wp_bind, wp_read, wp_ite]
    refine ⟨fun some => ?_, fun none => ?_⟩
    · refine wp_mono (waitForApi_waits fuel) ?_ fun _ _ _ => trivial
      rintro _ t (stop | waited | free)
      · exact .inl stop
      · exact .inr (.inl ⟨waited, some⟩)
      · exact absurd free some
    · refine wp_mono (cooldownLoop_waits _ fuel) ?_ fun _ _ _ => trivial
      rintro _ t (stop | waited)
      · exact .inl stop
      · exact .inr (.inr ⟨waited, not_not.mp none⟩)
  refine wp_mono (wp_and kept waits) ?_ fun _ t both => both.1.trace
  rintro _ t ⟨rests, stop | ⟨waited, some⟩ | ⟨waited, none⟩⟩
  · exact rests.settle (.inl stop)
  · refine rests.settle (.inr ⟨fun clear => ?_, waited⟩)
    rcases clear with none | longer
    · exact absurd none some
    · exact (add_le_add_right longer w.mono).trans waited
  · refine rests.settle (.inr ⟨fun _ => waited, ?_⟩)
    show w.mono + w.remaining ≤ t.mono
    rw [none, add_zero]
    exact rests.past _ List.mem_cons_self

/-- **One iteration**, and then the whole loop. -/
theorem serveLoop_spaced (credentialsFile : Bool) (inner fuel : ℕ) (rests : Rests [] w) :
    Keeps (fun t => Throughout SpacedWhen t.trace)
      (serveLoop env vendor credentialsFile inner fuel) w := by
  have closed := closed_rests []
  have law : ∀ (halt : Halt) (t : World), Rests [] t → Throughout SpacedWhen t.trace :=
    fun _ _ rests => rests.trace
  induction fuel generalizing w with
  | zero => exact rests.trace
  | succ fuel ih =>
    unfold serveLoop Keeps
    rw [wp_bind, wp_read, wp_ite]
    refine ⟨fun _ => rests.trace, fun _ => ?_⟩
    rw [wp_bind]
    refine wp_mono (keeps_waitForApi closed.inert inner rests) ?_ law
    intro _ t rests
    rw [wp_bind, wp_read, wp_ite]
    refine ⟨fun _ => rests.trace, fun goesOn => ?_⟩
    rw [wp_bind, wp_emit, wp_bind]
    have started := rests.attemptStarted (Bool.eq_false_iff.mpr goesOn)
    refine wp_mono (keeps_attempt closed started inner) ?_ law
    intro blocked u rests
    rw [wp_bind, wp_read, wp_bind, wp_emit, wp_bind]
    refine wp_value (cooldown_settles inner (rests.attemptEnded u.retry u.remaining)) ?_
    intro _ v rests
    rw [wp_bind]
    exact wp_mono (keeps_afterCooldown closed.inert rests credentialsFile blocked)
      (fun _ _ rests => ih rests) law

end Acts

/-! ### Every run -/

/-- **The next attempt always waits for the API pause of the ending, and for its retry delay when no
pause was running or one at least as long**, in every run of `_serve`. -/
theorem reconnects_spaced [PyText] (env : Env) (vendor : Vendor) (config : Config)
    (limits : TrafficLimits) (file : PyValue) (clock : Clock) (credentialsFile : Bool)
    (inner fuel : ℕ) :
    Throughout SpacedWhen (serve env vendor credentialsFile inner fuel
      (World.start config limits file clock)).2.trace := by
  have fresh : Rests [] (World.start config limits file clock).served :=
    ⟨⟨nofun, trivial⟩, nofun, nofun⟩
  have run : Keeps (fun t => Throughout SpacedWhen t.trace)
      (serve env vendor credentialsFile inner fuel) (World.start config limits file clock) := by
    unfold serve Keeps
    rw [wp_bind, wp_change]
    exact serveLoop_spaced credentialsFile inner fuel fresh
  exact run.final

/-! ### A retry delay cut short -/

/-- **The retry delay is cut short**: the pause of the pull has 10 s left when the socket breaks, so
the next attempt starts after 10 s instead of the 60 s of the retry delay. -/
theorem cut_short :
    letI := plainText
    ¬ Throughout Spaced (serve breaksLate blindVendor false 3 2
      (World.start someConfig ⟨LimitsData.empty, 0, 0⟩ LimitsData.empty.encode
        ⟨0, 0⟩)).2.trace := by
  decide +kernel

end DbusEv.Mercedes
