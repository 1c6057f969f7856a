/-
**REST pulls are paced.**

A pull starts outside an API pause, 600 s after the last accepted payload and after the end of the
previous pull, as long after a failed pull as its failure asks for, and 120 s after the start of
`_serve` (`pulls_paced`).

`Paced` is the invariant. Every time that a later pull must respect is behind one of three
deadlines: the planned time `nextPull`, the acquisition time, or the API pause; the last one covers
a failed pull whose pause could not be saved, which never plans the next pull.
-/

import DbusEv.Mercedes.Walk

set_option autoImplicit false
set_option linter.unusedSectionVars false

namespace DbusEv.Mercedes

open Exec

/-! ### The law -/

/-- What a pull that starts respects. -/
def PullPaced : Event → List Event → Prop
  | .pullStarted mono remaining, earlier =>
    remaining = 0 ∧
    (∀ time, .accepted time ∈ earlier → time + pullInterval ≤ mono) ∧
    (∀ time delay, .pullEnded time delay ∈ earlier →
      time + pullInterval ≤ mono ∧ ∀ d, delay = some d → time + d ≤ mono) ∧
    ∀ time, .serveStarted time ∈ earlier → time + initialPullDelay ≤ mono
  | _, _ => True

/-- The earliest time the plan or the pause allows a pull. -/
def World.pullBar (w : World) : ℚ := max w.session.client.nextPull w.limits.deadline

/-- The invariant of the pacing. -/
structure Paced (w : World) : Prop where
  trace : Throughout PullPaced w.trace
  retry : pullInterval ≤ w.session.client.pullRetry
  received : ∀ time, .accepted time ∈ w.trace →
    ∃ last, w.session.client.received = some last ∧ time ≤ last
  past : ∀ last, w.session.client.received = some last → last ≤ w.mono
  ended : ∀ time delay, .pullEnded time delay ∈ w.trace →
    time + pullInterval ≤ w.pullBar ∧ ∀ d, delay = some d → time + d ≤ w.pullBar
  started : ∀ time, .serveStarted time ∈ w.trace →
    time + initialPullDelay ≤ w.session.client.nextPull

/-! ### One act -/

section Acts

variable {w : World}

/-- A pull that is due is past the bar, and past the acquisition. -/
theorem pullBar_le_of_due (due : w.pullDelay = 0) : w.remaining = 0 ∧ w.pullBar ≤ w.mono := by
  have free : w.remaining = 0 :=
    le_antisymm (due ▸ remaining_le_pullDelay w) (w.limits.remaining_nonneg w.clock)
  exact ⟨free, max_le (nextPull_le_of_due due) (left_eq_zero.mp free)⟩

theorem received_le_of_due (due : w.pullDelay = 0) {last : ℚ}
    (received : w.session.client.received = some last) : last + pullInterval ≤ w.mono := by
  have passed : left w.pullDue w.mono ≤ 0 := due ▸ le_max_left (left w.pullDue w.mono) w.remaining
  refine le_trans ?_ (left_eq_zero.mp (le_antisymm passed (left_nonneg _ _)))
  unfold World.pullDue
  rw [received]
  exact le_max_right _ _

/-- A pause never brings its deadline forward. -/
theorem deadline_le_pause (limits : TrafficLimits) (clock : Clock) (delay : ℚ) :
    limits.deadline ≤ (limits.pause clock delay).2.deadline := by
  have kept := limits.remaining_le_pause clock delay
  have longer := (sub_le_left limits.deadline clock.mono).trans kept
  show limits.deadline ≤ clock.mono + (limits.pause clock delay).1
  linarith

/-- An event the law does not look at. -/
theorem Paced.note (paced : Paced w) {event : Event} (law : PullPaced event w.trace)
    (accepted : ∀ time, event ≠ .accepted time)
    (ended : ∀ time delay, event ≠ .pullEnded time delay)
    (started : ∀ time, event ≠ .serveStarted time) : Paced (w.note event) := by
  refine ⟨⟨law, paced.trace⟩, paced.retry, ?_, paced.past, ?_, ?_⟩
  · intro time found
    rcases List.mem_cons.mp found with same | found
    · exact absurd same.symm (accepted time)
    · exact paced.received time found
  · intro time delay found
    rcases List.mem_cons.mp found with same | found
    · exact absurd same.symm (ended time delay)
    · exact paced.ended time delay found
  · intro time found
    rcases List.mem_cons.mp found with same | found
    · exact absurd same.symm (started time)
    · exact paced.started time found

/-- Limits with a later deadline. -/
theorem Paced.setLimits (paced : Paced w) {limits : TrafficLimits}
    (later : w.limits.deadline ≤ limits.deadline) : Paced (w.setLimits limits) := by
  refine ⟨paced.trace, paced.retry, paced.received, paced.past, ?_, paced.started⟩
  intro time delay found
  obtain ⟨interval, asked⟩ := paced.ended time delay found
  have bar : w.pullBar ≤ (w.setLimits limits).pullBar := max_le_max le_rfl later
  exact ⟨interval.trans bar, fun d same => (asked d same).trans bar⟩

/-- **A pull that is due respects everything before it.** -/
theorem Paced.pullStarted (paced : Paced w) (due : w.pullDelay = 0) :
    Paced (w.note (.pullStarted w.mono w.remaining)) := by
  obtain ⟨free, bar⟩ := pullBar_le_of_due due
  refine paced.note ⟨free, ?_, ?_, ?_⟩ nofun nofun nofun
  · intro time found
    obtain ⟨last, received, later⟩ := paced.received time found
    have acquired := received_le_of_due due received
    linarith
  · intro time delay found
    obtain ⟨interval, asked⟩ := paced.ended time delay found
    exact ⟨interval.trans bar, fun d same => (asked d same).trans bar⟩
  · intro time found
    exact (paced.started time found).trans (nextPull_le_of_due due)

theorem Paced.pass (paced : Paced w) (time : ℚ≥0) (stops : Bool) : Paced (w.pass time stops) := by
  refine ⟨paced.trace, paced.retry, paced.received, ?_, paced.ended, paced.started⟩
  intro last received
  have later : w.mono ≤ (w.pass time stops).mono := le_add_of_nonneg_right time.coe_nonneg
  exact (paced.past last received).trans later

theorem Paced.accepted (paced : Paced w) {session : Session}
    (received : w.session.Received w.mono session) :
    Paced (World.note { w with session := session } (.accepted w.mono)) := by
  refine ⟨⟨trivial, paced.trace⟩, received.pullRetry ▸ paced.retry, ?_, ?_, ?_, ?_⟩
  · intro time found
    refine ⟨w.mono, received.received, ?_⟩
    rcases List.mem_cons.mp found with same | found
    · cases same
      exact le_rfl
    · obtain ⟨last, before, le⟩ := paced.received time found
      exact le.trans (paced.past last before)
  · intro last same
    have now : some last = some w.mono := same.symm.trans received.received
    cases now
    exact le_rfl
  · intro time delay found
    rcases List.mem_cons.mp found with same | found
    · cases same
    · have ended := paced.ended time delay found
      unfold World.pullBar at ended ⊢
      exact received.nextPull.symm ▸ ended
  · intro time found
    rcases List.mem_cons.mp found with same | found
    · cases same
    · exact received.nextPull.symm ▸ paced.started time found

/-- A failed pull waits 600 s at least. -/
theorem pullInterval_le_least (paced : Paced w) : pullInterval ≤
    min (min (w.session.client.pullRetry * 2) reconnectMax) rateLimitMin := by
  have retry := paced.retry
  unfold pullInterval reconnectMax rateLimitMin at *
  refine le_min (le_min ?_ ?_) ?_
  · linarith
  · norm_num
  · norm_num

theorem Paced.interrupted (paced : Paced w) {delay : ℚ}
    (paused : w.mono + delay ≤ w.limits.deadline)
    (least : min (min (w.session.client.pullRetry * 2) reconnectMax) rateLimitMin ≤ delay) :
    Paced (w.note (.pullEnded w.mono (some delay))) := by
  have interval := (pullInterval_le_least paced).trans least
  have bar : w.mono + delay ≤ w.pullBar := paused.trans (le_max_right _ _)
  refine ⟨⟨trivial, paced.trace⟩, paced.retry, ?_, paced.past, ?_, ?_⟩
  · intro time found
    rcases List.mem_cons.mp found with same | found
    · cases same
    · exact paced.received time found
  · intro time delay found
    rcases List.mem_cons.mp found with same | found
    · cases same
      refine ⟨le_trans (by linarith) bar, ?_⟩
      rintro d ⟨⟩
      exact bar
    · exact paced.ended time delay found
  · intro time found
    rcases List.mem_cons.mp found with same | found
    · cases same
    · exact paced.started time found

/-- The end of a pull plans the next one. -/
theorem Paced.planned (paced : Paced w) {delay : Option ℚ}
    (due : w.session.client.nextPull ≤ w.mono)
    (retried : ∀ d, delay = some d → d = w.session.client.pullRetry) :
    Paced (w.planPull.note (.pullEnded w.mono delay)) := by
  have positive : (0 : ℚ) ≤ pullInterval := by unfold pullInterval; norm_num
  have retry := paced.retry
  have later : w.session.client.nextPull ≤ w.mono + w.session.client.pullRetry := by linarith
  have bar : w.pullBar ≤ w.planPull.pullBar := max_le_max later le_rfl
  have plan : w.mono + w.session.client.pullRetry ≤ w.planPull.pullBar := le_max_left _ _
  refine ⟨⟨trivial, paced.trace⟩, paced.retry, ?_, paced.past, ?_, ?_⟩
  · intro time found
    rcases List.mem_cons.mp found with same | found
    · cases same
    · exact paced.received time found
  · intro time delay found
    rcases List.mem_cons.mp found with same | found
    · cases same
      refine ⟨le_trans (by linarith) plan, ?_⟩
      intro d asked
      exact retried d asked ▸ plan
    · obtain ⟨interval, asked⟩ := paced.ended time delay found
      exact ⟨interval.trans bar, fun d same => (asked d same).trans bar⟩
  · intro time found
    rcases List.mem_cons.mp found with same | found
    · cases same
    · exact (paced.started time found).trans later

theorem Paced.quiet {t : World} (paced : Paced w) (same : Same w t) : Paced t := by
  have mono : t.mono = w.mono := congrArg Clock.mono same.clock
  have bar : t.pullBar = w.pullBar := by
    unfold World.pullBar
    rw [same.nextPull, same.limits]
  refine ⟨?_, ?_, ?_, ?_, ?_, ?_⟩
  · rw [same.trace]
    exact paced.trace
  · rw [same.pullRetry]
    exact paced.retry
  · rw [same.trace, same.received]
    exact paced.received
  · rw [same.received, mono]
    exact paced.past
  · rw [same.trace, bar]
    exact paced.ended
  · rw [same.trace, same.nextPull]
    exact paced.started

theorem Paced.persist (paced : Paced w) (write : LimitsWrite) : Paced (w.persist write) := by
  have stored : Paced { w with file := w.limits.data.encode } :=
    ⟨paced.trace, paced.retry, paced.received, paced.past, paced.ended, paced.started⟩
  have saved : Paced (World.note { w with file := w.limits.data.encode }
      (.saved write w.clock.wall w.remaining w.limits.data)) :=
    stored.note trivial nofun nofun nofun
  exact saved

theorem inert_paced : Inert Paced := by
  intro w t act paced
  cases act with
  | quiet same => exact paced.quiet same
  | pass time stops => exact paced.pass time stops
  | requested owner step => exact paced.note trivial nofun nofun nofun
  | raised owner step e => exact paced.note trivial nofun nofun nofun
  | saveRaised inside => exact paced.note trivial nofun nofun nofun
  | accepted received => exact paced.accepted received
  | pullStarted due => exact paced.pullStarted due
  | pulled delay least =>
    have enough : pullInterval ≤ delay :=
      least.elim (fun same => same.ge) ((pullInterval_le_least paced).trans ·)
    exact ⟨paced.trace, enough, paced.received, paced.past, paced.ended, paced.started⟩
  | interrupted delay paused least => exact paced.interrupted paused least
  | paused delay => exact paced.setLimits (deadline_le_pause _ _ _)
  | rateLimited header => exact paced.setLimits (deadline_le_pause (w.limits.setRateRetry _) _ _)
  | healthy => exact paced.setLimits le_rfl
  | loginFailed => exact paced.setLimits le_rfl
  | reserve free =>
    obtain ⟨-, -, -, rfl⟩ := TrafficLimits.reserveLogin_some free
    exact paced.setLimits le_rfl
  | reserved free =>
    obtain ⟨-, -, -, rfl⟩ := TrafficLimits.reserveLogin_some free
    have delayed : Paced (w.setLimits (w.limits.delayLogin w.clock)) := paced.setLimits le_rfl
    exact delayed.persist _
  | persisted write _ _ => exact paced.persist write
  | credentialsRead _ => exact paced.note trivial nofun nofun nofun
  | credentialsSent _ => exact paced.note trivial nofun nofun nofun

/-- **One act keeps the pacing.** -/
theorem closed_paced : Closed Paced :=
  ⟨inert_paced, fun _ _ due retried paced => paced.planned due retried⟩

end Acts

/-! ### Every run -/

/-- **REST pulls are paced**, in every run of `_serve`. -/
theorem pulls_paced [PyText] (env : Env) (vendor : Vendor) (config : Config)
    (limits : TrafficLimits) (file : PyValue) (clock : Clock) (credentialsFile : Bool)
    (inner fuel : ℕ) :
    Throughout PullPaced (serve env vendor credentialsFile inner fuel
      (World.start config limits file clock)).2.trace := by
  have fresh : Paced (World.start config limits file clock).served := by
    refine ⟨⟨trivial, trivial⟩, le_rfl, ?_, nofun, ?_, ?_⟩
    · intro time found
      rcases List.mem_cons.mp found with same | found <;> [cases same; cases found]
    · intro time delay found
      rcases List.mem_cons.mp found with same | found <;> [cases same; cases found]
    · intro time found
      rcases List.mem_cons.mp found with same | found
      · cases same
        exact le_rfl
      · cases found
  have run : Keeps Paced (serve env vendor credentialsFile inner fuel)
      (World.start config limits file clock) :=
    keeps_bind (keeps_change fresh) fun _ _ paced =>
      keeps_serveLoop closed_paced (fun _ paced => paced.note trivial nofun nofun nofun)
        (fun _ paced => paced.note trivial nofun nofun nofun) credentialsFile inner fuel paced
  exact run.final.trace

end DbusEv.Mercedes
