/-
**A recorded API pause is never shortened.**

The limits as a machine of their own: any sequence of operations, each saved, of restarts from the
saved file, and of time. `pauses` and `limited` record what the operations returned.

`Recorded` is the invariant: the file is the data in memory, the deadlines in memory are no earlier
than those in the data, the data remembers every pause that was returned, and its escalation level
is as high as the number of rate limits in a row. `pause_never_shortened` reads off it what holds at
the end of a whole run.
-/

import DbusEv.Mercedes.Traffic
import Mathlib.Tactic.Ring

set_option autoImplicit false
set_option linter.unusedSectionVars false

namespace DbusEv.Mercedes

/-! ### The machine -/

/-- One operation, a restart with its own monotonic clock, or the passing of time. -/
inductive LimitsOp
  | pause (delay : ℚ)
  | rateLimited (header : Option RetryAfter)
  | healthy
  | reserveLogin
  | loginFailed
  | manualLoginSucceeded
  | restart (mono : ℚ)
  | elapse (time : ℚ≥0)

/-- A delay an operation returned at wall time `wall`. -/
structure Pause where
  wall : ℚ≥0
  delay : ℚ

/-- A rate limit: it is number `count` since the last healthy stream outside a pause; `asked` is the
finite delay of its header. -/
structure Limited where
  count : ℕ
  asked : Option ℚ
  delay : ℚ

/-- The limits, the file, the clocks, and what the operations returned. -/
structure LimitsRun where
  limits : TrafficLimits
  file : PyValue
  clock : Clock
  streak : ℕ
  pauses : List Pause
  limited : List Limited

namespace LimitsRun

/-- A process that reads a limits file. -/
def start [PyText] (file : PyValue) (clock : Clock) : Except Exn LimitsRun :=
  (TrafficLimits.load file clock).map fun limits => ⟨limits, file, clock, 0, [], []⟩

/-- An operation leaves `limits` and saves their data. -/
def saved (s : LimitsRun) (limits : TrafficLimits) : LimitsRun :=
  { s with limits := limits, file := limits.data.encode }

/-- A healthy stream outside a pause ends a row of rate limits. -/
def calmed (s : LimitsRun) : LimitsRun :=
  { s with streak := if s.limits.remaining s.clock = 0 then 0 else s.streak }

/-- One operation; a restart fails where the constructor raises. -/
def step [PyText] (s : LimitsRun) : LimitsOp → Except Exn LimitsRun
  | .pause delay =>
    let (delay, limits) := s.limits.pause s.clock delay
    .ok { s.saved limits with pauses := ⟨s.clock.wall, delay⟩ :: s.pauses }
  | .rateLimited header =>
    let (delay, limits) := s.limits.rateLimited s.clock header
    let asked := header.bind (RetryAfter.delayAt s.clock.wall)
    .ok { s.saved limits with
      streak := s.streak + 1
      pauses := ⟨s.clock.wall, delay⟩ :: s.pauses
      limited := ⟨s.streak + 1, asked, delay⟩ :: s.limited }
  | .healthy =>
    match s.limits.healthy s.clock with
    | some limits => .ok (s.calmed.saved limits)
    | none => .ok s.calmed
  | .reserveLogin =>
    match s.limits.reserveLogin s.clock with
    | some limits => .ok (s.saved limits)
    | none => .ok s
  | .loginFailed => .ok (s.saved s.limits.loginFailed)
  | .manualLoginSucceeded => .ok (s.saved (s.limits.manualLoginSucceeded s.clock))
  | .restart mono =>
    let clock := s.clock.reboot mono
    (TrafficLimits.load s.file clock).map fun limits => { s with limits := limits, clock := clock }
  | .elapse time => .ok { s with clock := s.clock.elapse time }

/-- A run; it fails at a restart whose constructor raises. -/
def run [PyText] (s : LimitsRun) : List LimitsOp → Except Exn LimitsRun
  | [] => .ok s
  | op :: rest => (s.step op).bind fun next => next.run rest

/-! ### The invariant -/

/-- The `k`-th rate limit in a row pauses at least this long. -/
def escalation (count : ℕ) : ℚ := min (1800 * 2 ^ (count - 1)) 21600

/-- What a run keeps. -/
structure Recorded [PyText] (s : LimitsRun) : Prop where
  file : LimitsData.decode s.file = .ok s.limits.data
  coupled : s.limits.Coupled s.clock
  pauses : ∀ pause ∈ s.pauses,
    (pause.wall : ℚ) + pause.delay ≤ ((s.limits.data.requestAfter.getD 0 : ℚ≥0) : ℚ)
  level : escalation (s.streak + 1) ≤ s.limits.minimum
  limited : ∀ limit ∈ s.limited, escalation limit.count ≤ limit.delay ∧
    ∀ delay ∈ limit.asked, delay ≤ limit.delay

section Runs

variable [PyText] {s : LimitsRun}

theorem recorded_start {file : PyValue} {clock : Clock} {s : LimitsRun}
    (started : start file clock = .ok s) : s.Recorded := by
  unfold start TrafficLimits.load at started
  rcases decoded : LimitsData.decode file with e | data
  · rw [decoded] at started
    cases started
  · rw [decoded] at started
    cases started
    refine ⟨decoded, TrafficLimits.coupled_ofData data clock, nofun, ?_, nofun⟩
    calc escalation 1 ≤ rateLimitMin := by
          unfold escalation rateLimitMin
          norm_num
      _ ≤ _ := TrafficLimits.rateLimitMin_le_minimum _

/-- The file an operation saves is read back as its data. -/
theorem saved_file (s : LimitsRun) (limits : TrafficLimits) :
    LimitsData.decode (s.saved limits).file = .ok (s.saved limits).limits.data :=
  LimitsData.decode_encode limits.data

/-- A returned delay is in the data, and the data moves no pause forward. -/
theorem Recorded.remembers (recorded : s.Recorded) {delay : ℚ}
    (longer : s.limits.remaining s.clock ≤ delay) :
    ∀ pause ∈ (⟨s.clock.wall, delay⟩ :: s.pauses : List Pause),
      (pause.wall : ℚ) + pause.delay ≤ s.clock.wall + delay := by
  intro pause found
  rcases List.mem_cons.mp found with rfl | earlier
  · exact le_rfl
  · have left := recorded.coupled.request
    have before := recorded.pauses pause earlier
    unfold TrafficLimits.remaining at longer
    linarith

theorem Recorded.pause (recorded : s.Recorded) (delay : ℚ) :
    ∃ next, s.step (.pause delay) = .ok next ∧ next.Recorded := by
  refine ⟨_, rfl, saved_file s _, recorded.coupled.pause delay, ?_, recorded.level,
    recorded.limited⟩
  intro pause found
  refine (recorded.remembers (s.limits.remaining_le_pause s.clock delay) pause found).trans_eq ?_
  exact (s.limits.pause_requestAfter s.clock delay).symm

/-- The level doubles with each rate limit. -/
theorem escalation_succ {count : ℕ} {minimum : ℚ} (level : escalation (count + 1) ≤ minimum) :
    escalation (count + 2) ≤ min (minimum * 2) rateLimitMax := by
  have doubled : (2 : ℚ) ^ (count + 1) = 2 ^ count * 2 := pow_succ 2 count
  unfold escalation rateLimitMax at *
  rw [Nat.add_sub_cancel] at level
  show min (1800 * 2 ^ (count + 1)) 21600 ≤ _
  rw [doubled]
  refine le_min ?_ (min_le_right _ _)
  rcases min_le_iff.mp level with low | high
  · exact (min_le_left _ _).trans (by linarith)
  · exact (min_le_right _ _).trans (by linarith)

theorem Recorded.rateLimited (recorded : s.Recorded) (header : Option RetryAfter) :
    ∃ next, s.step (.rateLimited header) = .ok next ∧ next.Recorded := by
  refine ⟨_, rfl, saved_file s _, recorded.coupled.rateLimited header, ?_, ?_, ?_⟩
  · intro pause found
    refine (recorded.remembers (s.limits.remaining_le_rateLimited s.clock header) pause
      found).trans_eq ?_
    exact (TrafficLimits.pause_requestAfter _ s.clock _).symm
  · show escalation (s.streak + 2) ≤
      max rateLimitMin (s.limits.rateLimited s.clock header).2.rateRetry
    rw [TrafficLimits.rateRetry_rateLimited]
    exact (escalation_succ recorded.level).trans (le_max_right _ _)
  · intro limit found
    rcases List.mem_cons.mp found with rfl | earlier
    · refine ⟨recorded.level.trans (s.limits.minimum_le_rateLimited s.clock header), ?_⟩
      intro delay asked
      exact s.limits.header_le_rateLimited asked
    · exact recorded.limited limit earlier

/-- A healthy stream starts the escalation anew outside a pause, and does nothing inside one. -/
theorem Recorded.healthy (recorded : s.Recorded) :
    ∃ next, s.step .healthy = .ok next ∧ next.Recorded := by
  have first : ∀ limits : TrafficLimits, escalation (0 + 1) ≤ limits.minimum := by
    intro limits
    refine le_trans ?_ limits.rateLimitMin_le_minimum
    unfold escalation rateLimitMin
    norm_num
  rcases resets : s.limits.healthy s.clock with _ | limits
  · refine ⟨s.calmed, by simp only [step, resets], recorded.file, recorded.coupled,
      recorded.pauses, ?_, recorded.limited⟩
    unfold calmed
    split
    · exact first _
    · exact recorded.level
  · obtain ⟨outside, rfl⟩ := TrafficLimits.healthy_some resets
    refine ⟨s.calmed.saved (s.limits.setRateRetry rateLimitMin), by simp only [step, resets],
      saved_file _ _, recorded.coupled.setRateRetry _, recorded.pauses, ?_, recorded.limited⟩
    unfold calmed
    rw [if_pos outside]
    exact first _

theorem Recorded.reserveLogin (recorded : s.Recorded) :
    ∃ next, s.step .reserveLogin = .ok next ∧ next.Recorded := by
  rcases reserved : s.limits.reserveLogin s.clock with _ | limits
  · exact ⟨s, by simp only [step, reserved], recorded⟩
  · obtain ⟨-, -, -, rfl⟩ := TrafficLimits.reserveLogin_some reserved
    exact ⟨s.saved (s.limits.delayLogin s.clock), by simp only [step, reserved], saved_file _ _,
      recorded.coupled.delayLogin, recorded.pauses, recorded.level, recorded.limited⟩

/-- **A restart reads the file back.** -/
theorem Recorded.restart (recorded : s.Recorded) (mono : ℚ) :
    ∃ next, s.step (.restart mono) = .ok next ∧ next.Recorded := by
  have loaded : s.step (.restart mono) = .ok { s with
      limits := TrafficLimits.ofData s.limits.data (s.clock.reboot mono)
      clock := s.clock.reboot mono } := by
    simp only [step, TrafficLimits.load, recorded.file, Except.map]
  exact ⟨_, loaded, recorded.file, TrafficLimits.coupled_ofData _ _, recorded.pauses,
    recorded.level, recorded.limited⟩

/-- **One operation keeps the invariant**, and a restart never fails. -/
theorem Recorded.step (recorded : s.Recorded) (op : LimitsOp) :
    ∃ next, s.step op = .ok next ∧ next.Recorded := by
  cases op with
  | pause delay => exact recorded.pause delay
  | rateLimited header => exact recorded.rateLimited header
  | healthy => exact recorded.healthy
  | reserveLogin => exact recorded.reserveLogin
  | loginFailed =>
    exact ⟨_, rfl, saved_file s _, recorded.coupled.loginFailed, recorded.pauses, recorded.level,
      recorded.limited⟩
  | manualLoginSucceeded =>
    exact ⟨_, rfl, saved_file s _, recorded.coupled.manualLoginSucceeded, recorded.pauses,
      recorded.level, recorded.limited⟩
  | restart mono => exact recorded.restart mono
  | elapse time =>
    exact ⟨_, rfl, recorded.file, recorded.coupled.elapse time, recorded.pauses, recorded.level,
      recorded.limited⟩

theorem Recorded.run (recorded : s.Recorded) (ops : List LimitsOp) :
    ∃ final, s.run ops = .ok final ∧ final.Recorded := by
  induction ops generalizing s with
  | nil => exact ⟨s, rfl, recorded⟩
  | cons op rest ih =>
    obtain ⟨next, stepped, kept⟩ := recorded.step op
    obtain ⟨final, ran, last⟩ := ih kept
    refine ⟨final, ?_, last⟩
    show (s.step op).bind _ = _
    rw [stepped]
    exact ran

/-! ### Every run -/

/-- **A recorded API pause is never shortened**: from any accepted file every run goes through, so
every restart is accepted; at its end every pause that was ever returned has run for no more than
the time since, and every rate limit paused for its place in the escalation and for its header. -/
theorem pause_never_shortened (file : PyValue) (clock : Clock) (s : LimitsRun)
    (started : start file clock = .ok s) (ops : List LimitsOp) :
    ∃ final, s.run ops = .ok final ∧
      (∀ pause ∈ final.pauses, pause.delay - (final.clock.wall - pause.wall) ≤
        final.limits.remaining final.clock) ∧
      ∀ limit ∈ final.limited, escalation limit.count ≤ limit.delay ∧
        ∀ delay ∈ limit.asked, delay ≤ limit.delay := by
  obtain ⟨final, ran, recorded⟩ := (recorded_start started).run ops
  refine ⟨final, ran, ?_, recorded.limited⟩
  intro pause found
  have before := recorded.pauses pause found
  have left := recorded.coupled.request
  unfold TrafficLimits.remaining
  linarith

end Runs

end LimitsRun

/-! ### One run -/

/-- Two rate limits, the second after a minute and before a restart. -/
def limitedTwice : List LimitsOp :=
  [.rateLimited none, .elapse 60, .rateLimited (some (.seconds (.finite 7200))), .restart 5]

/-- A process without a limits file. -/
def noLimits : LimitsRun :=
  ⟨TrafficLimits.ofData LimitsData.empty ⟨0, 0⟩, .dict [], ⟨0, 0⟩, 0, [], []⟩

/-- The run of `limitedTwice`: both pauses outlast the restart. -/
theorem pause_outlasts_restart :
    letI := plainText
    LimitsRun.start (.dict []) ⟨0, 0⟩ = .ok noLimits ∧
      ∃ final, noLimits.run limitedTwice = .ok final ∧
        (∀ pause ∈ final.pauses, pause.delay - (final.clock.wall - pause.wall) ≤
          final.limits.remaining final.clock) ∧
        ∀ limit ∈ final.limited, LimitsRun.escalation limit.count ≤ limit.delay ∧
          ∀ delay ∈ limit.asked, delay ≤ limit.delay :=
  ⟨rfl, @LimitsRun.pause_never_shortened plainText (.dict []) ⟨0, 0⟩ noLimits rfl limitedTwice⟩

end DbusEv.Mercedes
