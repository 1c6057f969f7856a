/-
**Deadlines, and two clocks that advance together.**

* `left deadline now` — what is left of a deadline: it counts down to zero and stays there.
* `Clock` — a monotonic and a wall clock. They advance by the same amounts (`elapse`); a restart
  may set the monotonic one anew (`reboot`), the wall clock goes on.

Readings, deadlines and delays are exact rationals. A program that adds doubles is modelled up to
the rounding of its sums.
-/

import Mathlib.Algebra.Order.Group.MinMax
import Mathlib.Data.NNRat.Lemmas
import Mathlib.Tactic.Abel
import Mathlib.Tactic.Linarith

set_option autoImplicit false
set_option linter.unusedSectionVars false

namespace DbusEv

/-! ### What is left of a deadline -/

section Left

variable {α : Type*} [AddCommGroup α] [LinearOrder α] [IsOrderedAddMonoid α]

/-- The time left until `deadline`, zero once it has passed. -/
def left (deadline now : α) : α := max 0 (deadline - now)

theorem left_nonneg (deadline now : α) : 0 ≤ left deadline now := le_max_left _ _

theorem sub_le_left (deadline now : α) : deadline - now ≤ left deadline now := le_max_right _ _

/-- Nothing is left exactly from the deadline on. -/
theorem left_eq_zero {deadline now : α} : left deadline now = 0 ↔ deadline ≤ now := by
  unfold left
  rw [max_eq_left_iff, sub_nonpos]

theorem left_pos {deadline now : α} : 0 < left deadline now ↔ now < deadline := by
  unfold left
  rw [lt_max_iff, sub_pos]
  exact ⟨fun either => either.resolve_left (lt_irrefl 0), Or.inr⟩

/-- A countdown loses no more than the time that passes. -/
theorem left_sub_le (deadline now : α) {time : α} (passes : 0 ≤ time) :
    left deadline now - time ≤ left deadline (now + time) := by
  unfold left
  rw [sub_le_iff_le_add]
  apply max_le
  · exact add_nonneg (le_max_left _ _) passes
  · calc deadline - now = deadline - (now + time) + time := by abel
      _ ≤ max 0 (deadline - (now + time)) + time := by gcongr; exact le_max_right _ _

/-- A countdown that starts now. -/
theorem left_add {now amount : α} (nonneg : 0 ≤ amount) : left (now + amount) now = amount := by
  unfold left
  rw [add_sub_cancel_left, max_eq_right nonneg]

end Left

/-! ### Two clocks -/

/-- A monotonic clock, whose zero is arbitrary, and a wall clock in seconds since the epoch. -/
structure Clock where
  mono : ℚ
  wall : ℚ≥0
  deriving DecidableEq

namespace Clock

/-- Both clocks advance by the same amount. -/
def elapse (clock : Clock) (time : ℚ≥0) : Clock := ⟨clock.mono + time, clock.wall + time⟩

/-- A restarted process may read a monotonic clock with another zero. -/
def reboot (clock : Clock) (mono : ℚ) : Clock := ⟨mono, clock.wall⟩

@[simp] theorem elapse_mono (clock : Clock) (time : ℚ≥0) :
    (clock.elapse time).mono = clock.mono + time := rfl

@[simp] theorem elapse_wall (clock : Clock) (time : ℚ≥0) :
    (clock.elapse time).wall = clock.wall + time := rfl

theorem wall_le_elapse (clock : Clock) (time : ℚ≥0) : clock.wall ≤ (clock.elapse time).wall := by
  rw [← NNRat.coe_le_coe, elapse_wall, NNRat.coe_add]
  exact le_add_of_nonneg_right time.coe_nonneg

end Clock

end DbusEv
