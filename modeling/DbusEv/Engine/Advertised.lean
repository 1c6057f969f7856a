/-
**The delay that a manufacturer advertises** (`vehicle-engine/traffic.go`).

`time.Duration(delay) * time.Second` drops a fraction of a second, and a pause that was not saved is
lost in a restart.

* `le_until_iff` — a pause reaches the end of the advertised delay exactly if that is a whole number
  of seconds or the backoff is no shorter (`Unshortened`).
* `never_shortened` — in every run, no request is sent before the end of such a delay, unless a
  restart found a file without its rejection (`found`).
* `shortened` — a header of `1800.5`.
-/

import DbusEv.Engine.Pause

set_option autoImplicit false

namespace DbusEv.Engine

/-! ### The seconds of a duration -/

/-- The seconds of a duration are between two integers. -/
theorem seconds_range {d : ℤ} (nonneg : 0 ≤ d) (high : d ≤ maxDuration) :
    (d / second : ℤ) ≤ seconds d ∧ seconds d ≤ (d / second : ℤ) + 1 := by
  have low : minDuration ≤ d := le_trans (by norm_num [minDuration]) nonneg
  have whole : d.tdiv second = d / second := Int.tdiv_eq_ediv_of_nonneg nonneg
  have short := (abs_parts low high).1
  have fraction := abs_fraction low high
  have positive : (0 : ℚ) ≤ (d.tmod second : ℚ) / 1000000000 := by
    have rest : 0 ≤ d.tmod second := Int.tmod_nonneg _ nonneg
    have cast : (0 : ℚ) ≤ d.tmod second := by exact_mod_cast rest
    positivity
  have bounded := (abs_le.mp (abs_float64_le fraction)).2
  have rounded : 0 ≤ float64 ((d.tmod second : ℚ) / 1000000000) :=
    PyFloat.nonneg_of_ofRat (float64_finite (lt_of_le_of_lt fraction (by norm_num))) positive
  unfold seconds
  rw [whole] at short ⊢
  rw [float64_intCast (short.trans (by norm_num))]
  have wholeNonneg : 0 ≤ d / second := Int.ediv_nonneg nonneg (by decide)
  have castNonneg : (0 : ℚ) ≤ (d / second : ℤ) := by exact_mod_cast wholeNonneg
  have castShort : ((d / second : ℤ) : ℚ) ≤ 2 ^ 34 := by
    rw [abs_of_nonneg wholeNonneg] at short
    exact_mod_cast short
  generalize float64 ((d.tmod second : ℚ) / 1000000000) = rest at bounded rounded
  generalize d / second = n at castNonneg castShort
  by_cases zero : (n : ℚ) + rest = 0
  · have none : (n : ℚ) = 0 := by linarith
    rw [zero, none]
    norm_num [float64, PyFloat.ofRat]
  · have sum : 0 ≤ (n : ℚ) + rest := by linarith
    have small : |(n : ℚ) + rest| < 2 ^ 53 := by
      rw [abs_of_nonneg sum]
      linarith
    have rounds := float64_finite (small.trans (by norm_num))
    have sign := PyFloat.nonneg_of_ofRat rounds sum
    have least := PyFloat.intCast_le_abs_ofRat zero small rounds (n := n)
      (by rw [abs_of_nonneg sum]; linarith)
    have most := PyFloat.abs_ofRat_le_intCast zero small rounds (n := n + 1)
      (by rw [abs_of_nonneg sum]; push_cast; linarith)
    rw [abs_of_nonneg sign] at least most
    push_cast at most
    exact ⟨least, most⟩

/-! ### The advertised delay -/

namespace Rejection

/-- The delay that the header advertises, in nanoseconds. -/
def advertised (rejection : Rejection) : ℚ :=
  match rejection.response.retryAfter with
  | .seconds (.finite value) => value * second
  | .date instant => instant - rejection.handled
  | _ => 0

/-- The least pause after it, in seconds. -/
def least (rejection : Rejection) : ℤ :=
  leastPause (min 5 (rejection.failures + 1)) (errorOf rejection.response.status)

/-- The header gives a whole number of seconds, or a date a whole number of seconds ahead, or one so
far and so close to the next second that the double of its seconds is that one. -/
def Whole (rejection : Rejection) : Prop :=
  match rejection.response.retryAfter with
  | .seconds (.finite value) => (⌊value⌋ : ℚ) = value
  | .date instant =>
    let ahead := instant - rejection.handled
    second ∣ ahead ∨ (ahead / second : ℤ) + 1 ≤ seconds ahead
  | _ => True

/-- The conversion to a `Duration` does not shorten the delay. -/
def Unshortened (rejection : Rejection) : Prop :=
  rejection.advertised ≤ (rejection.least * second : ℤ) ∨ rejection.Whole

/-- The delay ends within a century. -/
def WithinCentury (rejection : Rejection) : Prop :=
  rejection.advertised ≤ (century * second : ℤ)

end Rejection

theorem second_pos : (0 : ℚ) < (second : ℤ) := by
  norm_num [second]

/-- A duration ends by the floor of its seconds exactly if it is whole, or its seconds are rounded
up to the next whole one. -/
theorem le_floor_seconds_iff {d : ℤ} (nonneg : 0 ≤ d) (fits : d ≤ maxDuration) :
    second ∣ d ∨ ((d / second : ℤ) : ℚ) + 1 ≤ seconds d ↔ d ≤ ⌊seconds d⌋ * second := by
  have floorLow := Int.le_floor.mpr (seconds_range nonneg fits).1
  constructor
  · rintro (⟨n, rfl⟩ | next)
    · rw [Int.mul_ediv_cancel_left n (by decide)] at floorLow
      exact (mul_le_mul_of_nonneg_left floorLow (by decide)).trans_eq (mul_comm _ _)
    · have floor : d / second + 1 ≤ ⌊seconds d⌋ := Int.le_floor.mpr (by push_cast; exact next)
      have after := Int.lt_ediv_add_one_mul_self d (by decide : 0 < second)
      exact after.le.trans (mul_le_mul_of_nonneg_right floor (by decide))
  · intro le
    by_cases whole : second ∣ d
    · exact Or.inl whole
    · -- The duration is not a multiple, so its seconds are at least the next one.
      have before : d / second < ⌊seconds d⌋ := by
        by_contra not
        have same : ⌊seconds d⌋ * second ≤ d / second * second :=
          mul_le_mul_of_nonneg_right (not_lt.mp not) (by decide)
        have down := Int.ediv_mul_le d (by decide : second ≠ 0)
        exact whole ⟨d / second, by rw [mul_comm]; omega⟩
      have floor : ((d / second + 1 : ℤ) : ℚ) ≤ seconds d := Int.le_floor.mp before
      push_cast at floor
      exact Or.inr floor

/-- A delay that is longer than the least pause is kept if its seconds are whole. -/
theorem whole_iff {rejection : Rejection} (within : rejection.WithinCentury)
    (positive : 0 < rejection.advertised) :
    rejection.Whole ↔ rejection.advertised ≤
      (⌊rejection.response.retryAfter.delay rejection.handled⌋ * second : ℤ) := by
  unfold Rejection.WithinCentury at within
  unfold Rejection.advertised at within positive ⊢
  unfold Rejection.Whole
  cases header : rejection.response.retryAfter with
  | unreadable =>
    rw [header] at positive
    exact absurd positive (lt_irrefl 0)
  | seconds value =>
    rw [header] at within positive
    cases value with
    | inf negative => exact absurd positive (lt_irrefl 0)
    | nan => exact absurd positive (lt_irrefl 0)
    | finite value =>
      have above : 0 < value := pos_of_mul_pos_left positive second_pos.le
      have delay : (RetryAfter.seconds (.finite value)).delay rejection.handled = value :=
        if_pos above
      dsimp only
      rw [delay]
      push_cast
      rw [mul_le_mul_iff_left₀ second_pos]
      constructor
      · exact fun whole => whole.ge
      · exact fun le => le_antisymm (Int.floor_le value) le
  | date instant =>
    rw [header] at within positive
    dsimp only at within positive ⊢
    have ahead : 0 < instant - rejection.handled := by exact_mod_cast positive
    have near : instant - rejection.handled ≤ century * second := by exact_mod_cast within
    have fits : instant - rejection.handled ≤ maxDuration := near.trans (by decide)
    have unsaturated : sub instant rejection.handled = instant - rejection.handled := by
      unfold sub
      rw [min_eq_right fits, max_eq_right (le_trans (by decide) ahead.le)]
    obtain ⟨low, high⟩ := seconds_range ahead.le fits
    have castNonneg : (0 : ℚ) ≤ ((instant - rejection.handled) / second : ℤ) := by
      exact_mod_cast Int.ediv_nonneg ahead.le (by decide)
    have delay : (RetryAfter.date instant).delay rejection.handled =
        seconds (instant - rejection.handled) := by
      show max 0 (seconds (sub instant rejection.handled)) = _
      rw [unsaturated, max_eq_right (castNonneg.trans low)]
    rw [delay]
    have cast : ((instant : ℚ) - rejection.handled ≤
        (⌊seconds (instant - rejection.handled)⌋ * second : ℤ)) ↔
        instant - rejection.handled ≤ ⌊seconds (instant - rejection.handled)⌋ * second := by
      exact_mod_cast Iff.rfl
    rw [cast]
    exact le_floor_seconds_iff ahead.le fits

/-- **The pause reaches the end of the delay** exactly if it is unshortened. -/
theorem le_until_iff {rejection : Rejection} (within : rejection.WithinCentury) :
    rejection.handled + rejection.advertised ≤ rejection.until ↔ rejection.Unshortened := by
  have bounded : rejection.least ≤ century := (leastPause_le _ _).trans (by decide)
  have pause : rejection.handled + rejection.advertised ≤ rejection.until ↔
      rejection.advertised ≤ (rejection.least * second : ℤ) ∨ rejection.advertised ≤
        (⌊rejection.response.retryAfter.delay rejection.handled⌋ * second : ℤ) := by
    unfold Rejection.until
    rw [floor_rejectionDelay, min_mul_of_nonneg _ _ (by decide), max_mul_of_nonneg _ _ (by decide),
      Int.cast_add, add_le_add_iff_left, Int.cast_min, Int.cast_max, le_min_iff, le_max_iff]
    exact and_iff_left within
  rw [pause]
  unfold Rejection.Unshortened
  by_cases covered : rejection.advertised ≤ (rejection.least * second : ℤ)
  · exact iff_of_true (Or.inl covered) (Or.inl covered)
  · have least : (0 : ℚ) ≤ (rejection.least * second : ℤ) := by
      have some := (le_backoff _).trans (backoff_le_leastPause
        (min 5 (rejection.failures + 1)) (errorOf rejection.response.status))
      have nonneg : 0 ≤ rejection.least * second :=
        mul_nonneg (le_trans (by norm_num) some) (by decide)
      exact_mod_cast nonneg
    rw [whole_iff within (lt_of_le_of_lt least (not_le.mp covered))]

/-! ### Every run -/

/-- The rejections that no restart lost: those since the last one, and the saved ones. -/
def found : List Event → List Rejection
  | [] => []
  | .restarted :: earlier => (found earlier).filter (·.saved)
  | .sent _ :: earlier => found earlier
  | .rejected rejection :: earlier => rejection :: found earlier

/-- What is saved is in the file, and what is found is in memory. -/
theorem found_subset (events : List Event) :
    (∀ rejection ∈ found events, rejection ∈ (ledger events).memory) ∧
      ∀ rejection ∈ found events, rejection.saved = true → rejection ∈ (ledger events).file := by
  induction events with
  | nil => exact ⟨List.forall_mem_nil _, List.forall_mem_nil _⟩
  | cons event earlier ih =>
    obtain ⟨memory, file⟩ := ih
    cases event with
    | restarted =>
      have filed : ∀ rejection ∈ found (.restarted :: earlier),
          rejection ∈ (ledger earlier).file := by
        intro rejection member
        obtain ⟨known, saved⟩ := List.mem_filter.mp member
        exact file rejection known saved
      exact ⟨filed, fun rejection member _ => filed rejection member⟩
    | sent request => exact ⟨memory, fun rejection member _ => memory rejection member⟩
    | rejected latest =>
      refine ⟨fun rejection member => ?_, fun rejection member saved => ?_⟩
      · cases List.mem_cons.mp member with
        | inl same => exact List.mem_cons.mpr (Or.inl same)
        | inr older => exact List.mem_cons_of_mem _ (memory rejection older)
      · show rejection ∈ if latest.saved then _ else _
        cases List.mem_cons.mp member with
        | inl same =>
          rw [← same, if_pos saved]
          exact List.mem_cons_self
        | inr older =>
          split
          · exact List.mem_cons_of_mem _ (memory rejection older)
          · exact file rejection older saved

/-- The pause lasts until the end of each pause it stands for. -/
def Awaited (cooldown : Cooldown) (known : List Rejection) : Prop :=
  ∀ rejection ∈ known, rejection.until ≤ cooldown.pause

theorem grows_awaited : Grows Awaited := by
  intro state known now response saved past awaited
  have later : now ≤ (state.rejected now response).pause :=
    clock_le_pause_rejected state now response
  refine List.forall_mem_cons.mpr ⟨le_rfl, fun rejection member => ?_⟩
  exact (awaited rejection member).trans (past.trans later)

/-- A request waits for every pause that its process knows of. -/
def Waits : Event → List Event → Prop
  | .sent request, earlier =>
    ∀ rejection ∈ (ledger earlier).memory, rejection.until ≤ request.called
  | _, _ => True

theorem waits_step {s : World × List Event} (awaited : Represents Awaited s)
    (waits : Throughout Waits s.2) (move : Move) : Throughout Waits (logStep s move).2 := by
  cases move with
  | restart reads => exact ⟨trivial, waits⟩
  | call call =>
    cases alive : s.1.alive with
    | false =>
      have still : step s.1 (.call call) = s.1 := if_neg (by rw [alive]; exact Bool.false_ne_true)
      unfold logStep
      rw [still, happened_of_refused rfl]
      exact waits
    | true =>
      have stepped : step s.1 (.call call) = (roundTrip call s.1).2 := if_pos alive
      have memory := awaited.memory alive
      unfold logStep
      rw [stepped]
      cases happened_call call s.1 with
      | inl refused =>
        rw [refused]
        exact waits
      | inr sent =>
        obtain ⟨request, unpaused, events⟩ := sent
        have waited : Waits (.sent request) s.2 :=
          fun rejection member => (memory rejection member).trans unpaused
        cases events with
        | inl answered =>
          rw [answered]
          exact ⟨waited, waits⟩
        | inr rejected =>
          obtain ⟨rejection, shape⟩ := rejected
          rw [shape]
          exact ⟨trivial, waited, waits⟩

/-- **Every request of every run** waits for the pauses that its process knows of. -/
theorem waits_run (clock : ℤ) (file : Option TrafficState) (moves : List Move) :
    Throughout Waits (logged clock file moves).2 := by
  have start : Represents Awaited (World.asleep clock file, []) :=
    ⟨fun _ => List.forall_mem_nil _, List.forall_mem_nil _⟩
  have law : Throughout Waits (World.asleep clock file, ([] : List Event)).2 := trivial
  unfold logged
  generalize (World.asleep clock file, ([] : List Event)) = s at start law ⊢
  induction moves generalizing s with
  | nil => exact law
  | cons move rest ih =>
    exact ih _ (start.step grows_awaited move) (waits_step start law move)

/-- No request is sent before the end of a delay, of a century at most, that one of these rejections
advertised. -/
def Respects (known : List Event → List Rejection) (meets : Rejection → Prop) :
    Event → List Event → Prop
  | .sent request, earlier => ∀ rejection ∈ known earlier, rejection.WithinCentury →
    meets rejection → rejection.handled + rejection.advertised ≤ request.called
  | _, _ => True

instance (rejection : Rejection) : Decidable rejection.WithinCentury :=
  inferInstanceAs (Decidable (_ ≤ _))

instance (known : List Event → List Rejection) (meets : Rejection → Prop) [DecidablePred meets] :
    (event : Event) → (earlier : List Event) → Decidable (Respects known meets event earlier)
  | .sent _, earlier =>
    inferInstanceAs (Decidable (∀ rejection ∈ known earlier, _ → _ → _ ≤ _))
  | .restarted, _ => isTrue trivial
  | .rejected _, _ => isTrue trivial

/-- **A delay is never shortened** if it is unshortened when the response is handled and no restart
loses it; the pause itself reaches the end of the delay in no other case. -/
theorem never_shortened (clock : ℤ) (file : Option TrafficState) (moves : List Move) :
    Throughout (Respects found Rejection.Unshortened) (logged clock file moves).2 ∧
    ∀ rejection : Rejection, rejection.WithinCentury →
      (rejection.handled + rejection.advertised ≤ rejection.until ↔ rejection.Unshortened) := by
  refine ⟨?_, fun rejection within => le_until_iff within⟩
  refine (waits_run clock file moves).mono ?_
  intro event earlier waits
  cases event with
  | restarted => trivial
  | rejected rejection => trivial
  | sent request =>
    intro rejection member within unshortened
    have known := (found_subset earlier).1 rejection member
    have waited : (rejection.until : ℚ) ≤ request.called := by
      exact_mod_cast waits rejection known
    exact ((le_until_iff within).mpr unshortened).trans waited

/-- A call at once, with this response or none. -/
def Call.plain (idle : ℕ) (response : Option Response) : Call :=
  ⟨idle, none, 0, true, response, 0, true⟩

/-- **`Retry-After: 1800.5`** is over after 1800 s. -/
theorem shortened : ¬ ∀ (clock : ℤ) (file : Option TrafficState) (moves : List Move),
    Throughout (Respects rejections fun _ => True) (logged clock file moves).2 := by
  intro claim
  have broken : ¬ Throughout (Respects rejections fun _ => True) (logged 0 none
      [.restart true, .call (.plain 0 (some ⟨429, .seconds (.finite (3601 / 2))⟩)),
        .call (.plain 1800000000000 none)]).2 := by
    decide +kernel
  exact broken (claim _ _ _)

end DbusEv.Engine
