/-
**The arithmetic of a pause** (`vehicle-engine/main.go`, `vehicle-engine/traffic.go`).

`failure` reads the header into a `float64`; the gate takes its maximum with a shifted backoff,
converts it to an integer and multiplies it by a second. `handle` is that computation with the
numbers of Go: floats with NaN and infinities, a shift that a negative count stops, a conversion
that leaves the value to the implementation out of range, and a product that wraps.

* `handle_eq` — nothing of this happens: the result is that of `TrafficState.rejected`, whose
  numbers are unbounded.
* `floor_rejectionDelay` — the whole seconds of a pause.
* `pause_in_range` — the ranges, in every state that a run from an empty one reaches.
-/

import DbusEv.Engine.Cooldown
import DbusEv.Python.Double
import Mathlib.Tactic.IntervalCases

set_option autoImplicit false

namespace DbusEv.Engine

/-! ### The numbers of Go -/

/-- `x < y`. -/
def less : PyFloat → PyFloat → Bool
  | .finite x, .finite y => x < y
  | .finite _, .inf negative => !negative
  | .inf negative, .finite _ => negative
  | .inf first, .inf second => first && !second
  | _, _ => false

/-- `min(x, y)`: a NaN if one is. -/
def minFloat (x y : PyFloat) : PyFloat :=
  if x = .nan ∨ y = .nan then .nan else if less y x then y else x

/-- `max(x, y)`: a NaN if one is. -/
def maxFloat (x y : PyFloat) : PyFloat :=
  if x = .nan ∨ y = .nan then .nan else if less x y then y else x

/-- `math.Max(x, y)`, where an infinity outweighs a NaN. -/
def mathMax (x y : PyFloat) : PyFloat :=
  if x = .inf false ∨ y = .inf false then .inf false else maxFloat x y

/-- `x + y`. -/
def plus : PyFloat → PyFloat → PyFloat
  | .finite x, .finite y => PyFloat.ofRat (x + y)
  | .finite _, .inf negative => .inf negative
  | .inf negative, .finite _ => .inf negative
  | .inf first, .inf second => if first = second then .inf first else .nan
  | _, _ => .nan

/-- `factor * x`, for a positive constant. -/
def times (factor : ℚ) : PyFloat → PyFloat
  | .finite x => PyFloat.mul factor x
  | special => special

/-- `x / divisor`, for a positive constant. -/
def dividedBy (divisor : ℚ) : PyFloat → PyFloat
  | .finite x => PyFloat.ofRat (x / divisor)
  | special => special

/-- An `int64` after a calculation that may have left its range. -/
def wrap (n : ℤ) : ℤ := n.bmod (2 ^ 64)

/-- `int64(1) << count`; a negative count is a panic. -/
def shiftLeft (count : ℤ) : Option ℤ :=
  if count < 0 then none else some (wrap (2 ^ count.toNat))

/-- `time.Duration(x)`, where the language defines it. -/
def duration : PyFloat → Option ℤ
  | .finite x =>
    let truncated := x.num.tdiv x.den
    if minDuration ≤ truncated ∧ truncated ≤ maxDuration then some truncated else none
  | _ => none

@[simp] theorem less_finite (x y : ℚ) : less (.finite x) (.finite y) = decide (x < y) := rfl

@[simp] theorem minFloat_finite (x y : ℚ) :
    minFloat (.finite x) (.finite y) = .finite (min x y) := by
  have numbers : ¬ (PyFloat.finite x = .nan ∨ PyFloat.finite y = .nan) := by simp
  rw [minFloat, if_neg numbers]
  by_cases smaller : y < x
  · rw [less_finite, if_pos (decide_eq_true smaller), min_eq_right smaller.le]
  · rw [less_finite, if_neg (by simpa using smaller), min_eq_left (not_lt.mp smaller)]

@[simp] theorem maxFloat_finite (x y : ℚ) :
    maxFloat (.finite x) (.finite y) = .finite (max x y) := by
  have numbers : ¬ (PyFloat.finite x = .nan ∨ PyFloat.finite y = .nan) := by simp
  rw [maxFloat, if_neg numbers]
  by_cases larger : x < y
  · rw [less_finite, if_pos (decide_eq_true larger), max_eq_right larger.le]
  · rw [less_finite, if_neg (by simpa using larger), max_eq_left (not_lt.mp larger)]

@[simp] theorem mathMax_finite (x y : ℚ) :
    mathMax (.finite x) (.finite y) = .finite (max x y) := by
  have finite : ¬ (PyFloat.finite x = .inf false ∨ PyFloat.finite y = .inf false) := by simp
  rw [mathMax, if_neg finite, maxFloat_finite]

/-- A nonnegative number below the bound is cut to its floor. -/
theorem duration_finite {x : ℚ} (nonneg : 0 ≤ x) (fits : ⌊x⌋ ≤ maxDuration) :
    duration (.finite x) = some ⌊x⌋ := by
  have truncated : x.num.tdiv x.den = ⌊x⌋ := by
    rw [Rat.floor_def', Int.tdiv_eq_ediv_of_nonneg (Rat.num_nonneg.mpr nonneg)]
  have low : minDuration ≤ ⌊x⌋ := by
    have floor := Int.floor_nonneg.mpr nonneg
    unfold minDuration
    omega
  rw [← truncated] at low fits ⊢
  exact if_pos ⟨low, fits⟩

theorem wrap_of_fits {n : ℤ} (low : minDuration ≤ n) (high : n ≤ maxDuration) : wrap n = n := by
  unfold minDuration at low
  unfold maxDuration at high
  exact Int.bmod_eq_of_le (by omega) (by omega)

/-! ### The header -/

/-- What the library of Go reads in a text, where it returns no error. -/
class GoText where
  /-- `strconv.ParseFloat(text, 64)`. -/
  parseFloat : String → Option PyFloat
  /-- `http.ParseTime(text)`. -/
  parseTime : String → Option ℤ

/-- `d.Seconds()`. -/
def secondsFloat (d : ℤ) : PyFloat :=
  plus (PyFloat.ofRat (d.tdiv second)) (dividedBy 1000000000 (PyFloat.ofRat (d.tmod second)))

/-- `seconds > 0 && !math.IsInf(seconds, 0)`. -/
def isDelay (seconds : PyFloat) : Bool :=
  less (.finite 0) seconds && !(seconds = .inf false || seconds = .inf true)

section Header

variable [GoText]

/-- `r.RetryAfter` of `failure`, when the clock shows `now`. -/
def retryAfter (value : String) (now : ℤ) : PyFloat :=
  match (GoText.parseFloat value).filter isDelay with
  | some delay => delay
  | none =>
    match GoText.parseTime value with
    | some instant => mathMax (.finite 0) (secondsFloat (sub instant now))
    | none => .finite 0

/-- The header as the gate of `roundTrip` has it. -/
def RetryAfter.parsed (value : String) : RetryAfter :=
  match (GoText.parseFloat value).filter isDelay with
  | some delay => .seconds delay
  | none =>
    match GoText.parseTime value with
    | some instant => .date instant
    | none => .unreadable

end Header

theorem float64_finite {q : ℚ} (small : |q| < 2 ^ 64) : PyFloat.ofRat q = .finite (float64 q) := by
  obtain ⟨x, rounds⟩ := PyFloat.exists_ofRat small
  simp only [float64, rounds]

theorem sub_range (t u : ℤ) : minDuration ≤ sub t u ∧ sub t u ≤ maxDuration := by
  simp only [sub, minDuration, maxDuration]
  omega

theorem float64_intCast {n : ℤ} (short : |n| ≤ 2 ^ 53) : float64 n = n := by
  simp only [float64, PyFloat.ofRat_intCast short]

/-- A fraction of a second is one second at most, rounded. -/
theorem abs_float64_le {q : ℚ} (fraction : |q| ≤ 1) : |float64 q| ≤ 1 := by
  by_cases zero : q = 0
  · rw [zero]
    norm_num [float64, PyFloat.ofRat]
  · have rounds := float64_finite (q := q) (lt_of_le_of_lt fraction (by norm_num))
    have small : |q| < 2 ^ 53 := lt_of_le_of_lt fraction (by norm_num)
    have one : |q| ≤ ((1 : ℤ) : ℚ) := by exact_mod_cast fraction
    exact_mod_cast PyFloat.abs_ofRat_le_intCast zero small rounds one

/-- The parts of a duration. -/
theorem abs_parts {d : ℤ} (low : minDuration ≤ d) (high : d ≤ maxDuration) :
    |d.tdiv second| ≤ 2 ^ 34 ∧ |d.tmod second| < 1000000000 := by
  unfold minDuration at low
  unfold maxDuration at high
  unfold second
  cases le_total 0 d with
  | inl nonneg =>
    rw [Int.tdiv_eq_ediv_of_nonneg nonneg, Int.tmod_eq_emod_of_nonneg nonneg, abs_le, abs_lt]
    omega
  | inr nonpos =>
    have nonneg : 0 ≤ -d := by omega
    rw [← neg_neg d, Int.neg_tdiv, Int.neg_tmod, Int.tdiv_eq_ediv_of_nonneg nonneg,
      Int.tmod_eq_emod_of_nonneg nonneg, abs_neg, abs_neg, abs_le, abs_lt]
    omega

theorem abs_fraction {d : ℤ} (low : minDuration ≤ d) (high : d ≤ maxDuration) :
    |(d.tmod second : ℚ) / 1000000000| ≤ 1 := by
  have cast : |(d.tmod second : ℚ)| ≤ 1000000000 := by
    exact_mod_cast (abs_parts low high).2.le
  rw [abs_div, abs_of_pos (by norm_num : (0 : ℚ) < 1000000000)]
  exact (div_le_one (by norm_num)).mpr cast

/-- **The seconds of a duration** are a number. -/
theorem secondsFloat_eq {d : ℤ} (low : minDuration ≤ d) (high : d ≤ maxDuration) :
    secondsFloat d = .finite (seconds d) := by
  obtain ⟨whole, rest⟩ := abs_parts low high
  have first : PyFloat.ofRat (d.tdiv second) = .finite (d.tdiv second) :=
    PyFloat.ofRat_intCast (whole.trans (by norm_num))
  have exact_ : PyFloat.ofRat (d.tmod second) = .finite (d.tmod second) :=
    PyFloat.ofRat_intCast (by omega)
  have fraction := abs_fraction low high
  have second : PyFloat.ofRat ((d.tmod second : ℚ) / 1000000000) =
      .finite (float64 ((d.tmod second : ℚ) / 1000000000)) :=
    float64_finite (lt_of_le_of_lt fraction (by norm_num))
  have sum : |(d.tdiv Engine.second : ℚ) + float64 ((d.tmod Engine.second : ℚ) / 1000000000)| <
      2 ^ 64 := by
    have cast : |(d.tdiv Engine.second : ℚ)| ≤ 2 ^ 34 := by exact_mod_cast whole
    have bounded := abs_float64_le fraction
    calc |(d.tdiv Engine.second : ℚ) + float64 ((d.tmod Engine.second : ℚ) / 1000000000)| ≤
          2 ^ 34 + 1 := (abs_add_le _ _).trans (add_le_add cast bounded)
      _ < 2 ^ 64 := by norm_num
  unfold secondsFloat
  rw [first, exact_]
  show plus (.finite _) (PyFloat.ofRat ((d.tmod Engine.second : ℚ) / 1000000000)) = _
  rw [second]
  show PyFloat.ofRat _ = _
  rw [float64_finite sum, seconds, float64_intCast (whole.trans (by norm_num))]

theorem finite_of_isDelay {delay : PyFloat} (isDelay : isDelay delay = true) :
    ∃ value : ℚ, delay = .finite value ∧ 0 < value := by
  cases delay with
  | finite value =>
    refine ⟨value, rfl, ?_⟩
    simpa [Engine.isDelay] using isDelay
  | inf negative => cases negative <;> simp [Engine.isDelay] at isDelay
  | nan => simp [Engine.isDelay, less] at isDelay

/-- **The header is a number**, whatever the text. -/
theorem retryAfter_eq [GoText] (value : String) (now : ℤ) :
    retryAfter value now = .finite ((RetryAfter.parsed value).delay now) := by
  unfold retryAfter RetryAfter.parsed
  cases number : (GoText.parseFloat value).filter isDelay with
  | some delay =>
    obtain ⟨seconds, rfl, positive⟩ := finite_of_isDelay (Option.filter_eq_some_iff.mp number).2
    show PyFloat.finite seconds = .finite (if 0 < seconds then seconds else 0)
    rw [if_pos positive]
  | none =>
    cases GoText.parseTime value with
    | none => rfl
    | some instant =>
      obtain ⟨low, high⟩ := sub_range instant now
      show mathMax (.finite 0) (secondsFloat (sub instant now)) = _
      rw [secondsFloat_eq low high, mathMax_finite]
      rfl

theorem delay_nonneg (header : RetryAfter) (now : ℤ) : 0 ≤ header.delay now := by
  unfold RetryAfter.delay
  split
  · split
    · exact le_of_lt ‹_›
    · exact le_rfl
  · exact le_max_left _ _
  · exact le_rfl

/-! ### A rejection -/

/-- A response that the gate takes for a rejection. -/
structure Refusal where
  status : ℕ
  /-- `Header.Get("Retry-After")`, empty without the header. -/
  header : String
  rejects : status = 429 ∨ status = 401 ∨ status = 403

/-- What `RoundTrip` computes for a rejection. -/
structure Handled where
  failures : ℤ
  retryAfter : PyFloat
  /-- `time.Duration(delay)`. -/
  seconds : ℤ
  pause : ℤ
  reason : String

/-- The body of `if err == nil && (resp.StatusCode == 429 || …)`; `read` is the clock of
`time.Until`, `now` that of `g.now()`. -/
def handle [GoText] (failures : ℤ) (refusal : Refusal) (read now : ℤ) : Option Handled := do
  let retryAfter := retryAfter refusal.header read
  let failures := min 5 (failures + 1)
  let doubled ← shiftLeft (failures - 1)
  let delay := maxFloat (minFloat (.finite 21600) (times 1800 (PyFloat.ofRat doubled))) retryAfter
  let error := errorOf refusal.status
  let delay := if error = "auth" then maxFloat delay (.finite 21600) else delay
  let delay := minFloat delay (.finite (100 * 365 * 24 * 3600))
  let seconds ← duration delay
  return ⟨failures, retryAfter, seconds, now + wrap (seconds * second), error⟩

/-- The backoff of a count, in seconds. -/
def backoff (failures : ℕ) : ℤ := min 21600 (1800 * 2 ^ (failures - 1))

/-- The least pause, in seconds. -/
def leastPause (failures : ℕ) (error : String) : ℤ :=
  if error = "auth" then 21600 else backoff failures

/-- The longest pause, in seconds. -/
def century : ℤ := 100 * 365 * 24 * 3600

theorem backoff_le (failures : ℕ) : backoff failures ≤ 21600 := min_le_left _ _

theorem le_backoff (failures : ℕ) : 1800 ≤ backoff failures := by
  have power : (1 : ℤ) ≤ 2 ^ (failures - 1) := one_le_pow₀ one_le_two
  exact le_min (by norm_num) (by omega)

theorem backoff_le_leastPause (failures : ℕ) (error : String) :
    backoff failures ≤ leastPause failures error := by
  unfold leastPause
  split
  · exact backoff_le failures
  · exact le_rfl

theorem leastPause_le (failures : ℕ) (error : String) : leastPause failures error ≤ 21600 := by
  unfold leastPause
  split
  · exact le_rfl
  · exact backoff_le failures

/-- The seconds of a pause, from the least on and up to a century. -/
theorem rejectionDelay_eq (failures : ℕ) (error : String) (retryAfter : ℚ) :
    rejectionDelay failures error retryAfter =
      min (max (leastPause failures error : ℚ) retryAfter) century := by
  have cast : ((backoff failures : ℤ) : ℚ) = min 21600 (1800 * 2 ^ (failures - 1)) := by
    unfold backoff
    push_cast
    rfl
  have upper : ((backoff failures : ℤ) : ℚ) ≤ 21600 := by exact_mod_cast backoff_le failures
  have most : ((century : ℤ) : ℚ) = 100 * 365 * 24 * 3600 := by norm_num [century]
  unfold rejectionDelay leastPause
  dsimp only
  rw [← cast, most]
  by_cases auth : error = "auth"
  · rw [if_pos auth, if_pos auth, max_right_comm, max_eq_right upper]
    push_cast
    rfl
  · rw [if_neg auth, if_neg auth]

/-- **The whole seconds of a pause.** -/
theorem floor_rejectionDelay (failures : ℕ) (error : String) (retryAfter : ℚ) :
    ⌊rejectionDelay failures error retryAfter⌋ =
      min (max (leastPause failures error) ⌊retryAfter⌋) century := by
  have mono : Monotone (Int.floor : ℚ → ℤ) := Int.floor_mono
  rw [rejectionDelay_eq, mono.map_min, mono.map_max, Int.floor_intCast, Int.floor_intCast]

/-- The shifts that the counter asks for are powers of two. -/
theorem shiftLeft_count (count : ℕ) (positive : 1 ≤ count) (bounded : count ≤ 5) :
    shiftLeft ((count : ℤ) - 1) = some (2 ^ (count - 1)) := by
  interval_cases count <;> rfl

theorem times_power (count : ℕ) (bounded : count ≤ 5) :
    times 1800 (PyFloat.ofRat ((2 ^ (count - 1) : ℤ) : ℚ)) =
      .finite (1800 * 2 ^ (count - 1)) := by
  have small : (2 : ℤ) ^ (count - 1) ≤ 2 ^ 4 :=
    pow_le_pow_right₀ one_le_two (by omega)
  have positive : (0 : ℤ) < 2 ^ (count - 1) := by positivity
  rw [PyFloat.ofRat_intCast (by rw [abs_of_pos positive]; omega)]
  show PyFloat.ofRat (1800 * ((2 ^ (count - 1) : ℤ) : ℚ)) = _
  have cast : (1800 * ((2 ^ (count - 1) : ℤ) : ℚ)) = ((1800 * 2 ^ (count - 1) : ℤ) : ℚ) := by
    push_cast
    rfl
  rw [cast, PyFloat.ofRat_intCast (by rw [abs_of_pos (by omega)]; omega)]
  push_cast
  rfl

/-- The floats of a delay are numbers. -/
theorem delay_eq (count : ℕ) (error : String) (retryAfter : ℚ) :
    (let delay := maxFloat (minFloat (.finite 21600) (.finite (1800 * 2 ^ (count - 1))))
        (.finite retryAfter)
      let delay := if error = "auth" then maxFloat delay (.finite 21600) else delay
      minFloat delay (.finite (100 * 365 * 24 * 3600))) =
    .finite (rejectionDelay count error retryAfter) := by
  unfold rejectionDelay
  dsimp only
  rw [minFloat_finite, maxFloat_finite]
  by_cases auth : error = "auth"
  · rw [if_pos auth, if_pos auth, maxFloat_finite, minFloat_finite]
  · rw [if_neg auth, if_neg auth, minFloat_finite]

/-- **The product with a second fits.** -/
theorem pause_fits (count : ℕ) (error : String) (retryAfter : ℚ) :
    0 ≤ ⌊rejectionDelay count error retryAfter⌋ * second ∧
      ⌊rejectionDelay count error retryAfter⌋ * second ≤ maxDuration := by
  have nonneg := Int.floor_nonneg.mpr (rejectionDelay_nonneg count error retryAfter)
  have most : ⌊rejectionDelay count error retryAfter⌋ ≤ century := by
    rw [floor_rejectionDelay]
    exact min_le_right _ _
  unfold century at most
  unfold second maxDuration
  omega

/-- **What the numbers of Go compute** is what the unbounded ones do. -/
theorem handle_eq [GoText] (failures : ℕ) (refusal : Refusal) (read now : ℤ) :
    handle failures refusal read now =
      let count := min 5 (failures + 1)
      let delay := (RetryAfter.parsed refusal.header).delay read
      let seconds := ⌊rejectionDelay count (errorOf refusal.status) delay⌋
      some ⟨count, .finite delay, seconds, now + seconds * second, errorOf refusal.status⟩ := by
  have counted : min 5 ((failures : ℤ) + 1) = (min 5 (failures + 1) : ℕ) := by
    push_cast
    rfl
  have shift := shiftLeft_count (min 5 (failures + 1)) (by omega) (by omega)
  have product := times_power (min 5 (failures + 1)) (by omega)
  dsimp only
  generalize min 5 (failures + 1) = count at counted shift product ⊢
  generalize delayed : (RetryAfter.parsed refusal.header).delay read = delay
  have parsed : retryAfter refusal.header read = .finite delay := by rw [retryAfter_eq, delayed]
  obtain ⟨low, high⟩ := pause_fits count (errorOf refusal.status) delay
  have nonneg := rejectionDelay_nonneg count (errorOf refusal.status) delay
  have converted := duration_finite nonneg (by unfold second at high low; omega)
  have wrapped : wrap (⌊rejectionDelay count (errorOf refusal.status) delay⌋ * second) = _ :=
    wrap_of_fits (by unfold minDuration; omega) high
  have floats := delay_eq count (errorOf refusal.status) delay
  dsimp only at floats
  simp only [handle, counted, shift, parsed, Option.bind_eq_bind, Option.bind_some, product,
    floats, converted, wrapped]
  rfl

/-- The same instant, on a clock that is ahead. -/
def RetryAfter.later (ahead : ℤ) : RetryAfter → RetryAfter
  | .date instant => .date (instant + ahead)
  | header => header

theorem delay_later (header : RetryAfter) (ahead now : ℤ) :
    (header.later ahead).delay (now + ahead) = header.delay now := by
  cases header with
  | date instant =>
    have same : sub (instant + ahead) (now + ahead) = sub instant now := by
      simp only [sub, add_sub_add_right_eq_sub]
    simp only [RetryAfter.later, RetryAfter.delay, same]
  | seconds value => cases value <;> rfl
  | unreadable => rfl

/-- The state after a rejection holds what was computed. -/
def Handled.InState (handled : Handled) (after : TrafficState) : Prop :=
  after.failures = handled.failures ∧ after.pause = handled.pause ∧ after.reason = handled.reason

/-- **`TrafficState.rejected` is `handle`**; the time between the two readings of the clock moves a
date. -/
theorem inState_handle [GoText] {state : TrafficState} {refusal : Refusal} {read now : ℤ}
    {handled : Handled} (handles : handle state.failures refusal read now = some handled) :
    handled.InState (state.rejected now
      ⟨refusal.status, (RetryAfter.parsed refusal.header).later (now - read)⟩) := by
  obtain rfl := Option.some.inj ((handle_eq state.failures refusal read now).symm.trans handles)
  have delay := delay_later (RetryAfter.parsed refusal.header) (now - read) read
  rw [add_sub_cancel] at delay
  refine ⟨rfl, ?_, rfl⟩
  simp only [TrafficState.rejected, delay]

/-! ### The counter -/

/-- The counter is the number of the rejections it stands for, up to 5. -/
def Counted (cooldown : Cooldown) (known : List Rejection) : Prop :=
  cooldown.failures = min 5 known.length

theorem grows_counted : Grows Counted := by
  intro state known now response saved _ counted
  have before : state.failures = min 5 known.length := counted
  show min 5 (state.failures + 1) = min 5 (known.length + 1)
  omega

/-- **The counter of every run** from an empty state. -/
theorem counted_run (clock : ℤ) (moves : List Move) :
    Represents Counted (logged clock none moves) := by
  apply Represents.run _ grows_counted
  exact ⟨fun alive => absurd alive Bool.false_ne_true, rfl⟩

/-! ### The ranges -/

/-- What holds of the `k`-th rejection. -/
structure InRange (refusal : Refusal) (now : ℤ) (k : ℕ) (handled : Handled) : Prop where
  retryAfter : ∃ delay : ℚ, handled.retryAfter = .finite delay ∧ 0 ≤ delay
  counter : 1 ≤ handled.failures ∧ handled.failures ≤ 5
  least : 1800 ≤ handled.seconds
  auth : refusal.status = 401 ∨ refusal.status = 403 → 21600 ≤ handled.seconds
  most : handled.seconds ≤ 100 * 365 * 24 * 3600
  fits : handled.seconds * second ≤ maxDuration
  pause : handled.pause = now + handled.seconds * second
  backoff : min 21600 (1800 * 2 ^ (min k 5 - 1)) ≤ handled.seconds

theorem inRange_handle [GoText] {failures k : ℕ} (counted : min 5 (failures + 1) = min k 5)
    (refusal : Refusal) (read now : ℤ) :
    ∃ handled, handle failures refusal read now = some handled ∧
      InRange refusal now k handled := by
  refine ⟨_, handle_eq failures refusal read now, ?_⟩
  have count : 1 ≤ min 5 (failures + 1) ∧ min 5 (failures + 1) ≤ 5 := by omega
  generalize min 5 (failures + 1) = n at counted count ⊢
  obtain rfl := counted
  generalize delayed : (RetryAfter.parsed refusal.header).delay read = delay
  have nonneg : 0 ≤ delay := delayed ▸ delay_nonneg _ _
  have floor := floor_rejectionDelay (min k 5) (errorOf refusal.status) delay
  have least := backoff_le_leastPause (min k 5) (errorOf refusal.status)
  have upper := leastPause_le (min k 5) (errorOf refusal.status)
  have some := le_backoff (min k 5)
  have long : leastPause (min k 5) (errorOf refusal.status) ≤
      ⌊rejectionDelay (min k 5) (errorOf refusal.status) delay⌋ := by
    rw [floor]
    refine le_min (le_max_left _ _) (upper.trans ?_)
    norm_num [century]
  exact {
    retryAfter := ⟨delay, rfl, nonneg⟩
    counter := ⟨Int.ofNat_le.mpr count.1, Int.ofNat_le.mpr count.2⟩
    least := some.trans (least.trans long)
    auth := fun status => by
      have error : errorOf refusal.status = "auth" := if_pos status
      rw [error] at long ⊢
      exact long
    most := by
      show ⌊_⌋ ≤ century
      rw [floor]
      exact min_le_right _ _
    fits := (pause_fits _ _ _).2
    pause := rfl
    backoff := least.trans long }

/-- **The arithmetic of a pause**: in every state that a run from an empty one reaches, whatever
the text of the header and whenever the clock is read, a rejection is handled within the ranges, and
its numbers are those of the next state; the process counts the rejections it was told of, which are
all of them if it was never restarted. -/
theorem pause_in_range [GoText] (clock : ℤ) (moves : List Move) (refusal : Refusal)
    (read now : ℤ) :
    ((run clock none moves).alive → (run clock none moves).state.failures ≤ 5 ∧
      ∃ handled, handle (run clock none moves).state.failures refusal read now = some handled ∧
        InRange refusal now ((ledger (logged clock none moves).2).memory.length + 1) handled ∧
        handled.InState ((run clock none moves).state.rejected now
          ⟨refusal.status, (RetryAfter.parsed refusal.header).later (now - read)⟩)) ∧
    ∀ calls : List Call, moves = .restart true :: calls.map .call →
      (ledger (logged clock none moves).2).memory = rejections (logged clock none moves).2 := by
  refine ⟨fun alive => ?_, fun calls started => ?_⟩
  · rw [← logged_run] at alive ⊢
    have counted : _ = min 5 _ := (counted_run clock moves).memory alive
    change (logged clock none moves).1.state.failures = _ at counted
    refine ⟨by omega, ?_⟩
    have count : min 5 ((logged clock none moves).1.state.failures + 1) =
        min ((ledger (logged clock none moves).2).memory.length + 1) 5 := by omega
    obtain ⟨handled, handles, inRange⟩ := inRange_handle count refusal read now
    exact ⟨handled, handles, inRange, inState_handle handles⟩
  · obtain ⟨events, kept, log⟩ := exists_calls_log calls
      (logStep (.asleep clock none, []) (.restart true))
    have shape : (logged clock none moves).2 = events ++ [.restarted] := by
      rw [started]
      exact log
    rw [shape, ledger_memory kept, rejections_append]
    rfl

end DbusEv.Engine
