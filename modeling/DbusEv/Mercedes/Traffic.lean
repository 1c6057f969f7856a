/-
**The persisted request limits** (`dbus_ev/mercedes/traffic.py`).

* `retryDelay` — a `Retry-After` header can lengthen a delay, never shorten it.
* `LimitsData` — what the limits file holds; `decode` is the check of the constructor, and every
  file the client writes passes it (`decode_encode`).
* `TrafficLimits` — the same limits in memory, with monotonic deadlines. An operation changes them
  at one instant of both clocks, and its caller saves the data afterwards.
* `Coupled` — the deadlines in memory are no earlier than those in the data. Every operation, the
  passing of time and a restart keep it.

The clock readings, deadlines and delays, doubles in the code, are exact rationals here.
-/

import DbusEv.Lib.Clock
import DbusEv.Mercedes.Error
import Mathlib.Algebra.Order.Field.Basic

set_option autoImplicit false
set_option linter.unusedSectionVars false

namespace DbusEv.Mercedes

/-! ### Delays -/

def rateLimitMin : ℚ := 1800
def rateLimitMax : ℚ := 21600
def loginInterval : ℚ := 21600

/-- The delay a `Retry-After` header asks for at wall time `wall`, if it is finite. -/
def RetryAfter.delayAt (wall : ℚ) : RetryAfter → Option ℚ
  | .seconds (.finite delay) => some delay
  | .date timestamp => some (timestamp - wall)
  | _ => none

/-- `retry_delay(error, minimum)` of an error with this header. -/
def retryDelay (wall : ℚ) (header : Option RetryAfter) (minimum : ℚ) : ℚ :=
  match header.bind (RetryAfter.delayAt wall) with
  | some delay => max minimum delay
  | none => minimum

theorem le_retryDelay (wall : ℚ) (header : Option RetryAfter) (minimum : ℚ) :
    minimum ≤ retryDelay wall header minimum := by
  unfold retryDelay
  split
  · exact le_max_left _ _
  · exact le_rfl

theorem header_le_retryDelay {wall : ℚ} {header : Option RetryAfter} (minimum : ℚ) {delay : ℚ}
    (asked : header.bind (RetryAfter.delayAt wall) = some delay) :
    delay ≤ retryDelay wall header minimum := by
  unfold retryDelay
  rw [asked]
  exact le_max_right _ _

/-! ### The limits file -/

/-- `self.data`; `loginFailed` is the truth of `login_failed`. -/
structure LimitsData where
  requestAfter : Option ℚ≥0
  loginAfter : Option ℚ≥0
  rateRetry : Option ℚ≥0
  loginFailed : Bool
  deriving DecidableEq

namespace LimitsData

/-- The data of a missing file. -/
def empty : LimitsData := ⟨none, none, none, false⟩

/-- The check of one number: an `int` or `float`, finite and not negative. -/
def decodeNumber [PyText] (value : PyValue) : Except Exn ℚ≥0 :=
  let checked (number : ℚ) : Except Exn ℚ≥0 :=
    if number < 0 then .error (.other .value) else .ok number.toNNRat
  match value with
  | .bool flag => checked (if flag then 1 else 0)
  | .int number =>
    match toFloat (.int number) with
    | some _ => checked number
    -- `math.isfinite` overflows.
    | none => .error (.other .any)
  | .float (.finite number) => checked number
  | _ => .error (.other .value)

/-- One key of the file: its number when it is there. -/
def decodeKey [PyText] (data : Dict PyValue) (key : String) : Except Exn (Option ℚ≥0) :=
  match data.get key with
  | none => .ok none
  | some value => (decodeNumber value).map some

/-- The constructor's reading of the file. -/
def decode [PyText] : PyValue → Except Exn LimitsData
  | .dict data => do
    let requestAfter ← decodeKey data "request_after"
    let loginAfter ← decodeKey data "login_after"
    let rateRetry ← decodeKey data "rate_retry"
    return ⟨requestAfter, loginAfter, rateRetry,
      ((Dict.get data "login_failed").getD .none).truthy⟩
  | _ => .error (.other .type)

/-- A key is written when it is there. -/
def encodeKey (key : String) (value : Option ℚ≥0) : Dict PyValue :=
  match value with
  | none => []
  | some number => [(key, .float (.finite number))]

/-- What `store.save(self.data)` writes. -/
def encode (data : LimitsData) : PyValue :=
  .dict (encodeKey "request_after" data.requestAfter ++ encodeKey "login_after" data.loginAfter ++
    encodeKey "rate_retry" data.rateRetry ++ [("login_failed", .bool data.loginFailed)])

theorem decodeNumber_float [PyText] (number : ℚ≥0) :
    decodeNumber (.float (.finite number)) = .ok number := by
  have nonneg : ¬ (number : ℚ) < 0 := not_lt.mpr number.coe_nonneg
  simp only [decodeNumber, nonneg, if_false, NNRat.toNNRat_coe]

/-- **Every file the client writes is accepted**, as the data it was written from. -/
theorem decode_encode [PyText] (data : LimitsData) : decode data.encode = .ok data := by
  obtain ⟨requestAfter, loginAfter, rateRetry, loginFailed⟩ := data
  rcases requestAfter with _ | requestAfter <;> rcases loginAfter with _ | loginAfter <;>
    rcases rateRetry with _ | rateRetry <;>
    simp [decode, encode, encodeKey, decodeKey, Dict.get_cons, decodeNumber_float, PyValue.truthy,
      Except.map, bind, Except.bind, pure, Except.pure]

end LimitsData

/-! ### The limits in memory -/

/-- `TrafficLimits`. -/
structure TrafficLimits where
  data : LimitsData
  deadline : ℚ
  loginDeadline : ℚ
  deriving DecidableEq

namespace TrafficLimits

/-- `time.monotonic() + remaining if remaining else 0`. -/
def deadlineOf (clock : Clock) (wallDeadline : Option ℚ≥0) : ℚ :=
  let remaining := left ((wallDeadline.getD 0 : ℚ≥0) : ℚ) clock.wall
  if remaining = 0 then 0 else clock.mono + remaining

/-- The limits of a process that reads `data`. -/
def ofData (data : LimitsData) (clock : Clock) : TrafficLimits where
  data := data
  deadline := deadlineOf clock data.requestAfter
  loginDeadline := deadlineOf clock data.loginAfter

/-- `TrafficLimits(token_file)`, with the content of the limits file. -/
def load [PyText] (file : PyValue) (clock : Clock) : Except Exn TrafficLimits :=
  (LimitsData.decode file).map fun data => ofData data clock

/-- `remaining()`. -/
def remaining (limits : TrafficLimits) (clock : Clock) : ℚ := left limits.deadline clock.mono

/-- `pause(delay)`: what it returns, and the limits it then saves. -/
def pause (limits : TrafficLimits) (clock : Clock) (delay : ℚ) : ℚ × TrafficLimits :=
  let delay := max delay (limits.remaining clock)
  (delay, { limits with
    deadline := clock.mono + delay
    data := { limits.data with requestAfter := some (clock.wall + delay.toNNRat) } })

/-- `data.get("rate_retry", RATE_LIMIT_MIN)`. -/
def rateRetry (limits : TrafficLimits) : ℚ :=
  match limits.data.rateRetry with
  | some retry => retry
  | none => rateLimitMin

/-- The shortest pause of the next HTTP 429. -/
def minimum (limits : TrafficLimits) : ℚ := max rateLimitMin limits.rateRetry

/-- The limits with another `rate_retry`. -/
def setRateRetry (limits : TrafficLimits) (retry : ℚ) : TrafficLimits :=
  { limits with data := { limits.data with rateRetry := some retry.toNNRat } }

/-- `rate_limited(error)`. -/
def rateLimited (limits : TrafficLimits) (clock : Clock) (header : Option RetryAfter) :
    ℚ × TrafficLimits :=
  let minimum := limits.minimum
  let limits := limits.setRateRetry (min (minimum * 2) rateLimitMax)
  limits.pause clock (retryDelay clock.wall header minimum)

/-- `healthy()`: the limits it saves, if it does. -/
def healthy (limits : TrafficLimits) (clock : Clock) : Option TrafficLimits :=
  if limits.remaining clock = 0 ∧ limits.rateRetry ≠ rateLimitMin then
    some (limits.setRateRetry rateLimitMin)
  else none

/-- The login deadline of both clocks, one interval from now. -/
def delayLogin (limits : TrafficLimits) (clock : Clock) : TrafficLimits :=
  { limits with
    loginDeadline := clock.mono + loginInterval
    data := { limits.data with loginAfter := some (clock.wall + loginInterval.toNNRat) } }

/-- `reserve_login()`: the limits it saves before it returns `True`; `none` when it returns
`False`. -/
def reserveLogin (limits : TrafficLimits) (clock : Clock) : Option TrafficLimits :=
  if limits.remaining clock ≠ 0 ∨ limits.data.loginFailed ∨ clock.mono < limits.loginDeadline then
    none
  else some (limits.delayLogin clock)

/-- `login_failed()`. -/
def loginFailed (limits : TrafficLimits) : TrafficLimits :=
  { limits with data := { limits.data with loginFailed := true } }

/-- `manual_login_succeeded()`. -/
def manualLoginSucceeded (limits : TrafficLimits) (clock : Clock) : TrafficLimits :=
  TrafficLimits.delayLogin { limits with data := { limits.data with loginFailed := false } } clock

/-! ### What the operations return and change -/

section Specs

variable {limits : TrafficLimits} {clock : Clock}

theorem remaining_nonneg (limits : TrafficLimits) (clock : Clock) : 0 ≤ limits.remaining clock :=
  left_nonneg _ _

/-- A pause returns at least the delay and at least what was left. -/
theorem le_pause (limits : TrafficLimits) (clock : Clock) (delay : ℚ) :
    delay ≤ (limits.pause clock delay).1 := le_max_left _ _

theorem remaining_le_pause (limits : TrafficLimits) (clock : Clock) (delay : ℚ) :
    limits.remaining clock ≤ (limits.pause clock delay).1 := le_max_right _ _

theorem pause_nonneg (limits : TrafficLimits) (clock : Clock) (delay : ℚ) :
    0 ≤ (limits.pause clock delay).1 :=
  (limits.remaining_nonneg clock).trans (limits.remaining_le_pause clock delay)

/-- **What a pause returns is what is then left of it.** -/
@[simp] theorem remaining_pause (limits : TrafficLimits) (clock : Clock) (delay : ℚ) :
    (limits.pause clock delay).2.remaining clock = (limits.pause clock delay).1 :=
  left_add (limits.pause_nonneg clock delay)

/-- The pause in the data ends at the same instant. -/
theorem pause_requestAfter (limits : TrafficLimits) (clock : Clock) (delay : ℚ) :
    (((limits.pause clock delay).2.data.requestAfter.getD 0 : ℚ≥0) : ℚ) =
      clock.wall + (limits.pause clock delay).1 := by
  show ((clock.wall + (limits.pause clock delay).1.toNNRat : ℚ≥0) : ℚ) = _
  rw [NNRat.coe_add, Rat.coe_toNNRat _ (limits.pause_nonneg clock delay)]

/-- **A rate limit pauses for at least the current minimum.** -/
theorem minimum_le_rateLimited (limits : TrafficLimits) (clock : Clock)
    (header : Option RetryAfter) : limits.minimum ≤ (limits.rateLimited clock header).1 :=
  (le_retryDelay _ _ _).trans (le_pause _ _ _)

theorem rateLimitMin_le_minimum (limits : TrafficLimits) : rateLimitMin ≤ limits.minimum :=
  le_max_left _ _

/-- … and for at least its own header. -/
theorem header_le_rateLimited (limits : TrafficLimits) {clock : Clock} {header : Option RetryAfter}
    {delay : ℚ} (asked : header.bind (RetryAfter.delayAt clock.wall) = some delay) :
    delay ≤ (limits.rateLimited clock header).1 :=
  (header_le_retryDelay _ asked).trans (le_pause _ _ _)

theorem remaining_le_rateLimited (limits : TrafficLimits) (clock : Clock)
    (header : Option RetryAfter) : limits.remaining clock ≤ (limits.rateLimited clock header).1 :=
  le_max_right _ _

@[simp] theorem remaining_rateLimited (limits : TrafficLimits) (clock : Clock)
    (header : Option RetryAfter) :
    (limits.rateLimited clock header).2.remaining clock = (limits.rateLimited clock header).1 :=
  remaining_pause _ _ _

theorem rateRetry_setRateRetry (limits : TrafficLimits) {retry : ℚ} (nonneg : 0 ≤ retry) :
    (limits.setRateRetry retry).rateRetry = retry := Rat.coe_toNNRat retry nonneg

/-- The next minimum is twice this one, up to the maximum. -/
theorem rateRetry_rateLimited (limits : TrafficLimits) (clock : Clock)
    (header : Option RetryAfter) :
    (limits.rateLimited clock header).2.rateRetry = min (limits.minimum * 2) rateLimitMax := by
  have positive : 0 ≤ min (limits.minimum * 2) rateLimitMax := by
    have low := limits.rateLimitMin_le_minimum
    unfold rateLimitMin at low
    unfold rateLimitMax
    exact le_min (by linarith) (by norm_num)
  exact limits.rateRetry_setRateRetry positive

/-- A healthy stream touches the escalation alone, and only outside a pause. -/
theorem healthy_some {next : TrafficLimits} (resets : limits.healthy clock = some next) :
    limits.remaining clock = 0 ∧ next = limits.setRateRetry rateLimitMin := by
  unfold healthy at resets
  split at resets
  · rename_i outside
    cases resets
    exact ⟨outside.1, rfl⟩
  · cases resets

/-- **A login is reserved only outside a pause, without a recorded failure, after the deadline.** -/
theorem reserveLogin_some {next : TrafficLimits}
    (reserved : limits.reserveLogin clock = some next) :
    limits.remaining clock = 0 ∧ limits.data.loginFailed = false ∧
      limits.loginDeadline ≤ clock.mono ∧ next = limits.delayLogin clock := by
  unfold reserveLogin at reserved
  split at reserved
  · cases reserved
  · rename_i free
    cases reserved
    rw [not_or, not_or] at free
    exact ⟨not_not.mp free.1, Bool.not_eq_true _ ▸ free.2.1, not_lt.mp free.2.2, rfl⟩

/-- The login deadline in the data. -/
theorem delayLogin_loginAfter (limits : TrafficLimits) (clock : Clock) :
    (((limits.delayLogin clock).data.loginAfter.getD 0 : ℚ≥0) : ℚ) =
      clock.wall + loginInterval := by
  show ((clock.wall + loginInterval.toNNRat : ℚ≥0) : ℚ) = _
  rw [NNRat.coe_add, Rat.coe_toNNRat loginInterval (by unfold loginInterval; norm_num)]

end Specs

/-! ### Memory and file -/

/-- The deadlines in memory are no earlier than those in the data. -/
structure Coupled (limits : TrafficLimits) (clock : Clock) : Prop where
  request : ((limits.data.requestAfter.getD 0 : ℚ≥0) : ℚ) - clock.wall ≤
    left limits.deadline clock.mono
  login : ((limits.data.loginAfter.getD 0 : ℚ≥0) : ℚ) - clock.wall ≤
    left limits.loginDeadline clock.mono

section Coupled

variable {limits : TrafficLimits} {clock : Clock}

theorem sub_le_deadlineOf (clock : Clock) (wallDeadline : Option ℚ≥0) :
    ((wallDeadline.getD 0 : ℚ≥0) : ℚ) - clock.wall ≤
      left (deadlineOf clock wallDeadline) clock.mono := by
  by_cases passed : left ((wallDeadline.getD 0 : ℚ≥0) : ℚ) clock.wall = 0
  · rw [left_eq_zero] at passed
    exact (sub_nonpos.mpr passed).trans (left_nonneg _ _)
  · simp only [deadlineOf, passed, if_false]
    rw [left_add (left_nonneg _ _)]
    exact sub_le_left _ _

/-- A process that has just read the file. -/
theorem coupled_ofData (data : LimitsData) (clock : Clock) : (ofData data clock).Coupled clock :=
  ⟨sub_le_deadlineOf clock data.requestAfter, sub_le_deadlineOf clock data.loginAfter⟩

/-- Both clocks advance together. -/
theorem Coupled.elapse (coupled : limits.Coupled clock) (time : ℚ≥0) :
    limits.Coupled (clock.elapse time) := by
  have passes : (0 : ℚ) ≤ time := time.coe_nonneg
  have request := left_sub_le limits.deadline clock.mono passes
  have login := left_sub_le limits.loginDeadline clock.mono passes
  refine ⟨?_, ?_⟩
  · rw [Clock.elapse_wall, Clock.elapse_mono, NNRat.coe_add]
    linarith [coupled.request]
  · rw [Clock.elapse_wall, Clock.elapse_mono, NNRat.coe_add]
    linarith [coupled.login]

theorem Coupled.pause (coupled : limits.Coupled clock) (delay : ℚ) :
    (limits.pause clock delay).2.Coupled clock := by
  refine ⟨?_, coupled.login⟩
  have same := remaining_pause limits clock delay
  unfold remaining at same
  rw [pause_requestAfter, same, add_sub_cancel_left]

theorem Coupled.setRateRetry (coupled : limits.Coupled clock) (retry : ℚ) :
    (limits.setRateRetry retry).Coupled clock := ⟨coupled.request, coupled.login⟩

theorem Coupled.rateLimited (coupled : limits.Coupled clock) (header : Option RetryAfter) :
    (limits.rateLimited clock header).2.Coupled clock :=
  (coupled.setRateRetry _).pause _

theorem Coupled.delayLogin (coupled : limits.Coupled clock) :
    (limits.delayLogin clock).Coupled clock := by
  refine ⟨coupled.request, ?_⟩
  have nonneg : 0 ≤ loginInterval := by unfold loginInterval; norm_num
  rw [delayLogin_loginAfter, add_sub_cancel_left]
  exact (left_add nonneg).ge

theorem Coupled.loginFailed (coupled : limits.Coupled clock) : limits.loginFailed.Coupled clock :=
  ⟨coupled.request, coupled.login⟩

theorem Coupled.manualLoginSucceeded (coupled : limits.Coupled clock) :
    (limits.manualLoginSucceeded clock).Coupled clock :=
  Coupled.delayLogin ⟨coupled.request, coupled.login⟩

end Coupled

end TrafficLimits

end DbusEv.Mercedes
