/-
**What the end of a connection makes of the backoff** (`_serve`, `TrafficLimits.healthy`).

A stream sustained for 300 s resets the retry delay and the escalation of the rate limits, but only
where `_stream` returns: an exception leaves `_serve` for its handlers before the reset, and the
delay is computed from the backoff accumulated before the connection.

* `Journaled.serve` — `_serve`, with a journal of its connections; without it, it is `serve`
  (`erases_serve`).
* `Connection.Resets` — the delay and the escalation after a connection are those that its length
  asks for, however it ended.
* `Connection.Unspoilt` — the stream returned, or was short, or its exception found nothing to reset
  or asks for a delay of its own.
* `resets_iff` — every connection of every run resets the backoff exactly when it is unspoilt.
-/

import DbusEv.Lib.Journal
import DbusEv.Mercedes.Acts

set_option autoImplicit false
set_option linter.unusedSectionVars false

namespace DbusEv.Mercedes

open Exec

/-! ### The backoff is left alone by the stream -/

section Frames

variable [PyText] {α : Type} {env : Env} {vendor : Vendor}

theorem frames_emit (event : World → Event) : Frames World.retry (emit event) :=
  frames_change fun _ => rfl

theorem frames_await (atLeast : ℚ) : Frames World.retry (await env atLeast) := by
  unfold await
  refine frames_read fun w => ?_
  cases env.fate w.steps with
  | proceeds => exact frames_change fun _ => rfl
  | cancelled => exact frames_bind (frames_change fun _ => rfl) fun _ => frames_raise _
  | killed => exact frames_raise _

theorem frames_fail (owner : ℕ) (step : Step) (e : Exn) :
    Frames World.retry (fail owner step e : Serve α) :=
  frames_bind (frames_emit _) fun _ => frames_raise _

theorem frames_awaitStep (owner : ℕ) (step : Step) (outcome : ℕ → Except Exn α) :
    Frames World.retry (awaitStep env owner step outcome) := by
  unfold awaitStep
  refine frames_read fun w => frames_bind (frames_await _) fun _ => ?_
  cases outcome w.steps with
  | ok value => exact frames_pure value
  | error e => exact frames_fail owner step e

theorem frames_request (owner : ℕ) (step : Step) (outcome : ℕ → Except Exn α) :
    Frames World.retry (request env owner step outcome) :=
  frames_bind (frames_emit _) fun _ => frames_awaitStep owner step outcome

theorem frames_onSession (owner : ℕ) (step : Step) (x : Exec Session Exn α) :
    Frames World.retry (onSession owner step x) := by
  unfold onSession
  refine frames_read fun w => frames_bind (frames_change fun _ => rfl) fun _ => ?_
  cases (x w.session).1 with
  | ok value => exact frames_pure value
  | error e => exact frames_fail owner step e

theorem frames_save (write : LimitsWrite) : Frames World.retry (save env write) := by
  unfold save
  refine frames_read fun w => frames_bind (frames_change fun _ => rfl) fun _ => ?_
  cases env.save w.steps with
  | persisted => exact frames_change fun _ => rfl
  | raised e => exact frames_bind (frames_emit _) fun _ => frames_raise _
  | killedBefore => exact frames_raise _
  | killedAfter => exact frames_bind (frames_change fun _ => rfl) fun _ => frames_raise _

/-- New limits, which are then saved. -/
theorem frames_limits (limits : TrafficLimits) (write : LimitsWrite) (value : α) :
    Frames World.retry (do
      Exec.change fun w => w.setLimits limits
      save env write
      pure value : Serve α) :=
  frames_bind (frames_change fun _ => rfl) fun _ =>
    frames_bind (frames_save write) fun _ => frames_pure value

theorem frames_pauseLimits (delay : ℚ) : Frames World.retry (pauseLimits env delay) :=
  frames_read fun _ => frames_limits _ _ _

theorem frames_failureDelay (e : Exn) (minimum : ℚ) :
    Frames World.retry (failureDelay env e minimum) := by
  unfold failureDelay
  refine frames_read fun w => frames_ite (frames_read fun _ => frames_limits _ _ _) ?_
  refine frames_ite (frames_pauseLimits _) ?_
  exact frames_ite (frames_pauseLimits _) (frames_pure _)

theorem frames_accepting (owner : ℕ) (step : Step) (x : Exec Session Exn Unit) :
    Frames World.retry (accepting owner step x) :=
  frames_bind (frames_onSession owner step x) fun _ => frames_emit _

theorem frames_pullBody (owner : ℕ) : Frames World.retry (pullBody env vendor owner) := by
  unfold pullBody
  refine frames_bind (frames_request _ _ _) fun _ => frames_bind (frames_request _ _ _) fun _ => ?_
  refine frames_ite ?_ (frames_fail _ _ _)
  refine frames_bind (frames_request _ _ _) fun _ => frames_read fun _ => ?_
  exact frames_bind (frames_accepting _ _ _) fun _ => frames_change fun _ => rfl

/-- `try: … except Exception: …`. -/
theorem frames_tryExcept {body : Serve α} {handler : Exn → Serve α}
    (first : Frames World.retry body) (caught : ∀ e, Frames World.retry (handler e)) :
    Frames World.retry (tryExcept body handler) := by
  refine frames_handle first fun halt recover found => ?_
  cases halt with
  | error e =>
    cases found
    exact caught e
  | cancelled => cases found
  | killed => cases found

theorem frames_pullFailed (e : Exn) : Frames World.retry (pullFailed env e) := by
  unfold pullFailed
  refine frames_read fun w => frames_bind (frames_tryExcept (frames_failureDelay _ _) ?_) ?_
  · exact fun _ => frames_bind (frames_emit _) fun _ => frames_raise _
  · exact fun _ => frames_bind (frames_change fun _ => rfl) fun _ => frames_pure _

theorem frames_pull : Frames World.retry (pull env vendor) := by
  unfold pull
  refine frames_read fun _ => frames_ite (frames_pure _) ?_
  refine frames_bind (frames_read fun _ => ?_) fun owner => frames_bind (frames_emit _) fun _ => ?_
  · exact frames_bind (frames_change fun _ => rfl) fun _ => frames_pure _
  · refine frames_bind (frames_tryExcept ?_ ?_) fun _ => ?_
    · exact frames_bind (frames_pullBody owner) fun _ => frames_pure _
    · exact fun e => frames_bind (frames_pullFailed e) fun _ => frames_pure _
    · exact frames_bind (frames_change fun _ => rfl) fun _ => frames_emit _

theorem frames_takeMessage (owner : ℕ) (message : Message) :
    Frames World.retry (takeMessage env vendor owner message) := by
  rcases message with _ | e | _ | (e | frame) | _
  · exact frames_pure false
  · exact frames_fail _ _ _
  · exact frames_pure false
  · exact frames_fail _ _ _
  · refine frames_read fun _ => frames_bind (frames_onSession _ _ _) fun payload => ?_
    refine frames_bind (frames_ite (frames_awaitStep _ _ _) (frames_pure _)) fun _ => ?_
    cases payload with
    | none => exact frames_pure true
    | some payload =>
      exact frames_read fun _ => frames_bind (frames_accepting _ _ _) fun _ => frames_pure true
  · exact frames_pure true

theorem frames_streamLoop (owner fuel : ℕ) :
    Frames World.retry (streamLoop env vendor owner fuel) := by
  induction fuel with
  | zero => exact frames_raise _
  | succ fuel ih =>
    unfold streamLoop
    refine frames_read fun w => frames_ite (frames_pure _) ?_
    cases env.message w.steps with
    | none => exact frames_bind (frames_await _) fun _ => frames_bind frames_pull fun _ => ih
    | some message =>
      refine frames_bind (frames_await _) fun _ => ?_
      exact frames_bind (frames_takeMessage owner message) fun _ => frames_ite ih (frames_pure _)

/-- **The stream leaves the backoff as it found it**, however it ends. -/
theorem frames_stream (owner fuel : ℕ) : Frames World.retry (stream env vendor owner fuel) :=
  frames_ensure (frames_streamLoop owner fuel) (frames_await 0)

end Frames

/-! ### A journal of the connections -/

/-- A stage of an attempt, with the state in which it is reached. -/
inductive Stage
  | started (w : World)
  /-- The socket is connected: the `connected_at` of `_serve`. -/
  | opened (w : World)
  /-- `_stream` returned, or an exception left it. -/
  | left (w : World) (ending : Option Exn)
  /-- A handler of `_serve` is entered. -/
  | caught (w : World) (e : Exn)
  /-- `_cooldown` is about to be called. -/
  | finished (w : World)

/-- A program of the telemetry task that keeps the journal. -/
abbrev Journaled (α : Type) := Exec (World × List Stage) Halt α

/-- An exception on its way out of the stream is written down. -/
def noteLeaving : Halt → Option (Journaled Unit)
  | .error e => some (do Exec.jot fun w => .left w (some e); Exec.raise (.error e))
  | _ => none

namespace Journaled

variable [PyText]

def connection (env : Env) (vendor : Vendor) (owner fuel : ℕ) : Journaled Unit := do
  Exec.lift (Exec.change fun w => w.setConnected true)
  Exec.jot .opened
  let connected ← Exec.lift Exec.read
  Exec.handle (Exec.lift (stream env vendor owner fuel)) noteLeaving
  Exec.jot fun w => .left w none
  let w ← Exec.lift Exec.read
  if healthyStreamTime ≤ w.mono - connected.mono then do
    Exec.lift (Exec.change fun w => { w with retry := reconnectMin })
    Exec.lift (healthyStream env)
  else pure ()

def attemptBody (env : Env) (vendor : Vendor) (owner fuel : ℕ) : Journaled Unit := do
  Exec.lift (websocketHeaders env owner)
  Exec.lift (request env owner .handshake env.handshake)
  Exec.lift (emit fun w => .requested owner .stream w.remaining)
  Exec.ensure (connection env vendor owner fuel) Halt.unwinds (Exec.lift (await env 0))

/-- The handlers of the `try` of `_serve`. -/
def handlers (env : Env) : Halt → Option (Journaled Bool)
  | .error e => some (do Exec.jot (.caught · e); Exec.lift (attemptFailed env e))
  | _ => none

def attempt (env : Env) (vendor : Vendor) (fuel : ℕ) : Journaled Bool := do
  Exec.jot .started
  let owner ← Exec.lift newOwner
  Exec.lift (Exec.change fun w => { w with inside := true })
  Exec.ensure
    (Exec.handle (do attemptBody env vendor owner fuel; pure false) (handlers env)) Halt.unwinds
    (Exec.lift (Exec.change fun w => { w.setConnected false with inside := false }))

def serveLoop (env : Env) (vendor : Vendor) (credentialsFile : Bool) (inner : ℕ) :
    ℕ → Journaled Unit
  | 0 => Exec.raise .killed
  | fuel + 1 => do
    let w ← Exec.lift Exec.read
    if w.stop then pure ()
    else do
      Exec.lift (waitForApi env inner)
      let w ← Exec.lift Exec.read
      if w.stop then pure ()
      else do
        Exec.lift (emit fun w => .attemptStarted w.mono)
        let blocked ← attempt env vendor inner
        Exec.jot .finished
        let w ← Exec.lift Exec.read
        Exec.lift (emit fun w => .attemptEnded w.mono w.retry w.remaining)
        Exec.lift (cooldown env vendor inner w.retry)
        Exec.lift (afterCooldown env credentialsFile blocked)
        serveLoop env vendor credentialsFile inner fuel

def serve (env : Env) (vendor : Vendor) (credentialsFile : Bool) (inner fuel : ℕ) :
    Journaled Unit := do
  Exec.lift (Exec.change World.served)
  serveLoop env vendor credentialsFile inner fuel

/-! ### Without it -/

variable {env : Env} {vendor : Vendor}

theorem erases_connection (owner fuel : ℕ) :
    Erases (connection env vendor owner fuel) (Mercedes.connection env vendor owner fuel) := by
  refine erases_bind (erases_lift _) fun _ => erases_jot _ (erases_bind (erases_lift _) ?_)
  intro connected
  refine erases_bind (erases_witness (erases_lift _) ?_) fun _ => erases_jot _ ?_
  · intro halt recover found
    cases halt with
    | error e =>
      cases found
      exact erases_jot _ (erases_raise _)
    | cancelled => cases found
    | killed => cases found
  · refine erases_bind (erases_lift _) fun w => erases_ite ?_ (erases_pure ())
    exact erases_bind (erases_lift _) fun _ => erases_lift _

theorem erases_attempt (fuel : ℕ) :
    Erases (attempt env vendor fuel) (Mercedes.attempt env vendor fuel) := by
  refine erases_jot _ (erases_bind (erases_lift _) fun owner => erases_bind (erases_lift _) ?_)
  refine fun _ => erases_ensure (erases_handle ?_ ?_) (erases_lift _)
  · refine erases_bind ?_ fun _ => erases_pure false
    refine erases_bind (erases_lift _) fun _ => erases_bind (erases_lift _) fun _ => ?_
    refine erases_bind (erases_lift _) fun _ => ?_
    exact erases_ensure (erases_connection owner fuel) (erases_lift _)
  · intro halt
    cases halt with
    | error e => exact .some (erases_jot _ (erases_lift _))
    | cancelled => exact .none
    | killed => exact .none

theorem erases_serveLoop (credentialsFile : Bool) (inner fuel : ℕ) :
    Erases (serveLoop env vendor credentialsFile inner fuel)
      (Mercedes.serveLoop env vendor credentialsFile inner fuel) := by
  induction fuel with
  | zero => exact erases_raise _
  | succ fuel ih =>
    refine erases_bind (erases_lift _) fun w => erases_ite (erases_pure ()) ?_
    refine erases_bind (erases_lift _) fun _ => erases_bind (erases_lift _) fun w => ?_
    refine erases_ite (erases_pure ()) (erases_bind (erases_lift _) fun _ => ?_)
    refine erases_bind (erases_attempt inner) fun blocked => erases_jot _ ?_
    refine erases_bind (erases_lift _) fun w => erases_bind (erases_lift _) fun _ => ?_
    exact erases_bind (erases_lift _) fun _ => erases_bind (erases_lift _) fun _ => ih

/-- **Without its journal, the loop is `serve`.** -/
theorem erases_serve (credentialsFile : Bool) (inner fuel : ℕ) :
    Erases (serve env vendor credentialsFile inner fuel)
      (Mercedes.serve env vendor credentialsFile inner fuel) :=
  erases_bind (erases_lift _) fun _ => erases_serveLoop credentialsFile inner fuel

end Journaled

/-! ### What a connection should leave -/

/-- A connection that is over, by the states it went through. -/
structure Connection where
  opened : World
  left : World
  ending : Option Exn
  /-- The exception that reached the handlers, and the state in which they were entered. -/
  caught : Option (World × Exn)
  finished : World

/-- The connection that the last stage concludes. -/
def concluded : List Stage → Option Connection
  | .finished last :: .left left ending :: .opened opened :: _ =>
    some ⟨opened, left, ending, none, last⟩
  | .finished last :: .caught w e :: .left left ending :: .opened opened :: _ =>
    some ⟨opened, left, ending, some (w, e), last⟩
  | _ => none

/-- The connections of a journal. -/
def connections : List Stage → List Connection
  | [] => []
  | stage :: earlier => (concluded (stage :: earlier)).toList ++ connections earlier

/-- What `healthy()` leaves of the limits. -/
def World.relaxed (w : World) : TrafficLimits := (w.limits.healthy w.clock).getD w.limits

/-- What `_failure_delay` makes of an exception: the delay, and the escalation after it. -/
def World.failureOutcome (w : World) (e : Exn) (minimum : ℚ) : ℚ × ℚ :=
  ((w.failurePlan e minimum).1,
    match (w.failurePlan e minimum).2 with
    | some (_, limits) => limits.rateRetry
    | none => w.limits.rateRetry)

/-- The stream was sustained for at least 300 s. -/
def Sustained (opened left : World) : Prop := healthyStreamTime ≤ left.mono - opened.mono

instance (opened left : World) : Decidable (Sustained opened left) :=
  inferInstanceAs (Decidable (healthyStreamTime ≤ left.mono - opened.mono))

/-- What the delay is to be computed from: 60 s after a sustained stream, else the backoff
accumulated before the connection. -/
def baseAfter (opened left : World) : ℚ :=
  if Sustained opened left then reconnectMin else opened.retry

/-- The limits that the stream is to leave: reset after a sustained one. -/
def limitsAfter (opened left : World) : TrafficLimits :=
  if Sustained opened left then left.relaxed else left.limits

namespace Connection

/-- The delay applied to the ending, and the escalation after it. -/
def outcome (c : Connection) : ℚ × ℚ := (c.finished.retry, c.finished.limits.rateRetry)

/-- What the length of the stream asks for: the base itself where nothing was raised, and what the
handlers compute from it where an exception reached them. -/
def expected (c : Connection) : ℚ × ℚ :=
  match c.caught with
  | none => (baseAfter c.opened c.left, (limitsAfter c.opened c.left).rateRetry)
  | some (w, e) =>
    (w.setLimits (limitsAfter c.opened c.left)).failureOutcome e (baseAfter c.opened c.left)

/-- **The delay and the escalation follow from the length of the stream**, however it ended. -/
def Resets (c : Connection) : Prop := c.outcome = c.expected

instance (c : Connection) : Decidable c.Resets :=
  inferInstanceAs (Decidable (c.outcome = c.expected))

end Connection

/-- The escalation is as low as a reset would leave it, or a pause is running. -/
def World.Unescalated (w : World) (e : Exn) : Prop :=
  w.remaining ≠ 0 ∨ w.limits.rateRetry = rateLimitMin ∨
    (e.status = some 429 ∧ w.limits.rateRetry ≤ rateLimitMin)

/-- The delay after `e` does not depend on whether it is computed from `retry` or from 60 s: they
are the same, or the exception has a delay of its own, or its header and the running pause ask for
more than both. -/
def World.Indifferent (w : World) (e : Exn) (retry : ℚ) : Prop :=
  retry = reconnectMin ∨ e.isAuth = true ∨
    e.status = some 401 ∨ e.status = some 403 ∨ e.status = some 429 ∨
    (e.retryAfter.isSome = true ∧
      retry ≤ retryDelay w.clock.wall e.retryAfter w.remaining ∧
      reconnectMin ≤ retryDelay w.clock.wall e.retryAfter w.remaining)

/-- The stream returned, or was short, or was left by an exception after which a reset makes no
difference. -/
def Connection.Unspoilt (c : Connection) : Prop :=
  match c.ending, c.caught with
  | some e, some (w, _) =>
    Sustained c.opened c.left → c.left.Unescalated e ∧ w.Indifferent e c.opened.retry
  | _, _ => True

/-! ### Two plans compared -/

section Plans

variable {w : World} {e : Exn}

theorem relaxed_remaining (w : World) (clock : Clock) :
    w.relaxed.remaining clock = w.limits.remaining clock := by
  unfold World.relaxed TrafficLimits.healthy
  split <;> rfl

/-- **Outside a pause the escalation is back to 1800 s**; a pause leaves it alone. -/
theorem relaxed_rateRetry (w : World) :
    w.relaxed.rateRetry = if w.remaining = 0 then rateLimitMin else w.limits.rateRetry := by
  unfold World.relaxed TrafficLimits.healthy World.remaining
  by_cases paused : w.limits.remaining w.clock = 0
  · rw [if_pos paused]
    by_cases lowest : w.limits.rateRetry = rateLimitMin
    · rw [if_neg fun both => both.2 lowest]
      exact lowest
    · rw [if_pos ⟨paused, lowest⟩]
      exact w.limits.rateRetry_setRateRetry (by norm_num [rateLimitMin])
  · rw [if_neg paused, if_neg fun both => paused both.1]
    rfl

/-- A pause and a header may both ask for more than the minimum. -/
theorem max_retryDelay (wall : ℚ) (header : Option RetryAfter) (minimum remaining : ℚ) :
    max (retryDelay wall header minimum) remaining =
      max minimum (retryDelay wall header remaining) := by
  unfold retryDelay
  cases header.bind (RetryAfter.delayAt wall) with
  | none => rfl
  | some delay =>
    simp only [max_assoc]
    rw [max_comm delay]

/-- A rate limit: its delay comes from the escalation. -/
theorem outcome_limited (limited : e.status = some 429) (minimum : ℚ) :
    w.failureOutcome e minimum =
      (max w.limits.minimum (retryDelay w.clock.wall e.retryAfter w.remaining),
        min (w.limits.minimum * 2) rateLimitMax) := by
  unfold World.failureOutcome World.failurePlan
  rw [if_pos limited]
  refine Prod.ext ?_ (w.limits.rateRetry_rateLimited w.clock e.retryAfter)
  exact max_retryDelay _ _ _ _

/-- An authorization failure: its delay is its own. -/
theorem outcome_rejected (other : e.status ≠ some 429)
    (rejected : e.status = some 401 ∨ e.status = some 403 ∨ e.isAuth) (minimum : ℚ) :
    w.failureOutcome e minimum =
      (max loginInterval (retryDelay w.clock.wall e.retryAfter w.remaining),
        w.limits.rateRetry) := by
  unfold World.failureOutcome World.failurePlan
  rw [if_neg other, if_pos rejected]
  exact Prod.ext (max_retryDelay _ _ _ _) rfl

/-- Any other failure: its delay is the minimum, or what its header and the pause ask for. -/
theorem outcome_other (other : e.status ≠ some 429)
    (allowed : ¬ (e.status = some 401 ∨ e.status = some 403 ∨ e.isAuth)) (minimum : ℚ) :
    w.failureOutcome e minimum =
      (if e.retryAfter.isSome then
          max minimum (retryDelay w.clock.wall e.retryAfter w.remaining)
        else minimum, w.limits.rateRetry) := by
  unfold World.failureOutcome World.failurePlan
  rw [if_neg other, if_neg allowed]
  by_cases asked : e.retryAfter.isSome = true
  · rw [if_pos asked, if_pos asked]
    exact Prod.ext (max_retryDelay _ _ _ _) rfl
  · rw [if_neg asked, if_neg asked]
    rw [Bool.not_eq_true, Option.isSome_eq_false_iff, Option.isNone_iff_eq_none] at asked
    refine Prod.ext ?_ rfl
    show retryDelay w.clock.wall e.retryAfter minimum = minimum
    rw [asked]
    rfl

theorem max_eq_max_iff {a b c : ℚ} : max a c = max b c ↔ a = b ∨ (a ≤ c ∧ b ≤ c) := by
  constructor
  · intro same
    rcases le_total a c with below | above
    · rw [max_eq_right below] at same
      exact .inr ⟨below, max_eq_right_iff.mp same.symm⟩
    · rw [max_eq_left above] at same
      rcases le_total b c with below | above'
      · rw [max_eq_right below] at same
        exact .inr ⟨same.le, below⟩
      · rw [max_eq_left above'] at same
        exact .inl same
  · rintro (rfl | ⟨below, below'⟩)
    · rfl
    · rw [max_eq_right below, max_eq_right below']

/-- A rate limit escalates from the lowest level exactly when nothing was to be reset. -/
theorem limited_iff (left : World) (floor : ℚ) :
    (max left.limits.minimum floor, min (left.limits.minimum * 2) rateLimitMax) =
        (max left.relaxed.minimum floor, min (left.relaxed.minimum * 2) rateLimitMax) ↔
      left.remaining ≠ 0 ∨ left.limits.rateRetry ≤ rateLimitMin := by
  by_cases paused : left.remaining = 0
  · have lowest : left.relaxed.minimum = rateLimitMin := by
      unfold TrafficLimits.minimum
      rw [relaxed_rateRetry, if_pos paused, max_self]
    rw [lowest]
    constructor
    · intro same
      have levels := congrArg Prod.snd same
      refine .inr (le_of_not_gt fun above => ?_)
      have level : left.limits.minimum = left.limits.rateRetry := max_eq_right above.le
      simp only [level] at levels
      unfold rateLimitMin at above levels
      unfold rateLimitMax at levels
      rw [min_eq_left (by norm_num : (1800 : ℚ) * 2 ≤ 21600)] at levels
      rcases min_choice (left.limits.rateRetry * 2) 21600 with doubled | capped
      · rw [doubled] at levels
        linarith
      · rw [capped] at levels
        norm_num at levels
    · intro settled
      have level : left.limits.minimum = rateLimitMin :=
        max_eq_left (settled.resolve_left (not_not.mpr paused))
      rw [level]
  · have level : left.relaxed.minimum = left.limits.minimum := by
      unfold TrafficLimits.minimum
      rw [relaxed_rateRetry, if_neg paused]
    rw [level]
    exact iff_of_true rfl (.inl paused)

/-- **Two plans agree**: the one from the backoff accumulated so far, and the one a reset would have
led to. -/
theorem outcome_eq_iff {left : World} (same : w.limits = left.limits) (retry : ℚ) :
    w.failureOutcome e retry = (w.setLimits left.relaxed).failureOutcome e reconnectMin ↔
      left.Unescalated e ∧ w.Indifferent e retry := by
  have remaining : (w.setLimits left.relaxed).remaining = w.remaining := by
    show left.relaxed.remaining w.clock = w.limits.remaining w.clock
    rw [relaxed_remaining, same]
  have wall : (w.setLimits left.relaxed).clock = w.clock := rfl
  have limits : (w.setLimits left.relaxed).limits = left.relaxed := rfl
  unfold World.Unescalated World.Indifferent
  by_cases limited : e.status = some 429
  · rw [outcome_limited limited, outcome_limited limited, remaining, wall, limits, same,
      limited_iff]
    simp only [limited, true_and, or_true, true_or, and_true]
    constructor
    · rintro (paused | low)
      · exact .inl paused
      · exact .inr (.inr low)
    · rintro (paused | lowest | low)
      · exact .inl paused
      · exact .inr lowest.le
      · exact .inr low
  · have levels : left.limits.rateRetry = left.relaxed.rateRetry ↔
        left.remaining ≠ 0 ∨ left.limits.rateRetry = rateLimitMin := by
      rw [relaxed_rateRetry]
      by_cases paused : left.remaining = 0
      · rw [if_pos paused]
        simp only [paused, ne_eq, not_true_eq_false, false_or]
      · rw [if_neg paused]
        exact iff_of_true rfl (.inl paused)
    by_cases rejected : e.status = some 401 ∨ e.status = some 403 ∨ e.isAuth
    · rw [outcome_rejected limited rejected, outcome_rejected limited rejected, remaining, wall,
        limits, same, Prod.mk.injEq, eq_self_iff_true, true_and, levels]
      simp only [limited, false_and, or_false]
      refine ⟨fun settled => ⟨settled, ?_⟩, And.left⟩
      rcases rejected with unauthorized | forbidden | auth
      · exact .inr (.inr (.inl unauthorized))
      · exact .inr (.inr (.inr (.inl forbidden)))
      · exact .inr (.inl auth)
    · rw [outcome_other limited rejected, outcome_other limited rejected, remaining, wall, limits,
        same, Prod.mk.injEq, levels, and_comm]
      rw [not_or, not_or] at rejected
      simp only [limited, rejected, Bool.false_eq_true, false_and, or_false, false_or]
      refine and_congr_right fun _ => ?_
      by_cases asked : e.retryAfter.isSome = true
      · rw [if_pos asked, if_pos asked, max_eq_max_iff]
        simp only [asked, true_and]
      · rw [if_neg asked, if_neg asked]
        simp only [asked, Bool.false_eq_true, false_and, or_false]

end Plans

/-! ### One connection -/

section Attempt

variable [PyText] {env : Env} {vendor : Vendor} {w : World} {journal : List Stage}

/-- The state after a stream that returned is reset, with or without an exception of the save; an
exception of the stream left it as it was. -/
def Left (opened left : World) (ending : Option Exn) (t : World) : Prop :=
  match ending with
  | none => t.retry = baseAfter opened left ∧ t.limits = limitsAfter opened left
  | some _ => t.retry = opened.retry ∧ t.limits = left.limits

/-- The stream was left so, and nothing was written down since. -/
def LeftBehind (ending : Option Exn) (journal : List Stage) (s : World × List Stage) : Prop :=
  ∃ opened left, s.2 = .left left ending :: .opened opened :: journal ∧
    Left opened left ending s.1

theorem LeftBehind.connections {ending : Option Exn} {s : World × List Stage}
    (behind : LeftBehind ending journal s) :
    connections s.2 = Mercedes.connections journal := by
  obtain ⟨opened, left, same, -⟩ := behind
  rw [same]
  rfl

theorem LeftBehind.quiet {ending : Option Exn} {s : World × List Stage}
    (behind : LeftBehind ending journal s) {t : World} (retry : t.retry = s.1.retry)
    (limits : t.limits = s.1.limits) : LeftBehind ending journal (t, s.2) := by
  obtain ⟨opened, left, same, leaves⟩ := behind
  refine ⟨opened, left, same, ?_⟩
  unfold Left at leaves ⊢
  rw [retry, limits]
  exact leaves

/-- How a connection raises. -/
def Breaks (journal : List Stage) : Halt → World × List Stage → Prop
  | .error e, s => LeftBehind none journal s ∨ LeftBehind (some e) journal s
  | _, s => connections s.2 = connections journal

/-- A save leaves the limits in memory, whatever becomes of it. -/
theorem keeps_limits (write : LimitsWrite) :
    Keeps (fun t => t.retry = w.retry ∧ t.limits = w.limits) (save env write) w := by
  unfold Keeps
  rw [wp_save]
  cases env.save w.steps <;> exact ⟨rfl, rfl⟩

/-- `healthy()` leaves the relaxed limits, whatever its save does. -/
theorem keeps_relaxed :
    Keeps (fun t => t.retry = w.retry ∧ t.limits = w.relaxed) (healthyStream env) w := by
  unfold healthyStream World.relaxed
  refine keeps_read ?_
  cases w.limits.healthy w.clock with
  | none => exact ⟨rfl, rfl⟩
  | some next => exact keeps_limits (w := w.setLimits next) .healthy

/-- After a sustained stream everything is reset, whatever the save does. -/
theorem wp_connection (owner fuel : ℕ) :
    wp (Journaled.connection env vendor owner fuel) (fun _ s => LeftBehind none journal s)
      (Breaks journal) (w, journal) := by
  unfold Journaled.connection
  simp only [wp_bind, wp_lift, wp_change, wp_jot, wp_read, wp_handle]
  refine wp_mono (frames_stream owner fuel (w.setConnected true)) ?_ ?_
  · intro _ t same
    rw [wp_ite]
    refine ⟨fun sustained => ?_, fun short => ?_⟩
    · simp only [wp_bind, wp_lift, wp_change]
      have behind : ∀ u : World, u.retry = reconnectMin ∧ u.limits = t.relaxed →
          LeftBehind none journal
            (u, .left t none :: .opened (w.setConnected true) :: journal) := by
        rintro u ⟨retry, relaxed⟩
        exact ⟨_, t, rfl, retry.trans (if_pos sustained).symm,
          relaxed.trans (if_pos sustained).symm⟩
      refine wp_mono keeps_relaxed (fun _ u relaxed => behind u relaxed) ?_
      rintro (e | _ | _) u relaxed
      · exact .inl (behind u relaxed)
      · rfl
      · rfl
    · exact ⟨_, t, rfl, same.trans (if_neg short).symm, (if_neg short).symm⟩
  · rintro (e | _ | _) t same
    · refine ⟨?_, fun never => (by cases never)⟩
      rintro recover ⟨rfl⟩
      exact .inr ⟨_, t, rfl, same, rfl⟩
    · exact ⟨fun _ never => (by cases never), fun _ => rfl⟩
    · exact ⟨fun _ never => (by cases never), fun _ => rfl⟩

/-- The socket is closed after the stream: time passes, and the task may be cancelled. -/
theorem wp_attemptBody (owner fuel : ℕ) :
    wp (Journaled.attemptBody env vendor owner fuel) (fun _ s => LeftBehind none journal s)
      (fun halt s => Breaks journal halt s ∨ s.2 = journal) (w, journal) := by
  unfold Journaled.attemptBody
  rw [wp_bind]
  refine wp_lift_of_forall (fun _ t => ?_) fun _ _ => .inr rfl
  rw [wp_bind]
  refine wp_lift_of_forall (fun _ t => ?_) fun _ _ => .inr rfl
  rw [wp_bind, wp_lift, wp_emit, wp_ensure]
  refine wp_mono (wp_connection owner fuel) ?_ ?_
  · intro _ s behind
    rw [wp_lift, wp_await]
    cases env.fate s.1.steps with
    | proceeds => exact behind.quiet rfl rfl
    | cancelled => exact .inl behind.connections
    | killed => exact .inl behind.connections
  · rintro (e | _ | _) s breaks
    · have same : connections s.2 = connections journal :=
        breaks.elim LeftBehind.connections LeftBehind.connections
      refine ⟨fun _ => ?_, fun never => (by cases never)⟩
      rw [wp_lift, wp_await]
      cases env.fate s.1.steps with
      | proceeds => exact .inl (breaks.imp (·.quiet rfl rfl) (·.quiet rfl rfl))
      | cancelled => exact .inl same
      | killed => exact .inl same
    · refine ⟨fun _ => ?_, fun never => (by cases never)⟩
      rw [wp_lift, wp_await]
      cases env.fate s.1.steps <;> exact .inl breaks
    · exact ⟨fun never => (by cases never), fun _ => .inl breaks⟩

/-- The handlers compute the delay from the backoff they find. -/
theorem wp_attemptFailed (e : Exn) :
    wp (attemptFailed env e)
      (fun _ t => (t.retry, t.limits.rateRetry) = w.failureOutcome e w.retry)
      (fun _ _ => True) w := by
  unfold attemptFailed connectionFailure setRetry
  rw [wp_bind, wp_change, wp_ite]
  refine ⟨fun auth => ?_, fun _ => ?_⟩
  · cases e with
    | auth =>
      simp only [wp_bind, wp_pauseLimits, wp_change, wp_pure]
      refine wp_mono (keeps_limits .pause) ?_ fun _ _ _ => trivial
      rintro _ t ⟨-, limits⟩
      rw [limits]
      rfl
    | _ => cases auth
  · rw [wp_bind, wp_read, wp_bind, wp_failureDelay]
    have same : World.failurePlan { w with inside := false } e w.retry =
        w.failurePlan e w.retry := rfl
    simp only [same]
    unfold World.failureOutcome
    rcases w.failurePlan e w.retry with ⟨delay, _ | ⟨write, limits⟩⟩
    · rfl
    · refine wp_mono (keeps_limits write) ?_ fun _ _ _ => trivial
      rintro _ t ⟨-, limits⟩
      show (delay, t.limits.rateRetry) = _
      rw [limits]
      rfl

/-- How an attempt that is not over ends in the journal. -/
inductive Concludes (journal : List Stage) : World × List Stage → Prop
  | returned {opened left w : World}
      (reset : (w.retry, w.limits.rateRetry) =
        (baseAfter opened left, (limitsAfter opened left).rateRetry)) :
      Concludes journal (w, .left left none :: .opened opened :: journal)
  | caught {opened left before w : World} {ending : Option Exn} {e : Exn}
      (leaves : Left opened left ending before) (same : ending = none ∨ ending = some e)
      (handled : (w.retry, w.limits.rateRetry) = before.failureOutcome e before.retry) :
      Concludes journal (w, .caught before e :: .left left ending :: .opened opened :: journal)
  | refused {before w : World} {e : Exn} : Concludes journal (w, .caught before e :: journal)

/-- What a handler makes of an exception of the attempt. -/
theorem concludes_caught {s : World × List Stage} {e : Exn}
    (ends : Breaks journal (.error e) s ∨ s.2 = journal) {t : World}
    (handled : (t.retry, t.limits.rateRetry) = s.1.failureOutcome e s.1.retry) :
    Concludes journal (t, .caught s.1 e :: s.2) := by
  rcases ends with (⟨opened, left, same, leaves⟩ | ⟨opened, left, same, leaves⟩) | same
  · rw [same]
    exact .caught leaves (.inl rfl) handled
  · rw [same]
    exact .caught leaves (.inr rfl) handled
  · rw [same]
    exact .refused

theorem Breaks.connections {halt : Halt} {s : World × List Stage}
    (ends : Breaks journal halt s ∨ s.2 = journal) :
    connections s.2 = Mercedes.connections journal := by
  rcases ends with breaks | same
  · cases halt with
    | error e => exact breaks.elim LeftBehind.connections LeftBehind.connections
    | cancelled => exact breaks
    | killed => exact breaks
  · rw [same]

/-- **One attempt**, up to its cooldown. -/
theorem wp_attempt (fuel : ℕ) :
    wp (Journaled.attempt env vendor fuel) (fun _ s => Concludes (.started w :: journal) s)
      (fun _ s => connections s.2 = connections journal) (w, journal) := by
  unfold Journaled.attempt
  simp only [wp_bind, wp_jot, wp_lift, wp_newOwner, wp_change, wp_ensure, wp_handle, wp_pure]
  refine wp_mono (wp_attemptBody w.owners fuel) ?_ ?_
  · rintro _ ⟨t, _⟩ ⟨opened, left, rfl, leaves⟩
    exact .returned (Prod.ext leaves.1 (congrArg TrafficLimits.rateRetry leaves.2))
  · intro halt s ends
    have recorded : connections s.2 = connections (.started w :: journal) := Breaks.connections ends
    cases halt with
    | error e =>
      refine ⟨?_, fun never => (by cases never)⟩
      rintro recover ⟨rfl⟩
      rw [wp_bind, wp_jot, wp_lift]
      refine wp_mono (wp_attemptFailed e) ?_ fun _ _ _ => ⟨fun _ => recorded, fun _ => recorded⟩
      exact fun _ t handled => concludes_caught ends handled
    | cancelled =>
      refine ⟨fun _ never => (by cases never), fun _ => ⟨fun _ => recorded, fun never => ?_⟩⟩
      cases never
    | killed =>
      refine ⟨fun _ never => (by cases never), fun _ => ⟨fun never => ?_, fun _ => recorded⟩⟩
      cases never

/-- A handler that is entered with everything reset computes from it. -/
theorem setLimits_eq {t : World} {limits : TrafficLimits} (same : t.limits = limits) :
    t.setLimits limits = t := by
  rw [← same]
  rfl

/-- **The last connection resets the backoff exactly when it is unspoilt.** -/
theorem Concludes.lawful {s : World × List Stage} {w : World}
    (concludes : Concludes (.started w :: journal) s) :
    ∀ c ∈ connections (.finished s.1 :: s.2),
      (c.Resets ↔ c.Unspoilt) ∨ c ∈ connections journal := by
  cases concludes with
  | returned reset =>
    intro c found
    rcases List.mem_cons.mp found with rfl | earlier
    · exact .inl (iff_of_true reset trivial)
    · exact .inr earlier
  | refused => exact fun c found => .inr found
  | @caught opened left before t ending e leaves same handled =>
    intro c found
    rcases List.mem_cons.mp found with rfl | earlier
    · refine .inl ?_
      cases ending with
      | none =>
        refine iff_of_true (handled.trans ?_) trivial
        show before.failureOutcome e before.retry =
          (before.setLimits (limitsAfter opened left)).failureOutcome e (baseAfter opened left)
        rw [setLimits_eq leaves.2, leaves.1]
      | some thrown =>
        cases same.resolve_left (Option.some_ne_none thrown)
        show (t.retry, t.limits.rateRetry) =
            (before.setLimits (limitsAfter opened left)).failureOutcome e (baseAfter opened left) ↔
          (Sustained opened left → left.Unescalated e ∧ before.Indifferent e opened.retry)
        rw [handled, leaves.1]
        unfold baseAfter limitsAfter
        by_cases sustained : Sustained opened left
        · simp only [sustained, if_true, forall_const]
          exact outcome_eq_iff leaves.2 opened.retry
        · simp only [sustained, if_false, false_implies, iff_true]
          rw [setLimits_eq leaves.2]
    · exact .inr earlier

end Attempt

/-! ### Every run -/

section Runs

variable [PyText] {env : Env} {vendor : Vendor}

/-- Every connection resets the backoff exactly when it is unspoilt. -/
def Lawful (s : World × List Stage) : Prop := ∀ c ∈ connections s.2, c.Resets ↔ c.Unspoilt

theorem keeps_lift {α : Type} {s : World × List Stage} (lawful : Lawful s) (x : Serve α) :
    Keeps Lawful (Exec.lift x) s :=
  wp_lift_of_forall (fun _ _ => lawful) fun _ _ => lawful

theorem keeps_lawful (credentialsFile : Bool) (inner fuel : ℕ) {s : World × List Stage}
    (lawful : Lawful s) :
    Keeps Lawful (Journaled.serveLoop env vendor credentialsFile inner fuel) s := by
  induction fuel generalizing s with
  | zero => exact lawful
  | succ fuel ih =>
    unfold Journaled.serveLoop
    refine keeps_bind (keeps_lift lawful _) fun w t lawful => ?_
    refine keeps_ite (fun _ => lawful) fun _ => ?_
    refine keeps_bind (keeps_lift lawful _) fun _ t lawful => ?_
    refine keeps_bind (keeps_lift lawful _) fun w t lawful => ?_
    refine keeps_ite (fun _ => lawful) fun _ => ?_
    refine keeps_bind (keeps_lift lawful _) fun _ t lawful => ?_
    unfold Keeps
    rw [wp_bind]
    refine wp_mono (wp_attempt inner) ?_ ?_
    · intro blocked u concludes
      have noted : Lawful (u.1, .finished u.1 :: u.2) := fun c found =>
        (concludes.lawful c found).elim id (lawful c)
      rw [wp_bind, wp_jot]
      refine keeps_bind (keeps_lift noted _) fun w t lawful => ?_
      refine keeps_bind (keeps_lift lawful _) fun _ t lawful => ?_
      refine keeps_bind (keeps_lift lawful _) fun _ t lawful => ?_
      exact keeps_bind (keeps_lift lawful _) fun _ t lawful => ih lawful
    · intro halt u recorded c found
      rw [recorded] at found
      exact lawful c found

/-- **However it ended, a connection resets the backoff exactly when it is unspoilt**: in every run
of `_serve`, every connection. -/
theorem resets_iff (env : Env) (vendor : Vendor) (config : Config) (limits : TrafficLimits)
    (file : PyValue) (clock : Clock) (credentialsFile : Bool) (inner fuel : ℕ) :
    Lawful (Journaled.serve env vendor credentialsFile inner fuel
      (World.start config limits file clock, [])).2 := by
  have lawful : ∀ w : World, Lawful (w, []) := fun w c found => absurd found List.not_mem_nil
  have keeps : Keeps Lawful (Journaled.serve env vendor credentialsFile inner fuel)
      (World.start config limits file clock, []) := by
    unfold Journaled.serve
    exact keeps_bind (keeps_lift (lawful _) _) fun _ _ lawful =>
      keeps_lawful credentialsFile inner fuel lawful
  exact keeps.final

end Runs

/-- The first handshake fails; the second connection lasts 333 s, until a frame does not decode. -/
def breaksHealthy : Env where
  takes n := if n = 8 then 333 else 0
  stops _ := false
  fate _ := .proceeds
  save _ := .persisted
  refresh _ := .ok ()
  token _ := .ok true
  metadata _ := .ok []
  handshake n := if n = 3 then .error (.other .client) else .ok ()
  message n := if n = 8 then some (.binary (.error (.other .decode))) else none
  acknowledge _ := .ok ()
  reply _ := .error (.other .os)
  credentials _ := .ok ()
  login _ := .ok true

/-- **A decode error after 333 s of telemetry**: the delay is 120 s, from the failure before it. -/
theorem healthy_forgotten : letI := plainText
    ¬ ∀ c ∈ connections (Journaled.serve breaksHealthy blindVendor false 3 2
      (World.start someConfig ⟨LimitsData.empty, 0, 0⟩ LimitsData.empty.encode ⟨0, 0⟩, [])).2.2,
        c.Resets := by
  decide +kernel

end DbusEv.Mercedes
