/-
**What the telemetry task does to its state.**

* `wp_await`, `wp_save`, … — the primitive programs, run symbolically.
* `Act` — one change of the state, with the condition under which the program makes it: a pull
  starts only when it is due, a login is reserved only when `reserve_login` allows it, the
  credentials are used only with the reservation on disk.
* `failurePlan_…` — what `_failure_delay` decides.
-/

import DbusEv.Mercedes.Serve

set_option autoImplicit false
set_option linter.unusedSectionVars false

namespace DbusEv.Mercedes

open Exec

/-! ### The primitive programs -/

section Primitives

variable {α : Type} {env : Env} {w : World} {X : Halt → World → Prop}

@[simp] theorem wp_emit (event : World → Event) {Q : Unit → World → Prop} :
    wp (emit event) Q X w ↔ Q () (w.note (event w)) := Iff.rfl

@[simp] theorem wp_tryExcept (body : Serve α) (handler : Exn → Serve α) {Q : α → World → Prop} :
    wp (tryExcept body handler) Q X w ↔ wp body Q (fun halt t =>
      match halt with
      | .error e => wp (handler e) Q X t
      | .cancelled => X .cancelled t
      | .killed => X .killed t) w := by
  unfold tryExcept
  rw [wp_handle]
  refine ⟨fun holds => wp_mono holds (fun _ _ done => done) ?_,
    fun holds => wp_mono holds (fun _ _ done => done) ?_⟩
  · rintro (e | _ | _) t ⟨caught, passed⟩
    · exact caught _ rfl
    · exact passed rfl
    · exact passed rfl
  · rintro (e | _ | _) t thrown
    · exact ⟨fun recover found => by cases found; exact thrown, nofun⟩
    · exact ⟨nofun, fun _ => thrown⟩
    · exact ⟨nofun, fun _ => thrown⟩

/-- What the body and its handler keep, the `try` keeps. -/
theorem keeps_tryExcept {I : World → Prop} {body : Serve α} {handler : Exn → Serve α}
    (first : Keeps I body w) (handled : ∀ e t, I t → Keeps I (handler e) t) :
    Keeps I (tryExcept body handler) w := by
  unfold Keeps
  rw [wp_tryExcept]
  refine wp_mono first (fun _ _ kept => kept) ?_
  rintro (e | _ | _) t kept
  · exact handled e t kept
  · exact kept
  · exact kept

@[simp] theorem wp_tryFinally (body : Serve α) (final : Serve Unit) {Q : α → World → Prop} :
    wp (tryFinally body final) Q X w ↔
      wp body (fun value t => wp final (fun _ u => Q value u) X t) (fun halt t =>
        match halt with
        | .killed => X .killed t
        | halt => wp final (fun _ u => X halt u) X t) w := by
  unfold tryFinally
  rw [wp_ensure]
  refine ⟨fun holds => wp_mono holds (fun _ _ done => done) ?_,
    fun holds => wp_mono holds (fun _ _ done => done) ?_⟩
  · rintro (e | _ | _) t ⟨unwound, passed⟩
    · exact unwound rfl
    · exact unwound rfl
    · exact passed rfl
  · rintro (e | _ | _) t thrown
    · exact ⟨fun _ => thrown, nofun⟩
    · exact ⟨fun _ => thrown, nofun⟩
    · exact ⟨nofun, fun _ => thrown⟩

/-- An await: it goes on, or is the last of the task. -/
theorem wp_await (atLeast : ℚ) {Q : Unit → World → Prop} :
    wp (await env atLeast) Q X w ↔
      match env.fate w.steps with
      | .proceeds =>
        Q () (w.pass (atLeast.toNNRat + env.takes w.steps) (env.stops w.steps)).answered
      | .cancelled => X .cancelled (w.pass (env.takes w.steps) (env.stops w.steps)).answered
      | .killed => X .killed w := by
  unfold await
  rw [wp_bind, wp_read]
  rcases env.fate w.steps with _ | _ | _ <;> rfl

/-- A save. -/
theorem wp_save (write : LimitsWrite) {Q : Unit → World → Prop} :
    wp (save env write) Q X w ↔
      match env.save w.steps with
      | .persisted => Q () (w.answered.persist write)
      | .raised e => X (.error e) (w.answered.note (.saveRaised w.inside))
      | .killedBefore => X .killed w.answered
      | .killedAfter => X .killed (w.answered.persist write) := by
  unfold save
  rw [wp_bind, wp_read, wp_bind, wp_change]
  rcases env.save w.steps with _ | e | _ | _ <;> rfl

theorem wp_awaitStep (owner : ℕ) (step : Step) (outcome : ℕ → Except Exn α)
    {Q : α → World → Prop} :
    wp (awaitStep env owner step outcome) Q X w ↔
      wp (await env 0) (fun _ t =>
        match outcome w.steps with
        | .ok value => Q value t
        | .error e => X (.error e) (t.note (.raised owner step e))) X w := by
  unfold awaitStep
  rw [wp_bind, wp_read, wp_bind]
  rcases outcome w.steps with e | value <;> rfl

@[simp] theorem wp_request (owner : ℕ) (step : Step) (outcome : ℕ → Except Exn α)
    {Q : α → World → Prop} :
    wp (request env owner step outcome) Q X w ↔
      wp (awaitStep env owner step outcome) Q X (w.note (.requested owner step w.remaining)) := by
  unfold request
  rw [wp_bind, wp_emit]

@[simp] theorem wp_newOwner {Q : ℕ → World → Prop} :
    wp newOwner Q X w ↔ Q w.owners { w with owners := w.owners + 1 } := Iff.rfl

theorem wp_onSession (owner : ℕ) (step : Step) (x : Exec Session Exn α) {Q : α → World → Prop} :
    wp (onSession owner step x) Q X w ↔
      wp x (fun value s => Q value { w with session := s })
        (fun e s => X (.error e) ({ w with session := s }.note (.raised owner step e)))
        w.session := by
  unfold onSession
  rw [wp_bind, wp_read, wp_bind, wp_change]
  rcases result : x w.session with ⟨e | value, s⟩
  · rw [wp_of_error result]
    rfl
  · rw [wp_of_ok result]
    rfl

theorem wp_pauseLimits (delay : ℚ) {Q : ℚ → World → Prop} :
    wp (pauseLimits env delay) Q X w ↔
      wp (save env .pause) (fun _ t => Q (w.limits.pause w.clock delay).1 t) X
        (w.setLimits (w.limits.pause w.clock delay).2) := by
  unfold pauseLimits
  rw [wp_bind, wp_read, wp_bind, wp_change, wp_bind]
  rfl

theorem wp_rateLimitedBy (e : Exn) {Q : ℚ → World → Prop} :
    wp (rateLimitedBy env e) Q X w ↔
      wp (save env .rateLimited) (fun _ t => Q (w.limits.rateLimited w.clock e.retryAfter).1 t) X
        (w.setLimits (w.limits.rateLimited w.clock e.retryAfter).2) := by
  unfold rateLimitedBy
  rw [wp_bind, wp_read, wp_bind, wp_change, wp_bind]
  rfl

/-- `_failure_delay` carries out its plan. -/
theorem wp_failureDelay (e : Exn) (minimum : ℚ) {Q : ℚ → World → Prop} :
    wp (failureDelay env e minimum) Q X w ↔
      match w.failurePlan e minimum with
      | (delay, none) => Q delay w
      | (delay, some (write, limits)) =>
        wp (save env write) (fun _ t => Q delay t) X (w.setLimits limits) := by
  unfold failureDelay World.failurePlan
  rw [wp_bind, wp_read]
  split
  · rw [wp_rateLimitedBy]
  · split
    · rw [wp_pauseLimits]
    · split
      · rw [wp_pauseLimits]
      · rfl

end Primitives

/-- The three plans: a rate limit, another pause, or no pause at all. -/
theorem failurePlan_cases (w : World) (e : Exn) (minimum : ℚ) :
    (e.status = some 429 ∧ w.failurePlan e minimum =
      ((w.limits.rateLimited w.clock e.retryAfter).1,
        some (.rateLimited, (w.limits.rateLimited w.clock e.retryAfter).2))) ∨
    (e.status ≠ some 429 ∧ ∃ delay, min minimum loginInterval ≤ delay ∧ w.failurePlan e minimum =
      ((w.limits.pause w.clock delay).1, some (.pause, (w.limits.pause w.clock delay).2))) ∨
    (e.status ≠ some 429 ∧ w.failurePlan e minimum = (minimum, none)) := by
  unfold World.failurePlan
  by_cases limited : e.status = some 429
  · exact .inl ⟨limited, by rw [if_pos limited]⟩
  · rw [if_neg limited]
    by_cases rejected : e.status = some 401 ∨ e.status = some 403 ∨ e.isAuth
    · rw [if_pos rejected]
      exact .inr (.inl ⟨limited, _, (min_le_right _ _).trans (le_retryDelay _ _ _), rfl⟩)
    · rw [if_neg rejected]
      rcases header : e.retryAfter with _ | value
      · exact .inr (.inr ⟨limited, rfl⟩)
      · exact .inr (.inl ⟨limited, _, (min_le_left _ _).trans (le_retryDelay _ _ _), rfl⟩)

/-! ### When a pull is due -/

section Due

variable {w : World}

/-- Waiting as long as the delay makes a pull due. -/
theorem pullDelay_pass {time : ℚ≥0} (waited : w.pullDelay ≤ time) (stops : Bool) :
    (w.pass time stops).pullDelay = 0 := by
  have passed : ∀ deadline : ℚ, left deadline w.mono ≤ time →
      left deadline (w.pass time stops).mono = 0 := by
    intro deadline short
    rw [left_eq_zero]
    have := (sub_le_left deadline w.mono).trans short
    show deadline ≤ w.clock.mono + time
    unfold World.mono at this
    linarith
  obtain ⟨due, remaining⟩ := max_le_iff.mp waited
  show max (left w.pullDue (w.pass time stops).mono)
    (left w.limits.deadline (w.pass time stops).mono) = 0
  rw [passed _ due, passed _ remaining, max_self]

theorem pullDelay_nonneg (w : World) : 0 ≤ w.pullDelay :=
  (le_max_left _ _).trans (le_max_left _ _)

/-- A pull that is due finds no pause. -/
theorem remaining_le_pullDelay (w : World) : w.remaining ≤ w.pullDelay := le_max_right _ _

/-- Nothing is left of the due time of a pull that starts. -/
theorem nextPull_le_of_due (due : w.pullDelay = 0) : w.session.client.nextPull ≤ w.mono := by
  have passed : left w.pullDue w.mono ≤ 0 := due ▸ le_max_left (left w.pullDue w.mono) w.remaining
  refine le_trans ?_ (left_eq_zero.mp (le_antisymm passed (left_nonneg _ _)))
  unfold World.pullDue
  split
  · exact le_max_left _ _
  · exact le_rfl

end Due

/-! ### What a session program does to the client -/

section Sessions

variable [PyText] {vendor : Vendor} {s : Session}

/-- An acceptance moves the acquisition time to now, and leaves the pacing of the pulls alone. -/
structure Session.Received (s : Session) (mono : ℚ) (t : Session) : Prop where
  received : t.client.received = some mono
  nextPull : t.client.nextPull = s.client.nextPull
  pullRetry : t.client.pullRetry = s.client.pullRetry

theorem wp_acceptPayload (mono : ℚ) (payload : Payload) (source : Source) (buffered : Bool) :
    wp (acceptPayload vendor mono payload source buffered) (fun _ t => s.Received mono t)
      (fun _ t => t = s) s := by
  rcases result : acceptPayload vendor mono payload source buffered s with ⟨e | ⟨⟩, t⟩
  · rw [wp_of_error result]
    exact acceptPayload_error result
  · rw [wp_of_ok result]
    unfold acceptPayload at result
    split at result
    · cases result
    · rename_i client accepted
      obtain ⟨stored, snapshot, -, -, rfl⟩ := accept_ok accepted
      cases result
      exact ⟨rfl, rfl, rfl⟩

theorem wp_mergeUpdate (wall : ℚ) (update : Dict PyValue) {X : Exn → Session → Prop} :
    wp (mergeUpdate wall update) (fun _ t => t.client = s.client) X s := by
  rcases taken : incomingOf update with _ | incoming
  · rw [wp_of_ok (mergeUpdate_none taken)]
  · rw [wp_of_ok (mergeUpdate_some taken)]
    rfl

theorem wp_decodePush (wall : ℚ) (update : Dict PyValue) {X : Exn → Session → Prop} :
    wp (decodePush wall update) (fun _ t => t.client = s.client) X s := by
  unfold decodePush
  rw [wp_ite]
  exact ⟨fun _ => rfl, fun _ => wp_mergeUpdate wall update⟩

theorem Session.Received.trans {s t u : Session} {mono : ℚ} (same : t.client = s.client)
    (received : t.Received mono u) : s.Received mono u :=
  ⟨received.received, by rw [received.nextPull, same], by rw [received.pullRetry, same]⟩

/-- A reply is accepted, or raises without touching the client. -/
theorem wp_takeReply (clock : Clock) (reply : Reply) :
    wp (takeReply vendor clock reply) (fun _ t => s.Received clock.mono t)
      (fun _ t => t.client = s.client) s := by
  unfold takeReply
  rw [wp_bind, wp_read]
  rcases decodeRest s.client.vin clock.wall reply with e | _ | payload
  · exact rfl
  · exact rfl
  · rw [wp_ite]
    refine ⟨fun _ => ?_, fun _ => ?_⟩
    · unfold mergeThenAccept
      rw [wp_bind]
      refine wp_value (wp_mergeUpdate _ _) ?_
      rintro (_ | merged) t same
      · exact same
      · refine wp_mono (wp_acceptPayload _ _ _ _) (fun _ _ received => received.trans same) ?_
        rintro e u rfl
        exact same
    · refine wp_mono (wp_acceptPayload _ _ _ _) (fun _ _ received => received) ?_
      rintro e t rfl
      rfl

end Sessions

/-! ### The acts -/

/-- What a change without a trace leaves as it was. -/
structure Same (w t : World) : Prop where
  limits : t.limits = w.limits
  file : t.file = w.file
  clock : t.clock = w.clock
  stop : t.stop = w.stop
  trace : t.trace = w.trace
  received : t.session.client.received = w.session.client.received
  nextPull : t.session.client.nextPull = w.session.client.nextPull
  pullRetry : t.session.client.pullRetry = w.session.client.pullRetry

/-- The last event is the reservation of a login, and the file on disk holds it. -/
def Reserved (file : PyValue) (trace : List Event) : Prop :=
  ∃ wall remaining data earlier, trace = .saved .reserveLogin wall remaining data :: earlier ∧
    file = data.encode ∧ data.loginAfter = some (wall + loginInterval.toNNRat)

/-- The last event is the reading of the credentials, under a reservation on disk. -/
def ReadReserved (file : PyValue) (trace : List Event) : Prop :=
  ∃ earlier, trace = .credentialsRead file :: earlier ∧ Reserved file earlier

/-- One change of the state by the task. -/
inductive Act : World → World → Prop
  | quiet {w t : World} (same : Same w t) : Act w t
  | pass {w : World} (time : ℚ≥0) (stops : Bool) : Act w (w.pass time stops)
  | requested {w : World} (owner : ℕ) (step : Step) :
    Act w (w.note (.requested owner step w.remaining))
  | raised {w : World} (owner : ℕ) (step : Step) (e : Exn) : Act w (w.note (.raised owner step e))
  | saveRaised {w : World} (inside : Bool) : Act w (w.note (.saveRaised inside))
  | accepted {w : World} {session : Session} (received : w.session.Received w.mono session) :
    Act w (World.note { w with session := session } (.accepted w.mono))
  | pullStarted {w : World} (due : w.pullDelay = 0) :
    Act w (w.note (.pullStarted w.mono w.remaining))
  /-- A pull sets its delay. -/
  | pulled {w : World} (delay : ℚ) (least : delay = pullInterval ∨
      min (min (w.session.client.pullRetry * 2) reconnectMax) rateLimitMin ≤ delay) :
    Act w (w.setClient { w.session.client with pullRetry := delay })
  /-- The save of a failed pull's pause raised. -/
  | interrupted {w : World} (delay : ℚ) (paused : w.mono + delay ≤ w.limits.deadline)
      (least : min (min (w.session.client.pullRetry * 2) reconnectMax) rateLimitMin ≤ delay) :
    Act w (w.note (.pullEnded w.mono (some delay)))
  | paused {w : World} (delay : ℚ) : Act w (w.setLimits (w.limits.pause w.clock delay).2)
  | rateLimited {w : World} (header : Option RetryAfter) :
    Act w (w.setLimits (w.limits.rateLimited w.clock header).2)
  | healthy {w : World} : Act w (w.setLimits (w.limits.setRateRetry rateLimitMin))
  | loginFailed {w : World} : Act w (w.setLimits w.limits.loginFailed)
  /-- A reservation in memory, and one that is saved. -/
  | reserve {w : World} {limits : TrafficLimits}
      (free : w.limits.reserveLogin w.clock = some limits) : Act w (w.setLimits limits)
  | reserved {w : World} {limits : TrafficLimits}
      (free : w.limits.reserveLogin w.clock = some limits) :
    Act w ((w.setLimits limits).persist .reserveLogin)
  | persisted {w : World} (write : LimitsWrite) (notReserve : write ≠ .reserveLogin)
      (failed : write = .loginFailed → w.limits.data.loginFailed = true) : Act w (w.persist write)
  | credentialsRead {w : World} (reserved : Reserved w.file w.trace) :
    Act w (w.note (.credentialsRead w.file))
  | credentialsSent {w : World} (read : ReadReserved w.file w.trace) :
    Act w (w.note (.credentialsSent w.file))

/-- Every act keeps `I`. -/
def Inert (I : World → Prop) : Prop := ∀ w t, Act w t → I w → I t

/-- Every act keeps `I`, and so does the end of a pull: it was due, and plans the next one. -/
structure Closed (I : World → Prop) : Prop where
  inert : Inert I
  planned : ∀ (w : World) (delay : Option ℚ), w.session.client.nextPull ≤ w.mono →
    (∀ d, delay = some d → d = w.session.client.pullRetry) → I w →
      I (w.planPull.note (.pullEnded w.mono delay))

theorem Inert.and {I J : World → Prop} (first : Inert I) (second : Inert J) :
    Inert fun w => I w ∧ J w :=
  fun w t act both => ⟨first w t act both.1, second w t act both.2⟩

/-- While a pull runs its due time stays, and time passes. -/
theorem inert_due (nextPull mono : ℚ) :
    Inert fun w => w.session.client.nextPull = nextPull ∧ mono ≤ w.mono := by
  rintro w t act ⟨same, past⟩
  cases act with
  | quiet equal =>
    refine ⟨equal.nextPull.trans same, ?_⟩
    unfold World.mono
    rw [equal.clock]
    exact past
  | pass time stops =>
    refine ⟨same, past.trans ?_⟩
    show w.clock.mono ≤ w.clock.mono + time
    exact le_add_of_nonneg_right time.coe_nonneg
  | accepted received => exact ⟨received.nextPull.trans same, past⟩
  | _ => exact ⟨same, past⟩

/-- A pause in memory: what a failure plan sets. -/
theorem failurePlan_some {w : World} {e : Exn} {minimum delay : ℚ} {write : LimitsWrite}
    {limits : TrafficLimits} (plan : w.failurePlan e minimum = (delay, some (write, limits))) :
    Act w (w.setLimits limits) ∧ w.mono + delay = limits.deadline ∧
      (write = .pause ∨ write = .rateLimited) := by
  rcases failurePlan_cases w e minimum with ⟨-, same⟩ | ⟨-, d, -, same⟩ | ⟨-, same⟩
  · rw [same] at plan
    cases plan
    exact ⟨.rateLimited e.retryAfter, rfl, .inr rfl⟩
  · rw [same] at plan
    cases plan
    exact ⟨.paused d, rfl, .inl rfl⟩
  · rw [same] at plan
    cases plan

/-- A failure waits at least its minimum, or as long as the shortest pause. -/
theorem failurePlan_least (w : World) (e : Exn) (minimum : ℚ) :
    min minimum rateLimitMin ≤ (w.failurePlan e minimum).1 := by
  have shorter : rateLimitMin ≤ loginInterval := by
    unfold rateLimitMin loginInterval
    norm_num
  rcases failurePlan_cases w e minimum with ⟨-, same⟩ | ⟨-, d, least, same⟩ | ⟨-, same⟩
  · rw [same]
    exact (min_le_right _ _).trans (w.limits.rateLimitMin_le_minimum.trans
      (w.limits.minimum_le_rateLimited w.clock e.retryAfter))
  · rw [same]
    exact (min_le_min_left minimum shorter).trans (least.trans (w.limits.le_pause w.clock d))
  · rw [same]
    exact min_le_left _ _

end DbusEv.Mercedes
