/-
**What every act keeps, the programs of the loop keep.**

`keeps_…` walks through the programs once: a predicate that is `Closed` under the acts holds after
each of them, whatever its outcome. The condition of an act is found where the program tests it: a
pull is due after the wait of the stream, or by the test of the cooldown.
-/

import DbusEv.Mercedes.Acts

set_option autoImplicit false
set_option linter.unusedSectionVars false

namespace DbusEv.Mercedes

open Exec

section Keeps

variable [PyText] {α : Type} {I : World → Prop} {env : Env} {vendor : Vendor} {w : World}

/-! ### Awaits and saves -/

theorem Inert.quiet (inert : Inert I) {t : World} (holds : I w) (same : Same w t) : I t :=
  inert w t (.quiet same) holds

theorem Inert.answered (inert : Inert I) (holds : I w) : I w.answered :=
  inert.quiet holds ⟨rfl, rfl, rfl, rfl, rfl, rfl, rfl, rfl⟩

theorem keeps_await (inert : Inert I) (holds : I w) (atLeast : ℚ) :
    Keeps I (await env atLeast) w := by
  unfold Keeps
  rw [wp_await]
  rcases env.fate w.steps with _ | _ | _
  · exact inert.answered (inert _ _ (.pass _ _) holds)
  · exact inert.answered (inert _ _ (.pass _ _) holds)
  · exact holds

theorem keeps_fail (inert : Inert I) (holds : I w) (owner : ℕ) (step : Step) (e : Exn) :
    Keeps I (fail owner step e : Serve α) w :=
  inert _ _ (.raised owner step e) holds

theorem keeps_awaitStep (inert : Inert I) (holds : I w) (owner : ℕ) (step : Step)
    (outcome : ℕ → Except Exn α) : Keeps I (awaitStep env owner step outcome) w := by
  unfold Keeps
  rw [wp_awaitStep]
  refine wp_value (keeps_await inert holds 0) ?_
  intro _ t kept
  rcases outcome w.steps with e | value
  · exact inert _ _ (.raised owner step e) kept
  · exact kept

theorem keeps_request (inert : Inert I) (holds : I w) (owner : ℕ) (step : Step)
    (outcome : ℕ → Except Exn α) : Keeps I (request env owner step outcome) w := by
  unfold Keeps
  rw [wp_request]
  exact keeps_awaitStep inert (inert _ _ (.requested owner step) holds) owner step outcome

theorem keeps_save (inert : Inert I) (holds : I w) {write : LimitsWrite}
    (notReserve : write ≠ .reserveLogin)
    (failed : write = .loginFailed → w.limits.data.loginFailed = true) :
    Keeps I (save env write) w := by
  have answered : I w.answered := inert.answered holds
  unfold Keeps
  rw [wp_save]
  rcases env.save w.steps with _ | e | _ | _
  · exact inert _ _ (.persisted write notReserve failed) answered
  · exact inert _ _ (.saveRaised w.inside) answered
  · exact answered
  · exact inert _ _ (.persisted write notReserve failed) answered

theorem keeps_pauseLimits (inert : Inert I) (holds : I w) (delay : ℚ) :
    Keeps I (pauseLimits env delay) w := by
  unfold Keeps
  rw [wp_pauseLimits]
  exact keeps_save inert (inert _ _ (.paused delay) holds) nofun nofun

theorem keeps_rateLimitedBy (inert : Inert I) (holds : I w) (e : Exn) :
    Keeps I (rateLimitedBy env e) w := by
  unfold Keeps
  rw [wp_rateLimitedBy]
  exact keeps_save inert (inert _ _ (.rateLimited e.retryAfter) holds) nofun nofun

theorem keeps_failureDelay (inert : Inert I) (holds : I w) (e : Exn) (minimum : ℚ) :
    Keeps I (failureDelay env e minimum) w := by
  unfold Keeps
  rw [wp_failureDelay]
  rcases failurePlan_cases w e minimum with ⟨-, plan⟩ | ⟨-, delay, -, plan⟩ | ⟨-, plan⟩
  · rw [plan]
    exact keeps_save inert (inert _ _ (.rateLimited e.retryAfter) holds) nofun nofun
  · rw [plan]
    exact keeps_save inert (inert _ _ (.paused delay) holds) nofun nofun
  · rw [plan]
    exact holds

theorem keeps_healthyStream (inert : Inert I) (holds : I w) : Keeps I (healthyStream env) w := by
  unfold healthyStream
  refine keeps_read ?_
  rcases resets : w.limits.healthy w.clock with _ | limits
  · exact holds
  · obtain ⟨-, rfl⟩ := TrafficLimits.healthy_some resets
    exact keeps_bind (keeps_change (inert _ _ .healthy holds)) fun _ t kept =>
      keeps_save inert kept nofun nofun

theorem keeps_waitForApi (inert : Inert I) (fuel : ℕ) (holds : I w) :
    Keeps I (waitForApi env fuel) w := by
  induction fuel generalizing w with
  | zero => exact holds
  | succ fuel ih =>
    unfold waitForApi
    refine keeps_read (keeps_ite (fun _ => holds) fun _ => ?_)
    exact keeps_bind (keeps_await inert holds _) fun _ _ kept => ih kept

/-- The session takes a reply or a payload. -/
theorem keeps_onSession (inert : Inert I) (holds : I w) (owner : ℕ) (step : Step)
    {x : Exec Session Exn α}
    (touches : wp x (fun _ s => s.client = w.session.client)
      (fun _ s => s.client = w.session.client) w.session) : Keeps I (onSession owner step x) w := by
  unfold Keeps
  rw [wp_onSession]
  have quiet : ∀ s : Session, s.client = w.session.client → I { w with session := s } := by
    intro s same
    exact inert.quiet holds ⟨rfl, rfl, rfl, rfl, rfl, by rw [same], by rw [same], by rw [same]⟩
  exact wp_mono touches (fun _ s same => quiet s same) fun e s same =>
    inert _ _ (.raised owner step e) (quiet s same)

theorem keeps_accepting (inert : Inert I) (holds : I w) (owner : ℕ) (step : Step)
    {x : Exec Session Exn Unit}
    (accepts : wp x (fun _ s => w.session.Received w.mono s)
      (fun _ s => s.client = w.session.client) w.session) :
    Keeps I (accepting owner step x) w := by
  unfold Keeps accepting
  rw [wp_bind, wp_onSession]
  refine wp_mono accepts (fun _ s received => ?_) fun e s same => ?_
  · rw [wp_emit]
    exact inert _ _ (.accepted received) holds
  · refine inert _ _ (.raised owner step e) (inert.quiet holds ?_)
    exact ⟨rfl, rfl, rfl, rfl, rfl, by rw [same], by rw [same], by rw [same]⟩

/-! ### A pull -/

theorem keeps_pullBody (inert : Inert I) (holds : I w) (owner : ℕ) :
    Keeps I (pullBody env vendor owner) w := by
  unfold pullBody
  refine keeps_bind (keeps_request inert holds _ _ _) fun _ t kept => ?_
  refine keeps_bind (keeps_request inert kept _ _ _) fun token t kept => ?_
  refine keeps_ite (fun _ => ?_) fun _ => keeps_fail inert kept _ _ _
  refine keeps_bind (keeps_request inert kept _ _ _) fun reply t kept => keeps_read ?_
  refine keeps_bind (keeps_accepting inert kept _ _ (wp_takeReply t.clock reply)) ?_
  exact fun _ u kept => inert _ _ (.pulled pullInterval (.inl rfl)) kept

/-- The handler of a pull leaves the retry it returns. -/
theorem keeps_pullFailed (inert : Inert I) (holds : I w) (e : Exn) :
    wp (pullFailed env e) (fun delay t => I t ∧ delay = t.session.client.pullRetry)
      (fun _ => I) w := by
  unfold pullFailed
  have least := failurePlan_least w e (min (w.session.client.pullRetry * 2) reconnectMax)
  rw [wp_bind, wp_read, wp_bind, wp_tryExcept, wp_failureDelay]
  rcases plan : w.failurePlan e (min (w.session.client.pullRetry * 2) reconnectMax)
    with ⟨delay, _ | ⟨write, limits⟩⟩
  · rw [plan] at least
    exact ⟨inert _ _ (.pulled delay (.inr least)) holds, rfl⟩
  · rw [plan] at least
    obtain ⟨act, deadline, pauses⟩ := failurePlan_some plan
    have paused : I (w.setLimits limits).answered := inert.answered (inert _ _ act holds)
    have persisted : I ((w.setLimits limits).answered.persist write) := by
      refine inert _ _ (.persisted write ?_ ?_) paused <;>
        rcases pauses with rfl | rfl <;> nofun
    show wp (save env write) _ _ _
    rw [wp_save]
    rcases env.save (w.setLimits limits).steps with _ | e' | _ | _
    · exact ⟨inert _ _ (.pulled delay (.inr least)) persisted, rfl⟩
    · refine inert _ _ (.interrupted delay deadline.le least) ?_
      exact inert _ _ (.saveRaised _) paused
    · exact paused
    · exact persisted

/-- **A pull that is due.** -/
theorem keeps_pull (closed : Closed I) (holds : I w) (due : w.pullDelay = 0) :
    Keeps I (pull env vendor) w := by
  unfold pull
  refine keeps_read (keeps_ite (fun _ => holds) fun _ => ?_)
  have owned : I { w with owners := w.owners + 1 } :=
    closed.inert.quiet holds ⟨rfl, rfl, rfl, rfl, rfl, rfl, rfl, rfl⟩
  have started := closed.inert _ _
    (.pullStarted (w := { w with owners := w.owners + 1 }) due) owned
  -- The due time stays while the pull runs, so the plan at its end moves it forward.
  have running := closed.inert.and (inert_due w.session.client.nextPull w.mono)
  have past : w.session.client.nextPull ≤ w.mono := nextPull_le_of_due due
  have ended : ∀ (delay : Option ℚ) (t : World),
      (I t ∧ t.session.client.nextPull = w.session.client.nextPull ∧ w.mono ≤ t.mono) →
      (∀ d, delay = some d → d = t.session.client.pullRetry) →
      wp (do Exec.change World.planPull; emit fun w => .pullEnded w.mono delay)
        (fun _ => I) (fun _ => I) t := by
    intro delay t ⟨kept, same, later⟩ retried
    exact closed.planned t delay (same ▸ past.trans later) retried kept
  unfold Keeps
  rw [wp_bind, wp_newOwner, wp_bind, wp_emit, wp_bind, wp_tryExcept, wp_bind]
  refine wp_mono (keeps_pullBody running ⟨started, rfl, le_rfl⟩ _) ?_ ?_
  · exact fun _ t kept => ended none t kept nofun
  · rintro (e | _ | _) t kept
    · show wp _ _ _ t
      rw [wp_bind]
      refine wp_mono (keeps_pullFailed running kept e) ?_ fun _ _ kept => kept.1
      rintro delay u ⟨kept, rfl⟩
      exact ended _ u kept fun d same => (Option.some.inj same).symm
    · exact kept.1
    · exact kept.1

/-! ### The stream -/

theorem keeps_takeMessage (inert : Inert I) (holds : I w) (owner : ℕ) (message : Message) :
    Keeps I (takeMessage env vendor owner message) w := by
  rcases message with _ | e | _ | (e | frame) | _
  · exact holds
  · exact keeps_fail inert holds _ _ _
  · exact holds
  · exact keeps_fail inert holds _ _ _
  · refine keeps_read (keeps_bind (keeps_onSession inert holds _ _ (wp_decodePush _ _)) ?_)
    intro payload t kept
    have sent : Keeps I (acknowledge env owner frame) t :=
      keeps_ite (fun _ => keeps_awaitStep inert kept _ _ _) fun _ => kept
    refine keeps_bind sent fun _ u kept => ?_
    rcases payload with _ | payload
    · exact kept
    · refine keeps_read (keeps_bind (keeps_accepting inert kept _ _ ?_) fun _ _ kept => kept)
      refine wp_mono (wp_acceptPayload _ _ _ _) (fun _ _ received => received) ?_
      rintro e s rfl
      rfl
  · exact holds

theorem keeps_streamLoop (closed : Closed I) (owner fuel : ℕ) (holds : I w) :
    Keeps I (streamLoop env vendor owner fuel) w := by
  induction fuel generalizing w with
  | zero => exact holds
  | succ fuel ih =>
    unfold streamLoop
    refine keeps_read (keeps_ite (fun _ => holds) fun _ => ?_)
    rcases env.message w.steps with _ | message
    · unfold Keeps
      have passed : ∀ time : ℚ≥0, I (w.pass time (env.stops w.steps)).answered := fun time =>
        closed.inert.answered (closed.inert _ _ (.pass time _) holds)
      rw [wp_bind, wp_await]
      rcases env.fate w.steps with _ | _ | _
      · have due : (w.pass (w.pullDelay.toNNRat + env.takes w.steps)
            (env.stops w.steps)).pullDelay = 0 := by
          refine pullDelay_pass ?_ _
          rw [NNRat.coe_add, Rat.coe_toNNRat _ (pullDelay_nonneg w)]
          exact le_add_of_nonneg_right (env.takes w.steps).coe_nonneg
        exact keeps_bind (keeps_pull closed (passed _) due) fun _ _ kept => ih kept
      · exact passed _
      · exact holds
    · refine keeps_bind (keeps_await closed.inert holds _) fun _ t kept => ?_
      refine keeps_bind (keeps_takeMessage closed.inert kept owner message) fun goesOn u kept => ?_
      exact keeps_ite (fun _ => ih kept) fun _ => kept

theorem keeps_stream (closed : Closed I) (holds : I w) (owner fuel : ℕ) :
    Keeps I (stream env vendor owner fuel) w :=
  keeps_ensure (keeps_streamLoop closed owner fuel holds)
    fun _ kept => keeps_await closed.inert kept _

/-! ### An attempt -/

theorem Inert.client (inert : Inert I) (holds : I w) (client : Client)
    (received : client.received = w.session.client.received)
    (nextPull : client.nextPull = w.session.client.nextPull)
    (pullRetry : client.pullRetry = w.session.client.pullRetry) : I (w.setClient client) :=
  inert.quiet holds ⟨rfl, rfl, rfl, rfl, rfl, received, nextPull, pullRetry⟩

theorem Inert.setConnected (inert : Inert I) (holds : I w) (connected : Bool) :
    I (w.setConnected connected) :=
  inert.quiet holds ⟨rfl, rfl, rfl, rfl, rfl, rfl, rfl, rfl⟩

theorem Inert.setInside (inert : Inert I) (holds : I w) (inside : Bool) :
    I { w with inside := inside } :=
  inert.quiet holds ⟨rfl, rfl, rfl, rfl, rfl, rfl, rfl, rfl⟩

theorem Inert.setRetry (inert : Inert I) (holds : I w) (retry : ℚ) :
    I { w with retry := retry } :=
  inert.quiet holds ⟨rfl, rfl, rfl, rfl, rfl, rfl, rfl, rfl⟩

theorem keeps_websocketHeaders (inert : Inert I) (holds : I w) (owner : ℕ) :
    Keeps I (websocketHeaders env owner) w := by
  unfold websocketHeaders
  refine keeps_bind (keeps_request inert holds _ _ _) fun _ t kept => ?_
  refine keeps_bind (keeps_request inert kept _ _ _) fun token t kept => ?_
  refine keeps_ite (fun _ => keeps_read ?_) fun _ => keeps_fail inert kept _ _ _
  rcases t.session.client.vehicle with _ | vehicle
  · refine keeps_bind (keeps_request inert kept _ _ _) fun vehicle u kept => ?_
    exact inert.client kept _ rfl rfl rfl
  · exact kept

theorem keeps_connection (closed : Closed I) (holds : I w) (owner fuel : ℕ) :
    Keeps I (connection env vendor owner fuel) w := by
  unfold connection
  refine keeps_bind (keeps_change (closed.inert.setConnected holds true))
    fun _ t kept => keeps_read ?_
  refine keeps_bind (keeps_stream closed kept owner fuel) fun _ u kept => keeps_read ?_
  refine keeps_ite (fun _ => ?_) fun _ => kept
  refine keeps_bind (keeps_change (closed.inert.setRetry kept reconnectMin)) fun _ _ kept => ?_
  exact keeps_healthyStream closed.inert kept

/-- An attempt behind the request of its handshake. -/
theorem keeps_opening (closed : Closed I) (owner fuel : ℕ)
    (handshake : Keeps I (request env owner .handshake env.handshake) w) :
    Keeps I (do
      request env owner .handshake env.handshake
      emit fun w => .requested owner .stream w.remaining
      tryFinally (connection env vendor owner fuel) (await env 0)) w := by
  refine keeps_bind handshake fun _ u kept => ?_
  refine keeps_bind (keeps_change (closed.inert _ _ (.requested owner .stream) kept)) ?_
  exact fun _ _ kept => keeps_ensure (keeps_connection closed kept owner fuel) fun _ kept =>
    keeps_await closed.inert kept _

theorem keeps_attemptBody (closed : Closed I) (holds : I w) (owner fuel : ℕ) :
    Keeps I (attemptBody env vendor owner fuel) w := by
  unfold attemptBody
  refine keeps_bind (keeps_websocketHeaders closed.inert holds owner) fun _ t kept => ?_
  exact keeps_opening closed owner fuel (keeps_request closed.inert kept _ _ _)

theorem keeps_attemptFailed (inert : Inert I) (holds : I w) (e : Exn) :
    Keeps I (attemptFailed env e) w := by
  unfold attemptFailed connectionFailure setRetry
  refine keeps_bind (keeps_change (inert.setInside holds false)) fun _ t kept => ?_
  refine keeps_ite (fun _ => ?_) fun _ => keeps_read ?_
  · refine keeps_bind (keeps_pauseLimits inert kept _) fun delay _ kept => ?_
    exact keeps_bind (keeps_change (inert.setRetry kept delay)) fun _ _ kept => kept
  · refine keeps_bind (keeps_failureDelay inert kept e _) fun delay _ kept => ?_
    exact keeps_bind (keeps_change (inert.setRetry kept delay)) fun _ _ kept => kept

/-- **One attempt, from its first request to the state its handlers leave.** -/
theorem keeps_attempt (closed : Closed I) (holds : I w) (fuel : ℕ) :
    Keeps I (attempt env vendor fuel) w := by
  unfold attempt
  have owned : I { w with owners := w.owners + 1 } :=
    closed.inert.quiet holds ⟨rfl, rfl, rfl, rfl, rfl, rfl, rfl, rfl⟩
  refine keeps_bind owned fun owner t kept => ?_
  refine keeps_bind (keeps_change (closed.inert.setInside kept true)) fun _ u kept => ?_
  refine keeps_ensure (keeps_tryExcept ?_ ?_) fun _ kept =>
    closed.inert.setInside (closed.inert.setConnected kept false) false
  · exact keeps_bind (keeps_attemptBody closed kept owner fuel) fun _ _ kept => kept
  · exact fun e t kept => keeps_attemptFailed closed.inert kept e

/-! ### Between two attempts -/

theorem keeps_cooldownLoop (closed : Closed I) (deadline : ℚ) (fuel : ℕ) (holds : I w) :
    Keeps I (cooldownLoop env vendor deadline fuel) w := by
  induction fuel generalizing w with
  | zero => exact holds
  | succ fuel ih =>
    unfold cooldownLoop
    refine keeps_read (keeps_ite (fun _ => holds) fun _ => keeps_ite (fun due => ?_) fun _ => ?_)
    · have now : w.pullDelay = 0 := le_antisymm due (pullDelay_nonneg w)
      exact keeps_bind (keeps_pull closed holds now) fun _ _ kept => ih kept
    · exact keeps_bind (keeps_await closed.inert holds _) fun _ _ kept => ih kept

theorem keeps_cooldown (closed : Closed I) (holds : I w) (fuel : ℕ) (delay : ℚ) :
    Keeps I (cooldown env vendor fuel delay) w := by
  unfold cooldown
  exact keeps_read (keeps_ite (fun _ => keeps_waitForApi closed.inert fuel holds) fun _ =>
    keeps_cooldownLoop closed _ fuel holds)

/-- A login that is reserved is on disk. -/
theorem keeps_reserveLogin (inert : Inert I) (holds : I w) :
    wp (reserveLogin env) (fun reserved t => I t ∧ (reserved = true → Reserved t.file t.trace))
      (fun _ => I) w := by
  unfold reserveLogin
  rw [wp_bind, wp_read]
  rcases free : w.limits.reserveLogin w.clock with _ | limits
  · exact ⟨holds, nofun⟩
  · have answered : I w.answered := inert.answered holds
    have reserve : I (w.answered.setLimits limits) := inert _ _ (.reserve free) answered
    have saved : I ((w.answered.setLimits limits).persist .reserveLogin) :=
      inert _ _ (.reserved free) answered
    obtain ⟨-, -, -, delayed⟩ := TrafficLimits.reserveLogin_some free
    simp only
    rw [wp_bind, wp_change, wp_bind, wp_save]
    rcases env.save (w.setLimits limits).steps with _ | e | _ | _
    · refine ⟨saved, fun _ => ⟨w.clock.wall, _, limits.data, w.trace, rfl, rfl, ?_⟩⟩
      rw [delayed]
      rfl
    · exact inert _ _ (.saveRaised _) reserve
    · exact reserve
    · exact saved

/-- The credentials are read and sent under the reservation. -/
theorem keeps_loginAgain (inert : Inert I) (holds : I w) (reserved : Reserved w.file w.trace)
    (owner : ℕ) : Keeps I (loginAgain env owner) w := by
  unfold loginAgain Keeps
  rw [wp_bind, wp_emit, wp_bind, wp_awaitStep, wp_await]
  have started : I (w.note (.credentialsRead w.file)) := inert _ _ (.credentialsRead reserved) holds
  have passed : ∀ time stops,
      I ((w.note (.credentialsRead w.file)).pass time stops).answered := fun time stops =>
    inert.answered (inert _ _ (.pass time stops) started)
  rcases env.fate (w.note (.credentialsRead w.file)).steps with _ | _ | _
  · rcases env.credentials (w.note (.credentialsRead w.file)).steps with e | value
    · exact inert _ _ (.raised owner .credentials e) (passed _ _)
    · simp only
      rw [wp_bind, wp_emit, wp_bind]
      have read : ReadReserved w.file (.credentialsRead w.file :: w.trace) :=
        ⟨w.trace, rfl, reserved⟩
      refine wp_value (keeps_request inert (inert _ _ (.credentialsSent read) (passed _ _)) _ _ _)
        ?_
      exact fun token _ kept => keeps_ite (fun _ => kept) fun _ => keeps_fail inert kept _ _ _
  · exact passed _ _
  · exact started

theorem keeps_recordLoginFailure (inert : Inert I) (holds : I w) :
    Keeps I (recordLoginFailure env) w := by
  unfold recordLoginFailure Keeps
  rw [wp_bind, wp_change]
  exact keeps_save inert (inert _ _ .loginFailed holds) nofun fun _ => rfl

theorem keeps_recoveryFails (inert : Inert I) (holds : I w) (e : Exn) :
    Keeps I (recoveryFails env e) w := by
  have failed : I { w with recoveryFailed := true } :=
    inert.quiet holds ⟨rfl, rfl, rfl, rfl, rfl, rfl, rfl, rfl⟩
  unfold recoveryFails
  refine keeps_bind (keeps_change failed) fun _ _ kept => ?_
  refine keeps_bind (keeps_recordLoginFailure inert kept) fun _ t kept => ?_
  have limited : Keeps I (recordRateLimit env e) t :=
    keeps_ite (fun _ => keeps_bind (keeps_rateLimitedBy inert kept e) fun _ _ kept => kept)
      fun _ => kept
  refine keeps_bind limited fun _ u kept => keeps_read ?_
  exact keeps_bind (keeps_pauseLimits inert kept _) fun _ _ kept => kept

/-- **A recovery.** -/
theorem keeps_recover (inert : Inert I) (holds : I w) (credentialsFile : Bool) :
    Keeps I (recover env credentialsFile) w := by
  unfold recover
  refine keeps_read (keeps_ite (fun _ => holds) fun _ => ?_)
  unfold Keeps
  rw [wp_bind]
  refine wp_value (keeps_reserveLogin inert holds) ?_
  rintro (_ | _) t ⟨kept, reserved⟩
  · exact kept
  · simp only [if_true]
    have owned : I { t with owners := t.owners + 1 } :=
      inert.quiet kept ⟨rfl, rfl, rfl, rfl, rfl, rfl, rfl, rfl⟩
    rw [wp_bind, wp_newOwner]
    refine keeps_tryExcept ?_ ?_
    · exact keeps_bind (keeps_loginAgain inert owned (reserved rfl) _) fun _ _ kept => kept
    · intro e u kept
      exact keeps_bind (keeps_recoveryFails inert kept e) fun _ _ kept => kept

theorem keeps_afterCooldown (inert : Inert I) (holds : I w) (credentialsFile blocked : Bool) :
    Keeps I (afterCooldown env credentialsFile blocked) w := by
  unfold afterCooldown recoverBlocked
  refine keeps_bind (keeps_read (keeps_ite (fun _ => ?_) fun _ => holds)) fun _ t kept => ?_
  · exact keeps_recover inert holds credentialsFile
  · refine keeps_ite (fun _ => ?_) fun _ => inert.setRetry kept _
    exact inert.quiet kept ⟨rfl, rfl, rfl, rfl, rfl, rfl, rfl, rfl⟩

/-! ### The loop -/

/-- **The whole loop**, for a predicate that the events of the loop keep too. -/
theorem keeps_serveLoop (closed : Closed I)
    (started : ∀ w, I w → I (w.note (.attemptStarted w.mono)))
    (ended : ∀ w, I w → I (w.note (.attemptEnded w.mono w.retry w.remaining)))
    (credentialsFile : Bool) (inner fuel : ℕ) (holds : I w) :
    Keeps I (serveLoop env vendor credentialsFile inner fuel) w := by
  induction fuel generalizing w with
  | zero => exact holds
  | succ fuel ih =>
    unfold serveLoop
    refine keeps_read (keeps_ite (fun _ => holds) fun _ => ?_)
    refine keeps_bind (keeps_waitForApi closed.inert inner holds) fun _ t kept => keeps_read ?_
    refine keeps_ite (fun _ => kept) fun _ => ?_
    refine keeps_bind (keeps_change (started t kept)) fun _ u kept => ?_
    refine keeps_bind (keeps_attempt closed kept inner) fun blocked v kept => keeps_read ?_
    refine keeps_bind (keeps_change (ended v kept)) fun _ _ kept => ?_
    refine keeps_bind (keeps_cooldown closed kept inner _) fun _ _ kept => ?_
    exact keeps_bind (keeps_afterCooldown closed.inert kept credentialsFile blocked) fun _ _ kept =>
      ih kept

end Keeps

end DbusEv.Mercedes
