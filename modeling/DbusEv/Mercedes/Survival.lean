/-
**What ends the telemetry loop.**

The loop handles every ordinary exception of the code in its `try`. Outside it the limits are saved:
by its handlers, by a pull of the cooldown, and by a recovery. A save that raises there leaves the
loop, and nothing else does but the stop event and a cancellation (`survives_iff`): `disk_full` is
a run of the loop that ends with an `OSError`.

* `Calm inside` — no save has raised outside the `try`, and control is inside it or not.
* `Ends inside` — how a program ends that saves: inside the `try` its exceptions are calm, outside
  they are the trace of a save.
-/

import DbusEv.Mercedes.Acts

set_option autoImplicit false
set_option linter.unusedSectionVars false

namespace DbusEv.Mercedes

open Exec

/-- The loop is left by the stop event or a cancellation, or has not been left yet. -/
def survives : Except Halt Unit × World → Bool
  | (.ok _, w) => w.stop
  | (.error (.error _), _) => false
  | (.error _, _) => true

/-- No save has raised outside the `try` of `_serve`. -/
def Unbroken (w : World) : Prop := .saveRaised false ∉ w.trace

structure Calm (inside : Bool) (w : World) : Prop where
  unbroken : Unbroken w
  inside : w.inside = inside

/-- An exception of a save. -/
def Broke : Bool → World → Prop
  | true, w => Calm true w
  | false, w => .saveRaised false ∈ w.trace

/-- How a program ends that saves. -/
def Ends (inside : Bool) : Halt → World → Prop
  | .error _, w => Broke inside w
  | _, w => Calm inside w

/-- How the loop is left. -/
def Leaves : Halt → World → Prop
  | .error _, w => .saveRaised false ∈ w.trace
  | _, w => Unbroken w

section Primitives

variable {inside : Bool} {env : Env} {w : World} {α : Type}

theorem Ends.calm {halt : Halt} (ends : Ends true halt w) : Calm true w := by
  rcases halt with _ | _ | _ <;> exact ends

theorem Ends.leaves {halt : Halt} (ends : Ends false halt w) : Leaves halt w := by
  rcases halt with _ | _ | _
  · exact ends
  · exact ends.unbroken
  · exact ends.unbroken

theorem Calm.quiet {t : World} (calm : Calm inside w) (trace : t.trace = w.trace)
    (same : t.inside = w.inside) : Calm inside t :=
  ⟨by unfold Unbroken; rw [trace]; exact calm.unbroken, same.trans calm.inside⟩

theorem Calm.note (calm : Calm inside w) {event : Event} (other : event ≠ .saveRaised false) :
    Calm inside (w.note event) :=
  ⟨fun found => (List.mem_cons.mp found).elim (fun same => other same.symm) calm.unbroken,
    calm.inside⟩

theorem calm_await (calm : Calm inside w) (atLeast : ℚ) :
    Keeps (Calm inside) (await env atLeast) w := by
  unfold Keeps
  rw [wp_await]
  rcases env.fate w.steps with _ | _ | _
  · exact calm.quiet rfl rfl
  · exact calm.quiet rfl rfl
  · exact calm

/-- An await never raises. -/
theorem ends_await (calm : Calm inside w) (atLeast : ℚ) :
    wp (await env atLeast) (fun _ t => Calm inside t) (Ends inside) w := by
  rw [wp_await]
  rcases env.fate w.steps with _ | _ | _
  · exact calm.quiet rfl rfl
  · exact calm.quiet rfl rfl
  · exact calm

theorem calm_awaitStep (calm : Calm inside w) (owner : ℕ) (step : Step)
    (outcome : ℕ → Except Exn α) : Keeps (Calm inside) (awaitStep env owner step outcome) w := by
  unfold Keeps
  rw [wp_awaitStep]
  refine wp_value (calm_await calm 0) ?_
  intro _ t calm
  rcases outcome w.steps with e | value
  · exact calm.note nofun
  · exact calm

theorem calm_request (calm : Calm inside w) (owner : ℕ) (step : Step)
    (outcome : ℕ → Except Exn α) : Keeps (Calm inside) (request env owner step outcome) w := by
  have noted : Calm inside (w.note (.requested owner step w.remaining)) := calm.note nofun
  unfold Keeps
  rw [wp_request]
  exact calm_awaitStep noted owner step outcome

theorem calm_onSession (calm : Calm inside w) (owner : ℕ) (step : Step) (x : Exec Session Exn α) :
    Keeps (Calm inside) (onSession owner step x) w := by
  have taken : ∀ s : Session, Calm inside { w with session := s } := fun s => calm.quiet rfl rfl
  unfold Keeps
  rw [wp_onSession]
  unfold wp
  rcases x w.session with ⟨e | value, s⟩
  · exact (taken s).note nofun
  · exact taken s

/-- **A save**: outside the `try` its exception is in the trace. -/
theorem calm_save (calm : Calm inside w) (write : LimitsWrite) :
    wp (save env write) (fun _ t => Calm inside t) (Ends inside) w := by
  have answered : Calm inside w.answered := calm.quiet rfl rfl
  have persisted : Calm inside (w.answered.persist write) := by
    have stored : Calm inside { w.answered with file := w.limits.data.encode } :=
      answered.quiet rfl rfl
    have saved : Calm inside (World.note { w.answered with file := w.limits.data.encode }
        (.saved write w.clock.wall w.remaining w.limits.data)) := stored.note nofun
    exact saved
  rw [wp_save]
  rcases env.save w.steps with _ | e | _ | _
  · exact persisted
  · have same := calm.inside
    rcases inside with _ | _
    · show .saveRaised false ∈ (.saveRaised w.inside :: w.trace : List Event)
      rw [same]
      exact List.mem_cons_self
    · refine answered.note ?_
      rw [same]
      nofun
  · exact answered
  · exact persisted

theorem calm_pauseLimits (calm : Calm inside w) (delay : ℚ) :
    wp (pauseLimits env delay) (fun _ t => Calm inside t) (Ends inside) w := by
  have moved : Calm inside (w.setLimits (w.limits.pause w.clock delay).2) := calm.quiet rfl rfl
  rw [wp_pauseLimits]
  exact calm_save moved .pause

theorem calm_rateLimitedBy (calm : Calm inside w) (e : Exn) :
    wp (rateLimitedBy env e) (fun _ t => Calm inside t) (Ends inside) w := by
  have moved : Calm inside (w.setLimits (w.limits.rateLimited w.clock e.retryAfter).2) :=
    calm.quiet rfl rfl
  rw [wp_rateLimitedBy]
  exact calm_save moved .rateLimited

theorem calm_failureDelay (calm : Calm inside w) (e : Exn) (minimum : ℚ) :
    wp (failureDelay env e minimum) (fun _ t => Calm inside t) (Ends inside) w := by
  rw [wp_failureDelay]
  rcases w.failurePlan e minimum with ⟨delay, _ | ⟨write, limits⟩⟩
  · exact calm
  · have moved : Calm inside (w.setLimits limits) := calm.quiet rfl rfl
    exact calm_save moved write

theorem calm_waitForApi (fuel : ℕ) (calm : Calm inside w) :
    wp (waitForApi env fuel) (fun _ t => Calm inside t) (Ends inside) w := by
  induction fuel generalizing w with
  | zero => exact calm
  | succ fuel ih =>
    unfold waitForApi
    rw [wp_bind, wp_read, wp_ite]
    refine ⟨fun _ => calm, fun _ => ?_⟩
    rw [wp_bind]
    exact wp_value (ends_await calm _) fun _ _ calm => ih calm

end Primitives

/-! ### A pull -/

section Programs

variable [PyText] {inside : Bool} {env : Env} {vendor : Vendor} {w : World} {owner : ℕ}

theorem calm_accepting (calm : Calm inside w) (step : Step) (x : Exec Session Exn Unit) :
    Keeps (Calm inside) (accepting owner step x) w := by
  unfold accepting
  exact keeps_bind (calm_onSession calm owner step x) fun _ _ calm => calm.note nofun

theorem calm_pullBody (calm : Calm inside w) :
    Keeps (Calm inside) (pullBody env vendor owner) w := by
  unfold pullBody
  refine keeps_bind (calm_request calm _ _ _) fun _ t calm => ?_
  refine keeps_bind (calm_request calm _ _ _) fun token t calm => ?_
  refine keeps_ite (fun _ => ?_) fun _ => calm.note nofun
  refine keeps_bind (calm_request calm _ _ _) fun reply t calm => keeps_read ?_
  exact keeps_bind (calm_accepting calm _ _) fun _ _ calm => calm.quiet rfl rfl

theorem calm_pullFailed (calm : Calm inside w) (e : Exn) :
    wp (pullFailed env e) (fun _ t => Calm inside t) (Ends inside) w := by
  unfold pullFailed
  rw [wp_bind, wp_read, wp_bind, wp_tryExcept]
  refine wp_mono (calm_failureDelay calm e _) (fun _ _ calm => calm.quiet rfl rfl) ?_
  rintro (e' | _ | _) t ends
  · show wp _ _ _ t
    rw [wp_bind, wp_emit]
    rcases inside with _ | _
    · exact List.mem_cons_of_mem _ ends
    · exact ends.calm.note nofun
  · exact ends
  · exact ends

/-- **A pull** handles every exception but the one of its own save. -/
theorem calm_pull (calm : Calm inside w) :
    wp (pull env vendor) (fun _ t => Calm inside t) (Ends inside) w := by
  have started : Calm inside (World.note { w with owners := w.owners + 1 }
      (.pullStarted w.mono w.remaining)) := by
    have owned : Calm inside { w with owners := w.owners + 1 } := calm.quiet rfl rfl
    exact owned.note nofun
  have ended : ∀ (delay : Option ℚ) (t : World), Calm inside t →
      wp (do Exec.change World.planPull; emit fun w => .pullEnded w.mono delay)
        (fun _ t => Calm inside t) (Ends inside) t := by
    intro delay t calm
    have planned : Calm inside t.planPull := calm.quiet rfl rfl
    have noted : Calm inside (t.planPull.note (.pullEnded t.mono delay)) := planned.note nofun
    exact noted
  unfold pull
  rw [wp_bind, wp_read, wp_ite]
  refine ⟨fun _ => calm, fun _ => ?_⟩
  rw [wp_bind, wp_newOwner, wp_bind, wp_emit, wp_bind, wp_tryExcept, wp_bind]
  refine wp_mono (calm_pullBody started) (fun _ t calm => ended none t calm) ?_
  rintro (e | _ | _) t calm
  · show wp _ _ _ t
    rw [wp_bind]
    exact wp_value (calm_pullFailed calm e) fun delay u calm => ended _ u calm
  · exact calm
  · exact calm

/-! ### Inside the `try` -/

theorem calm_takeMessage (calm : Calm true w) (message : Message) :
    Keeps (Calm true) (takeMessage env vendor owner message) w := by
  rcases message with _ | e | _ | (e | frame) | _
  · exact calm
  · exact calm.note nofun
  · exact calm
  · exact calm.note nofun
  · refine keeps_read (keeps_bind (calm_onSession calm _ _ _) fun payload t calm => ?_)
    have sent : Keeps (Calm true) (acknowledge env owner frame) t :=
      keeps_ite (fun _ => calm_awaitStep calm _ _ _) fun _ => calm
    refine keeps_bind sent fun _ u calm => ?_
    rcases payload with _ | payload
    · exact calm
    · exact keeps_read (keeps_bind (calm_accepting calm _ _) fun _ _ calm => calm)
  · exact calm

theorem calm_streamLoop (fuel : ℕ) (calm : Calm true w) :
    Keeps (Calm true) (streamLoop env vendor owner fuel) w := by
  induction fuel generalizing w with
  | zero => exact calm
  | succ fuel ih =>
    unfold streamLoop
    refine keeps_read (keeps_ite (fun _ => calm) fun _ => ?_)
    rcases env.message w.steps with _ | message
    · refine keeps_bind (calm_await calm _) fun _ t calm => ?_
      have pulled : Keeps (Calm true) (pull env vendor) t :=
        wp_mono (calm_pull calm) (fun _ _ calm => calm) fun _ _ ends => ends.calm
      exact keeps_bind pulled fun _ _ calm => ih calm
    · refine keeps_bind (calm_await calm _) fun _ t calm => ?_
      refine keeps_bind (calm_takeMessage calm message) fun goesOn u calm => ?_
      exact keeps_ite (fun _ => ih calm) fun _ => calm

theorem calm_websocketHeaders (calm : Calm true w) :
    Keeps (Calm true) (websocketHeaders env owner) w := by
  unfold websocketHeaders
  refine keeps_bind (calm_request calm _ _ _) fun _ t calm => ?_
  refine keeps_bind (calm_request calm _ _ _) fun token t calm => ?_
  refine keeps_ite (fun _ => keeps_read ?_) fun _ => calm.note nofun
  rcases t.session.client.vehicle with _ | vehicle
  · exact keeps_bind (calm_request calm _ _ _) fun vehicle u calm => calm.quiet rfl rfl
  · exact calm

theorem calm_connection (calm : Calm true w) (fuel : ℕ) :
    Keeps (Calm true) (connection env vendor owner fuel) w := by
  have connected : Calm true (w.setConnected true) := calm.quiet rfl rfl
  unfold connection
  refine keeps_bind connected fun _ t calm => keeps_read ?_
  have streamed : Keeps (Calm true) (stream env vendor owner fuel) t :=
    keeps_ensure (calm_streamLoop fuel calm) fun _ calm => calm_await calm _
  refine keeps_bind streamed fun _ u calm => keeps_read (keeps_ite (fun _ => ?_) fun _ => calm)
  have fast : Calm true { u with retry := reconnectMin } := calm.quiet rfl rfl
  refine keeps_bind fast fun _ v calm => ?_
  unfold healthyStream
  refine keeps_read ?_
  rcases v.limits.healthy v.clock with _ | limits
  · exact calm
  · have reset : Calm true (v.setLimits limits) := calm.quiet rfl rfl
    refine keeps_bind reset fun _ x calm => ?_
    exact wp_mono (calm_save calm .healthy) (fun _ _ calm => calm) fun _ _ ends => ends.calm

theorem calm_attemptBody (calm : Calm true w) (fuel : ℕ) :
    Keeps (Calm true) (attemptBody env vendor owner fuel) w := by
  unfold attemptBody
  refine keeps_bind (calm_websocketHeaders calm) fun _ t calm => ?_
  refine keeps_bind (calm_request calm _ _ _) fun _ u calm => ?_
  have opened : Calm true (u.note (.requested owner .stream u.remaining)) := calm.note nofun
  refine keeps_bind opened fun _ v calm => ?_
  exact keeps_ensure (calm_connection calm fuel) fun _ calm => calm_await calm _

/-! ### Outside the `try` -/

theorem calm_attemptFailed (calm : Calm inside w) (e : Exn) :
    wp (attemptFailed env e) (fun _ t => Calm false t) (Ends false) w := by
  have outside : Calm false { w with inside := false } := ⟨calm.unbroken, rfl⟩
  unfold attemptFailed connectionFailure setRetry
  rw [wp_bind, wp_change, wp_ite]
  refine ⟨fun _ => ?_, fun _ => ?_⟩
  · rw [wp_bind]
    exact wp_value (calm_pauseLimits outside _) fun _ _ calm => calm.quiet rfl rfl
  · rw [wp_bind, wp_read, wp_bind]
    exact wp_value (calm_failureDelay outside e _) fun _ _ calm => calm.quiet rfl rfl

/-- **An attempt** handles every exception of its body. -/
theorem calm_attempt (calm : Calm false w) (fuel : ℕ) :
    wp (attempt env vendor fuel) (fun _ t => Calm false t) Leaves w := by
  have entered : Calm true { w with owners := w.owners + 1, inside := true } :=
    ⟨calm.unbroken, rfl⟩
  have left : ∀ t, Unbroken t → Calm false { t.setConnected false with inside := false } :=
    fun t unbroken => ⟨unbroken, rfl⟩
  unfold attempt
  rw [wp_bind, wp_newOwner, wp_bind, wp_change, wp_tryFinally, wp_tryExcept, wp_bind]
  refine wp_mono (calm_attemptBody entered fuel) (fun _ t calm => left t calm.unbroken) ?_
  rintro (e | _ | _) t calm
  · refine wp_mono (calm_attemptFailed calm e) (fun _ u calm => left u calm.unbroken) ?_
    rintro (e' | _ | _) u ends
    · exact ends
    · exact ends.unbroken
    · exact ends.unbroken
  · exact calm.unbroken
  · exact calm.unbroken

theorem calm_cooldownLoop (deadline : ℚ) (fuel : ℕ) (calm : Calm false w) :
    wp (cooldownLoop env vendor deadline fuel) (fun _ t => Calm false t) (Ends false) w := by
  induction fuel generalizing w with
  | zero => exact calm
  | succ fuel ih =>
    unfold cooldownLoop
    rw [wp_bind, wp_read]
    simp only
    rw [wp_ite]
    refine ⟨fun _ => calm, fun _ => ?_⟩
    rw [wp_ite]
    refine ⟨fun _ => ?_, fun _ => ?_⟩
    · rw [wp_bind]
      exact wp_value (calm_pull calm) fun _ _ calm => ih calm
    · rw [wp_bind]
      exact wp_value (ends_await calm _) fun _ _ calm => ih calm

theorem calm_cooldown (calm : Calm false w) (fuel : ℕ) (delay : ℚ) :
    wp (cooldown env vendor fuel delay) (fun _ t => Calm false t) (Ends false) w := by
  unfold cooldown
  rw [wp_bind, wp_read, wp_ite]
  exact ⟨fun _ => calm_waitForApi fuel calm, fun _ => calm_cooldownLoop _ fuel calm⟩

/-! ### A recovery -/

theorem calm_loginAgain (calm : Calm false w) : Keeps (Calm false) (loginAgain env owner) w := by
  have read : Calm false (w.note (.credentialsRead w.file)) := calm.note nofun
  unfold loginAgain
  refine keeps_bind read fun _ t calm => ?_
  refine keeps_bind (calm_awaitStep calm _ _ _) fun _ u calm => ?_
  have sent : Calm false (u.note (.credentialsSent u.file)) := calm.note nofun
  refine keeps_bind sent fun _ v calm => ?_
  refine keeps_bind (calm_request calm _ _ _) fun token x calm => ?_
  exact keeps_ite (fun _ => calm) fun _ => calm.note nofun

theorem calm_recoveryFails (calm : Calm false w) (e : Exn) :
    wp (recoveryFails env e) (fun _ t => Calm false t) (Ends false) w := by
  have failed : Calm false { w with recoveryFailed := true } := calm.quiet rfl rfl
  have recorded : Calm false
      (World.setLimits { w with recoveryFailed := true } w.limits.loginFailed) :=
    failed.quiet rfl rfl
  unfold recoveryFails recordLoginFailure
  rw [wp_bind, wp_change, wp_bind, wp_bind, wp_change]
  refine wp_value (calm_save recorded .loginFailed) fun _ t calm => ?_
  have limited : wp (recordRateLimit env e) (fun _ t => Calm false t) (Ends false) t := by
    unfold recordRateLimit
    rw [wp_ite]
    refine ⟨fun _ => ?_, fun _ => calm⟩
    rw [wp_bind]
    exact wp_value (calm_rateLimitedBy calm e) fun _ _ calm => calm
  rw [wp_bind]
  refine wp_value limited fun _ u calm => ?_
  rw [wp_bind, wp_read, wp_bind]
  exact wp_value (calm_pauseLimits calm _) fun _ _ calm => calm

theorem calm_recover (calm : Calm false w) (credentialsFile : Bool) :
    wp (recover env credentialsFile) (fun _ t => Calm false t) (Ends false) w := by
  have reserve : wp (reserveLogin env) (fun _ t => Calm false t) (Ends false) w := by
    unfold reserveLogin
    rw [wp_bind, wp_read]
    rcases w.limits.reserveLogin w.clock with _ | limits
    · exact calm
    · have moved : Calm false (w.setLimits limits) := calm.quiet rfl rfl
      show wp (do Exec.change fun w => w.setLimits limits; save env .reserveLogin; pure true) _ _ w
      rw [wp_bind, wp_change, wp_bind]
      exact wp_value (calm_save moved .reserveLogin) fun _ _ calm => calm
  unfold recover
  rw [wp_bind, wp_read, wp_ite]
  refine ⟨fun _ => calm, fun _ => ?_⟩
  rw [wp_bind]
  refine wp_value reserve fun reserved t calm => ?_
  rw [wp_ite]
  refine ⟨fun _ => ?_, fun _ => calm⟩
  have owned : Calm false { t with owners := t.owners + 1 } := calm.quiet rfl rfl
  rw [wp_bind, wp_newOwner, wp_tryExcept, wp_bind]
  refine wp_mono (calm_loginAgain owned) (fun _ _ calm => calm) ?_
  rintro (e | _ | _) u calm
  · show wp _ _ _ u
    rw [wp_bind]
    exact wp_value (calm_recoveryFails calm e) fun _ _ calm => calm
  · exact calm
  · exact calm

theorem calm_afterCooldown (calm : Calm false w) (credentialsFile blocked : Bool) :
    wp (afterCooldown env credentialsFile blocked) (fun _ t => Calm false t) (Ends false) w := by
  have recovered : wp (recoverBlocked env credentialsFile blocked) (fun _ t => Calm false t)
      (Ends false) w := by
    unfold recoverBlocked
    rw [wp_bind, wp_read, wp_ite]
    exact ⟨fun _ => calm_recover calm credentialsFile, fun _ => calm⟩
  unfold afterCooldown
  rw [wp_bind]
  refine wp_value recovered fun again t calm => ?_
  rw [wp_ite]
  exact ⟨fun _ => calm.quiet rfl rfl, fun _ => calm.quiet rfl rfl⟩

/-! ### The loop -/

/-- **The loop** ends with the stop event set, or is left by the exception of a save. -/
theorem calm_serveLoop (credentialsFile : Bool) (inner fuel : ℕ) (calm : Calm false w) :
    wp (serveLoop env vendor credentialsFile inner fuel)
      (fun _ t => t.stop = true ∧ Unbroken t) Leaves w := by
  induction fuel generalizing w with
  | zero => exact calm.unbroken
  | succ fuel ih =>
    unfold serveLoop
    rw [wp_bind, wp_read, wp_ite]
    refine ⟨fun stop => ⟨stop, calm.unbroken⟩, fun _ => ?_⟩
    rw [wp_bind]
    refine wp_mono (calm_waitForApi inner calm) (fun _ t calm => ?_) fun _ _ ends => ends.leaves
    rw [wp_bind, wp_read, wp_ite]
    refine ⟨fun stop => ⟨stop, calm.unbroken⟩, fun _ => ?_⟩
    have begun : Calm false (t.note (.attemptStarted t.mono)) := calm.note nofun
    rw [wp_bind, wp_emit, wp_bind]
    refine wp_value (calm_attempt begun inner) fun blocked u calm => ?_
    have ended : Calm false (u.note (.attemptEnded u.mono u.retry u.remaining)) := calm.note nofun
    rw [wp_bind, wp_read, wp_bind, wp_emit, wp_bind]
    refine wp_mono (calm_cooldown ended inner _) (fun _ v calm => ?_) fun _ _ ends => ends.leaves
    rw [wp_bind]
    exact wp_mono (calm_afterCooldown calm credentialsFile blocked) (fun _ _ calm => ih calm)
      fun _ _ ends => ends.leaves

/-- **The telemetry task ends only on stop or cancellation** exactly when no save of the limits
raises outside the `try` of `_serve`. -/
theorem survives_iff (env : Env) (vendor : Vendor) (config : Config) (limits : TrafficLimits)
    (file : PyValue) (clock : Clock) (credentialsFile : Bool) (inner fuel : ℕ) :
    let run := serve env vendor credentialsFile inner fuel
      (World.start config limits file clock)
    survives run = true ↔ .saveRaised false ∉ run.2.trace := by
  intro run
  have served : Calm false (World.start config limits file clock).served :=
    ⟨by unfold Unbroken World.served World.note World.start; simp, rfl⟩
  have ends : wp (serve env vendor credentialsFile inner fuel)
      (fun _ t => t.stop = true ∧ Unbroken t) Leaves (World.start config limits file clock) := by
    unfold serve
    rw [wp_bind, wp_change]
    exact calm_serveLoop credentialsFile inner fuel served
  rcases result : run with ⟨(e | _ | _) | ⟨⟩, t⟩
  · have raised : Leaves (.error e) t := (wp_of_error result).mp ends
    exact ⟨nofun, fun unbroken => absurd raised unbroken⟩
  · have unbroken : Unbroken t := (wp_of_error result).mp ends
    exact ⟨fun _ => unbroken, fun _ => rfl⟩
  · have unbroken : Unbroken t := (wp_of_error result).mp ends
    exact ⟨fun _ => unbroken, fun _ => rfl⟩
  · obtain ⟨stopped, unbroken⟩ := (wp_of_ok result).mp ends
    exact ⟨fun _ => unbroken, fun _ => stopped⟩

end Programs

/-- The disk is full when the pause of a rate-limited attempt is saved. -/
def diskFull : Env where
  takes _ := 0
  stops _ := false
  fate _ := .proceeds
  save _ := .raised (.other .os)
  refresh _ := .error (.response false 429 none)
  token _ := .ok true
  metadata _ := .ok []
  handshake _ := .ok ()
  message _ := none
  acknowledge _ := .ok ()
  reply _ := .error (.other .os)
  credentials _ := .ok ()
  login _ := .ok true

/-- **The loop dies of a full disk**: neither stopped nor cancelled, it is left by an `OSError`. -/
theorem disk_full : letI := plainText
    survives (serve diskFull blindVendor false 9 9
      (World.start someConfig ⟨LimitsData.empty, 0, 0⟩ LimitsData.empty.encode ⟨0, 0⟩)) =
        false := by
  decide +kernel

end DbusEv.Mercedes
