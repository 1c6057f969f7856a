/-
**An API pause gates every request.**

While its saves succeed, the task sends a request only outside a pause, only for an attempt, pull or
recovery none of whose steps raised, and only after every HTTP 429 so far was answered by a pause
that is on disk (`requests_gated`).

* `Answers` — the persisted pause that answers a 429.
* `Owing debt` — every 429 of a trace is covered, but for the one exception that is being handled.
* `Gated debt` — the invariant, and `Free owner` what the next request of an owner needs besides.

Between a raise and its handler the debt is the exception in flight; the handlers pay it.
-/

import DbusEv.Mercedes.Acts

set_option autoImplicit false
set_option linter.unusedSectionVars false

namespace DbusEv.Mercedes

open Exec

/-! ### The law -/

/-- A pause on disk, of at least 1800 s and at least the finite `Retry-After` of `e`. -/
def Answers (e : Exn) : Event → Prop
  | .saved _ wall remaining data =>
    rateLimitMin ≤ remaining ∧
    (∀ delay, e.retryAfter.bind (RetryAfter.delayAt wall) = some delay → delay ≤ remaining) ∧
    ((data.requestAfter.getD 0 : ℚ≥0) : ℚ) = wall + remaining
  | _ => False

/-- The event is a raise of a step. -/
def Event.raises : Event → Bool
  | .raised _ _ _ => true
  | _ => false

/-- The event is a request. -/
def Event.requests : Event → Bool
  | .requested _ _ _ => true
  | _ => false

/-- Every HTTP 429 is covered by a later event, except the current exception. -/
def Owing (debt : Option Exn) (trace : List Event) : Prop :=
  ∀ later owner step e earlier, trace = later ++ .raised owner step e :: earlier →
    e.status = some 429 → debt = some e ∨ ∃ event ∈ later, Answers e event

/-- What a request respects: no pause, no step of its owner raised, no debt. -/
def GateLaw : Event → List Event → Prop
  | .requested owner _ remaining, earlier =>
    remaining = 0 ∧ (∀ step e, .raised owner step e ∉ earlier) ∧ Owing none earlier
  | _, _ => True

/-! ### Debts -/

section Debts

variable {debt : Option Exn} {trace : List Event} {e : Exn}

theorem owing_nil (debt : Option Exn) : Owing debt [] := by
  intro later owner step e earlier same
  rcases later with _ | _ <;> cases same

/-- An event that is no raise. -/
theorem Owing.note (owing : Owing debt trace) {event : Event}
    (calm : event.raises = false) : Owing debt (event :: trace) := by
  intro later owner step e earlier same limited
  rcases later with _ | ⟨first, rest⟩
  · cases same
    cases calm
  · cases same
    rcases owing rest owner step e earlier rfl limited with now | ⟨event, found, answers⟩
    · exact .inl now
    · exact .inr ⟨event, List.mem_cons_of_mem _ found, answers⟩

/-- An exception in flight. -/
theorem Owing.raised (paid : Owing none trace) (owner : ℕ) (step : Step) (e : Exn) :
    Owing (some e) (.raised owner step e :: trace) := by
  intro later other step' e' earlier same limited
  rcases later with _ | ⟨first, rest⟩
  · cases same
    exact .inl rfl
  · cases same
    rcases paid rest other step' e' earlier rfl limited with now | ⟨event, found, answers⟩
    · cases now
    · exact .inr ⟨event, List.mem_cons_of_mem _ found, answers⟩

/-- An exception that is no 429 leaves no debt. -/
theorem Owing.forget (owing : Owing (some e) trace) (other : e.status ≠ some 429) :
    Owing none trace := by
  intro later owner step e' earlier same limited
  rcases owing later owner step e' earlier same limited with now | covered
  · cases now
    exact absurd limited other
  · exact .inr covered

/-- A pause pays the debt. -/
theorem Owing.pay (owing : Owing (some e) trace) {event : Event}
    (calm : event.raises = false) (answers : Answers e event) :
    Owing none (event :: trace) := by
  intro later owner step e' earlier same limited
  rcases later with _ | ⟨first, rest⟩
  · cases same
    cases calm
  · cases same
    rcases owing rest owner step e' earlier rfl limited with now | ⟨event, found, covered⟩
    · cases now
      exact .inr ⟨event, List.mem_cons_self, answers⟩
    · exact .inr ⟨event, List.mem_cons_of_mem _ found, covered⟩

end Debts

/-! ### The invariant -/

/-- The trace obeys the law and owes nothing but `debt`; owners are numbered in order, and at least
`least` of them so far. -/
structure Gated (least : ℕ) (debt : Option Exn) (w : World) : Prop where
  trace : Throughout GateLaw w.trace
  owing : Owing debt w.trace
  owners : ∀ owner step e, .raised owner step e ∈ w.trace → owner < w.owners
  least : least ≤ w.owners

/-- `owner` may send a request. -/
structure Free (owner : ℕ) (w : World) : Prop where
  remaining : w.remaining = 0
  unraised : ∀ step e, .raised owner step e ∉ w.trace

/-- The task is over, with no exception. -/
def Stopped : Halt → World → Prop
  | .error _, _ => False
  | _, w => Throughout GateLaw w.trace

/-- An exception is in flight, or the task is over. -/
def InFlight (least : ℕ) : Halt → World → Prop
  | .error e, w => Gated least (some e) w
  | _, w => Throughout GateLaw w.trace

section Primitives

variable {least : ℕ} {debt : Option Exn} {w : World} {owner : ℕ}

theorem Stopped.inFlight {halt : Halt} (stopped : Stopped halt w) : InFlight least halt w := by
  rcases halt with e | _ | _
  · exact stopped.elim
  · exact stopped
  · exact stopped

theorem Gated.weaken {fewer : ℕ} (gated : Gated least debt w) (le : fewer ≤ least) :
    Gated fewer debt w :=
  { gated with least := le.trans gated.least }

theorem Gated.quiet {t : World} (gated : Gated least debt w) (trace : t.trace = w.trace)
    (owners : t.owners = w.owners) : Gated least debt t := by
  refine ⟨?_, ?_, ?_, ?_⟩
  · rw [trace]
    exact gated.trace
  · rw [trace]
    exact gated.owing
  · rw [trace, owners]
    exact gated.owners
  · rw [owners]
    exact gated.least

/-- An event that is neither a request nor a raise. -/
theorem Gated.note (gated : Gated least debt w) {event : Event}
    (calm : event.raises = false) (still : event.requests = false) :
    Gated least debt (w.note event) := by
  refine ⟨⟨?_, gated.trace⟩, gated.owing.note calm, ?_, gated.least⟩
  · cases event with
    | requested owner step remaining => cases still
    | _ => trivial
  · intro owner step e found
    rcases List.mem_cons.mp found with same | earlier
    · subst same
      cases calm
    · exact gated.owners owner step e earlier

theorem Gated.raised (gated : Gated least none w) (numbered : owner < least) (step : Step)
    (e : Exn) : Gated least (some e) (w.note (.raised owner step e)) := by
  refine ⟨⟨trivial, gated.trace⟩, gated.owing.raised owner step e, ?_, gated.least⟩
  intro other step' e' found
  rcases List.mem_cons.mp found with same | earlier
  · cases same
    exact numbered.trans_le gated.least
  · exact gated.owners other step' e' earlier

/-- **A request of a free owner obeys the law.** -/
theorem Gated.requested (gated : Gated least none w) (free : Free owner w) (step : Step) :
    Gated least none (w.note (.requested owner step w.remaining)) := by
  refine ⟨⟨⟨free.remaining, free.unraised, gated.owing⟩, gated.trace⟩, gated.owing.note rfl, ?_,
    gated.least⟩
  intro other step' e found
  rcases List.mem_cons.mp found with same | earlier
  · cases same
  · exact gated.owners other step' e earlier

theorem Gated.persist (gated : Gated least debt w) (write : LimitsWrite) :
    Gated least debt (w.persist write) := by
  have stored : Gated least debt { w with file := w.limits.data.encode } := gated.quiet rfl rfl
  have saved : Gated least debt (World.note { w with file := w.limits.data.encode }
      (.saved write w.clock.wall w.remaining w.limits.data)) := stored.note rfl rfl
  exact saved

/-- An exception that is no 429 owes nothing. -/
theorem Gated.forget {e : Exn} (gated : Gated least (some e) w) (other : e.status ≠ some 429) :
    Gated least none w :=
  { gated with owing := gated.owing.forget other }

/-- Time keeps an owner free. -/
theorem Free.pass (free : Free owner w) (time : ℚ≥0) (stops : Bool) :
    Free owner (w.pass time stops).answered := by
  refine ⟨?_, free.unraised⟩
  have passed : w.limits.deadline ≤ w.clock.mono := left_eq_zero.mp free.remaining
  have later : w.clock.mono ≤ w.clock.mono + time := le_add_of_nonneg_right time.coe_nonneg
  exact left_eq_zero.mpr (passed.trans later)

/-- An event that is no raise keeps an owner free. -/
theorem Free.note (free : Free owner w) {event : Event}
    (calm : event.raises = false) : Free owner (w.note event) := by
  refine ⟨free.remaining, fun step e found => ?_⟩
  rcases List.mem_cons.mp found with same | earlier
  · subst same
    cases calm
  · exact free.unraised step e earlier

/-- A new owner is free outside a pause. -/
theorem Gated.newOwner (gated : Gated least debt w) :
    Gated (w.owners + 1) debt { w with owners := w.owners + 1 } ∧
      (w.remaining = 0 → Free w.owners { w with owners := w.owners + 1 }) := by
  refine ⟨⟨gated.trace, gated.owing, ?_, le_rfl⟩, fun outside => ⟨outside, ?_⟩⟩
  · exact fun owner step e found => (gated.owners owner step e found).trans (Nat.lt_succ_self _)
  · exact fun step e found => lt_irrefl _ (gated.owners w.owners step e found)

variable {env : Env}

/-- An await: the invariant stays, and what time keeps. -/
theorem gated_await_keeping {P : World → Prop} (gated : Gated least debt w) (atLeast : ℚ)
    (kept : ∀ time stops, P (w.pass time stops).answered) :
    wp (await env atLeast) (fun _ t => Gated least debt t ∧ P t) Stopped w := by
  rw [wp_await]
  rcases env.fate w.steps with _ | _ | _
  · exact ⟨gated.quiet rfl rfl, kept _ _⟩
  · exact gated.trace
  · exact gated.trace

theorem gated_await (gated : Gated least debt w) (atLeast : ℚ) :
    wp (await env atLeast) (fun _ t => Gated least debt t) Stopped w :=
  wp_value (gated_await_keeping (P := fun _ => True) gated atLeast fun _ _ => trivial)
    (fun _ _ both => both.1)

theorem gated_awaitStep_keeping {α : Type} {P : World → Prop} (gated : Gated least none w)
    (numbered : owner < least) (step : Step) (outcome : ℕ → Except Exn α)
    (kept : ∀ time stops, P (w.pass time stops).answered) :
    wp (awaitStep env owner step outcome) (fun _ t => Gated least none t ∧ P t) (InFlight least)
      w := by
  rw [wp_awaitStep]
  refine wp_mono (gated_await_keeping gated 0 kept) ?_ fun _ _ stopped => stopped.inFlight
  rintro _ t ⟨gated, kept⟩
  rcases outcome w.steps with e | value
  · exact gated.raised numbered step e
  · exact ⟨gated, kept⟩

theorem gated_awaitStep {α : Type} (gated : Gated least none w) (numbered : owner < least)
    (step : Step) (outcome : ℕ → Except Exn α) :
    wp (awaitStep env owner step outcome) (fun _ t => Gated least none t) (InFlight least) w :=
  wp_value (gated_awaitStep_keeping (P := fun _ => True) gated numbered step outcome
    fun _ _ => trivial) (fun _ _ both => both.1)

/-- **A request of a free owner** leaves it free, or an exception in flight. -/
theorem gated_request {α : Type} (gated : Gated least none w) (free : Free owner w)
    (numbered : owner < least) (step : Step) (outcome : ℕ → Except Exn α) :
    wp (request env owner step outcome) (fun _ t => Gated least none t ∧ Free owner t)
      (InFlight least) w := by
  have noted : Free owner (w.note (.requested owner step w.remaining)) := free.note rfl
  rw [wp_request]
  exact gated_awaitStep_keeping (gated.requested free step) numbered step outcome noted.pass

/-! ### Paying -/

variable (saves : ∀ n e, env.save n ≠ .raised e)

include saves

/-- A save that succeeds. -/
theorem gated_save (gated : Gated least debt w) (write : LimitsWrite) :
    wp (save env write) (fun _ t => Gated least debt t) Stopped w := by
  have answered : Gated least debt w.answered := gated.quiet rfl rfl
  rw [wp_save]
  rcases outcome : env.save w.steps with _ | e | _ | _
  · exact answered.persist write
  · exact absurd outcome (saves _ e)
  · exact answered.trace
  · exact (answered.persist write).trace

theorem gated_pauseLimits (gated : Gated least debt w) (delay : ℚ) :
    wp (pauseLimits env delay) (fun _ t => Gated least debt t) Stopped w := by
  have paused : Gated least debt (w.setLimits (w.limits.pause w.clock delay).2) :=
    gated.quiet rfl rfl
  rw [wp_pauseLimits]
  exact gated_save saves paused .pause

/-- **A recorded rate limit pays for its exception.** -/
theorem gated_rateLimitedBy {e : Exn} (gated : Gated least (some e) w) :
    wp (rateLimitedBy env e) (fun _ t => Gated least none t) Stopped w := by
  have answers : Answers e (.saved .rateLimited w.clock.wall
      ((w.limits.rateLimited w.clock e.retryAfter).2.remaining w.clock)
      (w.limits.rateLimited w.clock e.retryAfter).2.data) := by
    rw [Answers, TrafficLimits.remaining_rateLimited]
    refine ⟨?_, ?_, TrafficLimits.pause_requestAfter _ _ _⟩
    · exact w.limits.rateLimitMin_le_minimum.trans (w.limits.minimum_le_rateLimited _ _)
    · exact fun delay asked => w.limits.header_le_rateLimited asked
  have moved : Gated least (some e)
      (w.setLimits (w.limits.rateLimited w.clock e.retryAfter).2).answered := gated.quiet rfl rfl
  have paid : Gated least none ((w.setLimits
      (w.limits.rateLimited w.clock e.retryAfter).2).answered.persist .rateLimited) :=
    { moved.persist .rateLimited with owing := gated.owing.pay rfl answers }
  rw [wp_rateLimitedBy, wp_save]
  rcases outcome : env.save (w.setLimits (w.limits.rateLimited w.clock e.retryAfter).2).steps
    with _ | e' | _ | _
  · exact paid
  · exact absurd outcome (saves _ e')
  · exact gated.trace
  · exact paid.trace

/-- **The handlers pay**: `_failure_delay` leaves no debt. -/
theorem gated_failureDelay {e : Exn} (gated : Gated least (some e) w) (minimum : ℚ) :
    wp (failureDelay env e minimum) (fun _ t => Gated least none t) Stopped w := by
  rcases failurePlan_cases w e minimum with ⟨limited, plan⟩ | ⟨other, delay, -, plan⟩ |
    ⟨other, plan⟩
  · have same : wp (rateLimitedBy env e) (fun _ t => Gated least none t) Stopped w :=
      gated_rateLimitedBy saves gated
    rw [wp_rateLimitedBy] at same
    rw [wp_failureDelay, plan]
    exact same
  · have same : wp (pauseLimits env delay) (fun _ t => Gated least none t) Stopped w :=
      gated_pauseLimits saves (gated.forget other) delay
    rw [wp_pauseLimits] at same
    rw [wp_failureDelay, plan]
    exact same
  · rw [wp_failureDelay, plan]
    exact gated.forget other

end Primitives

/-! ### A pull -/

section Programs

variable [PyText] {least : ℕ} {env : Env} {vendor : Vendor} {w : World} {owner : ℕ}

/-- A program of the session, for an owner. -/
theorem gated_onSession {α : Type} (gated : Gated least none w) (numbered : owner < least)
    (step : Step) (x : Exec Session Exn α) :
    wp (onSession owner step x) (fun _ t => Gated least none t) (InFlight least) w := by
  have taken : ∀ s : Session, Gated least none { w with session := s } :=
    fun s => gated.quiet rfl rfl
  rw [wp_onSession]
  unfold wp
  rcases x w.session with ⟨e | value, s⟩
  · exact (taken s).raised numbered step e
  · exact taken s

theorem gated_accepting (gated : Gated least none w) (numbered : owner < least) (step : Step)
    (x : Exec Session Exn Unit) :
    wp (accepting owner step x) (fun _ t => Gated least none t) (InFlight least) w := by
  unfold accepting
  rw [wp_bind]
  refine wp_value (gated_onSession gated numbered step x) ?_
  exact fun _ t gated => gated.note rfl rfl

theorem gated_pullBody (gated : Gated least none w) (free : Free owner w)
    (numbered : owner < least) :
    wp (pullBody env vendor owner) (fun _ t => Gated least none t) (InFlight least) w := by
  unfold pullBody
  rw [wp_bind]
  refine wp_value (gated_request gated free numbered _ _) ?_
  rintro _ t ⟨gated, free⟩
  rw [wp_bind]
  refine wp_value (gated_request gated free numbered _ _) ?_
  rintro token t ⟨gated, free⟩
  rw [wp_ite]
  refine ⟨fun _ => ?_, fun _ => gated.raised numbered _ _⟩
  rw [wp_bind]
  refine wp_value (gated_request gated free numbered _ _) ?_
  rintro reply t ⟨gated, free⟩
  rw [wp_bind, wp_read, wp_bind]
  refine wp_value (gated_accepting gated numbered _ _) ?_
  exact fun _ u gated => gated.quiet rfl rfl

variable (saves : ∀ n e, env.save n ≠ .raised e)

include saves

theorem gated_pullFailed {e : Exn} (gated : Gated least (some e) w) :
    wp (pullFailed env e) (fun _ t => Gated least none t) Stopped w := by
  unfold pullFailed
  rw [wp_bind, wp_read, wp_bind, wp_tryExcept]
  refine wp_mono (gated_failureDelay saves gated _) ?_ ?_
  · exact fun delay t gated => gated.quiet rfl rfl
  · rintro (e' | _ | _) t stopped
    · exact stopped.elim
    · exact stopped
    · exact stopped

/-- **A pull** is a new owner; its exceptions are paid for before it is over. -/
theorem gated_pull (gated : Gated least none w) :
    wp (pull env vendor) (fun _ t => Gated least none t) Stopped w := by
  unfold pull
  rw [wp_bind, wp_read, wp_ite]
  refine ⟨fun _ => gated, fun free => ?_⟩
  obtain ⟨owned, newly⟩ := gated.newOwner
  have fresh := newly (not_not.mp free)
  have started : Gated (w.owners + 1) none (World.note { w with owners := w.owners + 1 }
      (.pullStarted w.mono w.remaining)) := owned.note rfl rfl
  have fresh : Free w.owners (World.note { w with owners := w.owners + 1 }
      (.pullStarted w.mono w.remaining)) := fresh.note rfl
  have numbered : w.owners < w.owners + 1 := Nat.lt_succ_self _
  have ended : ∀ (delay : Option ℚ) (t : World), Gated (w.owners + 1) none t →
      wp (do Exec.change World.planPull; emit fun w => .pullEnded w.mono delay)
        (fun _ t => Gated least none t) Stopped t := by
    intro delay t gated'
    have planned : Gated (w.owners + 1) none t.planPull := gated'.quiet rfl rfl
    have noted : Gated (w.owners + 1) none (t.planPull.note (.pullEnded t.mono delay)) :=
      planned.note rfl rfl
    exact noted.weaken (gated.least.trans (Nat.le_succ _))
  rw [wp_bind, wp_newOwner, wp_bind, wp_emit, wp_bind, wp_tryExcept, wp_bind]
  refine wp_mono (gated_pullBody started fresh numbered) ?_ ?_
  · exact fun _ t gated => ended none t gated
  · rintro (e | _ | _) t flight
    · show wp _ _ _ t
      rw [wp_bind]
      refine wp_value (gated_pullFailed saves flight) ?_
      exact fun delay u gated => ended _ u gated
    · exact flight
    · exact flight

/-! ### The stream and the attempt -/

omit saves in
theorem gated_takeMessage (gated : Gated least none w) (numbered : owner < least)
    (message : Message) :
    wp (takeMessage env vendor owner message) (fun _ t => Gated least none t) (InFlight least)
      w := by
  rcases message with _ | e | _ | (e | frame) | _
  · exact gated
  · exact gated.raised numbered _ _
  · exact gated
  · exact gated.raised numbered _ _
  · unfold takeMessage
    rw [wp_bind, wp_read, wp_bind]
    refine wp_value (gated_onSession gated numbered _ _) ?_
    intro payload t gated
    have sent : wp (acknowledge env owner frame) (fun _ t => Gated least none t) (InFlight least)
        t := by
      unfold acknowledge
      rw [wp_ite]
      exact ⟨fun _ => gated_awaitStep gated numbered _ _, fun _ => gated⟩
    rw [wp_bind]
    refine wp_value sent ?_
    intro _ u gated
    rcases payload with _ | payload
    · exact gated
    · simp only
      rw [wp_bind, wp_read, wp_bind]
      exact wp_value (gated_accepting gated numbered _ _) fun _ _ gated => gated
  · exact gated

theorem gated_streamLoop (numbered : owner < least) (fuel : ℕ) (gated : Gated least none w) :
    wp (streamLoop env vendor owner fuel) (fun _ t => Gated least none t) (InFlight least) w := by
  induction fuel generalizing w with
  | zero => exact gated.trace
  | succ fuel ih =>
    unfold streamLoop
    rw [wp_bind, wp_read, wp_ite]
    refine ⟨fun _ => gated, fun _ => ?_⟩
    rcases env.message w.steps with _ | message
    · simp only
      rw [wp_bind]
      refine wp_mono (gated_await gated _) ?_ fun _ _ stopped => stopped.inFlight
      intro _ t gated
      rw [wp_bind]
      exact wp_mono (gated_pull saves gated) (fun _ _ gated => ih gated)
        fun _ _ stopped => stopped.inFlight
    · simp only
      rw [wp_bind]
      refine wp_mono (gated_await gated _) ?_ fun _ _ stopped => stopped.inFlight
      intro _ t gated
      rw [wp_bind]
      refine wp_value (gated_takeMessage gated numbered message) ?_
      intro goesOn u gated
      rw [wp_ite]
      exact ⟨fun _ => ih gated, fun _ => gated⟩

omit saves in
/-- A final await leaves the exception in flight. -/
theorem gated_closing {α : Type} {body : Serve α}
    (holds : wp body (fun _ t => Gated least none t) (InFlight least) w) :
    wp (tryFinally body (await env 0)) (fun _ t => Gated least none t) (InFlight least) w := by
  rw [wp_tryFinally]
  refine wp_mono holds ?_ ?_
  · intro value t gated
    exact wp_mono (gated_await gated _) (fun _ _ gated => gated) fun _ _ stopped => stopped.inFlight
  · rintro (e | _ | _) t flight
    · exact wp_mono (gated_await flight _) (fun _ _ gated => gated)
        fun _ _ stopped => stopped.inFlight
    · show wp _ _ _ t
      rw [wp_await]
      rcases env.fate t.steps with _ | _ | _ <;> exact flight
    · exact flight

theorem gated_healthyStream (gated : Gated least none w) :
    wp (healthyStream env) (fun _ t => Gated least none t) Stopped w := by
  unfold healthyStream
  rw [wp_bind, wp_read]
  rcases w.limits.healthy w.clock with _ | limits
  · exact gated
  · have reset : Gated least none (w.setLimits limits) := gated.quiet rfl rfl
    simp only
    rw [wp_bind, wp_change]
    exact gated_save saves reset .healthy

theorem gated_connection (gated : Gated least none w) (numbered : owner < least) (fuel : ℕ) :
    wp (connection env vendor owner fuel) (fun _ t => Gated least none t) (InFlight least) w := by
  have connected : Gated least none (w.setConnected true) := gated.quiet rfl rfl
  unfold connection
  rw [wp_bind, wp_change, wp_bind, wp_read, wp_bind]
  refine wp_value (gated_closing (gated_streamLoop saves numbered fuel connected)) ?_
  intro _ t gated
  rw [wp_bind, wp_read, wp_ite]
  refine ⟨fun _ => ?_, fun _ => gated⟩
  have calm : Gated least none { t with retry := reconnectMin } := gated.quiet rfl rfl
  rw [wp_bind, wp_change]
  exact wp_mono (gated_healthyStream saves calm) (fun _ _ gated => gated)
    fun _ _ stopped => stopped.inFlight

omit saves in
theorem gated_websocketHeaders (gated : Gated least none w) (free : Free owner w)
    (numbered : owner < least) :
    wp (websocketHeaders env owner) (fun _ t => Gated least none t ∧ Free owner t)
      (InFlight least) w := by
  unfold websocketHeaders
  rw [wp_bind]
  refine wp_value (gated_request gated free numbered _ _) ?_
  rintro _ t ⟨gated, free⟩
  rw [wp_bind]
  refine wp_value (gated_request gated free numbered _ _) ?_
  rintro token t ⟨gated, free⟩
  rw [wp_ite]
  refine ⟨fun _ => ?_, fun _ => gated.raised numbered _ _⟩
  rw [wp_bind, wp_read]
  rcases t.session.client.vehicle with _ | vehicle
  · simp only
    rw [wp_bind]
    refine wp_value (gated_request gated free numbered _ _) ?_
    rintro vehicle u ⟨gated, free⟩
    exact ⟨gated.quiet rfl rfl, free.remaining, free.unraised⟩
  · exact ⟨gated, free⟩

theorem gated_attemptBody (gated : Gated least none w) (free : Free owner w)
    (numbered : owner < least) (fuel : ℕ) :
    wp (attemptBody env vendor owner fuel) (fun _ t => Gated least none t) (InFlight least) w := by
  unfold attemptBody
  rw [wp_bind]
  refine wp_value (gated_websocketHeaders gated free numbered) ?_
  rintro _ t ⟨gated, free⟩
  rw [wp_bind]
  refine wp_value (gated_request gated free numbered _ _) ?_
  rintro _ u ⟨gated, free⟩
  rw [wp_bind, wp_emit]
  exact gated_closing (gated_connection saves (gated.requested free .stream) numbered fuel)

theorem gated_attemptFailed {e : Exn} (gated : Gated least (some e) w) :
    wp (attemptFailed env e) (fun _ t => Gated least none t) Stopped w := by
  have outside : Gated least (some e) { w with inside := false } := gated.quiet rfl rfl
  unfold attemptFailed connectionFailure setRetry
  rw [wp_bind, wp_change, wp_ite]
  refine ⟨fun auth => ?_, fun _ => ?_⟩
  · have other : e.status ≠ some 429 := by
      rcases e with _ | _ | _
      · nofun
      · cases auth
      · cases auth
    rw [wp_bind]
    exact wp_value (gated_pauseLimits saves (outside.forget other) _)
      (fun _ _ gated => gated.quiet rfl rfl)
  · rw [wp_bind, wp_read, wp_bind]
    exact wp_value (gated_failureDelay saves outside _) fun _ _ gated => gated.quiet rfl rfl

/-- **An attempt** outside a pause is a new owner; its handlers pay for its exception. -/
theorem gated_attempt (gated : Gated 0 none w) (outside : w.remaining = 0) (fuel : ℕ) :
    wp (attempt env vendor fuel) (fun _ t => Gated 0 none t) Stopped w := by
  obtain ⟨owned, newly⟩ := gated.newOwner
  have fresh := newly outside
  have entered : Gated (w.owners + 1) none
      { w with owners := w.owners + 1, inside := true } := owned.quiet rfl rfl
  have fresh : Free w.owners { w with owners := w.owners + 1, inside := true } :=
    ⟨fresh.remaining, fresh.unraised⟩
  have left : ∀ t, Gated (w.owners + 1) none t →
      Gated 0 none { t.setConnected false with inside := false } := fun t gated =>
    (gated.weaken (Nat.zero_le _)).quiet rfl rfl
  unfold attempt
  rw [wp_bind, wp_newOwner, wp_bind, wp_change, wp_tryFinally, wp_tryExcept, wp_bind]
  refine wp_mono (gated_attemptBody saves entered fresh (Nat.lt_succ_self _) fuel) ?_ ?_
  · exact fun _ t gated => left t gated
  · rintro (e | _ | _) t flight
    · refine wp_mono (gated_attemptFailed saves flight) (fun _ t gated => left t gated) ?_
      rintro (e' | _ | _) u stopped
      · exact stopped.elim
      · exact stopped
      · exact stopped
    · exact flight
    · exact flight

/-! ### Between two attempts -/

omit saves in
/-- `_wait_for_api` ends outside a pause, or because of the stop event. -/
theorem gated_waitForApi (fuel : ℕ) (gated : Gated least none w) :
    wp (waitForApi env fuel)
      (fun _ t => Gated least none t ∧ (t.stop = true ∨ t.remaining = 0)) Stopped w := by
  induction fuel generalizing w with
  | zero => exact gated.trace
  | succ fuel ih =>
    unfold waitForApi
    rw [wp_bind, wp_read, wp_ite]
    refine ⟨fun stopped => ⟨gated, stopped⟩, fun _ => ?_⟩
    rw [wp_bind]
    exact wp_value (gated_await gated _) fun _ _ gated => ih gated

theorem gated_cooldownLoop (deadline : ℚ) (fuel : ℕ) (gated : Gated least none w) :
    wp (cooldownLoop env vendor deadline fuel) (fun _ t => Gated least none t) Stopped w := by
  induction fuel generalizing w with
  | zero => exact gated.trace
  | succ fuel ih =>
    unfold cooldownLoop
    rw [wp_bind, wp_read]
    simp only
    rw [wp_ite]
    refine ⟨fun _ => gated, fun _ => ?_⟩
    rw [wp_ite]
    refine ⟨fun _ => ?_, fun _ => ?_⟩
    · rw [wp_bind]
      exact wp_value (gated_pull saves gated) fun _ _ gated => ih gated
    · rw [wp_bind]
      exact wp_value (gated_await gated _) fun _ _ gated => ih gated

theorem gated_cooldown (gated : Gated least none w) (fuel : ℕ) (delay : ℚ) :
    wp (cooldown env vendor fuel delay) (fun _ t => Gated least none t) Stopped w := by
  unfold cooldown
  rw [wp_bind, wp_read, wp_ite]
  refine ⟨fun _ => ?_, fun _ => gated_cooldownLoop saves _ fuel gated⟩
  exact wp_value (gated_waitForApi fuel gated) fun _ _ both => both.1

/-- A login is reserved outside a pause. -/
theorem gated_reserveLogin (gated : Gated least none w) :
    wp (reserveLogin env) (fun reserved t => Gated least none t ∧
      (reserved = true → t.remaining = 0)) Stopped w := by
  unfold reserveLogin
  rw [wp_bind, wp_read]
  rcases free : w.limits.reserveLogin w.clock with _ | limits
  · exact ⟨gated, nofun⟩
  · obtain ⟨outside, -, -, rfl⟩ := TrafficLimits.reserveLogin_some free
    have delayed : Gated least none (w.setLimits (w.limits.delayLogin w.clock)) :=
      gated.quiet rfl rfl
    have answered : Gated least none (w.setLimits (w.limits.delayLogin w.clock)).answered :=
      delayed.quiet rfl rfl
    simp only
    rw [wp_bind, wp_change, wp_bind, wp_save]
    rcases outcome : env.save (w.setLimits (w.limits.delayLogin w.clock)).steps with _ | e | _ | _
    · exact ⟨answered.persist .reserveLogin, fun _ => outside⟩
    · exact absurd outcome (saves _ e)
    · exact answered.trace
    · exact (answered.persist .reserveLogin).trace

omit saves in
theorem gated_loginAgain (gated : Gated least none w) (free : Free owner w)
    (numbered : owner < least) :
    wp (loginAgain env owner) (fun _ t => Gated least none t) (InFlight least) w := by
  have reading : Gated least none (w.note (.credentialsRead w.file)) := gated.note rfl rfl
  have still : Free owner (w.note (.credentialsRead w.file)) := free.note rfl
  unfold loginAgain
  rw [wp_bind, wp_emit, wp_bind]
  refine wp_value (gated_awaitStep_keeping reading numbered _ _ still.pass) ?_
  rintro _ t ⟨gated, free⟩
  have sending : Gated least none (t.note (.credentialsSent t.file)) := gated.note rfl rfl
  have ready : Free owner (t.note (.credentialsSent t.file)) := free.note rfl
  rw [wp_bind, wp_emit, wp_bind]
  refine wp_value (gated_request sending ready numbered _ _) ?_
  rintro token u ⟨gated, free⟩
  rw [wp_ite]
  exact ⟨fun _ => gated, fun _ => gated.raised numbered _ _⟩

theorem gated_recoveryFails {e : Exn} (gated : Gated least (some e) w) :
    wp (recoveryFails env e) (fun _ t => Gated least none t) Stopped w := by
  have failed : Gated least (some e) (World.setLimits { w with recoveryFailed := true }
      w.limits.loginFailed) := gated.quiet rfl rfl
  unfold recoveryFails recordLoginFailure
  rw [wp_bind, wp_change, wp_bind, wp_bind, wp_change]
  refine wp_value (gated_save saves failed .loginFailed) ?_
  intro _ t gated
  have limited : wp (recordRateLimit env e) (fun _ t => Gated least none t) Stopped t := by
    unfold recordRateLimit
    rw [wp_ite]
    refine ⟨fun _ => ?_, fun other => gated.forget other⟩
    rw [wp_bind]
    exact wp_value (gated_rateLimitedBy saves gated) fun _ _ gated => gated
  rw [wp_bind]
  refine wp_value limited ?_
  intro _ u gated
  rw [wp_bind, wp_read, wp_bind]
  exact wp_value (gated_pauseLimits saves gated _) fun _ _ gated => gated

/-- **A recovery** is a new owner; its handler pays for its exception. -/
theorem gated_recover (gated : Gated 0 none w) (credentialsFile : Bool) :
    wp (recover env credentialsFile) (fun _ t => Gated 0 none t) Stopped w := by
  unfold recover
  rw [wp_bind, wp_read, wp_ite]
  refine ⟨fun _ => gated, fun _ => ?_⟩
  rw [wp_bind]
  refine wp_value (gated_reserveLogin saves gated) ?_
  rintro reserved t ⟨gated, outside⟩
  rw [wp_ite]
  refine ⟨fun taken => ?_, fun _ => gated⟩
  obtain ⟨owned, newly⟩ := gated.newOwner
  rw [wp_bind, wp_newOwner, wp_tryExcept, wp_bind]
  refine wp_mono (gated_loginAgain owned (newly (outside taken)) (Nat.lt_succ_self _)) ?_ ?_
  · exact fun _ _ gated => gated.weaken (Nat.zero_le _)
  · rintro (e | _ | _) u flight
    · show wp _ _ _ u
      rw [wp_bind]
      exact wp_value (gated_recoveryFails saves flight)
        (fun _ _ gated => gated.weaken (Nat.zero_le _))
    · exact flight
    · exact flight

theorem gated_afterCooldown (gated : Gated 0 none w) (credentialsFile blocked : Bool) :
    wp (afterCooldown env credentialsFile blocked) (fun _ t => Gated 0 none t) Stopped w := by
  unfold afterCooldown recoverBlocked
  rw [wp_bind, wp_bind, wp_read, wp_ite]
  have settled : ∀ (recovered : Bool) (t : World), Gated 0 none t →
      wp (if recovered then Exec.change World.newSession
        else Exec.change fun w => { w with retry := min (w.retry * 2) reconnectMax })
        (fun _ t => Gated 0 none t) Stopped t := by
    intro recovered t gated
    rw [wp_ite]
    exact ⟨fun _ => gated.quiet rfl rfl, fun _ => gated.quiet rfl rfl⟩
  refine ⟨fun _ => ?_, fun _ => settled false w gated⟩
  exact wp_value (gated_recover saves gated credentialsFile)
    (fun recovered t gated => settled recovered t gated)

/-! ### The loop -/

theorem gated_serveLoop (credentialsFile : Bool) (inner fuel : ℕ) (gated : Gated 0 none w) :
    wp (serveLoop env vendor credentialsFile inner fuel) (fun _ t => Gated 0 none t) Stopped
      w := by
  induction fuel generalizing w with
  | zero => exact gated.trace
  | succ fuel ih =>
    unfold serveLoop
    rw [wp_bind, wp_read, wp_ite]
    refine ⟨fun _ => gated, fun _ => ?_⟩
    rw [wp_bind]
    refine wp_value (gated_waitForApi inner gated) ?_
    rintro _ t ⟨gated, outside⟩
    rw [wp_bind, wp_read, wp_ite]
    refine ⟨fun _ => gated, fun goesOn => ?_⟩
    have started : Gated 0 none (t.note (.attemptStarted t.mono)) := gated.note rfl rfl
    rw [wp_bind, wp_emit, wp_bind]
    refine wp_value (gated_attempt saves started (outside.resolve_left goesOn) inner) ?_
    intro blocked u gated
    have ended : Gated 0 none (u.note (.attemptEnded u.mono u.retry u.remaining)) :=
      gated.note rfl rfl
    rw [wp_bind, wp_read, wp_bind, wp_emit, wp_bind]
    refine wp_value (gated_cooldown saves ended inner _) ?_
    intro _ v gated
    rw [wp_bind]
    exact wp_value (gated_afterCooldown saves gated credentialsFile blocked)
      (fun _ _ gated => ih gated)

end Programs

/-! ### Every run -/

/-- **An API pause gates every request**, in every run of `_serve` whose saves succeed. -/
theorem requests_gated [PyText] (env : Env) (saves : ∀ n e, env.save n ≠ .raised e)
    (vendor : Vendor) (config : Config) (limits : TrafficLimits) (file : PyValue) (clock : Clock)
    (credentialsFile : Bool) (inner fuel : ℕ) :
    Throughout GateLaw (serve env vendor credentialsFile inner fuel
      (World.start config limits file clock)).2.trace := by
  have started : Gated 0 none (World.start config limits file clock) :=
    ⟨trivial, owing_nil none, fun _ _ _ found => absurd found List.not_mem_nil, le_rfl⟩
  have fresh : Gated 0 none (World.start config limits file clock).served := by
    unfold World.served
    refine Gated.note ?_ rfl rfl
    exact started.quiet rfl rfl
  have run : Keeps (fun t => Throughout GateLaw t.trace)
      (serve env vendor credentialsFile inner fuel) (World.start config limits file clock) := by
    unfold serve Keeps
    rw [wp_bind, wp_change]
    refine wp_mono (gated_serveLoop saves credentialsFile inner fuel fresh)
      (fun _ _ gated => gated.trace) ?_
    rintro (e | _ | _) t stopped
    · exact stopped.elim
    · exact stopped
    · exact stopped
  exact run.final

/-- The run of `breaksLate`: a pull that is rate limited, a socket that breaks during its pause, and
the attempt after it. -/
theorem requests_gated_breaksLate :
    letI := plainText
    (∀ n e, breaksLate.save n ≠ .raised e) ∧
      Throughout GateLaw (serve breaksLate blindVendor false 3 2
        (World.start someConfig ⟨LimitsData.empty, 0, 0⟩ LimitsData.empty.encode ⟨0, 0⟩)).2.trace :=
  ⟨nofun, @requests_gated plainText breaksLate nofun blindVendor someConfig
    ⟨LimitsData.empty, 0, 0⟩ LimitsData.empty.encode ⟨0, 0⟩ false 3 2⟩

end DbusEv.Mercedes
