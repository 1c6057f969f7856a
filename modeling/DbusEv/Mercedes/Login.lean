/-
**The automatic login budget, across crashes and restarts** (`dbus_ev/mercedes/auth.py` is the
operator's login).

The owner of the token file holds its lock for as long as it runs, so a history is a sequence of
launches, each of them a run of the daemon or an operator's login, that share the limits file. A
launch may be killed at any await and around any save; the next one starts some time later, with
another monotonic clock.

* `LoginLaw` — what a reservation and each use of the credentials respect.
* `Holds` — what the limits data remembers of a trace: every reservation, and a recorded failure.
* `Budgeted` — the invariant of a launch: both the data in memory and the file hold the trace.
* `logins_budgeted` — every history obeys the law.
-/

import DbusEv.Mercedes.Walk

set_option autoImplicit false
set_option linter.unusedSectionVars false

namespace DbusEv.Mercedes

open Exec

/-! ### The operator's login -/

/-- The `try` body of `login(args)` after the limits were read. -/
def loginBody (env : Env) : Serve Unit := do
  let w ← Exec.read
  if w.remaining ≠ 0 then throw (.other .value)
  else do
    -- The account is typed in, then its password.
    await env 0
    await env 0
    let _ ← awaitStep env 0 .login env.login
    emit fun _ => .operatorLogin
    Exec.change fun w => w.setLimits (w.limits.manualLoginSucceeded w.clock)
    save env .manualLogin

/-- `login(args)`: an HTTP 429 is recorded. -/
def login (env : Env) : Serve Unit :=
  tryExcept (loginBody env) fun e => do
    recordRateLimit env e
    throw e

/-! ### Histories -/

/-- What outlives a process: the limits file, the wall clock, and the trace. -/
structure Disk where
  file : PyValue
  wall : ℚ≥0
  trace : List Event

/-- The program of a launch. -/
inductive Program
  | daemon (vendor : Vendor) (config : Config) (credentialsFile : Bool) (inner fuel : ℕ)
  | operator (config : Config)

/-- A launch, `gap` after the last one. -/
structure Launch where
  gap : ℚ≥0
  mono : ℚ
  env : Env
  program : Program

variable [PyText]

namespace Disk

/-- The clock a launch finds. -/
def clock (disk : Disk) (launch : Launch) : Clock := ⟨launch.mono, disk.wall + launch.gap⟩

/-- The state of a process that has read its limits. -/
def start (disk : Disk) (launch : Launch) (config : Config) (limits : TrafficLimits) : World :=
  { World.start config limits disk.file (disk.clock launch) with trace := disk.trace }

/-- What a process leaves. -/
def ofWorld (w : World) : Disk := ⟨w.file, w.clock.wall, w.trace⟩

/-- One launch; where the limits file is rejected nothing runs. -/
def run (disk : Disk) (launch : Launch) : Disk :=
  match TrafficLimits.load disk.file (disk.clock launch) with
  | .error _ => { disk with wall := disk.wall + launch.gap }
  | .ok limits =>
    match launch.program with
    | .daemon vendor config credentialsFile inner fuel =>
      ofWorld (serve launch.env vendor credentialsFile inner fuel
        (disk.start launch config limits)).2
    | .operator config => ofWorld (login launch.env (disk.start launch config limits)).2

/-- A history. -/
def runAll (disk : Disk) (launches : List Launch) : Disk := launches.foldl run disk

end Disk

/-! ### The law -/

/-- The instants of the reservations among some events. -/
def reservations (events : List Event) : List ℚ≥0 :=
  events.filterMap fun event =>
    match event with
    | .saved .reserveLogin wall _ _ => some wall
    | _ => none

/-- A failed automatic login is recorded, and no operator's login since. -/
def latched : List Event → Bool
  | [] => false
  | .saved .loginFailed _ _ _ :: _ => true
  | .operatorLogin :: _ => false
  | _ :: earlier => latched earlier

/-- A login is reserved outside a pause, not after a recorded failure, and one interval after every
earlier one; the credentials are read and sent right after the reservation reached the disk. -/
def LoginLaw : Event → List Event → Prop
  | .saved .reserveLogin wall remaining _, earlier =>
    remaining = 0 ∧ latched earlier = false ∧
      ∀ before ∈ reservations earlier, (before : ℚ) + loginInterval ≤ wall
  | .credentialsRead file, earlier => Reserved file earlier
  | .credentialsSent file, earlier => ReadReserved file earlier
  | _, _ => True

/-! ### What the data remembers -/

/-- The data remembers the reservations of a trace, and its failure. -/
structure Holds (trace : List Event) (wall : ℚ≥0) (data : LimitsData) : Prop where
  past : ∀ before ∈ reservations trace, before ≤ wall
  reserved : ∀ before ∈ reservations trace,
    (before : ℚ) + loginInterval ≤ ((data.loginAfter.getD 0 : ℚ≥0) : ℚ)
  failed : latched trace = true → data.loginFailed = true

/-- Whatever the file decodes to holds the trace. -/
def FileHolds (trace : List Event) (wall : ℚ≥0) (file : PyValue) : Prop :=
  ∀ data, LimitsData.decode file = .ok data → Holds trace wall data

/-- An event that is neither a reservation, nor a failure, nor an operator's login. -/
def Event.Bystander (event : Event) : Prop :=
  reservations [event] = [] ∧ ∀ earlier, latched (event :: earlier) = latched earlier

section Holds

variable {trace : List Event} {wall : ℚ≥0} {data : LimitsData} {file : PyValue}

theorem reservations_bystander {event : Event} (bystander : event.Bystander) :
    reservations (event :: trace) = reservations trace := by
  show reservations ([event] ++ trace) = _
  have none := bystander.1
  unfold reservations at none ⊢
  rw [List.filterMap_append, none, List.nil_append]

theorem Holds.note (holds : Holds trace wall data) {event : Event} (bystander : event.Bystander) :
    Holds (event :: trace) wall data := by
  refine ⟨?_, ?_, ?_⟩
  · rw [reservations_bystander bystander]
    exact holds.past
  · rw [reservations_bystander bystander]
    exact holds.reserved
  · rw [bystander.2]
    exact holds.failed

theorem Holds.later (holds : Holds trace wall data) {now : ℚ≥0} (passes : wall ≤ now) :
    Holds trace now data :=
  ⟨fun before found => (holds.past before found).trans passes, holds.reserved, holds.failed⟩

/-- Data with the same login limits. -/
theorem Holds.congr (holds : Holds trace wall data) {other : LimitsData}
    (after : other.loginAfter = data.loginAfter) (failed : other.loginFailed = data.loginFailed) :
    Holds trace wall other :=
  ⟨holds.past, by rw [after]; exact holds.reserved, by rw [failed]; exact holds.failed⟩

/-- Data whose login deadline is one interval from now. -/
theorem Holds.delayed (holds : Holds trace wall data) {other : LimitsData}
    (after : other.loginAfter = some (wall + loginInterval.toNNRat))
    (failed : latched trace = true → other.loginFailed = true) : Holds trace wall other := by
  refine ⟨holds.past, fun before found => ?_, failed⟩
  have past : (before : ℚ) ≤ wall := NNRat.coe_le_coe.mpr (holds.past before found)
  have interval : ((loginInterval.toNNRat : ℚ≥0) : ℚ) = loginInterval :=
    Rat.coe_toNNRat _ (by unfold loginInterval; norm_num)
  rw [after, Option.getD_some, NNRat.coe_add, interval]
  exact add_le_add_left past loginInterval

end Holds

/-! ### The invariant of a launch -/

/-- The trace obeys the law, and both the data in memory and the file hold it. -/
structure Budgeted (w : World) : Prop where
  trace : Throughout LoginLaw w.trace
  coupled : w.limits.Coupled w.clock
  memory : Holds w.trace w.clock.wall w.limits.data
  file : FileHolds w.trace w.clock.wall w.file

section Acts

variable {w : World}

theorem Budgeted.note (budgeted : Budgeted w) {event : Event} (law : LoginLaw event w.trace)
    (bystander : event.Bystander) : Budgeted (w.note event) :=
  ⟨⟨law, budgeted.trace⟩, budgeted.coupled, budgeted.memory.note bystander,
    fun data decoded => (budgeted.file data decoded).note bystander⟩

theorem Budgeted.pass (budgeted : Budgeted w) (time : ℚ≥0) (stops : Bool) :
    Budgeted (w.pass time stops) := by
  have later := w.clock.wall_le_elapse time
  exact ⟨budgeted.trace, budgeted.coupled.elapse time, budgeted.memory.later later,
    fun data decoded => (budgeted.file data decoded).later later⟩

/-- Limits that remember as much. -/
theorem Budgeted.setLimits (budgeted : Budgeted w) {limits : TrafficLimits}
    (coupled : limits.Coupled w.clock) (memory : Holds w.trace w.clock.wall limits.data) :
    Budgeted (w.setLimits limits) :=
  ⟨budgeted.trace, coupled, memory, budgeted.file⟩

theorem Budgeted.reserve (budgeted : Budgeted w) :
    Budgeted (w.setLimits (w.limits.delayLogin w.clock)) :=
  budgeted.setLimits budgeted.coupled.delayLogin
    (budgeted.memory.delayed rfl budgeted.memory.failed)

/-- The data reaches the disk. -/
theorem Budgeted.persist (budgeted : Budgeted w) {write : LimitsWrite}
    (law : LoginLaw (.saved write w.clock.wall w.remaining w.limits.data) w.trace)
    (holds : Holds (.saved write w.clock.wall w.remaining w.limits.data :: w.trace) w.clock.wall
      w.limits.data) : Budgeted (w.persist write) := by
  refine ⟨⟨law, budgeted.trace⟩, budgeted.coupled, holds, fun data decoded => ?_⟩
  have same : LimitsData.decode w.limits.data.encode = .ok data := decoded
  rw [LimitsData.decode_encode] at same
  cases same
  exact holds

/-- **A reservation obeys the law.** -/
theorem Budgeted.reserved (budgeted : Budgeted w) {limits : TrafficLimits}
    (free : w.limits.reserveLogin w.clock = some limits) :
    Budgeted ((w.setLimits limits).persist .reserveLogin) := by
  obtain ⟨outside, unfailed, due, rfl⟩ := TrafficLimits.reserveLogin_some free
  have memory := budgeted.reserve.memory
  -- The deadline in memory is over, so the one in the data is.
  have passed : ((w.limits.data.loginAfter.getD 0 : ℚ≥0) : ℚ) ≤ w.clock.wall := by
    have coupled := budgeted.coupled.login
    rw [left_eq_zero.mpr due] at coupled
    exact sub_nonpos.mp coupled
  refine budgeted.reserve.persist ⟨outside, ?_, fun before found => ?_⟩ ⟨?_, ?_, memory.failed⟩
  · rcases failed : latched w.trace with _ | _
    · exact failed
    · rw [budgeted.memory.failed failed] at unfailed
      cases unfailed
  · exact (budgeted.memory.reserved before found).trans passed
  · intro before found
    rcases List.mem_cons.mp found with rfl | earlier
    · exact le_rfl
    · exact memory.past before earlier
  · intro before found
    rcases List.mem_cons.mp found with rfl | earlier
    · exact (TrafficLimits.delayLogin_loginAfter w.limits w.clock).ge
    · exact memory.reserved before earlier

/-- Another write of the daemon. -/
theorem Budgeted.persisted (budgeted : Budgeted w) {write : LimitsWrite}
    (notReserve : write ≠ .reserveLogin)
    (failed : write = .loginFailed → w.limits.data.loginFailed = true) :
    Budgeted (w.persist write) := by
  cases write with
  | reserveLogin => exact absurd rfl notReserve
  | loginFailed =>
    exact budgeted.persist trivial
      ⟨budgeted.memory.past, budgeted.memory.reserved, fun _ => failed rfl⟩
  | _ => exact budgeted.persist trivial (budgeted.memory.note ⟨rfl, fun _ => rfl⟩)

theorem Budgeted.quiet {t : World} (budgeted : Budgeted w) (trace : t.trace = w.trace)
    (limits : t.limits = w.limits) (clock : t.clock = w.clock) (file : t.file = w.file) :
    Budgeted t := by
  refine ⟨?_, ?_, ?_, ?_⟩
  · rw [trace]
    exact budgeted.trace
  · rw [limits, clock]
    exact budgeted.coupled
  · rw [trace, limits, clock]
    exact budgeted.memory
  · rw [trace, clock, file]
    exact budgeted.file

/-- **One act keeps the budget.** -/
theorem closed_budgeted : Closed Budgeted := by
  refine ⟨?_, fun w delay _ _ budgeted => ?_⟩
  · intro w t act budgeted
    cases act with
    | quiet same => exact budgeted.quiet same.trace same.limits same.clock same.file
    | pass time stops => exact budgeted.pass time stops
    | requested owner step => exact budgeted.note trivial ⟨rfl, fun _ => rfl⟩
    | raised owner step e => exact budgeted.note trivial ⟨rfl, fun _ => rfl⟩
    | saveRaised inside => exact budgeted.note trivial ⟨rfl, fun _ => rfl⟩
    | accepted received =>
      rename_i session
      have taken : Budgeted { w with session := session } := budgeted.quiet rfl rfl rfl rfl
      have noted : Budgeted (World.note { w with session := session } (.accepted w.mono)) :=
        taken.note trivial ⟨rfl, fun _ => rfl⟩
      exact noted
    | pullStarted due => exact budgeted.note trivial ⟨rfl, fun _ => rfl⟩
    | pulled delay least => exact budgeted.quiet rfl rfl rfl rfl
    | interrupted delay paused least => exact budgeted.note trivial ⟨rfl, fun _ => rfl⟩
    | paused delay =>
      exact budgeted.setLimits (budgeted.coupled.pause delay) (budgeted.memory.congr rfl rfl)
    | rateLimited header =>
      exact budgeted.setLimits (budgeted.coupled.rateLimited header)
        (budgeted.memory.congr rfl rfl)
    | healthy =>
      exact budgeted.setLimits (budgeted.coupled.setRateRetry _) (budgeted.memory.congr rfl rfl)
    | loginFailed =>
      exact budgeted.setLimits budgeted.coupled.loginFailed
        ⟨budgeted.memory.past, budgeted.memory.reserved, fun _ => rfl⟩
    | reserve free =>
      obtain ⟨-, -, -, rfl⟩ := TrafficLimits.reserveLogin_some free
      exact budgeted.reserve
    | reserved free => exact budgeted.reserved free
    | persisted write notReserve failed => exact budgeted.persisted notReserve failed
    | credentialsRead reserved => exact budgeted.note reserved ⟨rfl, fun _ => rfl⟩
    | credentialsSent read => exact budgeted.note read ⟨rfl, fun _ => rfl⟩
  · have planned : Budgeted w.planPull := budgeted.quiet rfl rfl rfl rfl
    have noted : Budgeted (w.planPull.note (.pullEnded w.mono delay)) :=
      planned.note trivial ⟨rfl, fun _ => rfl⟩
    exact noted

end Acts

/-! ### One launch -/

/-- What a launch leaves on the disk. -/
structure Disk.Budgeted (disk : Disk) : Prop where
  trace : Throughout LoginLaw disk.trace
  file : FileHolds disk.trace disk.wall disk.file

section Launches

variable {env : Env} {vendor : Vendor} {w : World}

theorem Budgeted.disk (budgeted : Budgeted w) : (Disk.ofWorld w).Budgeted :=
  ⟨budgeted.trace, budgeted.file⟩

theorem keeps_serve (credentialsFile : Bool) (inner fuel : ℕ) (budgeted : Budgeted w) :
    Keeps Budgeted (serve env vendor credentialsFile inner fuel) w := by
  have served : Budgeted w.served := by
    have quiet : Budgeted { w with
        session := { w.session with
          client := { w.session.client with nextPull := w.mono + initialPullDelay }
          protocol := Protocol.new w.session.client.vin }
        retry := reconnectMin
        inside := false } := budgeted.quiet rfl rfl rfl rfl
    have noted : Budgeted (World.note _ (.serveStarted w.mono)) :=
      quiet.note trivial ⟨rfl, fun _ => rfl⟩
    exact noted
  exact keeps_bind (keeps_change served) fun _ _ budgeted =>
    keeps_serveLoop closed_budgeted (fun _ kept => kept.note trivial ⟨rfl, fun _ => rfl⟩)
      (fun _ kept => kept.note trivial ⟨rfl, fun _ => rfl⟩) credentialsFile inner fuel budgeted

/-- An operator's login ends the record of a failure. -/
theorem Budgeted.operatorLogin (budgeted : Budgeted w) :
    Budgeted ((w.note .operatorLogin).setLimits (w.limits.manualLoginSucceeded w.clock)) := by
  have noted : Budgeted (w.note .operatorLogin) :=
    ⟨⟨trivial, budgeted.trace⟩, budgeted.coupled,
      ⟨budgeted.memory.past, budgeted.memory.reserved, nofun⟩,
      fun data decoded => ⟨(budgeted.file data decoded).past, (budgeted.file data decoded).reserved,
        nofun⟩⟩
  exact noted.setLimits budgeted.coupled.manualLoginSucceeded (noted.memory.delayed rfl nofun)

theorem keeps_login (budgeted : Budgeted w) : Keeps Budgeted (login env) w := by
  have inert := closed_budgeted.inert
  have body : Keeps Budgeted (loginBody env) w := by
    unfold loginBody
    refine keeps_read (keeps_ite (fun _ => budgeted) fun _ => ?_)
    refine keeps_bind (keeps_await inert budgeted 0) fun _ t budgeted => ?_
    refine keeps_bind (keeps_await inert budgeted 0) fun _ t budgeted => ?_
    refine keeps_bind (keeps_awaitStep inert budgeted _ _ _) fun _ t budgeted => ?_
    unfold Keeps
    rw [wp_bind, wp_emit, wp_bind, wp_change]
    exact keeps_save inert budgeted.operatorLogin nofun nofun
  refine keeps_tryExcept body fun e t budgeted => ?_
  have limited : Keeps Budgeted (recordRateLimit env e) t :=
    keeps_ite (fun _ => keeps_bind (keeps_rateLimitedBy inert budgeted e) fun _ _ kept => kept)
      fun _ => budgeted
  exact keeps_bind limited fun _ _ kept => kept

/-- **One launch keeps the budget on disk.** -/
theorem run_budgeted {disk : Disk} (budgeted : disk.Budgeted) (launch : Launch) :
    (disk.run launch).Budgeted := by
  have later : disk.wall ≤ disk.wall + launch.gap := by
    rw [← NNRat.coe_le_coe, NNRat.coe_add]
    exact le_add_of_nonneg_right launch.gap.coe_nonneg
  have started : ∀ (data : LimitsData) (config : Config),
      LimitsData.decode disk.file = .ok data → Budgeted (disk.start launch config
        (TrafficLimits.ofData data (disk.clock launch))) := fun data config decoded =>
    ⟨budgeted.trace, TrafficLimits.coupled_ofData data (disk.clock launch),
      (budgeted.file data decoded).later later,
      fun data found => (budgeted.file data found).later later⟩
  unfold Disk.run TrafficLimits.load
  rcases decoded : LimitsData.decode disk.file with e | data
  · exact ⟨budgeted.trace, fun data found => (budgeted.file data found).later later⟩
  · rcases program : launch.program with ⟨vendor, config, credentialsFile, inner, fuel⟩ | ⟨config⟩
    · have run : Keeps Budgeted (serve launch.env vendor credentialsFile inner fuel) _ :=
        keeps_serve credentialsFile inner fuel (started data config decoded)
      exact run.final.disk
    · have run : Keeps Budgeted (login launch.env) _ := keeps_login (started data config decoded)
      exact run.final.disk

end Launches

/-! ### Every history -/

/-- **The automatic login budget holds across crashes and restarts**, in every history of launches
from any limits file. -/
theorem logins_budgeted (file : PyValue) (wall : ℚ≥0) (launches : List Launch) :
    Throughout LoginLaw (Disk.runAll ⟨file, wall, []⟩ launches).trace := by
  have law : ∀ (launches : List Launch) (disk : Disk), disk.Budgeted →
      (disk.runAll launches).Budgeted := by
    intro launches
    induction launches with
    | nil => exact fun _ budgeted => budgeted
    | cons launch rest ih => exact fun disk budgeted => ih _ (run_budgeted budgeted launch)
  have fresh : Disk.Budgeted ⟨file, wall, []⟩ := ⟨trivial, fun _ _ => ⟨nofun, nofun, nofun⟩⟩
  exact (law launches _ fresh).trace

end DbusEv.Mercedes
