/-
**The traffic gate of the vehicle engine** (`vehicle-engine/traffic.go`).

Every HTTP request of a provider goes through `RoundTrip`, which holds the lock of the gate from its
clock reading to the response, so the calls are a sequence. Times and durations are nanoseconds.

* `TrafficState` — what the state file holds, and what the process holds in memory; the two differ
  after a failed save, or when a wait is cancelled after the window was reset.
* `roundTrip` — one call; `Call` is what its environment decides: the time that passes, a cancelled
  context, the saves that fail, the response.
* `run` — any sequence of calls and restarts. `Sent` and `saved` record the requests and the states
  that reached the file.
-/

import DbusEv.Lib.Exec
import DbusEv.Lib.Trace
import DbusEv.Python.Value

set_option autoImplicit false

namespace DbusEv.Engine

/-! ### Go times -/

/-- `time.Second` and `time.Hour`. -/
def second : ℤ := 1000000000
def hour : ℤ := 3600 * second

/-- The bounds of a `time.Duration`. -/
def minDuration : ℤ := -2 ^ 63
def maxDuration : ℤ := 2 ^ 63 - 1

/-- `t.Sub(u)`, which saturates. -/
def sub (t u : ℤ) : ℤ := max minDuration (min maxDuration (t - u))

/-- The `float64` nearest to a value within the range of durations. -/
def float64 (value : ℚ) : ℚ :=
  match PyFloat.ofRat value with
  | .finite rounded => rounded
  | _ => 0

/-- `d.Seconds()`. -/
def seconds (d : ℤ) : ℚ :=
  float64 (float64 (d.tdiv second) + float64 ((d.tmod second : ℚ) / 1000000000))

theorem hour_le_sub {t u : ℤ} : hour ≤ sub t u ↔ u + hour ≤ t := by
  simp only [sub, hour, second, minDuration, maxDuration]
  omega

/-- A wait until `next` ends 2 s after `t`, also when the wait saturates. -/
theorem add_le_wait {t next now : ℤ} (spaced : t + 2 * second ≤ next) (past : t ≤ now) :
    t + 2 * second ≤ now + (sub next now).toNat := by
  simp only [sub, second, minDuration, maxDuration] at *
  omega

/-! ### The state -/

/-- `trafficState`. The counts are natural: a state file with a negative one, which the gate never
writes, is left out. -/
structure TrafficState where
  window : ℤ
  count : ℕ
  next : ℤ
  pause : ℤ
  reason : String
  failures : ℕ
  deriving DecidableEq

/-- The state of a missing file. -/
def TrafficState.zero : TrafficState := ⟨0, 0, 0, 0, "", 0⟩

/-- A request that was sent upstream. -/
structure Sent where
  /-- The clock reading of the call, with the memory and the file at that moment. -/
  called : ℤ
  held : TrafficState
  found : Option TrafficState
  /-- The clock reading from which `Next` was computed. -/
  admitted : ℤ
  /-- The file at the moment of sending. -/
  carried : Option TrafficState
  deriving DecidableEq

/-- The clock, the state file, the process that is alive, and what happened, newest first. -/
structure World where
  clock : ℤ
  file : Option TrafficState
  /-- `newTraffic` returned a gate. -/
  alive : Bool
  /-- `g.state`. -/
  state : TrafficState
  sent : List Sent
  saved : List TrafficState

/-- A `Retry-After` header as `failure` parses it. -/
inductive RetryAfter
  | seconds (value : PyFloat)
  | date (instant : ℤ)
  | unreadable

/-- An upstream response. -/
structure Response where
  status : ℕ
  retryAfter : RetryAfter

/-- The errors of `RoundTrip`: `policyError`, the error of the context, that of the transport. -/
inductive GateError
  | policy (reason : String) (retryAfter : ℚ)
  | cancelled
  | transport
  deriving DecidableEq

/-- What the environment of one call decides. -/
structure Call where
  /-- The time before the clock is read. -/
  idle : ℕ
  /-- The context is done so long after the call began to wait. -/
  cancelled : Option ℕ
  /-- The time from the end of the wait, or from the first reading, to the second one. -/
  late : ℕ
  firstSave : Bool
  response : Option Response
  /-- The time the request takes. -/
  took : ℕ
  secondSave : Bool

namespace World

def passes (world : World) (time : ℕ) : World := { world with clock := world.clock + time }

/-- `if now.Sub(g.state.Window) >= time.Hour { … }`. -/
def windowed (world : World) (now : ℤ) : World :=
  if hour ≤ sub now world.state.window then
    { world with state := { world.state with window := now, count := 0 } }
  else world

/-- `g.state.Count++`, and `g.state.Next`. -/
def counted (world : World) : World :=
  { world with state :=
    { world.state with count := world.state.count + 1, next := world.clock + 2 * second } }

/-- The file after the rename. -/
def stored (world : World) : World :=
  { world with file := some world.state, saved := world.state :: world.saved }

/-- A request is sent. -/
def sends (world : World) (called : ℤ) (held : TrafficState) (found : Option TrafficState)
    (admitted : ℤ) : World :=
  { world with sent := ⟨called, held, found, admitted, world.file⟩ :: world.sent }

end World

/-! ### A call -/

abbrev Gate (α : Type) := Exec World GateError α

/-- `save()`: all that precedes the rename works on a temporary file, so a failure leaves the file
as it was. -/
def save (succeeds : Bool) : Gate Unit :=
  if succeeds then Exec.change World.stored else Exec.raise (.policy "storage" 0)

/-- Wait until `Next`, unless the context is done first. -/
def await (call : Call) (now : ℤ) : Gate Unit := do
  let world ← Exec.read
  let wait := sub world.state.next now
  match call.cancelled with
  | some after =>
    if 0 < wait then do
      Exec.change fun world => world.passes after
      Exec.raise .cancelled
    else Exec.change fun world => world.passes call.late
  | none => Exec.change fun world => world.passes (wait.toNat + call.late)

/-- `r.Error` of `failure(request.NewStatusError(resp))`. -/
def errorOf (status : ℕ) : String :=
  if status = 401 ∨ status = 403 then "auth"
  else if status = 429 then "rate_limit" else "provider"

/-- `r.RetryAfter` of `failure(request.NewStatusError(resp))`. -/
def RetryAfter.delay (now : ℤ) : RetryAfter → ℚ
  | .seconds (.finite value) => if 0 < value then value else 0
  | .date instant => max 0 (Engine.seconds (sub instant now))
  | _ => 0

/-- The seconds the gate pauses, before their conversion to a `Duration`. -/
def rejectionDelay (failures : ℕ) (error : String) (retryAfter : ℚ) : ℚ :=
  let delay := max (min 21600 (1800 * 2 ^ (failures - 1))) retryAfter
  let delay := if error = "auth" then max delay 21600 else delay
  min delay (100 * 365 * 24 * 3600)

/-- What a rejection changes in the state. -/
def TrafficState.rejected (state : TrafficState) (now : ℤ) (response : Response) : TrafficState :=
  let failures := min 5 (state.failures + 1)
  let error := errorOf response.status
  { state with
    failures := failures
    pause := now + ⌊rejectionDelay failures error (response.retryAfter.delay now)⌋ * second
    reason := error }

/-- `resp.StatusCode == 429 || resp.StatusCode == 401 || resp.StatusCode == 403`. -/
def Response.isRejection (response : Response) : Bool :=
  response.status = 429 || response.status = 401 || response.status = 403

def World.rejected (world : World) (response : Response) : World :=
  { world with state := world.state.rejected world.clock response }

/-- From the request to the response. -/
def upstream (call : Call) : Gate Response := do
  Exec.change fun world => world.passes call.took
  match call.response with
  | none => Exec.raise .transport
  | some response =>
    if response.isRejection then do
      Exec.change fun world => world.rejected response
      save call.secondSave
      pure response
    else pure response

/-- From the end of the wait on; `called`, `held` and `found` are what the call began with. -/
def admitRequest (call : Call) (called : ℤ) (held : TrafficState) (found : Option TrafficState) :
    Gate Response := do
  let admitted ← Exec.read
  Exec.change World.counted
  save call.firstSave
  Exec.change fun world => world.sends called held found admitted.clock
  upstream call

/-- `RoundTrip(req)`. -/
def roundTrip (call : Call) : Gate Response := do
  Exec.change fun world => world.passes call.idle
  let start ← Exec.read
  let now := start.clock
  if now < start.state.pause then
    Exec.raise (.policy start.state.reason (seconds (sub start.state.pause now)))
  else do
    Exec.change fun world => world.windowed now
    let world ← Exec.read
    if 60 ≤ world.state.count then
      Exec.raise (.policy "rate_limit" (seconds (sub (world.state.window + hour) now)))
    else do
      await call now
      admitRequest call now start.state start.file

/-! ### Runs -/

/-- A call, or a restart of the engine: `newTraffic` reads the file, or fails. -/
inductive Move
  | call (call : Call)
  | restart (reads : Bool)

/-- `newTraffic(path)`. -/
def newTraffic (world : World) : World :=
  { world with alive := true, state := world.file.getD .zero }

def step (world : World) : Move → World
  | .call call => if world.alive then (roundTrip call world).2 else world
  | .restart true => newTraffic world
  | .restart false => { world with alive := false }

/-- No engine is alive. -/
def World.asleep (clock : ℤ) (file : Option TrafficState) : World :=
  ⟨clock, file, false, file.getD .zero, [], file.toList⟩

/-- A run from a state file. -/
def run (clock : ℤ) (file : Option TrafficState) (moves : List Move) : World :=
  moves.foldl step (.asleep clock file)

/-! ### What memory and file keep -/

/-- The requests sent under a window. -/
def sentUnder (window : ℤ) (sent : List Sent) : ℕ :=
  sent.countP fun request => request.carried.any (·.window = window)

/-- A state in memory that a state in the file precedes. -/
structure Follows (disk state : TrafficState) : Prop where
  pause : disk.pause ≤ state.pause
  window : disk.window = state.window ∧ disk.count ≤ state.count ∨
    disk.window + hour ≤ state.window

/-- The law of one request, with those before it. -/
structure Admitted (request : Sent) (earlier : List Sent) : Prop where
  unpaused : request.held.pause ≤ request.called
  unpausedFile : ∀ disk ∈ request.found, disk.pause ≤ request.called
  spaced : ∀ before ∈ earlier, before.admitted + 2 * second ≤ request.admitted
  carried : ∃ disk, request.carried = some disk ∧ disk.next = request.admitted + 2 * second ∧
    sentUnder disk.window (request :: earlier) ≤ disk.count ∧ disk.count ≤ 60

/-- What every run keeps. -/
structure Kept (world : World) : Prop where
  law : Throughout Admitted world.sent
  newest : world.saved.head? = world.file
  hourly : world.saved.Pairwise fun later earlier =>
    earlier.window = later.window ∨ earlier.window + hour ≤ later.window
  follows : ∀ disk ∈ world.file, Follows disk world.state
  past : ∀ request ∈ world.sent, request.admitted ≤ world.clock
  next : ∀ request ∈ world.sent, request.admitted + 2 * second ≤ world.state.next
  filed : ∀ request ∈ world.sent, ∃ disk ∈ world.file,
    request.admitted + 2 * second ≤ disk.next
  budget : ∀ disk ∈ world.file, sentUnder disk.window world.sent ≤ disk.count
  bounded : ∀ window, sentUnder window world.sent ≤ 60
  under : ∀ request ∈ world.sent, ∃ disk ∈ world.saved, request.carried = some disk

section Kept

variable {world : World}

theorem sentUnder_cons (window : ℤ) (request : Sent) (earlier : List Sent) :
    sentUnder window (request :: earlier) =
      sentUnder window earlier + if request.carried.any (·.window = window) then 1 else 0 := by
  unfold sentUnder
  rw [List.countP_cons]

/-- The memory is one hour past every saved window it has left. -/
theorem Kept.behind (kept : Kept world) : ∀ disk ∈ world.saved,
    disk.window = world.state.window ∨ disk.window + hour ≤ world.state.window := by
  intro disk member
  have newest := kept.newest
  have hourly := kept.hourly
  rcases shape : world.saved with _ | ⟨latest, earlier⟩
  · rw [shape] at member
    cases member
  · rw [shape] at newest hourly member
    have follows := (kept.follows latest newest.symm).window
    have positive : 0 < hour := by decide
    rcases List.mem_cons.mp member with rfl | older
    · omega
    · have before := (List.pairwise_cons.mp hourly).1 disk older
      omega

/-- **The count in memory counts what was sent under its window.** -/
theorem Kept.memoryBudget (kept : Kept world) :
    sentUnder world.state.window world.sent ≤ world.state.count := by
  by_cases none : sentUnder world.state.window world.sent = 0
  · omega
  · -- A request under this window carried a saved state, so the file is of this window too.
    obtain ⟨request, member, under⟩ := List.countP_pos_iff.mp (Nat.pos_of_ne_zero none)
    obtain ⟨carried, saved, same⟩ := kept.under request member
    have window : carried.window = world.state.window := by
      rw [same] at under
      exact of_decide_eq_true under
    obtain ⟨disk, filed, -⟩ := kept.filed request member
    have positive : 0 < hour := by decide
    have newest := kept.newest
    have hourly := kept.hourly
    rcases shape : world.saved with _ | ⟨latest, earlier⟩
    · rw [shape] at saved
      cases saved
    · rw [shape] at newest hourly saved
      have latestFiled : latest ∈ world.file := newest.symm
      have budget := kept.budget latest latestFiled
      have follows := (kept.follows latest latestFiled).window
      have order : carried.window = latest.window ∨ carried.window + hour ≤ latest.window := by
        rcases List.mem_cons.mp saved with rfl | older
        · exact Or.inl rfl
        · exact (List.pairwise_cons.mp hourly).1 carried older
      have sameWindow : latest.window = world.state.window := by omega
      rw [sameWindow] at budget
      omega

theorem Kept.passes (kept : Kept world) (time : ℕ) : Kept (world.passes time) :=
  { kept with
    past := fun request member => by
      have before := kept.past request member
      show request.admitted ≤ world.clock + time
      omega }

/-- A window that ended an hour ago is left. -/
theorem Kept.windowed (kept : Kept world) (now : ℤ) : Kept (world.windowed now) := by
  unfold World.windowed
  by_cases passed : hour ≤ sub now world.state.window
  · rw [if_pos passed]
    rw [hour_le_sub] at passed
    refine { kept with follows := fun disk filed => ?_ }
    have follows := kept.follows disk filed
    refine ⟨follows.pause, Or.inr ?_⟩
    show disk.window + hour ≤ now
    have positive : 0 < hour := by decide
    have window := follows.window
    omega
  · rw [if_neg passed]
    exact kept

/-- The clock has passed what the requests before asked for. -/
theorem Kept.counted (kept : Kept world)
    (spaced : ∀ request ∈ world.sent, request.admitted + 2 * second ≤ world.clock) :
    Kept world.counted := by
  refine { kept with follows := fun disk filed => ?_, next := fun request member => ?_ }
  · have follows := kept.follows disk filed
    refine ⟨follows.pause, ?_⟩
    show disk.window = world.state.window ∧ disk.count ≤ world.state.count + 1 ∨
      disk.window + hour ≤ world.state.window
    have window := follows.window
    omega
  · have positive : 0 < second := by decide
    have before := spaced request member
    show request.admitted + 2 * second ≤ world.clock + 2 * second
    omega

/-- **A save** brings the file up to the memory. -/
theorem Kept.stored (kept : Kept world) : Kept world.stored where
  law := kept.law
  newest := rfl
  hourly := List.pairwise_cons.mpr ⟨kept.behind, kept.hourly⟩
  follows := fun disk filed => by
    obtain rfl := Option.mem_some_iff.mp filed
    exact ⟨le_rfl, Or.inl ⟨rfl, le_rfl⟩⟩
  past := kept.past
  next := kept.next
  filed := fun request member => ⟨world.state, rfl, kept.next request member⟩
  budget := fun disk filed => by
    obtain rfl := Option.mem_some_iff.mp filed
    exact kept.memoryBudget
  bounded := kept.bounded
  under := fun request member => by
    obtain ⟨disk, saved, carried⟩ := kept.under request member
    exact ⟨disk, List.mem_cons_of_mem _ saved, carried⟩

/-- **A request** is sent after the state that counts it was saved. -/
theorem Kept.sends (kept : Kept world) {called admitted : ℤ} {held : TrafficState}
    {found : Option TrafficState} (unpaused : held.pause ≤ called)
    (unpausedFile : ∀ disk ∈ found, disk.pause ≤ called)
    (spaced : ∀ before ∈ world.sent, before.admitted + 2 * second ≤ admitted)
    (past : admitted ≤ world.clock) (carried : world.file = some world.state)
    (next : world.state.next = admitted + 2 * second)
    (counted : sentUnder world.state.window world.sent + 1 ≤ world.state.count)
    (within : world.state.count ≤ 60) :
    Kept (world.sends called held found admitted) := by
  have own : sentUnder world.state.window (world.sends called held found admitted).sent =
      sentUnder world.state.window world.sent + 1 := by
    show sentUnder _ (_ :: world.sent) = _
    rw [sentUnder_cons, carried]
    simp
  have newest : world.state ∈ world.file := carried
  refine ⟨⟨⟨unpaused, unpausedFile, spaced, world.state, carried, next, ?_, within⟩, kept.law⟩,
    kept.newest, kept.hourly, kept.follows, ?_, ?_, ?_, ?_, ?_, ?_⟩
  · show sentUnder world.state.window (world.sends called held found admitted).sent ≤ _
    omega
  · exact List.forall_mem_cons.mpr ⟨past, kept.past⟩
  · exact List.forall_mem_cons.mpr ⟨next.ge, kept.next⟩
  · exact List.forall_mem_cons.mpr ⟨⟨world.state, newest, next.ge⟩, kept.filed⟩
  · intro disk filed
    have same : disk = world.state := Option.mem_unique filed newest
    rw [same]
    omega
  · intro window
    by_cases same : window = world.state.window
    · rw [same]
      omega
    · show sentUnder window (_ :: world.sent) ≤ 60
      have other : ¬ world.state.window = window := fun equal => same equal.symm
      rw [sentUnder_cons, carried]
      simpa [other] using kept.bounded window
  · have saved : world.state ∈ world.saved := List.mem_of_mem_head? (kept.newest.trans carried)
    exact List.forall_mem_cons.mpr ⟨⟨world.state, saved, carried⟩, kept.under⟩

theorem rejectionDelay_nonneg (failures : ℕ) (error : String) (retryAfter : ℚ) :
    0 ≤ rejectionDelay failures error retryAfter := by
  have power : (0 : ℚ) ≤ 1800 * 2 ^ (failures - 1) := by positivity
  have delay : 0 ≤ max (min 21600 (1800 * 2 ^ (failures - 1))) retryAfter :=
    le_max_of_le_left (le_min (by norm_num) power)
  unfold rejectionDelay
  refine le_min ?_ (by norm_num)
  by_cases auth : error = "auth"
  · rw [if_pos auth]
    exact le_max_of_le_left delay
  · rw [if_neg auth]
    exact delay

/-- A rejection pauses from now on. -/
theorem clock_le_pause_rejected (state : TrafficState) (now : ℤ) (response : Response) :
    now ≤ (state.rejected now response).pause := by
  have nonneg : 0 ≤ ⌊rejectionDelay (min 5 (state.failures + 1)) (errorOf response.status)
      (response.retryAfter.delay now)⌋ := Int.floor_nonneg.mpr (rejectionDelay_nonneg _ _ _)
  have positive : 0 ≤ second := by decide
  exact le_add_of_nonneg_right (mul_nonneg nonneg positive)

theorem Kept.rejected (kept : Kept world) (unpaused : world.state.pause ≤ world.clock)
    (response : Response) : Kept (world.rejected response) := by
  refine { kept with follows := fun disk filed => ?_ }
  have follows := kept.follows disk filed
  refine ⟨?_, follows.window⟩
  exact follows.pause.trans (unpaused.trans (clock_le_pause_rejected _ _ _))

/-- **A restart** resets neither the budget nor the spacing. -/
theorem Kept.newTraffic (kept : Kept world) : Kept (newTraffic world) := by
  refine { kept with follows := fun disk filed => ?_, next := fun request member => ?_ }
  · have same : (Engine.newTraffic world).state = disk := by
      have file : world.file = some disk := filed
      show world.file.getD .zero = disk
      rw [file]
      rfl
    rw [same]
    exact ⟨le_rfl, Or.inl ⟨rfl, le_rfl⟩⟩
  · obtain ⟨disk, filed, next⟩ := kept.filed request member
    show request.admitted + 2 * second ≤ (world.file.getD .zero).next
    rw [Option.mem_def.mp filed]
    exact next

end Kept

/-! ### A call keeps it -/

section Calls

open Exec

variable {world : World}

theorem keeps_save (kept : Kept world) (succeeds : Bool) : Keeps Kept (save succeeds) world := by
  unfold save
  cases succeeds
  · exact kept
  · exact kept.stored

theorem keeps_upstream (kept : Kept world) (unpaused : world.state.pause ≤ world.clock)
    (call : Call) : Keeps Kept (upstream call) world := by
  have later : world.state.pause ≤ (world.passes call.took).clock := by
    show world.state.pause ≤ world.clock + call.took
    omega
  have passed : Kept (world.passes call.took) := kept.passes call.took
  unfold Keeps upstream
  rw [wp_bind, wp_change]
  rcases call.response with _ | response
  · exact passed
  · show wp (if response.isRejection then _ else _) _ _ _
    rw [wp_ite]
    refine ⟨fun _ => ?_, fun _ => passed⟩
    rw [wp_bind, wp_change, wp_bind]
    exact keeps_save (passed.rejected later response) call.secondSave

theorem keeps_admitRequest (kept : Kept world) (call : Call) {called : ℤ} {held : TrafficState}
    {found : Option TrafficState} (unpaused : held.pause ≤ called)
    (unpausedFile : ∀ disk ∈ found, disk.pause ≤ called)
    (spaced : ∀ before ∈ world.sent, before.admitted + 2 * second ≤ world.clock)
    (room : world.state.count < 60) (open_ : world.state.pause ≤ world.clock) :
    Keeps Kept (admitRequest call called held found) world := by
  have counted : Kept world.counted := kept.counted spaced
  unfold Keeps admitRequest
  rw [wp_bind, wp_read, wp_bind, wp_change, wp_bind]
  unfold save
  rw [wp_ite]
  refine ⟨fun _ => ?_, fun _ => counted⟩
  rw [wp_change, wp_bind, wp_change]
  have budget := kept.memoryBudget
  have sends : Kept (world.counted.stored.sends called held found world.clock) := by
    refine counted.stored.sends unpaused unpausedFile spaced le_rfl rfl rfl ?_ ?_
    · show sentUnder world.state.window world.sent + 1 ≤ world.state.count + 1
      omega
    · show world.state.count + 1 ≤ 60
      omega
  exact keeps_upstream sends open_ call

/-- A wait that is not cancelled lasts until `Next`. -/
theorem await_spec (call : Call) (now : ℤ) :
    wp (await call now)
      (fun _ t => ∃ time : ℕ, (sub world.state.next now).toNat ≤ time ∧ t = world.passes time)
      (fun _ t => ∃ time : ℕ, t = world.passes time) world := by
  unfold await
  rw [wp_bind, wp_read]
  rcases call.cancelled with _ | after
  · exact ⟨_, Nat.le_add_right _ _, rfl⟩
  · show wp (if 0 < sub world.state.next now then _ else _) _ _ _
    rw [wp_ite]
    refine ⟨fun _ => ⟨after, rfl⟩, fun ready => ⟨call.late, ?_, rfl⟩⟩
    omega

/-- **A call** keeps the law, whatever fails in it. -/
theorem keeps_roundTrip (kept : Kept world) (call : Call) :
    Keeps Kept (roundTrip call) world := by
  have arrived : Kept (world.passes call.idle) := kept.passes call.idle
  unfold Keeps roundTrip
  rw [wp_bind, wp_change, wp_bind, wp_read, wp_ite]
  refine ⟨fun _ => arrived, fun unpaused => ?_⟩
  generalize world.passes call.idle = start at arrived unpaused ⊢
  have windowed : Kept (start.windowed start.clock) := arrived.windowed start.clock
  have clock : (start.windowed start.clock).clock = start.clock := by
    unfold World.windowed
    split <;> rfl
  have pause : (start.windowed start.clock).state.pause = start.state.pause := by
    unfold World.windowed
    split <;> rfl
  rw [wp_bind, wp_change, wp_bind, wp_read, wp_ite]
  refine ⟨fun _ => windowed, fun room => ?_⟩
  generalize start.windowed start.clock = world at windowed clock pause room ⊢
  rw [wp_bind]
  refine wp_mono (await_spec call start.clock) ?_ ?_
  · rintro - - ⟨time, waited, rfl⟩
    have later : (world.passes time).clock = start.clock + time := by
      rw [← clock]
      rfl
    refine keeps_admitRequest (windowed.passes time) call (not_lt.mp unpaused) ?_ ?_
      (not_le.mp room) ?_
    · intro disk filed
      exact (arrived.follows disk filed).pause.trans (not_lt.mp unpaused)
    · intro before member
      rw [later]
      have past := windowed.past before member
      rw [clock] at past
      have spaced := add_le_wait (windowed.next before member) past
      omega
    · rw [later]
      show world.state.pause ≤ _
      omega
  · rintro - - ⟨time, rfl⟩
    exact windowed.passes time

theorem Kept.step (kept : Kept world) (move : Move) : Kept (step world move) := by
  cases move with
  | call call =>
    show Kept (if world.alive then (roundTrip call world).2 else world)
    split
    · exact (keeps_roundTrip kept call).final
    · exact kept
  | restart reads =>
    cases reads
    · exact { kept with }
    · exact kept.newTraffic

theorem Kept.run (kept : Kept world) (moves : List Move) :
    Kept (moves.foldl Engine.step world) := by
  induction moves generalizing world with
  | nil => exact kept
  | cons move rest ih => exact ih (kept.step move)

theorem kept_asleep (clock : ℤ) (file : Option TrafficState) :
    Kept (World.asleep clock file) where
  law := trivial
  newest := by cases file <;> rfl
  hourly := by cases file <;> simp [World.asleep]
  follows := fun disk filed => by
    have same : file = some disk := filed
    subst same
    exact ⟨le_rfl, Or.inl ⟨rfl, le_rfl⟩⟩
  past := List.forall_mem_nil _
  next := List.forall_mem_nil _
  filed := List.forall_mem_nil _
  budget := fun disk _ => disk.count.zero_le
  bounded := fun _ => by simp [World.asleep, sentUnder]
  under := List.forall_mem_nil _

end Calls

/-! ### Every run -/

/-- **The traffic gate**: in every run, from any state file, each request satisfies `Admitted` with
those before it, at most 60 are sent under one window, the saved windows are an hour apart, and the
file counts every request under its window and carries a `Next` that is 2 s past all of them, so a
restart resets neither. -/
theorem traffic_gate (clock : ℤ) (file : Option TrafficState) (moves : List Move) :
    Throughout Admitted (run clock file moves).sent ∧
      (∀ window, sentUnder window (run clock file moves).sent ≤ 60) ∧
      (run clock file moves).saved.Pairwise (fun later earlier =>
        earlier.window = later.window ∨ earlier.window + hour ≤ later.window) ∧
      ∀ disk ∈ (run clock file moves).file,
        sentUnder disk.window (run clock file moves).sent ≤ disk.count ∧
          ∀ request ∈ (run clock file moves).sent, request.admitted + 2 * second ≤ disk.next := by
  have kept : Kept (run clock file moves) := (kept_asleep clock file).run moves
  refine ⟨kept.law, kept.bounded, kept.hourly, fun disk filed => ?_⟩
  refine ⟨kept.budget disk filed, fun request member => ?_⟩
  obtain ⟨other, found, next⟩ := kept.filed request member
  have same : other = disk := Option.mem_unique found filed
  exact same ▸ next

end DbusEv.Engine
