/-
**The poll worker under every interleaving** (`dbus_ev/worker.py`).

The main loop takes its steps `poll`, `_deliver` and `stop` one after another; between any two of
their actions the thread may take its own.

* `Main`, `Crew` — where the main loop and the thread are.
* `Worker` — what the two share, with the deliveries that wait on the main loop.
* `Worker.held` — the requests that are accepted and not yet delivered, wherever they are.
* `Sound` — the invariant: at most one request is held, the flag says whether one is, and `None` is
  put into a queue that is empty.
* `Allowed` — what may happen after what: no put finds the queue full, no callback runs twice or
  after the stop, and the client is closed once, after its last poll.
* `one_poll_at_a_time` — every run is so; the next poll of an idle worker is accepted, and the
  thread of a stopped one reaches its exit.
-/

import DbusEv.Lib.Trace
import DbusEv.Python.Value

set_option autoImplicit false

namespace DbusEv.Poll

/-! ### The worker -/

/-- What is in the queue: the callback of an accepted request, or `None`. -/
inductive Job
  | request (id : ℕ)
  | quit
  deriving DecidableEq

/-- A snapshot: a `dict`. -/
abbrev Snapshot := Dict PyValue

/-- Where the main loop is. -/
inductive Main
  | free
  /-- `poll`: the flag and the event are clear. -/
  | putting
  /-- `poll`: the callback is in the queue. -/
  | marking
  /-- `_deliver`: the flag is cleared. -/
  | delivering (id : ℕ) (snapshot : Snapshot)
  /-- `stop`: the event is set. -/
  | emptying
  /-- `stop`: the queue is emptied. -/
  | ending
  /-- `stop`: the thread is joined. -/
  | joining

/-- Where the thread is. -/
inductive Crew
  | getting
  /-- `callback = self._queue.get()`. -/
  | got (job : Job)
  /-- `started_at = self._clock()`. -/
  | polling (id : ℕ) (startedAt : ℚ)
  /-- The client has returned or raised. -/
  | polled (id : ℕ) (snapshot : Snapshot)
  /-- `finally`. -/
  | closing
  | exited

/-- What happens. -/
inductive Event
  | accepted (id : ℕ)
  /-- `callback(snapshot)`. -/
  | ran (id : ℕ) (snapshot : Snapshot)
  /-- `self.client.poll()`. -/
  | polled (id : ℕ)
  /-- `self._stopping.set()`. -/
  | stopped
  /-- `self.client.close()`. -/
  | closed
  /-- `put_nowait` raises `queue.Full`. -/
  | full

/-- The worker, with its main loop and its thread. -/
structure Worker where
  queue : Option Job
  stopping : Bool
  pending : Bool
  main : Main
  crew : Crew
  /-- What `dispatch` has handed to the main loop, the oldest first. -/
  deliveries : List (ℕ × Snapshot)
  /-- The number of the next request. -/
  next : ℕ
  /-- Newest first. -/
  trace : List Event

/-- `{"ok": False}`. -/
def failed : Snapshot := [("ok", .bool false)]

namespace Worker

/-- `__init__`. -/
def new : Worker := ⟨none, false, false, .free, .getting, [], 0, []⟩

def note (worker : Worker) (event : Event) : Worker :=
  { worker with trace := event :: worker.trace }

/-! ### The main loop -/

/-- `poll(callback)` begins; it returns `False` where the worker stays as it is. -/
def poll (worker : Worker) : Worker :=
  if worker.pending || worker.stopping then worker else { worker with main := .putting }

/-- `_deliver(callback, snapshot)` begins, for the delivery that waits longest. -/
def deliver (worker : Worker) : Worker :=
  match worker.deliveries with
  | [] => worker
  | (id, snapshot) :: others =>
    { worker with pending := false, deliveries := others, main := .delivering id snapshot }

/-- `stop()` begins. -/
def stop (worker : Worker) : Worker :=
  if worker.stopping then { worker with main := .joining }
  else { worker.note .stopped with stopping := true, main := .emptying }

/-- `self._queue.put_nowait(callback)`. -/
def putRequest (worker : Worker) : Worker :=
  match worker.queue with
  | none =>
    { worker.note (.accepted worker.next) with
      queue := some (.request worker.next), next := worker.next + 1, main := .marking }
  | some _ => { worker.note .full with main := .free }

/-- `self._queue.put_nowait(None)`. -/
def putNone (worker : Worker) : Worker :=
  match worker.queue with
  | none => { worker with queue := some .quit, main := .joining }
  | some _ => { worker.note .full with main := .free }

/-- `if not self._stopping.is_set(): callback(snapshot)`. -/
def callBack (worker : Worker) (id : ℕ) (snapshot : Snapshot) : Worker :=
  if worker.stopping then { worker with main := .free }
  else { worker.note (.ran id snapshot) with main := .free }

/-- The main loop goes on with what it began. -/
def proceed (worker : Worker) : Worker :=
  match worker.main with
  | .free => worker
  | .putting => worker.putRequest
  | .marking => { worker with pending := true, main := .free }
  | .delivering id snapshot => worker.callBack id snapshot
  | .emptying => { worker with queue := none, main := .ending }
  | .ending => worker.putNone
  -- the join ends with the thread, or with its timeout
  | .joining => { worker with main := .free }

/-! ### The thread -/

/-- `self._queue.get()`: nothing while the queue is empty. -/
def get (worker : Worker) : Worker :=
  match worker.queue with
  | none => worker
  | some job => { worker with queue := none, crew := .got job }

/-- What was in the queue is looked at. -/
def look (worker : Worker) (now : ℚ) : Job → Worker
  | .quit => { worker with crew := .closing }
  | .request id =>
    if worker.stopping then { worker with crew := .getting }
    else { worker with crew := .polling id now }

/-- `dict(self.client.poll())`, or what stands for it after an exception. -/
def snapshotOf : Except PyError Snapshot → Snapshot
  | .ok snapshot => snapshot
  | .error _ => failed

/-- `self.client.poll()`, started at `startedAt`. -/
def pollClient (worker : Worker) (id : ℕ) (startedAt : ℚ) (outcome : Except PyError Snapshot) :
    Worker :=
  { worker.note (.polled id) with
    crew :=
      .polled id ((snapshotOf outcome).set "_sample_started_at" (.float (.finite startedAt))) }

/-- The thread goes on; `outcome` is what the client returns or raises, where it is polled. -/
def work (worker : Worker) (now : ℚ) (outcome : Except PyError Snapshot) : Worker :=
  match worker.crew with
  | .getting => worker.get
  | .got job => worker.look now job
  | .polling id startedAt => worker.pollClient id startedAt outcome
  | .polled id snapshot =>
    { worker with deliveries := worker.deliveries ++ [(id, snapshot)], crew := .getting }
  | .closing => { worker.note .closed with crew := .exited }
  | .exited => worker

/-! ### Their interleavings -/

/-- One step: the main loop begins one of its steps when it is free, or goes on; or the thread
does. -/
inductive Step
  | poll
  | deliver
  | stop
  | proceed
  | work (now : ℚ) (outcome : Except PyError Snapshot)

/-- The main loop goes on. -/
def Step.isProceed : Step → Bool
  | .proceed => true
  | _ => false

/-- The thread goes on. -/
def Step.ofThread : Step → Bool
  | .work _ _ => true
  | _ => false

/-- The main loop begins something when it is free. -/
def begin (worker : Worker) (something : Worker → Worker) : Worker :=
  match worker.main with
  | .free => something worker
  | _ => worker

def step (worker : Worker) : Step → Worker
  | .poll => worker.begin poll
  | .deliver => worker.begin deliver
  | .stop => worker.begin stop
  | .proceed => worker.proceed
  | .work now outcome => worker.work now outcome

/-- The worker goes on with these steps. -/
def go (worker : Worker) (steps : List Step) : Worker := steps.foldl step worker

/-- A run from the start of the thread. -/
def run (steps : List Step) : Worker := new.go steps

end Worker

/-! ### The requests that are held -/

/-- The request of a job. -/
def Job.ids : Job → List ℕ
  | .request id => [id]
  | .quit => []

/-- The request of the queue. -/
def queued : Option Job → List ℕ
  | none => []
  | some job => job.ids

/-- The request the thread works on. -/
def Crew.ids : Crew → List ℕ
  | .got job => job.ids
  | .polling id _ => [id]
  | .polled id _ => [id]
  | _ => []

/-- The request the main loop delivers. -/
def Main.ids : Main → List ℕ
  | .delivering id _ => [id]
  | _ => []

/-- The thread has taken `None`. -/
def Crew.leaving : Crew → Bool
  | .got .quit => true
  | .closing => true
  | .exited => true
  | _ => false

/-- The thread has closed the client. -/
def Crew.hasExited : Crew → Bool
  | .exited => true
  | _ => false

namespace Worker

/-- The requests that are accepted and not yet delivered or dropped. -/
def held (worker : Worker) : List ℕ :=
  queued worker.queue ++ worker.crew.ids ++ worker.deliveries.map Prod.fst ++ worker.main.ids

/-- `None` was not put into the queue. -/
def Early (queue : Option Job) (crew : Crew) : Prop := queue ≠ some .quit ∧ crew.leaving = false

/-- `None` was put into the queue, and may have been taken from it. -/
def Late (queue : Option Job) (crew : Crew) : Prop :=
  queue = some .quit ∧ crew.leaving = false ∨ queue = none ∧ crew.leaving = true

/-- What holds where the main loop is. -/
def Phase (worker : Worker) : Prop :=
  match worker.main with
  | .free =>
    if worker.stopping then Late worker.queue worker.crew
    else Early worker.queue worker.crew ∧ (worker.pending = true ↔ worker.held ≠ [])
  | .putting => worker.stopping = false ∧ Early worker.queue worker.crew ∧ worker.held = []
  | .marking => worker.stopping = false ∧ Early worker.queue worker.crew ∧ worker.held ≠ []
  | .delivering _ _ =>
    if worker.stopping then Late worker.queue worker.crew
    else Early worker.queue worker.crew ∧ worker.pending = false
  | .emptying => worker.stopping = true ∧ Early worker.queue worker.crew
  | .ending => worker.stopping = true ∧ Early worker.queue worker.crew ∧ worker.queue = none
  | .joining => worker.stopping = true ∧ Late worker.queue worker.crew

/-- What may happen after what happened earlier. -/
def Allowed (event : Event) (earlier : List Event) : Prop :=
  match event with
  | .accepted _ => .stopped ∉ earlier
  | .ran id _ => .accepted id ∈ earlier ∧ (∀ snapshot, .ran id snapshot ∉ earlier) ∧
      .stopped ∉ earlier
  | .polled _ => .closed ∉ earlier
  | .stopped => .stopped ∉ earlier
  | .closed => .closed ∉ earlier
  | .full => False

/-- The invariant. -/
structure Sound (worker : Worker) : Prop where
  one : worker.held.length ≤ 1
  /-- What is held was accepted, and its callback did not run. -/
  known : ∀ id ∈ worker.held, .accepted id ∈ worker.trace ∧
    ∀ snapshot, .ran id snapshot ∉ worker.trace
  /-- The next request is a new one. -/
  new : ∀ id, .accepted id ∈ worker.trace → id < worker.next
  phase : worker.Phase
  stopped : .stopped ∈ worker.trace ↔ worker.stopping = true
  closed : .closed ∈ worker.trace ↔ worker.crew.hasExited = true
  allowed : Throughout Allowed worker.trace

/-! ### Every step keeps the invariant -/

theorem sound_new : new.Sound where
  one := Nat.zero_le _
  known := List.forall_mem_nil _
  new _ found := absurd found List.not_mem_nil
  phase := by simp [Phase, new, Early, Crew.leaving, held, queued, Crew.ids, Main.ids]
  stopped := by simp [new]
  closed := by simp [new, Crew.hasExited]
  allowed := trivial

variable {worker : Worker}

theorem accepted_of_ran {trace : List Event} (allowed : Throughout Allowed trace) {id : ℕ}
    {snapshot : Snapshot} (ran : .ran id snapshot ∈ trace) : .accepted id ∈ trace := by
  induction trace with
  | nil => cases ran
  | cons event earlier ih =>
    cases ran with
    | head => exact List.mem_cons_of_mem _ allowed.1.1
    | tail _ found => exact List.mem_cons_of_mem _ (ih allowed.2 found)

/-- A step that is not noted, and after which nothing new is held. -/
theorem Sound.moved (sound : worker.Sound) {after : Worker} (trace : after.trace = worker.trace)
    (next : after.next = worker.next) (stopping : after.stopping = worker.stopping)
    (exited : after.crew.hasExited = worker.crew.hasExited) (subset : after.held ⊆ worker.held)
    (fewer : after.held.length ≤ worker.held.length) (phase : after.Phase) : after.Sound where
  one := fewer.trans sound.one
  known id found := by
    rw [trace]
    exact sound.known id (subset found)
  new := by
    rw [trace, next]
    exact sound.new
  phase := phase
  stopped := by
    rw [trace, stopping]
    exact sound.stopped
  closed := by
    rw [trace, exited]
    exact sound.closed
  allowed := by
    rw [trace]
    exact sound.allowed

/-- The main loop moves on, and holds no request where it is then. -/
theorem Sound.shifted (sound : worker.Sound) {main : Main} {pending : Bool} (ids : main.ids = [])
    (phase : Phase { worker with main := main, pending := pending }) :
    Sound { worker with main := main, pending := pending } := by
  refine sound.moved rfl rfl rfl rfl ?_ ?_ phase
  · intro id found
    simp only [held, ids, List.append_nil] at found
    exact List.mem_append_left _ found
  · simp [held, ids]

theorem Sound.poll (sound : worker.Sound) (free : worker.main = .free) : worker.poll.Sound := by
  have phase := sound.phase
  simp only [Phase, free] at phase
  unfold Worker.poll
  by_cases busy : (worker.pending || worker.stopping) = true
  · rwa [if_pos busy]
  · rw [if_neg busy]
    apply sound.shifted rfl
    simp_all [Phase, held, Main.ids]

theorem Sound.deliver (sound : worker.Sound) (free : worker.main = .free) :
    worker.deliver.Sound := by
  have phase := sound.phase
  simp only [Phase, free] at phase
  unfold Worker.deliver
  rcases waiting : worker.deliveries with _ | ⟨⟨id, snapshot⟩, others⟩
  · exact sound
  · refine sound.moved rfl rfl rfl rfl ?_ ?_ ?_
    · intro other
      simp only [held, free, waiting, Main.ids, List.map_cons, List.mem_append, List.mem_cons]
      tauto
    · simp [held, free, waiting, Main.ids]
    · cases stopping : worker.stopping <;> simp_all [Phase]

theorem Sound.stop (sound : worker.Sound) (free : worker.main = .free) : worker.stop.Sound := by
  have phase := sound.phase
  simp only [Phase, free] at phase
  unfold Worker.stop
  by_cases stopping : worker.stopping = true
  · rw [if_pos stopping]
    apply sound.shifted rfl
    simp_all [Phase]
  · rw [if_neg stopping]
    have running : .stopped ∉ worker.trace := mt sound.stopped.mp stopping
    constructor
    · simpa [held, note, free, Main.ids] using sound.one
    · simpa [held, note, free, Main.ids] using sound.known
    · simpa [note] using sound.new
    · simp_all [Phase, note]
    · simp [note]
    · simpa [note] using sound.closed
    · exact ⟨running, sound.allowed⟩

theorem Sound.putRequest (sound : worker.Sound) (putting : worker.main = .putting) :
    worker.putRequest.Sound := by
  have phase := sound.phase
  simp only [Phase, putting] at phase
  obtain ⟨running, early, nothing⟩ := phase
  simp only [held, putting, List.append_eq_nil_iff] at nothing
  have empty : worker.queue = none := by
    rcases worker with ⟨_ | _ | _, _⟩ <;> simp_all [Early, queued, Job.ids]
  have fresh : ∀ snapshot, .ran worker.next snapshot ∉ worker.trace := fun snapshot ran =>
    lt_irrefl _ (sound.new _ (accepted_of_ran sound.allowed ran))
  have running' : .stopped ∉ worker.trace := by simp [sound.stopped, running]
  simp only [Worker.putRequest, empty]
  constructor
  · simp_all [held, note, Job.ids, queued, Main.ids]
  · simp_all [held, note, Job.ids, queued, Main.ids]
  · simp only [note, List.mem_cons, Event.accepted.injEq]
    rintro id (rfl | found)
    · exact Nat.lt_succ_self _
    · exact (sound.new id found).trans (Nat.lt_succ_self _)
  · simp_all [Phase, note, held, queued, Job.ids, Early]
  · simpa [note] using sound.stopped
  · simpa [note] using sound.closed
  · exact ⟨running', sound.allowed⟩


theorem Sound.callBack (sound : worker.Sound) {id : ℕ} {snapshot : Snapshot}
    (delivering : worker.main = .delivering id snapshot) : (worker.callBack id snapshot).Sound := by
  have phase := sound.phase
  have one := sound.one
  simp only [Phase, delivering] at phase
  simp only [held, delivering, Main.ids, List.length_append, List.length_singleton] at one
  have crew : worker.crew.ids = [] := List.length_eq_zero_iff.mp (by omega)
  have queue : queued worker.queue = [] := List.length_eq_zero_iff.mp (by omega)
  have deliveries : worker.deliveries.map Prod.fst = [] := List.length_eq_zero_iff.mp (by omega)
  unfold Worker.callBack
  by_cases stopping : worker.stopping = true
  · rw [if_pos stopping]
    apply sound.shifted rfl
    simp_all [Phase]
  · rw [if_neg stopping]
    have running : .stopped ∉ worker.trace := mt sound.stopped.mp stopping
    obtain ⟨accepted, once⟩ := sound.known id (by simp [held, delivering, Main.ids])
    constructor
    · simp [held, note, crew, queue, deliveries, Main.ids]
    · simp [held, note, crew, queue, deliveries, Main.ids]
    · simpa [note] using sound.new
    · simp_all [Phase, note, held, Main.ids]
    · simpa [note] using sound.stopped
    · simpa [note] using sound.closed
    · exact ⟨⟨accepted, once, running⟩, sound.allowed⟩

theorem Sound.putNone (sound : worker.Sound) (ending : worker.main = .ending) :
    worker.putNone.Sound := by
  have phase := sound.phase
  simp only [Phase, ending] at phase
  obtain ⟨stopping, early, empty⟩ := phase
  simp only [Worker.putNone, empty]
  refine sound.moved rfl rfl rfl rfl ?_ ?_ ?_
  · simp [held, ending, empty, queued, Job.ids, Main.ids]
  · simp [held, ending, empty, queued, Job.ids, Main.ids]
  · exact ⟨stopping, .inl ⟨rfl, early.2⟩⟩

/-- **The main loop goes on.** -/
theorem Sound.proceed (sound : worker.Sound) : worker.proceed.Sound := by
  unfold Worker.proceed
  have phase := sound.phase
  rcases main : worker.main with _ | _ | _ | ⟨id, snapshot⟩ | _ | _ | _
  · exact sound
  · exact sound.putRequest main
  · simp only [Phase, main] at phase
    apply sound.shifted rfl
    simp_all [Phase, held, Main.ids]
  · exact sound.callBack main
  · simp only [Phase, main] at phase
    refine sound.moved rfl rfl rfl rfl ?_ ?_ ?_
    · simp [held, main, queued, Main.ids]
    · simp [held, main, queued, Main.ids]
    · exact ⟨phase.1, ⟨nofun, phase.2.2⟩, rfl⟩
  · exact sound.putNone main
  · simp only [Phase, main] at phase
    apply sound.shifted rfl
    simp_all [Phase]


/-- The thread changes nothing the phase speaks of. -/
theorem Phase.kept (phase : worker.Phase) {after : Worker} (main : after.main = worker.main)
    (stopping : after.stopping = worker.stopping) (pending : after.pending = worker.pending)
    (held : worker.stopping = false → (after.held = [] ↔ worker.held = []))
    (early : Early worker.queue worker.crew → Early after.queue after.crew)
    (late : Late worker.queue worker.crew → Late after.queue after.crew)
    (queue : worker.queue = none → after.queue = none) : after.Phase := by
  unfold Phase at phase ⊢
  rw [main, stopping, pending]
  cases place : worker.main <;> cases running : worker.stopping <;>
    simp only [place, running, if_true, if_false, Bool.false_eq_true] at phase held ⊢ <;> grind

/-- A step that is noted, after which the same is held. -/
theorem Sound.noted (sound : worker.Sound) {after : Worker} {event : Event}
    (trace : after.trace = event :: worker.trace) (next : after.next = worker.next)
    (held : after.held = worker.held) (phase : after.Phase) (silent : ∀ id, event ≠ .accepted id)
    (calm : ∀ id snapshot, event ≠ .ran id snapshot)
    (stopped : (.stopped = event ∨ worker.stopping = true) ↔ after.stopping = true)
    (closed : (.closed = event ∨ worker.crew.hasExited = true) ↔ after.crew.hasExited = true)
    (allowed : Allowed event worker.trace) : after.Sound where
  one := by
    rw [held]
    exact sound.one
  known id found := by
    rw [held] at found
    obtain ⟨accepted, once⟩ := sound.known id found
    rw [trace]
    refine ⟨List.mem_cons_of_mem _ accepted, fun snapshot ran => ?_⟩
    rcases List.mem_cons.mp ran with same | earlier
    · exact calm id snapshot same.symm
    · exact once snapshot earlier
  new id found := by
    rw [trace] at found
    rw [next]
    rcases List.mem_cons.mp found with same | earlier
    · exact absurd same.symm (silent id)
    · exact sound.new id earlier
  phase := phase
  stopped := by
    rw [trace, List.mem_cons, sound.stopped]
    exact stopped
  closed := by
    rw [trace, List.mem_cons, sound.closed]
    exact closed
  allowed := by
    rw [trace]
    exact ⟨allowed, sound.allowed⟩

/-- A step of the thread that is not noted, after which the same is held. -/
theorem Sound.turned (sound : worker.Sound) {queue : Option Job} {crew : Crew}
    {deliveries : List (ℕ × Snapshot)} (exited : crew.hasExited = worker.crew.hasExited)
    (same : (queued queue ++ crew.ids ++ deliveries.map Prod.fst).Perm
      (queued worker.queue ++ worker.crew.ids ++ worker.deliveries.map Prod.fst))
    (early : Early worker.queue worker.crew → Early queue crew)
    (late : Late worker.queue worker.crew → Late queue crew)
    (empty : worker.queue = none → queue = none) :
    Sound { worker with queue := queue, crew := crew, deliveries := deliveries } := by
  have held : (Worker.held { worker with queue, crew, deliveries }).Perm worker.held :=
    same.append_right worker.main.ids
  refine sound.moved rfl rfl rfl exited held.subset held.length_eq.le ?_
  refine sound.phase.kept rfl rfl rfl (fun _ => ?_) early late empty
  rw [← List.length_eq_zero_iff, held.length_eq, List.length_eq_zero_iff]

/-- The thread goes to another place with what it has. -/
theorem Sound.crewed (sound : worker.Sound) {crew : Crew}
    (exited : crew.hasExited = worker.crew.hasExited) (same : crew.ids = worker.crew.ids)
    (leaving : crew.leaving = worker.crew.leaving) : Sound { worker with crew := crew } := by
  apply sound.turned exited
  · rw [same]
  · simp [Early, leaving]
  · simp [Late, leaving]
  · simp

theorem Sound.get (sound : worker.Sound) (getting : worker.crew = .getting) :
    worker.get.Sound := by
  unfold Worker.get
  rcases queue : worker.queue with _ | job
  · exact sound
  · refine sound.turned ?_ ?_ ?_ ?_ ?_
    · simp [getting, Crew.hasExited]
    · simp [getting, queue, queued, Crew.ids]
    · cases job <;> simp [Early, queue, getting, Crew.leaving]
    · cases job <;> simp [Late, queue, getting, Crew.leaving]
    · simp

theorem Sound.look (sound : worker.Sound) {job : Job} (got : worker.crew = .got job) (now : ℚ) :
    (worker.look now job).Sound := by
  rcases job with id | _
  · unfold Worker.look
    by_cases stopping : worker.stopping = true
    · simp only [if_pos stopping]
      refine sound.moved rfl rfl rfl ?_ ?_ ?_ (sound.phase.kept rfl rfl rfl ?_ ?_ ?_ ?_)
      · simp [got, Crew.hasExited]
      · simp [held, got, Crew.ids, Job.ids]
      · simp [held, got, Crew.ids, Job.ids]
      · simp [stopping]
      · simp [Early, got, Crew.leaving]
      · simp [Late, got, Crew.leaving]
      · simp
    · simp only [if_neg stopping]
      apply sound.crewed
      · simp [got, Crew.hasExited]
      · simp [got, Crew.ids, Job.ids]
      · simp [got, Crew.leaving]
  · apply sound.crewed
    · simp [got, Crew.hasExited]
    · simp [got, Crew.ids, Job.ids]
    · simp [got, Crew.leaving]

theorem Sound.pollClient (sound : worker.Sound) {id : ℕ} {startedAt : ℚ}
    (polling : worker.crew = .polling id startedAt) (outcome : Except PyError Snapshot) :
    (worker.pollClient id startedAt outcome).Sound := by
  have running : .closed ∉ worker.trace := by simp [sound.closed, polling, Crew.hasExited]
  have same : (worker.pollClient id startedAt outcome).held = worker.held := by
    simp [Worker.pollClient, note, held, polling, Crew.ids]
  refine sound.noted rfl rfl same (sound.phase.kept rfl rfl rfl ?_ ?_ ?_ ?_) ?_ ?_ ?_ ?_ running
  · simp [same]
  · simp [Worker.pollClient, note, Early, polling, Crew.leaving]
  · simp [Worker.pollClient, note, Late, polling, Crew.leaving]
  · simp [Worker.pollClient, note]
  · simp
  · simp
  · simp [Worker.pollClient, note]
  · simp [Worker.pollClient, note, polling, Crew.hasExited]

theorem Sound.close (sound : worker.Sound) (closing : worker.crew = .closing) :
    Sound { worker.note .closed with crew := .exited } := by
  have running : .closed ∉ worker.trace := by simp [sound.closed, closing, Crew.hasExited]
  have same : Worker.held { worker.note .closed with crew := .exited } = worker.held := by
    simp [note, held, closing, Crew.ids]
  refine sound.noted rfl rfl same (sound.phase.kept rfl rfl rfl ?_ ?_ ?_ id) ?_ ?_ ?_ ?_ running
  · simp [same]
  · simp [note, Early, closing, Crew.leaving]
  · simp [note, Late, closing, Crew.leaving]
  · simp
  · simp
  · simp [note]
  · simp [Crew.hasExited]

/-- **The thread goes on.** -/
theorem Sound.work (sound : worker.Sound) (now : ℚ) (outcome : Except PyError Snapshot) :
    (worker.work now outcome).Sound := by
  unfold Worker.work
  rcases crew : worker.crew with _ | job | ⟨id, startedAt⟩ | ⟨id, snapshot⟩ | _ | _
  · exact sound.get crew
  · exact sound.look crew now
  · exact sound.pollClient crew outcome
  · refine sound.turned ?_ ?_ ?_ ?_ ?_
    · simp [crew, Crew.hasExited]
    · simpa [crew, Crew.ids] using (List.perm_append_singleton id _).append_left _
    · simp [Early, crew, Crew.leaving]
    · simp [Late, crew, Crew.leaving]
    · simp
  · exact sound.close crew
  · exact sound


theorem Sound.begin (sound : worker.Sound) {something : Worker → Worker}
    (kept : worker.main = .free → (something worker).Sound) : (worker.begin something).Sound := by
  unfold Worker.begin
  cases main : worker.main
  case free => exact kept main
  all_goals exact sound

/-- **One step** keeps the invariant. -/
theorem Sound.step (sound : worker.Sound) (step : Step) : (worker.step step).Sound := by
  cases step with
  | poll => exact sound.begin sound.poll
  | deliver => exact sound.begin sound.deliver
  | stop => exact sound.begin sound.stop
  | proceed => exact sound.proceed
  | work now outcome => exact sound.work now outcome

theorem Sound.go (sound : worker.Sound) (steps : List Step) : (worker.go steps).Sound := by
  induction steps generalizing worker with
  | nil => exact sound
  | cons step rest ih => exact ih (sound.step step)

/-- **Every run** keeps the invariant. -/
theorem sound_run (steps : List Step) : (run steps).Sound := sound_new.go steps

/-! ### The next poll of an idle worker -/

/-- The thread waits for a request, where none is held. -/
theorem Sound.waits (sound : worker.Sound) (running : worker.stopping = false)
    (free : worker.main = .free) (nothing : worker.held = []) :
    worker.queue = none ∧ worker.crew = .getting ∧ worker.pending = false := by
  have phase := sound.phase
  simp only [Phase, free, running, if_false, Bool.false_eq_true] at phase
  obtain ⟨⟨noQuit, staying⟩, flag⟩ := phase
  have parts := nothing
  simp only [held, List.append_eq_nil_iff] at parts
  obtain ⟨⟨⟨queue, crew⟩, -⟩, -⟩ := parts
  refine ⟨?_, ?_, ?_⟩
  · rcases job : worker.queue with _ | _ | _ <;> simp_all [queued, Job.ids]
  · rcases place : worker.crew with _ | (_ | _) | _ | _ | _ | _ <;>
      simp_all [Crew.ids, Crew.leaving, Job.ids]
  · rw [← Bool.not_eq_true, flag, not_not]
    exact nothing

/-- A thread that waits for a request takes no step. -/
theorem go_thread (queue : worker.queue = none) (getting : worker.crew = .getting)
    {between : List Step} (thread : ∀ step ∈ between, step.ofThread = true) :
    worker.go between = worker := by
  induction between with
  | nil => rfl
  | cons step rest ih =>
    obtain ⟨first, others⟩ := List.forall_mem_cons.mp thread
    have still : worker.step step = worker := by
      cases step <;> simp_all [Step.ofThread, Worker.step, Worker.work, Worker.get]
    calc worker.go (step :: rest) = (worker.step step).go rest := rfl
      _ = worker := by rw [still, ih others]

theorem Sound.accepts (sound : worker.Sound) (running : worker.stopping = false)
    (free : worker.main = .free) (nothing : worker.held = []) {between : List Step}
    (thread : ∀ step ∈ between, step.ofThread = true) :
    (worker.go (.poll :: between ++ [.proceed])).trace = .accepted worker.next :: worker.trace := by
  obtain ⟨queue, getting, flag⟩ := sound.waits running free nothing
  have begun : worker.step .poll = { worker with main := .putting } := by
    simp [Worker.step, Worker.begin, Worker.poll, free, flag, running]
  have waited : Worker.go { worker with main := .putting } between =
      { worker with main := .putting } := by
    apply go_thread
    · exact queue
    · exact getting
    · exact thread
  have put : worker.go (.poll :: between ++ [.proceed]) =
      Worker.putRequest { worker with main := .putting } := by
    rw [List.cons_append, Worker.go, List.foldl_cons, List.foldl_append, begun]
    exact congrArg (fun worker : Worker => worker.step .proceed) waited
  rw [put]
  simp [Worker.putRequest, queue, note]

/-! ### The exit of the thread -/

/-- What `stop` has still to do before `None` is in the queue. -/
def lag : Main → ℕ
  | .emptying => 2
  | .ending => 1
  | _ => 0

/-- The steps the thread has still to take once `None` is in the queue. -/
def left : Crew → ℕ
  | .polling _ _ => 5
  | .got (.request _) => 4
  | .polled _ _ => 4
  | .getting => 3
  | .got .quit => 2
  | .closing => 1
  | .exited => 0

/-- Once `None` is in the queue, the thread takes it or has taken it. -/
theorem Sound.late (sound : worker.Sound) (stopping : worker.stopping = true)
    (put : lag worker.main = 0) : Late worker.queue worker.crew := by
  have phase := sound.phase
  unfold Phase at phase
  cases main : worker.main <;>
    simp only [main, stopping, lag, if_true] at phase put
  all_goals simp_all

/-- A stopped worker stays so, and `stop` gets on. -/
theorem Sound.stopping_step (sound : worker.Sound) (stopping : worker.stopping = true)
    (step : Step) : (worker.step step).stopping = true ∧
      lag (worker.step step).main ≤ lag worker.main - if step.isProceed then 1 else 0 := by
  have phase := sound.phase
  unfold Phase at phase
  cases step with
  | poll =>
    simp only [Worker.step, Worker.begin, Worker.poll, Step.isProceed]
    cases main : worker.main <;> simp [main, stopping]
  | deliver =>
    simp only [Worker.step, Worker.begin, Worker.deliver, Step.isProceed]
    cases main : worker.main <;> cases worker.deliveries <;> simp [main, stopping, lag]
  | stop =>
    simp only [Worker.step, Worker.begin, Worker.stop, Step.isProceed]
    cases main : worker.main <;> simp [main, stopping, lag]
  | proceed =>
    simp only [Worker.step, Worker.proceed, Step.isProceed]
    cases main : worker.main <;> simp only [main, stopping] at phase
    case ending => simp [Worker.putNone, phase.2.2, stopping, lag]
    all_goals simp_all [Worker.callBack, lag]
  | work now outcome =>
    simp only [Worker.step, Worker.work, Step.isProceed]
    rcases crew : worker.crew with _ | (_ | _) | _ | _ | _ | _ <;> cases queue : worker.queue <;>
      simp [Worker.get, Worker.look, Worker.pollClient, note, queue, stopping]

/-- Once `None` is in the queue, the thread gets on, and nobody else holds it up. -/
theorem Sound.left_step (sound : worker.Sound) (stopping : worker.stopping = true)
    (put : lag worker.main = 0) (step : Step) :
    left (worker.step step).crew ≤ left worker.crew - if step.ofThread then 1 else 0 := by
  have late := sound.late stopping put
  unfold Late at late
  cases step with
  | poll =>
    simp only [Worker.step, Worker.begin, Worker.poll, Step.ofThread]
    cases main : worker.main <;> simp [stopping]
  | deliver =>
    simp only [Worker.step, Worker.begin, Worker.deliver, Step.ofThread]
    cases main : worker.main <;> cases worker.deliveries <;> simp
  | stop =>
    simp only [Worker.step, Worker.begin, Worker.stop, Step.ofThread]
    cases main : worker.main <;> simp [stopping]
  | proceed =>
    simp only [Worker.step, Worker.proceed, Step.ofThread]
    cases main : worker.main <;> cases queue : worker.queue <;>
      simp [Worker.putRequest, Worker.putNone, Worker.callBack, note, queue, stopping]
  | work now outcome =>
    simp only [Worker.step, Worker.work, Step.ofThread]
    rcases crew : worker.crew with _ | (_ | _) | _ | _ | _ | _ <;>
      simp_all [Worker.get, Worker.look, Worker.pollClient, Crew.leaving, left]


theorem Sound.stopping_go (sound : worker.Sound) (stopping : worker.stopping = true)
    (steps : List Step) : (worker.go steps).stopping = true ∧
      lag (worker.go steps).main ≤ lag worker.main - steps.countP Step.isProceed := by
  induction steps generalizing worker with
  | nil => exact ⟨stopping, le_rfl⟩
  | cons step rest ih =>
    obtain ⟨still, less⟩ := sound.stopping_step stopping step
    obtain ⟨ends, fewer⟩ := ih (sound.step step) still
    refine ⟨ends, fewer.trans ?_⟩
    rw [List.countP_cons]
    omega

theorem Sound.left_go (sound : worker.Sound) (stopping : worker.stopping = true)
    (put : lag worker.main = 0) (steps : List Step) :
    left (worker.go steps).crew ≤ left worker.crew - steps.countP Step.ofThread := by
  induction steps generalizing worker with
  | nil => exact le_rfl
  | cons step rest ih =>
    obtain ⟨still, less⟩ := sound.stopping_step stopping step
    have fewer := sound.left_step stopping put step
    have all := ih (sound.step step) still (by omega)
    refine all.trans ?_
    rw [List.countP_cons]
    omega

/-- After two steps of the main loop and then five of the thread, whatever comes between them, a
stopped thread has exited. -/
theorem Sound.exits (sound : worker.Sound) (stopping : worker.stopping = true)
    {first second : List Step} (goesOn : 2 ≤ first.countP Step.isProceed)
    (turns : 5 ≤ second.countP Step.ofThread) :
    ((worker.go first).go second).crew = .exited := by
  obtain ⟨still, fewer⟩ := sound.stopping_go stopping first
  have most : lag worker.main ≤ 2 := by cases worker.main <;> simp [lag]
  have less := (sound.go first).left_go still (by omega) second
  have enough : left (worker.go first).crew ≤ 5 := by
    rcases (worker.go first).crew with _ | (_ | _) | _ | _ | _ | _ <;> simp [left]
  have none : left ((worker.go first).go second).crew = 0 := by omega
  rcases crew : ((worker.go first).go second).crew with _ | (_ | _) | _ | _ | _ | _ <;>
    simp_all [left]

/-- **One poll at a time.** In every run at most one request is held, nothing happens after what
forbids it, the flag says whether a request is held, the next poll of an idle worker is accepted,
and the thread of a stopped one exits, having closed the client. -/
theorem one_poll_at_a_time (steps : List Step) :
    (run steps).held.length ≤ 1 ∧
      Throughout Allowed (run steps).trace ∧
      ((run steps).stopping = false → (run steps).main = .free →
        ((run steps).pending = true ↔ (run steps).held ≠ []) ∧
          ((run steps).held = [] → ∀ between : List Step,
            (∀ step ∈ between, step.ofThread = true) →
              ((run steps).go (.poll :: between ++ [.proceed])).trace =
                .accepted (run steps).next :: (run steps).trace)) ∧
      ((run steps).stopping = true ↔ .stopped ∈ (run steps).trace) ∧
      ((run steps).stopping = true → ∀ first second : List Step,
        2 ≤ first.countP Step.isProceed → 5 ≤ second.countP Step.ofThread →
          (((run steps).go first).go second).crew = .exited) ∧
      (.closed ∈ (run steps).trace ↔ (run steps).crew.hasExited = true) := by
  have sound := sound_run steps
  refine ⟨sound.one, sound.allowed, fun running free => ⟨?_, fun nothing between thread => ?_⟩,
    sound.stopped.symm, fun stopping first second goesOn turns => ?_, sound.closed⟩
  · have phase := sound.phase
    simp only [Phase, free, running, if_false, Bool.false_eq_true] at phase
    exact phase.2
  · exact sound.accepts running free nothing thread
  · exact sound.exits stopping goesOn turns

end Worker

end DbusEv.Poll
