/-
**What a poll of the evcc client does when its environment answers so.**

The client is its process's own: whatever the others do between two steps, it stays, and the clocks
go on. So the outcome of its programs is a matter of what its environment answers.

* `Ends answers x Q X s` — `x` ends in `Q` with a value, or in `X` with an exception, whichever of
  the answers each step gets.
* `Untouched`, `Replaced`, `Recorded` — from one state to another the reading stays, a candidate
  replaces it, or one failure is recorded.
* `ends_failure`, `ends_takeReading`, … — the outcome of each function, one lemma for each way it
  goes.
-/

import DbusEv.Providers.Evcc

set_option autoImplicit false
set_option linter.unusedSectionVars false

namespace DbusEv.Evcc

open Thread

/-! ### The answers -/

/-- Both clocks are no earlier. -/
structure Later (s t : State) : Prop where
  mono : s.2.mono ≤ t.2.mono
  wall : s.2.wall ≤ t.2.wall

theorem Later.refl (s : State) : Later s s := ⟨le_rfl, le_rfl⟩

theorem Later.trans {s t u : State} (first : Later s t) (second : Later t u) : Later s u :=
  ⟨first.mono.trans second.mono, first.wall.trans second.wall⟩

/-- Nobody else touches the client, and the clocks go on. -/
def undisturbed : Law State where
  rely s t := t.1 = s.1 ∧ Later s t
  may _ _ := True
  inv _ := True

/-- Whichever of the answers each step gets, the program ends so. -/
def Ends {E α : Type} (answers : E → Answer) (x : Program α) (Q : α → State → Prop)
    (X : PyError → State → Prop) (s : State) : Prop := wp undisturbed (x.given answers) Q X s

section Rules

variable {E α β : Type} {answers : E → Answer} {Q Q' : α → State → Prop}
  {X X' : PyError → State → Prop} {s : State}

theorem ends_bind (x : Program β) (f : β → Program α) :
    Ends answers (x >>= f) Q X s ↔
      Ends answers x (fun value t => Ends answers (f value) Q X t) X s := by
  unfold Ends
  rw [given_bind, wp_bind]

theorem ends_mono {x : Program α} (ends : Ends answers x Q X s) (value : ∀ a t, Q a t → Q' a t)
    (thrown : ∀ e t, X e t → X' e t) : Ends answers x Q' X' s := wp_mono ends value thrown

/-- A program cannot both return and raise. -/
theorem ends_conflict [Inhabited E] {x : Program α}
    (returns : Ends answers x Q (fun _ _ => False) s)
    (raises : Ends answers x (fun _ _ => False) X s) : False := by
  have refl : ∀ s, undisturbed.rely s s := fun s => ⟨rfl, Later.refl s⟩
  exact wp_conflict refl (fun _ => trivial) returns raises

/-- Fewer answers. -/
theorem ends_narrow {E' : Type} (among : E' → E) {x : Program α} (ends : Ends answers x Q X s) :
    Ends (fun e => answers (among e)) x Q X s := by
  unfold Ends at *
  induction x generalizing s with
  | done result => rcases result with e | value <;> exact ends
  | step change next ih =>
    intro t others inv e
    obtain ⟨kept, allowed, rest⟩ := ends t others inv (among e)
    exact ⟨kept, allowed, ih _ _ rest⟩

theorem ends_handle {x : Program α} {handler : PyError → Option (Program α)}
    (body : Ends answers x Q (fun e t => (∀ recover, handler e = some recover →
      Ends answers recover Q X t) ∧ (handler e = none → X e t)) s) :
    Ends answers (x.handle handler) Q X s := by
  unfold Ends at *
  rw [given_handle, wp_handle]
  refine wp_mono body (fun _ _ holds => holds) fun e t both => ?_
  rcases caught : handler e with _ | recover
  · exact both.2 caught
  · exact both.1 recover caught

theorem ends_atomic {x : Answer → Exec State PyError α}
    (next : ∀ t, t.1 = s.1 → Later s t → ∀ e, Exec.wp (x (answers e)) Q X t) :
    Ends answers (atomic x) Q X s := by
  show wp undisturbed (atomic fun e => x (answers e)) Q X s
  rw [wp_atomic]
  rintro t ⟨own, later⟩ - e
  exact Exec.wp_mono (next t own later e) (fun _ _ holds => ⟨trivial, trivial, holds⟩)
    fun _ _ holds => ⟨trivial, trivial, holds⟩

theorem ends_look {f : State → Program α}
    (next : ∀ client host, client = s.1 → Later s (client, host) →
      Ends answers (f (client, host)) Q X (client, host)) :
    Ends answers (look >>= f) Q X s := by
  rw [ends_bind]
  rintro ⟨client, host⟩ ⟨own, later⟩ - -
  exact ⟨trivial, trivial, next client host own later⟩

theorem ends_alter {f : State → State} {Q : Unit → State → Prop}
    (next : ∀ t, t.1 = s.1 → Later s t → Q () (f t)) : Ends answers (alter f) Q X s := by
  rintro t ⟨own, later⟩ - -
  exact ⟨trivial, trivial, next t own later⟩

theorem ends_save {changes : Dict PyValue} {Q : Unit → State → Prop}
    (saves : ∀ e, (answers e).saves = none)
    (next : ∀ t, t.1 = s.1 → Later s t → Q () (stored (t.1.data.update changes) t)) :
    Ends answers (save changes) Q X s := by
  rintro t ⟨own, later⟩ - e
  refine ⟨trivial, trivial, ?_⟩
  simp only [saves e]
  exact next t own later

theorem ends_saveReading {changes : Dict PyValue} {Q : Unit → State → Prop}
    (saves : ∀ e, (answers e).saves = none)
    (next : ∀ t, t.1 = s.1 → Later s t → Q () (stored (t.1.data.update changes) t)) :
    Ends answers (saveReading changes) Q X s := by
  rintro t ⟨own, later⟩ - e
  refine ⟨trivial, trivial, ?_⟩
  simp only [saves e]
  exact next t own later

theorem ends_ofExcept {value : Except PyError β} {found : β} {f : β → Program α}
    (same : value = .ok found) (next : Ends answers (f found) Q X s) :
    Ends answers (ofExcept value >>= f) Q X s := by
  rw [same]
  exact next

theorem ends_ofExcept_error {value : Except PyError β} {e : PyError} {f : β → Program α}
    (same : value = .error e) (thrown : X e s) : Ends answers (ofExcept value >>= f) Q X s := by
  rw [same]
  exact thrown

end Rules

/-! ### From one state to another -/

/-- The reading and the failure count are the same, and so is the engine. -/
structure Untouched (s t : State) : Prop where
  later : Later s t
  snapshot : t.1.snapshot = s.1.snapshot
  received : t.1.received = s.1.received
  sampledAt : t.1.sampledAt = s.1.sampledAt
  failures : t.1.data.get "failures" = s.1.data.get "failures"

theorem Untouched.of_same {s t : State} (own : t.1 = s.1) (later : Later s t) : Untouched s t :=
  ⟨later, by rw [own], by rw [own], by rw [own], by rw [own]⟩

theorem Untouched.trans {s t u : State} (first : Untouched s t) (second : Untouched t u) :
    Untouched s u :=
  ⟨first.later.trans second.later, second.snapshot.trans first.snapshot,
    second.received.trans first.received, second.sampledAt.trans first.sampledAt,
    second.failures.trans first.failures⟩

/-- A save that leaves the failure count alone. -/
theorem Untouched.stored {s t : State} (untouched : Untouched s t) {changes : Dict PyValue}
    (other : (t.1.data.update changes).get "failures" = t.1.data.get "failures") :
    Untouched s (stored (t.1.data.update changes) t) :=
  ⟨⟨untouched.later.mono, untouched.later.wall⟩, untouched.snapshot, untouched.received,
    untouched.sampledAt, other.trans untouched.failures⟩

/-- A candidate replaced the reading, with the times at which the poll began. -/
structure Replaced (candidate : Vehicle) (s : State) (client : EvccClient) : Prop where
  snapshot : client.snapshot = some candidate
  received : ∃ startedAt, client.received = some startedAt ∧ s.2.mono ≤ startedAt
  sampledAt : ∃ now, client.sampledAt = some now ∧ s.2.wall ≤ now
  failures : client.data.get "failures" = some (.int 0)

/-- One failure was recorded: the count is one more, up to five, and the next poll is due after the
delay of that count, and after the delay the reply asked for. -/
structure Recorded (config : Config) (retryAfter : Option ℚ) (count : ℤ) (s : State)
    (client : EvccClient) : Prop where
  snapshot : client.snapshot = s.1.snapshot
  received : client.received = s.1.received
  sampledAt : client.sampledAt = s.1.sampledAt
  failures : client.data.get "failures" = some (.int (min 5 (count + 1)))
  nextPoll : ∃ wall, s.2.wall ≤ wall ∧ client.data.get "next_poll" =
    some (.float (.finite (wall + failureDelay config (min 5 (count + 1)) retryAfter)))

theorem Recorded.after {config : Config} {retryAfter : Option ℚ} {count : ℤ} {s t : State}
    {client : EvccClient} (first : Untouched s t)
    (recorded : Recorded config retryAfter count t client) :
    Recorded config retryAfter count s client := by
  obtain ⟨wall, later, nextPoll⟩ := recorded.nextPoll
  exact ⟨recorded.snapshot.trans first.snapshot, recorded.received.trans first.received,
    recorded.sampledAt.trans first.sampledAt, recorded.failures,
    ⟨wall, first.later.wall.trans later, nextPoll⟩⟩

/-- A client that differs at most in its engine. -/
def SameButEngine (s t : State) : Prop := t.1 = { s.1 with engine := t.1.engine }

theorem Recorded.engine {config : Config} {retryAfter : Option ℚ} {count : ℤ} {s t u : State}
    (recorded : Recorded config retryAfter count s t.1) (same : SameButEngine t u) :
    Recorded config retryAfter count s u.1 := by
  unfold SameButEngine at same
  rw [same]
  exact { recorded with }

theorem Untouched.engine {s t : State} (same : SameButEngine s t) (later : Later s t) :
    Untouched s t := by
  unfold SameButEngine at same
  refine ⟨later, ?_, ?_, ?_, ?_⟩ <;> rw [same]

/-! ### The failure count -/

/-- The saved failure count. -/
def Counts (data : Dict PyValue) (count : ℤ) : Prop :=
  (data.get "failures").getD (.int 0) = .int count ∧ 0 ≤ count

theorem Counts.untouched {s t : State} {count : ℤ} (counts : Counts s.1.data count)
    (untouched : Untouched s t) : Counts t.1.data count := by
  unfold Counts at *
  rw [untouched.failures]
  exact counts

section Outcomes

variable {E : Type} [PyText] {answers : E → Answer} {config : Config} {s : State}

/-- A failure counts one more, up to five. -/
theorem failureCount_eq {data : Dict PyValue} {count : ℤ} (counts : Counts data count) :
    failureCount data = .ok (min 5 (count + 1)) := by
  unfold failureCount
  rw [counts.1]
  rfl

/-! ### Stopping the engine -/

theorem ends_stopEngine {guarded : Bool} {Q : Unit → State → Prop} {X : PyError → State → Prop}
    (closes : ∀ e, (answers e).closes = none)
    (next : ∀ t, SameButEngine s t → Later s t → Q () t) :
    Ends answers (stopEngine guarded) Q X s := by
  unfold stopEngine
  refine ends_look fun client host own later => ?_
  show Ends answers (if client.engine = true then closeEngine guarded else pure ()) _ _ _
  split
  · rintro t ⟨same, after⟩ - -
    refine ⟨trivial, trivial, ?_⟩
    simp only [closes]
    refine next _ ?_ (later.trans ⟨after.mono, after.wall⟩)
    show ({ t.1 with engine := false } : EvccClient) = { s.1 with engine := false }
    rw [same, own]
  · exact next (client, host) (by unfold SameButEngine; rw [← own]) later

/-- An engine that cannot be closed stays. -/
theorem ends_stopEngine_raises {guarded : Bool} {Q : Unit → State → Prop} {e : PyError}
    (closes : ∀ i, (answers i).closes = some e) (engine : s.1.engine = true) :
    Ends answers (stopEngine guarded) Q (fun found t => found = e ∧ t.1 = s.1 ∧ Later s t) s := by
  unfold stopEngine
  refine ends_look fun client host own later => ?_
  rw [← own] at engine
  show Ends answers (if client.engine = true then _ else _) _ _ _
  rw [if_pos engine]
  rintro t ⟨same, after⟩ - -
  refine ⟨trivial, trivial, ?_⟩
  simp only [closes]
  exact ⟨rfl, same.trans own, later.trans ⟨after.mono, after.wall⟩⟩

/-! ### A failure -/

/-- The failure of this reply stops the engine. -/
def stopsAfter (response : Dict PyValue) : Bool :=
  let kind := (response.get "error").getD (.str "provider")
  needsOperator kind || isRateLimit kind

/-- The failure up to its save. -/
theorem ends_failure_saved {guarded : Bool} {response : Dict PyValue} {count : ℤ}
    {retryAfter : Option ℚ} {Q : Unit → State → Prop} {X : PyError → State → Prop}
    (saves : ∀ e, (answers e).saves = none) (counts : Counts s.1.data count)
    (retry : numberAt response "retry_after" atLeastZero = .ok retryAfter)
    (next : ∀ t, Recorded config retryAfter count s t.1 → t.1.engine = s.1.engine →
      Ends answers (if stopsAfter response then stopEngine guarded else pure ()) Q X t) :
    Ends answers (failure config guarded response) Q X s := by
  unfold failure
  refine ends_look fun client host own later => ?_
  rw [← own] at counts
  refine ends_ofExcept (failureCount_eq counts) (ends_ofExcept retry ?_)
  refine ends_look fun client' host' own' later' => ?_
  rw [ends_bind]
  refine ends_save saves fun t same after => ?_
  have before : t.1 = s.1 := same.trans (own'.trans own)
  refine next _ ⟨?_, ?_, ?_, ?_, host'.wall, (later.trans later').wall, ?_⟩ ?_
  · rw [← before]
    rfl
  · rw [← before]
    rfl
  · rw [← before]
    rfl
  · simp [stored, Dict.update]
  · simp [stored, Dict.update]
  · rw [← before]
    rfl

/-- **A failure is recorded** once. -/
theorem ends_failure {guarded : Bool} {response : Dict PyValue} {count : ℤ}
    {retryAfter : Option ℚ} {X : PyError → State → Prop} (saves : ∀ e, (answers e).saves = none)
    (counts : Counts s.1.data count)
    (retry : numberAt response "retry_after" atLeastZero = .ok retryAfter)
    (closes : stopsAfter response = true → ∀ e, (answers e).closes = none) :
    Ends answers (failure config guarded response)
      (fun _ t => Recorded config retryAfter count s t.1) X s := by
  refine ends_failure_saved saves counts retry fun t recorded _ => ?_
  rcases stops : stopsAfter response with _ | _
  · exact recorded
  · exact ends_stopEngine (closes stops) fun u same _ => recorded.engine same

/-- … but it raises when its engine cannot be closed. -/
theorem ends_failure_raises {guarded : Bool} {response : Dict PyValue} {count : ℤ}
    {retryAfter : Option ℚ} {e : PyError} (saves : ∀ e, (answers e).saves = none)
    (counts : Counts s.1.data count)
    (retry : numberAt response "retry_after" atLeastZero = .ok retryAfter)
    (stops : stopsAfter response = true) (closes : ∀ i, (answers i).closes = some e)
    (engine : s.1.engine = true) :
    Ends answers (failure config guarded response) (fun _ _ => False)
      (fun found t => found = e ∧ t.1.engine = true) s := by
  refine ends_failure_saved saves counts retry fun t _ kept => ?_
  rw [if_pos stops]
  refine ends_mono (ends_stopEngine_raises (Q := fun _ _ => False) closes (kept.trans engine))
    (fun _ _ never => never) fun found u both => ⟨both.1, ?_⟩
  rw [both.2.1, kept, engine]

/-- A retry delay that cannot be converted raises. -/
theorem ends_failure_error {guarded : Bool} {response : Dict PyValue} {count : ℤ} {e : PyError}
    {Q : Unit → State → Prop} (counts : Counts s.1.data count)
    (retry : numberAt response "retry_after" atLeastZero = .error e) :
    Ends answers (failure config guarded response) Q (fun found _ => found = e) s := by
  unfold failure
  refine ends_look fun client host own later => ?_
  rw [← own] at counts
  exact ends_ofExcept (failureCount_eq counts) (ends_ofExcept_error retry rfl)

/-! ### A poll -/

theorem reachedAt_later {now later : ℚ} {value : PyValue} (after : now ≤ later)
    (reached : value.reachedAt now = .ok true) : value.reachedAt later = .ok true := by
  cases value with
  | bool flag =>
    have before := of_decide_eq_true (Except.ok.inj reached)
    exact congrArg Except.ok (decide_eq_true (before.trans after))
  | int number =>
    have before := of_decide_eq_true (Except.ok.inj reached)
    exact congrArg Except.ok (decide_eq_true (before.trans after))
  | float number =>
    cases number with
    | finite number =>
      have before := of_decide_eq_true (Except.ok.inj reached)
      exact congrArg Except.ok (decide_eq_true (before.trans after))
    | inf negative => exact reached
    | nan => cases reached
  | _ => cases reached

/-- A poll that is admitted stays so. -/
theorem admits_later {client : EvccClient} {now later : ℚ} (after : now ≤ later)
    (admitted : client.admits now = .ok true) : client.admits later = .ok true := by
  unfold EvccClient.admits at *
  split at admitted
  · cases admitted
  · rename_i open_
    rw [if_neg open_]
    rcases reached : due client.data "next_poll" now with e | _ | _
    · rw [reached] at admitted
      cases admitted
    · rw [reached] at admitted
      cases admitted
    · have again : due client.data "next_poll" later = .ok true := reachedAt_later after reached
      simp only [reached] at admitted
      simp only [again]
      split at admitted
      · rename_i engine
        rw [if_pos engine]
      · rename_i engine
        rw [if_neg engine]
        exact reachedAt_later after admitted

/-- The handler of `_poll_engine` goes on where the exception is caught. -/
def Handled (answers : E → Answer) (config : Config) (Q : EvccClient → Prop)
    (X : PyError → State → Prop) (e : PyError) (t : State) : Prop :=
  (∀ recover, engineFailed config e = some recover →
    Ends answers recover (fun _ u => Q u.1) X t) ∧ (engineFailed config e = none → X e t)

/-- The engine is there and replies. -/
theorem ends_useEngine {process : ℕ} {startedAt now : ℚ} {response : Dict PyValue}
    {Q : Unit → State → Prop} {X : PyError → State → Prop} (builds : ∀ e, (answers e).builds = none)
    (reply : ∀ e, (answers e).reply = .ok response)
    (next : ∀ u, Untouched s u → u.1.engine = true →
      Ends answers (takeReply config startedAt now response) Q X u) :
    Ends answers (useEngine config process startedAt now) Q X s := by
  have asked : ∀ t, Untouched s t → t.1.engine = true →
      Ends answers (askEngine process now >>= takeReply config startedAt now) Q X t := by
    intro t before engine
    rw [ends_bind]
    refine ends_atomic fun u own later e => ?_
    rw [Exec.wp_bind, Exec.wp_change]
    simp only [reply e]
    refine next _ (before.trans ⟨⟨later.mono, later.wall⟩, ?_, ?_, ?_, ?_⟩) ?_
    all_goals simp only [own]
    exact engine
  unfold useEngine ensureEngine
  rw [ends_bind]
  refine ends_look fun client host own later => ?_
  show Ends answers (if client.engine = true then pure () else construct process now) _ _ _
  split
  · rename_i engine
    exact asked _ (Untouched.of_same own later) engine
  · refine ends_atomic fun u same after e => ?_
    rw [Exec.wp_bind, Exec.wp_change]
    simp only [builds e]
    refine asked _ (.engine ?_ (later.trans ⟨after.mono, after.wall⟩)) rfl
    show ({ u.1 with engine := true } : EvccClient) = { s.1 with engine := true }
    rw [same, own]

/-- **An admitted poll** asks the engine, and goes on with its reply. -/
theorem ends_poll {process : ℕ} {response : Dict PyValue} {Q : EvccClient → Prop}
    {X : PyError → State → Prop} (started : s.1.started = true)
    (admitted : s.1.admits s.2.wall = .ok true) (saves : ∀ e, (answers e).saves = none)
    (builds : ∀ e, (answers e).builds = none) (reply : ∀ e, (answers e).reply = .ok response)
    (next : ∀ u startedAt now, Untouched s u → u.1.engine = true → s.2.mono ≤ startedAt →
      s.2.wall ≤ now → Ends answers (takeReply config startedAt now response) (fun _ t => Q t.1)
        (Handled answers config Q X) u) :
    Ends answers (poll config process) (fun _ t => Q t.1) X s := by
  -- the last step reads the client only
  have polled : ∀ t : State, Q t.1 → Ends answers
      (look >>= fun state => (pure (state.1.polled config state.2.mono) : Program Polled))
      (fun _ t => Q t.1) X t := fun t holds =>
    ends_look fun client host own _ => by rw [← own] at holds; exact holds
  unfold poll start
  rw [ends_bind]
  refine ends_look fun client host own later => ?_
  show Ends answers (if client.started = true then pure () else _) _ _ _
  rw [if_pos (by rw [own]; exact started)]
  refine ends_look fun client' host' own' later' => ?_
  have same : client' = s.1 := own'.trans own
  have wall : s.2.wall ≤ host'.wall := (later.trans later').wall
  have due : client'.admits host'.wall = .ok true := by
    rw [same]
    exact admits_later wall admitted
  refine ends_ofExcept due ?_
  rw [ends_bind]
  show Ends answers (pollEngine config process host'.wall) _ _ _
  have reserved : Untouched s (client', host') := Untouched.of_same same (later.trans later')
  unfold pollEngine reserveLogin
  rw [ends_bind]
  refine ends_save saves fun t kept after => ?_
  have first : Untouched s (stored (t.1.data.update
      [("next_poll", .float (.finite (host'.wall + config.pollInterval)))]) t) :=
    (reserved.trans (Untouched.of_same kept after)).stored (by simp [Dict.update])
  rw [ends_bind]
  refine ends_look fun client₂ host₂ own₂ later₂ => ?_
  have second := first.trans (Untouched.of_same own₂ later₂)
  have used : ∀ u, Untouched s u → Ends answers (look >>= fun state =>
      (useEngine config process state.2.mono host'.wall).handle (engineFailed config))
      (fun _ v => Ends answers (look >>= fun state =>
        (pure (state.1.polled config state.2.mono) : Program Polled)) (fun _ t => Q t.1) X v) X
      u := by
    intro u before
    refine ends_look fun client₃ host₃ own₃ later₃ => ends_handle ?_
    have third := before.trans (Untouched.of_same own₃ later₃)
    refine ends_useEngine builds reply fun v asked engine => ?_
    refine ends_mono (next v host₃.mono host'.wall (third.trans asked) engine third.later.mono wall)
      (fun _ w holds => polled w holds) fun e w handled => ⟨fun recover caught => ?_, handled.2⟩
    exact ends_mono (handled.1 recover caught) (fun _ x holds => polled x holds)
      fun _ _ thrown => thrown
  show Ends answers (if client₂.engine = true then pure () else _) _ _ _
  split
  · exact used _ second
  · refine ends_save saves fun u kept₂ after₂ => used _ ?_
    exact (second.trans (Untouched.of_same kept₂ after₂)).stored (by simp [Dict.update])

/-! ### A reply -/

/-- **A candidate with a state of charge** replaces the reading. -/
theorem ends_takeReading {startedAt now : ℚ} {data : Dict PyValue} {candidate : Vehicle} {soc : ℚ}
    {origin : State} {X : PyError → State → Prop} (saves : ∀ e, (answers e).saves = none)
    (normal : normalize data config.vin config.capacity config.home = .ok candidate)
    (charge : candidate.soc = some soc) (mono : origin.2.mono ≤ startedAt)
    (wall : origin.2.wall ≤ now) :
    Ends answers (takeReading config startedAt now data)
      (fun _ t => Replaced candidate origin t.1) X s := by
  unfold takeReading
  refine ends_ofExcept normal ?_
  simp only [charge]
  rw [ends_bind]
  refine ends_alter fun t own later => ends_look fun client host own' later' => ?_
  refine ends_saveReading saves fun u own'' _ => ?_
  have same : u.1 = (acquired startedAt now candidate t).1 := own''.trans own'
  refine ⟨?_, ⟨startedAt, ?_, mono⟩, ⟨now, ?_, wall⟩, ?_⟩
  · show u.1.snapshot = _
    rw [same]
    rfl
  · show u.1.received = _
    rw [same]
    rfl
  · show u.1.sampledAt = _
    rw [same]
    rfl
  · simp [stored, Dict.update]

/-- A candidate without one raises, and so does data that cannot be converted. -/
theorem ends_takeReading_raises {startedAt now : ℚ} {data : Dict PyValue} {e : PyError}
    {Q : Unit → State → Prop}
    (raised : normalize data config.vin config.capacity config.home = .error e ∨
      e = .value ∧ ∃ candidate,
        normalize data config.vin config.capacity config.home = .ok candidate ∧
          candidate.soc = none) :
    Ends answers (takeReading config startedAt now data) Q (fun found t => found = e ∧ t = s)
      s := by
  unfold takeReading
  rcases raised with failed | ⟨rfl, candidate, normal, missing⟩
  · exact ends_ofExcept_error failed ⟨rfl, rfl⟩
  · refine ends_ofExcept normal ?_
    simp only [missing]
    exact ⟨rfl, rfl⟩

end Outcomes

end DbusEv.Evcc
