/-
**What a step of the evcc client does to its acquisition.**

A step keeps the snapshot and its time, or replaces both by a reading with a state of charge, and
records it (`Acquires`). Every step of `poll` and `close` is of this kind, wherever it is taken, and
`poll` returns what the client holds at its end (`poll_acquires`).
-/

import DbusEv.Providers.Evcc

set_option autoImplicit false
set_option linter.unusedSectionVars false

namespace DbusEv.Evcc

open Thread

/-- A step keeps the acquisition, or replaces it by a reading that it records. -/
def Acquires (s t : State) : Prop :=
  ∃ new, t.2.trace = new ++ s.2.trace ∧
    (t.1.received = s.1.received ∨
      ∃ startedAt vehicle, t.1.received = some startedAt ∧ vehicle.soc.isSome = true ∧
        .acquired startedAt vehicle ∈ new)

/-- An event that is no part of taking a reading. -/
def Event.isSilent : Event → Bool
  | .acquired _ _ => false
  | .unsaved _ => false
  | _ => true

/-- A step that does not touch the acquisition, and records none. -/
def Silent (s t : State) : Prop :=
  t.1.received = s.1.received ∧
    ∃ new, t.2.trace = new ++ s.2.trace ∧ ∀ event ∈ new, event.isSilent = true

theorem Silent.acquires {s t : State} (silent : Silent s t) : Acquires s t :=
  have ⟨same, new, trace, _⟩ := silent
  ⟨new, trace, .inl same⟩

/-- A step that records nothing. -/
theorem Silent.quiet {s t : State} (trace : t.2.trace = s.2.trace)
      (same : t.1.received = s.1.received) : Silent s t :=
  ⟨same, [], trace, List.forall_mem_nil _⟩

/-- A step that records one event. -/
theorem Silent.note {s t : State} (event : Event) (silent : event.isSilent = true)
    (trace : t.2.trace = event :: s.2.trace) (same : t.1.received = s.1.received) : Silent s t :=
  ⟨same, [event], trace, List.forall_mem_singleton.mpr silent⟩

theorem acquires_of_silent {α : Type} {x : Program α} (silent : Stepwise Silent x) :
    Stepwise Acquires x := stepwise_mono silent fun _ _ => Silent.acquires

section Steps

variable {α : Type}

theorem silent_look : Stepwise Silent look := stepwise_atomic fun _ _ => .quiet rfl rfl

theorem silent_alter {f : State → State} (silent : ∀ s, Silent s (f s)) :
    Stepwise Silent (alter f) := stepwise_atomic fun _ s => silent s

theorem silent_attempt {raises : Answer → Option PyError} {f : State → State}
    (silent : ∀ s, Silent s (f s)) : Stepwise Silent (attempt raises f) := by
  refine stepwise_atomic fun answer s => ?_
  rcases raises answer with _ | e
  · exact silent s
  · exact .quiet rfl rfl

theorem silent_ofExcept (value : Except PyError α) : Stepwise Silent (ofExcept value) := by
  rcases value with e | value
  · exact stepwise_raise e
  · exact stepwise_pure value

theorem silent_save (changes : Dict PyValue) : Stepwise Silent (save changes) :=
  silent_attempt fun _ => .note _ rfl rfl rfl

theorem silent_flock (process : ℕ) : Stepwise Silent (flock process) := by
  refine stepwise_atomic fun _ s => ?_
  rw [Exec.wp_bind, Exec.wp_read]
  rcases held : s.2.holder with _ | other
  · simp only [held]
    exact .quiet rfl rfl
  · simp only [held]
    exact .quiet rfl rfl

theorem silent_acquire (process : ℕ) : Stepwise Silent (acquire process) := by
  unfold acquire
  refine stepwise_bind (silent_attempt fun _ => .quiet rfl rfl) fun _ => ?_
  refine stepwise_bind (silent_flock process) fun _ => silent_attempt fun s => ?_
  unfold reload
  rcases s.2.file with _ | data <;> exact .quiet rfl rfl

theorem silent_start (process : ℕ) : Stepwise Silent (start process) := by
  unfold start
  refine stepwise_bind silent_look fun _ => stepwise_ite (stepwise_pure ()) ?_
  exact stepwise_bind (silent_acquire process) fun _ => silent_alter fun _ => .quiet rfl rfl

theorem silent_stopEngine (guarded : Bool) : Stepwise Silent (stopEngine guarded) := by
  unfold stopEngine
  refine stepwise_bind silent_look fun _ => stepwise_ite ?_ (stepwise_pure ())
  refine stepwise_atomic fun answer s => ?_
  rcases answer.closes with _ | e
  · exact .quiet rfl rfl
  · exact .note _ rfl rfl rfl

theorem silent_ensureEngine (process : ℕ) (now : ℚ) :
    Stepwise Silent (ensureEngine process now) := by
  unfold ensureEngine
  refine stepwise_bind silent_look fun _ => stepwise_ite (stepwise_pure ()) ?_
  refine stepwise_atomic fun answer s => ?_
  rw [Exec.wp_bind, Exec.wp_change]
  rcases answer.builds with _ | e <;> exact .note _ rfl rfl rfl

theorem silent_askEngine (process : ℕ) (now : ℚ) : Stepwise Silent (askEngine process now) := by
  refine stepwise_atomic fun answer s => ?_
  rw [Exec.wp_bind, Exec.wp_change]
  rcases answer.reply with e | reply <;> exact .note _ rfl rfl rfl

theorem silent_reserveLogin (now : ℚ) : Stepwise Silent (reserveLogin now) :=
  stepwise_bind silent_look fun _ => stepwise_ite (stepwise_pure ()) (silent_save _)

theorem silent_close (process : ℕ) : Stepwise Silent (close process) :=
  stepwise_bind (silent_stopEngine false) fun _ => silent_alter fun _ => .quiet rfl rfl

variable [PyText]

/-- **A failure** acquires nothing, whatever it is the failure of. -/
theorem silent_failure (config : Config) (guarded : Bool) (response : Dict PyValue) :
    Stepwise Silent (failure config guarded response) := by
  unfold failure
  refine stepwise_bind silent_look fun _ => ?_
  refine stepwise_bind (silent_ofExcept _) fun _ => ?_
  refine stepwise_bind (silent_ofExcept _) fun _ => ?_
  refine stepwise_bind silent_look fun _ => ?_
  refine stepwise_bind (silent_save _) fun _ => ?_
  exact stepwise_ite (silent_stopEngine guarded) (stepwise_pure ())

theorem silent_engineFailed {config : Config} {e : PyError} {recover : Program Unit}
    (handled : engineFailed config e = some recover) : Stepwise Silent recover := by
  unfold engineFailed at handled
  split at handled
  · cases handled
    exact stepwise_bind (silent_stopEngine false) fun _ => silent_failure config false _
  · cases handled

/-- **A reading** with a state of charge is acquired. -/
theorem acquires_takeReading (config : Config) (startedAt now : ℚ) (data : Dict PyValue) :
    Stepwise Acquires (takeReading config startedAt now data) := by
  unfold takeReading
  refine stepwise_bind (acquires_of_silent (silent_ofExcept _)) fun candidate => ?_
  rcases soc : candidate.soc with _ | value
  · exact stepwise_raise _
  · refine stepwise_bind (stepwise_atomic fun _ s => ?_) fun _ => ?_
    · refine ⟨[.acquired startedAt candidate], rfl, .inr ⟨startedAt, candidate, rfl, ?_, ?_⟩⟩
      · rw [soc]
        rfl
      · exact List.mem_singleton_self _
    · refine stepwise_bind (acquires_of_silent silent_look) fun _ => ?_
      refine stepwise_atomic fun answer s => ?_
      rcases answer.saves with _ | e <;> exact ⟨[_], rfl, .inl rfl⟩

theorem acquires_pollEngine (config : Config) (process : ℕ) (now : ℚ) :
    Stepwise Acquires (pollEngine config process now) := by
  unfold pollEngine
  refine stepwise_bind (acquires_of_silent (silent_save _)) fun _ => ?_
  refine stepwise_bind (acquires_of_silent (silent_reserveLogin now)) fun _ => ?_
  refine stepwise_bind (acquires_of_silent silent_look) fun _ => ?_
  refine stepwise_handle ?_ fun e recover handled =>
    acquires_of_silent (silent_engineFailed handled)
  unfold useEngine
  refine stepwise_bind (acquires_of_silent (silent_ensureEngine process now)) fun _ => ?_
  refine stepwise_bind (acquires_of_silent (silent_askEngine process now)) fun response => ?_
  unfold takeReply
  rcases readingOf response with _ | data
  · exact (acquires_of_silent (silent_failure config true response))
  · exact acquires_takeReading config _ now data

/-- **A poll** acquires by its steps, and returns what the client holds at its end. -/
theorem poll_acquires (config : Config) (process : ℕ) (s : State) :
    wp (Law.alone Acquires) (poll config process)
      (fun polled t => polled = t.1.polled config t.2.mono) (fun _ _ => True) s := by
  unfold poll
  rw [wp_bind]
  refine wp_mono (acquires_of_silent (silent_start process) s) (fun _ t _ => ?_)
    fun _ _ _ => trivial
  rw [wp_bind]
  refine wp_mono ((acquires_of_silent silent_look) t) (fun seen u _ => ?_) fun _ _ _ => trivial
  rw [wp_bind]
  refine wp_mono (acquires_of_silent (silent_ofExcept _) u) (fun admitted v _ => ?_)
    fun _ _ _ => trivial
  rw [wp_bind]
  have polled : Stepwise Acquires
      (pollIfAdmitted config process admitted seen.2.wall) :=
    stepwise_ite (acquires_pollEngine config process _) (stepwise_pure ())
  refine wp_mono (polled v) (fun _ w _ => ?_) fun _ _ _ => trivial
  rw [wp_bind]
  intro x _ _ _
  exact ⟨trivial, (Silent.quiet rfl rfl).acquires, rfl⟩

theorem close_acquires (process : ℕ) : Stepwise Acquires (close process) :=
  (acquires_of_silent (silent_close process))

end Steps

end DbusEv.Evcc
