/-
**The authorization latch and the failures of storage.**

A reply that needs an operator (`auth`, `configuration`, `storage`) is recorded by a save inside the
`try` whose handler records a failure that needs none. So the latch holds exactly as long as that
save, and the stop of the engine after it, do not raise into the handler.

* `Recordable` — what the environment leaves to the recording of such a reply.
* `Unanswered`, `Heard`, `Blocked` — what the client knows of such a reply at each of its steps.
* `latch_holds` — in every run that meets the condition no engine is used after such a reply.
* `latch_lost` — one save that raises lets the next poll start an engine.
-/

import DbusEv.Normalize
import DbusEv.Providers.Logged
import DbusEv.Providers.Upstream

set_option autoImplicit false
set_option linter.unusedSectionVars false

namespace DbusEv.Evcc

open Thread

/-! ### The replies that need an operator -/

/-- The reply is an error that needs an operator. -/
def blocks (response : Dict PyValue) : Bool :=
  (readingOf response).isNone && needsOperator ((response.get "error").getD (.str "provider"))

/-- The engine replied so in this run. -/
def Answered (log : List Note) : Prop :=
  ∃ response data trace, .answered response data trace ∈ log ∧ blocks response = true

/-- Nothing was constructed or polled since. -/
def Unused (before trace : List Event) : Prop :=
  ∃ newer, trace = newer ++ before ∧ ∀ event ∈ newer, event.use = none

/-- **The latch**: since a reply that needs an operator no engine was used. -/
def LatchedOut (s : Records) : Prop :=
  ∀ response data trace, .answered response data trace ∈ s.2 → blocks response = true →
    Unused trace s.1.trace

/-- **What leaves the latch alone**: the process lives on; no save of a block raises; the reply of
an engine that needs an operator has a `retry_after` that can be converted, and comes upon a failure
count that can be read; no engine that is stopped after the block was saved raises what the handler
of `_poll_engine` catches. -/
structure Recordable [PyText] (s : Records) : Prop where
  alive : .died ∉ s.2
  saves : ∀ changes, .unsaved changes ∈ s.2 → blocked changes = false
  converts : ∀ response data trace, .answered response data trace ∈ s.2 → blocks response = true →
    isConvertible (reported response "retry_after") = true
  counts : ∀ response data trace, .answered response data trace ∈ s.2 → blocks response = true →
    ∃ count, failureCount data = .ok count
  stops : StopsQuietly s.1.trace

/-- The condition on one note. -/
def Note.isRecordable [PyText] : Note → Bool
  | .answered response data _ =>
    !blocks response || (isConvertible (reported response "retry_after") &&
      (failureCount data).toOption.isSome)
  | .unsaved changes => !blocked changes
  | .died => false
  | _ => true

/-- An engine that `_failure` stops raises nothing that is caught. -/
def Event.isQuiet : Event → Bool
  | .stopRaised true _ e => !isCaught e
  | _ => true

/-- A run can be checked for the condition. -/
theorem Recordable.of_all [PyText] {s : Records} (notes : s.2.all Note.isRecordable = true)
    (events : s.1.trace.all Event.isQuiet = true) : Recordable s := by
  rw [List.all_eq_true] at notes events
  have answers : ∀ response data trace, .answered response data trace ∈ s.2 →
      blocks response = true → isConvertible (reported response "retry_after") = true ∧
        (failureCount data).toOption.isSome = true := by
    intro response data trace found shut
    have checked := notes _ found
    simp only [Note.isRecordable, shut, Bool.not_true, Bool.false_or, Bool.and_eq_true] at checked
    exact checked
  refine ⟨fun found => ?_, fun changes found => ?_, fun response data trace found shut =>
    (answers response data trace found shut).1, fun response data trace found shut => ?_,
    fun e found => ?_⟩
  · cases notes _ found
  · have checked : (!blocked changes) = true := notes _ found
    rwa [Bool.not_eq_true'] at checked
  · have counted := (answers response data trace found shut).2
    cases counts : failureCount data with
    | ok count => exact ⟨count, rfl⟩
    | error e =>
      rw [counts] at counted
      cases counted
  · have checked : (!isCaught e) = true := events _ found
    rwa [Bool.not_eq_true'] at checked

theorem Unused.refl (trace : List Event) : Unused trace trace :=
  ⟨[], rfl, List.forall_mem_nil _⟩

theorem Unused.note {before trace : List Event} {event : Event} (unused : Unused before trace)
    (none : event.use = none) : Unused before (event :: trace) := by
  obtain ⟨newer, rfl, quiet⟩ := unused
  exact ⟨event :: newer, rfl, List.forall_mem_cons.mpr ⟨none, quiet⟩⟩

namespace Logged

section Knowledge

variable [PyText]

/-- A run that met the condition met it before. -/
theorem recordable_before {s t : Records} (recordable : Recordable t)
    (notes : ∀ note ∈ s.2, note ∈ t.2) (events : ∀ event ∈ s.1.trace, event ∈ t.1.trace) :
    Recordable s where
  alive found := recordable.alive (notes _ found)
  saves changes found := recordable.saves changes (notes _ found)
  converts response data trace found := recordable.converts response data trace (notes _ found)
  counts response data trace found := recordable.counts response data trace (notes _ found)
  stops e found := recordable.stops e (events _ found)

/-- The invariant: since such a reply, no engine was used. -/
def Kept (s : Records) : Prop := Recordable s → LatchedOut s

/-- No such reply. -/
def Fresh (s : Records) : Prop := Recordable s → ¬ Answered s.2

/-- A client to which no engine replied so. -/
structure Unanswered (s : LoggedState) : Prop extends Owns s where
  fresh : Fresh s.2

/-- A client that has heard this reply, and no other that needs an operator. -/
structure Heard (response : Dict PyValue) (s : LoggedState) : Prop extends Owns s where
  kept : Kept s.2
  only : Recordable s.2 → ∀ other data trace, .answered other data trace ∈ s.2.2 →
    blocks other = true → other = response ∧ data = s.1.data

/-- A client whose saved state is blocked. -/
structure Blocked (s : LoggedState) : Prop extends Owns s where
  kept : Kept s.2
  blocked : blocked s.1.data = true

/-- At rest: such a reply is known by the file. -/
structure Resting (s : Records) : Prop where
  kept : Kept s
  latched : Fresh s ∨ Evcc.blocked (s.1.file.getD []) = true

variable {s : LoggedState} {response : Dict PyValue}

theorem kept_of_fresh {s : Records} (fresh : Fresh s) : Kept s :=
  fun recordable response data trace found shut =>
    absurd ⟨response, data, trace, found, shut⟩ (fresh recordable)

/-- Nothing is heard in a step that notes no reply. -/
theorem Fresh.step {s t : Records} (fresh : Fresh s) {notes : List Note}
    (log : t.2 = notes ++ s.2) (events : ∀ event ∈ s.1.trace, event ∈ t.1.trace)
    (silent : ¬ Answered notes) : Fresh t := by
  intro recordable answered
  have before : Recordable s := recordable_before recordable
    (fun note found => by rw [log]; exact List.mem_append_right _ found) events
  obtain ⟨response, data, trace, found, shut⟩ := answered
  rw [log, List.mem_append] at found
  cases found with
  | inl new => exact silent ⟨response, data, trace, new, shut⟩
  | inr old => exact fresh before ⟨response, data, trace, old, shut⟩

theorem not_answered_nil : ¬ Answered [] := by
  rintro ⟨_, _, _, found, -⟩
  cases found

/-- A note of anything else. -/
theorem not_answered_single {note : Note}
    (other : ∀ response data trace, note ≠ .answered response data trace) : ¬ Answered [note] := by
  rintro ⟨response, data, trace, found, -⟩
  exact other response data trace (List.mem_singleton.mp found).symm

/-- The reply is the only one so far that may need an operator. -/
theorem Unanswered.heard (state : Unanswered s) (response : Dict PyValue) (host : Host)
    (owns : Owns (s.1, host, .answered response s.1.data host.trace :: s.2.2))
    (events : ∀ event ∈ s.2.1.trace, event ∈ host.trace) :
    Kept (host, .answered response s.1.data host.trace :: s.2.2) ∧
      Heard response (s.1, host, .answered response s.1.data host.trace :: s.2.2) := by
  have only : Recordable (host, .answered response s.1.data host.trace :: s.2.2) →
      ∀ other data trace,
        .answered other data trace ∈ .answered response s.1.data host.trace :: s.2.2 →
        blocks other = true → other = response ∧ data = s.1.data ∧ trace = host.trace := by
    intro recordable other data trace found shut
    cases List.mem_cons.mp found with
    | inl same =>
      cases same
      exact ⟨rfl, rfl, rfl⟩
    | inr old =>
      have before : Recordable s.2 :=
        recordable_before recordable (fun _ => List.mem_cons_of_mem _) events
      exact absurd ⟨other, data, trace, old, shut⟩ (state.fresh before)
  have kept : Kept (host, .answered response s.1.data host.trace :: s.2.2) := by
    intro recordable other data trace found shut
    obtain ⟨-, -, rfl⟩ := only recordable other data trace found shut
    exact .refl _
  refine ⟨kept, owns, kept, fun recordable other data trace found shut => ?_⟩
  obtain ⟨same, noted, -⟩ := only recordable other data trace found shut
  exact ⟨same, noted⟩

/-- A reply that needs no operator. -/
theorem Heard.unanswered (heard : Heard response s) (open_ : blocks response = false) :
    Unanswered s := by
  refine ⟨heard.toOwns, fun recordable => ?_⟩
  rintro ⟨other, data, trace, found, shut⟩
  obtain ⟨rfl, -⟩ := heard.only recordable other data trace found shut
  rw [open_] at shut
  cases shut

/-- The block is saved. -/
theorem Heard.saved (heard : Heard response s) (data : Dict PyValue) (note : Note)
    (other : ∀ response data trace, note ≠ .answered response data trace)
    (shut : Evcc.blocked data = true) :
    Blocked ((stored data (unlogged s)).1, (stored data (unlogged s)).2, note :: s.2.2) := by
  refine ⟨⟨heard.started, rfl⟩, fun recordable response data trace found needs => ?_, shut⟩
  have before : Recordable s.2 := recordable_before recordable (fun _ => List.mem_cons_of_mem _)
    fun _ => List.mem_cons_of_mem _
  cases List.mem_cons.mp found with
  | inl same => exact absurd same.symm (other response data trace)
  | inr old => exact (heard.kept before response data trace old needs).note rfl

/-- The save of the block raised, which breaks the condition. -/
theorem Heard.unsaved (heard : Heard response s) {changes : Dict PyValue}
    (shut : Evcc.blocked changes = true) :
    Kept (s.2.1, .unsaved changes :: s.2.2) ∧
      Unanswered (s.1, s.2.1, .unsaved changes :: s.2.2) := by
  have broken : ¬ Recordable (s.2.1, .unsaved changes :: s.2.2) := by
    intro recordable
    have open_ := recordable.saves changes List.mem_cons_self
    rw [shut] at open_
    cases open_
  exact ⟨fun recordable => absurd recordable broken, ⟨heard.started, heard.data⟩,
    fun recordable => absurd recordable broken⟩

/-- A reply whose recording raises before its save. -/
theorem Heard.unread (heard : Heard response s)
    (unread : (∃ e, failureCount s.1.data = .error e) ∨
      isConvertible (reported response "retry_after") = false) : Unanswered s := by
  refine ⟨heard.toOwns, fun recordable => ?_⟩
  rintro ⟨other, data, trace, found, shut⟩
  obtain ⟨rfl, rfl⟩ := heard.only recordable other data trace found shut
  cases unread with
  | inl raises =>
    obtain ⟨e, raises⟩ := raises
    obtain ⟨count, counts⟩ := recordable.counts other _ trace found shut
    rw [raises] at counts
    cases counts
  | inr raises =>
    rw [recordable.converts other _ trace found shut] at raises
    cases raises

/-- The clock and the lock are not part of the condition. -/
theorem recordable_clock {host : Host} {log : List Note} {clock : Clock} {holder : Option ℕ}
    (recordable : Recordable ({ host with clock := clock, holder := holder }, log)) :
    Recordable (host, log) :=
  recordable_before recordable (fun _ found => found) fun _ found => found

theorem lockless_fresh : Lockless Fresh := fun _ _ _ _ fresh recordable =>
  fresh (recordable_clock recordable)

theorem lockless_kept : Lockless Kept := fun _ _ _ _ kept recordable =>
  kept (recordable_clock recordable)

theorem lockless_resting : Lockless Resting := fun host log clock holder resting =>
  ⟨lockless_kept host log clock holder resting.kept,
    resting.latched.imp_left fun fresh => lockless_fresh host log clock holder fresh⟩

theorem Unanswered.stable : Stable Unanswered :=
  stable_of_clock fun _ host log clock _ state =>
    ⟨⟨state.started, state.data⟩, lockless_fresh host log clock host.holder state.fresh⟩

theorem Heard.stable : Stable (Heard response) :=
  stable_of_clock fun _ host log clock _ heard =>
    ⟨⟨heard.started, heard.data⟩, lockless_kept host log clock host.holder heard.kept,
      fun recordable => heard.only (recordable_clock recordable)⟩

theorem Blocked.stable : Stable Blocked :=
  stable_of_clock fun _ host log clock _ shut =>
    ⟨⟨shut.started, shut.data⟩, lockless_kept host log clock host.holder shut.kept, shut.blocked⟩

/-- A client that has recorded what it heard. -/
def Settled (s : LoggedState) : Prop := Unanswered s ∨ Blocked s

theorem Settled.stable : Stable Settled := fun s t own waits settled =>
  settled.imp (Unanswered.stable s t own waits) (Blocked.stable s t own waits)

theorem Settled.atRest (settled : Settled s) : AtRest Resting s := by
  cases settled with
  | inl state => exact state.toOwns.atRest ⟨kept_of_fresh state.fresh, .inl state.fresh⟩
  | inr shut => exact shut.toOwns.atRest ⟨shut.kept, .inr (shut.data ▸ shut.blocked)⟩

/-- A client that started knows of such a reply by its data. -/
theorem Resting.settled (resting : Resting s.2) (owns : Owns s) : Settled s := by
  cases resting.latched with
  | inl fresh => exact .inl ⟨owns, fresh⟩
  | inr shut => exact .inr ⟨owns, resting.kept, owns.data ▸ shut⟩

/-- An engine that could not be stopped at the end. -/
theorem Resting.note {s : Records} (resting : Resting s) (shut : Bool) (e : PyError) :
    Resting (s.1.note (.stopRaised false shut e), s.2) := by
  have before : Recordable (s.1.note (.stopRaised false shut e), s.2) → Recordable s :=
    fun recordable => recordable_before recordable (fun _ found => found)
      fun _ => List.mem_cons_of_mem _
  refine ⟨fun recordable other data trace found needs => ?_,
    resting.latched.imp_left fun fresh recordable => fresh (before recordable)⟩
  exact (resting.kept (before recordable) other data trace found needs).note rfl

/-- A step that notes no reply leaves a client without such a reply. -/
theorem Unanswered.step (state : Unanswered s) (own : EvccClient) (host : Host)
    (notes : List Note) (owns : Owns (own, host, notes ++ s.2.2))
    (events : ∀ event ∈ s.2.1.trace, event ∈ host.trace) (silent : ¬ Answered notes) :
    Kept (host, notes ++ s.2.2) ∧ Unanswered (own, host, notes ++ s.2.2) :=
  have fresh : Fresh (host, notes ++ s.2.2) := state.fresh.step rfl events silent
  ⟨kept_of_fresh fresh, owns, fresh⟩

/-! ### A client to which no engine replied so -/

theorem wp_save_unanswered {changes : Dict PyValue} {saved : State → List Note}
    (silent : ∀ after, ¬ Answered (saved after)) (state : Unanswered s) :
    wp (law Kept) (save changes saved) (fun _ => Unanswered) (fun _ => Unanswered) s := by
  refine wp_save Unanswered.stable state (fun t state _ => ?_) fun e t state _ => ?_
  · exact state.step _ _ _ ⟨state.started, rfl⟩ (fun _ => List.mem_cons_of_mem _) (silent _)
  · have unsaid : ¬ Answered [.unsaved changes] :=
      not_answered_single fun _ _ _ same => by cases same
    exact state.step _ _ [_] ⟨state.started, state.data⟩ (fun _ found => found) unsaid

theorem wp_stopEngine_unanswered {guarded : Bool} (state : Unanswered s) :
    wp (law Kept) (quietly (stopEngine guarded)) (fun _ => Unanswered) (fun _ => Unanswered) s := by
  refine wp_stopEngine Unanswered.stable state (fun _ state => state) (fun t state _ => ?_)
    fun e t state _ => ?_
  · exact ⟨⟨state.started, state.data⟩, state.fresh⟩
  · exact state.step _ _ [] ⟨state.started, state.data⟩
      (fun _ => List.mem_cons_of_mem _) not_answered_nil

theorem wp_ensureEngine_unanswered {process : ℕ} {now : ℚ} (state : Unanswered s) :
    wp (law Kept) (quietly (ensureEngine process now)) (fun _ => Unanswered)
      (fun _ => Unanswered) s := by
  refine wp_ensureEngine Unanswered.stable state (fun _ state _ => state) fun t state _ engine => ?_
  have built := state.step { t.1 with engine := engine }
    (t.2.1.note (.constructed process now t.2.1.file)) [] ⟨state.started, state.data⟩
    (fun _ => List.mem_cons_of_mem _) not_answered_nil
  exact ⟨built.1, built.2, fun _ => built.2⟩

/-- **The reply of the engine** is the only one so far that may need an operator. -/
theorem wp_askEngine_unanswered {process : ℕ} {now : ℚ} (state : Unanswered s) :
    wp (law Kept) (askEngine process now) (fun response => Heard response)
      (fun _ => Unanswered) s := by
  refine wp_askEngine Unanswered.stable state (fun e t state _ => ?_) fun response t state _ => ?_
  · exact state.step _ _ [] ⟨state.started, state.data⟩
      (fun _ => List.mem_cons_of_mem _) not_answered_nil
  · exact state.heard response _ ⟨state.started, state.data⟩ fun _ => List.mem_cons_of_mem _

/-- `_failure(response)` of a reply that needs no operator, and of a transport. -/
theorem wp_failure_unanswered {config : Config} {guarded : Bool} (state : Unanswered s) :
    wp (law Kept) (failure config guarded response) (fun _ => Unanswered)
      (fun _ => Unanswered) s := by
  unfold failure
  refine wp_look Unanswered.stable state fun t state _ => ?_
  rw [wp_bind, wp_ofExcept]
  cases failureCount t.1.data with
  | error e => exact state
  | ok failures =>
    simp only
    rw [wp_bind, wp_ofExcept]
    cases numberAt response "retry_after" atLeastZero with
    | error e => exact state
    | ok retryAfter =>
      refine wp_look Unanswered.stable state fun u state _ => ?_
      rw [wp_bind]
      refine wp_value (wp_save_unanswered (fun _ => not_answered_single fun _ _ _ same => ?_)
        state) fun _ v state => ?_
      · cases same
      · rw [wp_ite]
        exact ⟨fun _ => wp_stopEngine_unanswered state, fun _ => state⟩

/-- The stop of the engine after a block was saved: what the handler would catch breaks the
condition. -/
theorem wp_stopEngine_blocked (shut : Blocked s) :
    wp (law Kept) (quietly (stopEngine true)) (fun _ => Blocked)
      (fun e t => Unanswered t ∨ (isCaught e = false ∧ Blocked t)) s := by
  refine wp_stopEngine Blocked.stable shut (fun _ shut => shut) (fun t shut _ => ?_)
    fun e t shut _ => ?_
  · exact ⟨⟨shut.started, shut.data⟩, shut.kept, shut.blocked⟩
  · have kept : Kept (t.2.1.note (.stopRaised true (Evcc.blocked t.1.data) e), t.2.2) := by
      intro recordable other data trace found needs
      have before : Recordable t.2 := recordable_before recordable (fun _ found => found)
        fun _ => List.mem_cons_of_mem _
      exact (shut.kept before other data trace found needs).note rfl
    refine ⟨kept, ?_⟩
    by_cases caught : isCaught e = true
    · refine .inl ⟨⟨shut.started, shut.data⟩, fun recordable => ?_⟩
      have raised : Event.stopRaised true true e ∈
          (t.2.1.note (.stopRaised true (Evcc.blocked t.1.data) e)).trace := by
        rw [shut.blocked]
        exact List.mem_cons_self
      rw [recordable.stops e raised] at caught
      cases caught
    · exact .inr ⟨Bool.eq_false_iff.mpr caught, ⟨shut.started, shut.data⟩, kept, shut.blocked⟩

theorem Blocked.stops (shut : Blocked s) :
    Kept s.2 ∧ wp (law Kept) (quietly (stopEngine true)) (fun _ => Blocked)
      (fun e t => Unanswered t ∨ (isCaught e = false ∧ Blocked t)) s :=
  ⟨shut.kept, wp_stopEngine_blocked shut⟩

/-- **`_failure(response)` of a reply that needs an operator**: the block is saved, or the
condition is broken. -/
theorem wp_failure_heard {config : Config} (heard : Heard response s)
    (needs : needsOperator ((response.get "error").getD (.str "provider")) = true) :
    wp (law Kept) (failure config true response) (fun _ => Blocked)
      (fun e t => Unanswered t ∨ (isCaught e = false ∧ Blocked t)) s := by
  unfold failure
  refine wp_look Heard.stable heard fun t heard _ => ?_
  rw [wp_bind, wp_ofExcept]
  cases counted : failureCount t.1.data with
  | error e => exact .inl (heard.unread (.inl ⟨e, counted⟩))
  | ok failures =>
    simp only
    rw [wp_bind, wp_ofExcept]
    cases converted : numberAt response "retry_after" atLeastZero with
    | error e =>
      refine .inl (heard.unread (.inr (Bool.eq_false_iff.mpr fun converts => ?_)))
      obtain ⟨found, same⟩ := (number_ok_iff atLeastZero).mpr converts
      have number : numberAt response "retry_after" atLeastZero = .ok found := same
      rw [converted] at number
      cases number
    | ok retryAfter =>
      refine wp_look Heard.stable heard fun u heard _ => ?_
      rw [wp_bind, needs]
      refine wp_save Heard.stable heard (fun v heard _ => ?_) fun e v heard _ => ?_
      · rw [Bool.true_or, if_pos rfl]
        refine (heard.saved _ _ (fun _ _ _ same => ?_) ?_).stops
        · cases same
        · simp [Dict.update, Evcc.blocked, PyValue.truthy]
      · exact (heard.unsaved rfl).imp_right .inl

/-! ### A poll -/

theorem wp_takeReading_unanswered {config : Config} {startedAt now : ℚ} {data : Dict PyValue}
    (state : Unanswered s) :
    wp (law Kept) (takeReading config startedAt now data) (fun _ => Unanswered)
      (fun _ => Unanswered) s := by
  unfold takeReading
  rw [wp_bind, wp_ofExcept]
  cases normalize data config.vin config.capacity config.home with
  | error e => exact state
  | ok candidate =>
    simp only
    cases candidate.soc with
    | none => exact state
    | some soc =>
      rw [wp_bind]
      refine wp_alter Unanswered.stable state fun t state _ => ?_
      have taken := state.step (acquired startedAt now candidate (unlogged t)).1
        (acquired startedAt now candidate (unlogged t)).2 [] ⟨state.started, state.data⟩
        (fun _ => List.mem_cons_of_mem _) not_answered_nil
      refine ⟨taken.1, wp_look Unanswered.stable taken.2 fun u state _ => ?_⟩
      refine wp_saveReading Unanswered.stable state (fun v state _ => ?_) fun e v state _ => ?_
      · have silent : ¬ Answered [.succeeded] := not_answered_single fun _ _ _ same => by cases same
        exact state.step _ _ [_] ⟨state.started, rfl⟩ (fun _ => List.mem_cons_of_mem _) silent
      · have unsaid : ∀ changes, ¬ Answered [.unsaved changes] := fun _ =>
          not_answered_single fun _ _ _ same => by cases same
        exact state.step _ _ [_] ⟨state.started, state.data⟩ (fun _ => List.mem_cons_of_mem _)
          (unsaid _)

/-- What `_poll_engine` may raise after such a reply is not caught. -/
theorem wp_takeReply {config : Config} {startedAt now : ℚ} (heard : Heard response s) :
    wp (law Kept) (takeReply config startedAt now response) (fun _ => Settled)
      (fun e t => Unanswered t ∨ (isCaught e = false ∧ Blocked t)) s := by
  have quiet : ∀ {x : LoggedProgram Unit}, wp (law Kept) x (fun _ => Unanswered)
      (fun _ => Unanswered) s → wp (law Kept) x (fun _ => Settled)
        (fun e t => Unanswered t ∨ (isCaught e = false ∧ Blocked t)) s := fun holds =>
    wp_mono holds (fun _ _ => .inl) fun _ _ => .inl
  unfold takeReply
  cases reading : readingOf response with
  | some data =>
    have open_ : blocks response = false := by
      unfold blocks
      rw [reading]
      rfl
    exact quiet (wp_takeReading_unanswered (heard.unanswered open_))
  | none =>
    by_cases needs : needsOperator ((response.get "error").getD (.str "provider")) = true
    · exact wp_value (wp_failure_heard heard needs) fun _ _ => .inr
    · have open_ : blocks response = false := by
        unfold blocks
        rw [Bool.eq_false_iff.mpr needs, Bool.and_false]
      exact quiet (wp_failure_unanswered (heard.unanswered open_))

/-- **`_poll_engine`** of a client to which no engine replied so. -/
theorem wp_pollEngine {config : Config} {process : ℕ} {now : ℚ} (state : Unanswered s) :
    wp (law Kept) (pollEngine config process now) (fun _ => Settled) (fun _ => Settled) s := by
  have silent : ∀ after : State, ¬ Answered ((fun _ => []) after) := fun _ => not_answered_nil
  unfold pollEngine
  rw [wp_bind]
  refine wp_mono (wp_save_unanswered silent state) (fun _ t state => ?_) fun _ _ => .inl
  rw [wp_bind]
  have reserved : wp (law Kept) (reserveLogin now) (fun _ => Unanswered)
      (fun _ => Unanswered) t := by
    unfold reserveLogin
    refine wp_look Unanswered.stable state fun u state _ => ?_
    rw [wp_ite]
    exact ⟨fun _ => state, fun _ => wp_save_unanswered silent state⟩
  refine wp_mono reserved (fun _ u state => ?_) fun _ _ => .inl
  refine wp_look Unanswered.stable state fun v state _ => ?_
  rw [wp_handle]
  have used : wp (law Kept) (useEngine config process v.2.1.mono now) (fun _ => Settled)
      (fun e t => Unanswered t ∨ (isCaught e = false ∧ Blocked t)) v := by
    unfold useEngine
    rw [wp_bind]
    refine wp_mono (wp_ensureEngine_unanswered state) (fun _ w state => ?_) fun _ _ => .inl
    rw [wp_bind]
    exact wp_mono (wp_askEngine_unanswered state) (fun _ _ heard => wp_takeReply heard)
      fun _ _ => .inl
  refine wp_mono used (fun _ _ settled => settled) fun e w ended => ?_
  unfold engineFailed
  cases ended with
  | inl state =>
    split
    · rename_i recover recovers
      split at recovers
      · cases recovers
        rw [wp_bind]
        refine wp_mono (wp_stopEngine_unanswered state) (fun _ x state => ?_) fun _ _ => .inl
        exact wp_mono (wp_failure_unanswered state) (fun _ _ => .inl) fun _ _ => .inl
      · cases recovers
    · exact .inl state
  | inr passed =>
    rw [passed.1]
    exact .inr passed.2

/-- **`poll`**, from rest to rest: a client whose state is blocked does not use an engine. -/
theorem wp_poll {config : Config} {process : ℕ} (rest : AtRest Resting s) :
    wp (law Kept) (poll config process) (fun _ => AtRest Resting)
      (fun _ => AtRest Resting) s := by
  unfold poll
  rw [wp_bind]
  refine wp_value (wp_start lockless_resting (fun _ resting => resting.kept) rest)
    fun _ t started => ?_
  refine wp_look Settled.stable (started.2.settled started.1) fun u settled _ => ?_
  rw [wp_bind, wp_ofExcept]
  cases admits : u.1.admits u.2.1.wall with
  | error e => exact settled.atRest
  | ok admitted =>
    simp only
    rw [wp_bind]
    have polled : wp (law Kept) (pollIfAdmitted config process admitted u.2.1.wall)
        (fun _ => Settled) (fun _ => Settled) u := by
      unfold pollIfAdmitted
      rw [wp_ite]
      refine ⟨fun yes => ?_, fun _ => settled⟩
      subst yes
      cases settled with
      | inl state => exact wp_pollEngine state
      | inr shut =>
        unfold EvccClient.admits at admits
        rw [if_pos shut.blocked] at admits
        cases admits
    refine wp_mono polled (fun _ v settled => ?_) fun _ _ settled => settled.atRest
    exact wp_look Settled.stable settled fun _ settled _ => settled.atRest

end Knowledge

end Logged

/-! ### Every run -/

section Runs

variable [PyText]

/-- What the client keeps. -/
def latching (config : Config) : Conduct config where
  inv := Logged.Kept
  rest := Logged.Resting
  vacant := Logged.Fresh
  kept _ resting := resting.kept
  lockless := Logged.lockless_resting
  waits := Logged.lockless_kept
  empty := Logged.lockless_fresh
  noted _ shut e resting := resting.note shut e
  launch _ fresh := ⟨Logged.kept_of_fresh fresh, .inl fresh⟩
  crash s _ := by
    have broken : ¬ Recordable (s.1.release 0, .died :: s.2) := fun recordable =>
      recordable.alive List.mem_cons_self
    exact ⟨fun recordable => absurd recordable broken, fun recordable => absurd recordable broken⟩
  poll _ rest := Logged.wp_poll rest

/-- **The latch holds** in every run of a process in which the replies that need an operator could
be recorded: after the first one no engine is constructed or polled. -/
theorem latch_holds (config : Config) (clock : Clock) (file : Option (Dict PyValue))
    (moves : List (Move Unit Call Passing Answer))
    (recordable : Recordable (records config clock file moves)) :
    LatchedOut (records config clock file moves) := by
  have fresh : Logged.Fresh (⟨clock, file, none, []⟩, []) := fun _ =>
    Logged.not_answered_nil
  exact (latching config).keeps (Logged.kept_of_fresh fresh) fresh moves recordable

end Runs

/-! ### A latch that is lost -/

/-- The uses of an engine in a trace. -/
def uses (trace : List Event) : ℕ := (trace.filter fun event => event.use.isSome).length

theorem Unused.uses {before trace : List Event} (unused : Unused before trace) :
    uses trace = uses before := by
  obtain ⟨newer, rfl, quiet⟩ := unused
  have none : (newer.filter fun event => event.use.isSome) = [] :=
    List.filter_eq_nil_iff.mpr fun event found => by
      rw [quiet event found]
      exact Bool.false_ne_true
  unfold Evcc.uses
  rw [List.filter_append, none, List.nil_append]

/-- A reply that needs an operator, after which an engine was used. -/
def Note.isIgnored (trace : List Event) : Note → Bool
  | .answered response _ before => blocks response && uses trace != uses before
  | _ => false

/-- One step of the process, as often as it takes. -/
def again (count : ℕ) (answer : Answer) : List (Move Unit Call Passing Answer) :=
  List.replicate count (.step () answer)

/-- An engine needs an operator, and 41000 s later the client is polled again; what happens at the
save of the block. -/
def lockedOut (saves : Option PyError) : List (Move Unit Call Passing Answer) :=
  [.launch (), .call () .poll] ++ again 15 unauthorized ++
    [.step () { unauthorized with saves := saves }] ++ again 6 unauthorized ++
    [.world ⟨41000, 41000⟩, .call () .poll] ++ again 9 unauthorized

/-- A save that returns. -/
theorem latch_holds_once : letI := plainText
    LatchedOut (records hyundai ⟨0, 100000⟩ none (lockedOut none)) :=
  @latch_holds plainText _ _ _ _
    (@Recordable.of_all plainText _ (by decide +kernel) (by decide +kernel))

/-- **The latch is lost** when the save of the block raises an `OSError`: the engine that needs an
operator is built and polled again. -/
theorem latch_lost : letI := plainText
    ¬ LatchedOut (records hyundai ⟨0, 100000⟩ none (lockedOut (some .os))) := by
  intro latched
  have lost : (@records plainText hyundai ⟨0, 100000⟩ none (lockedOut (some .os))).2.any
      (Note.isIgnored (@records plainText hyundai ⟨0, 100000⟩ none
        (lockedOut (some .os))).1.trace) = true := by
    decide +kernel
  obtain ⟨note, found, ignored⟩ := List.any_eq_true.mp lost
  cases note with
  | answered response data trace =>
    obtain ⟨shut, differs⟩ := Bool.and_eq_true_iff.mp ignored
    exact bne_iff_ne.mp differs (latched response data trace found shut).uses
  | _ => cases ignored

end DbusEv.Evcc
