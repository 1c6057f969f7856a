/-
**Interleaved programs over one shared state, and what holds in every interleaving.**

* `Thread ι σ ε α` — a program in atomic steps. Between two of them anybody else may run; a step
  takes an answer `ι` of the environment.
* `Thread.wp` — the weakest precondition under a `Law`: whatever the others do between two steps
  (`rely`), every step keeps the invariant and does only what the program may do (`may`).
* `Service`, `Fleet` — processes that share a state, each with a state of its own. A run is any
  sequence of launches, calls, steps, crashes and moves of the world.
* `Discipline` — laws of the processes that fit together: one may do what all the others rely on
  (`Discipline.keeps`, for every run).
* `Solo` — the law of a service of which one process lives at a time (`Solo.keeps`).
-/

import DbusEv.Lib.Exec
import Mathlib.Logic.Function.Basic

set_option autoImplicit false
set_option linter.unusedSectionVars false

namespace DbusEv

/-- A program in atomic steps, each answered by an `ι`. -/
inductive Thread (ι σ ε α : Type) : Type
  | done (result : Except ε α)
  | step (change : ι → σ → σ) (next : ι → σ → Thread ι σ ε α)

namespace Thread

variable {ι σ ε α β : Type}

/-- Run one thread after another. -/
def andThen : Thread ι σ ε β → (β → Thread ι σ ε α) → Thread ι σ ε α
  | done (.ok value), next => next value
  | done (.error e), _ => done (.error e)
  | step change first, next => step change fun i s => (first i s).andThen next

instance : Monad (Thread ι σ ε) where
  pure value := done (.ok value)
  bind := andThen

/-- Throw an exception. -/
def raise (e : ε) : Thread ι σ ε α := done (.error e)

/-- One atomic step. -/
def atomic (x : ι → Exec σ ε α) : Thread ι σ ε α :=
  step (fun i s => (x i s).2) fun i s => done (x i s).1

/-- `try: body except: …` — the handler of an exception it catches. -/
def handle : Thread ι σ ε α → (ε → Option (Thread ι σ ε α)) → Thread ι σ ε α
  | done (.ok value), _ => done (.ok value)
  | done (.error e), handler =>
    match handler e with
    | some recover => recover
    | none => done (.error e)
  | step change next, handler => step change fun i s => (next i s).handle handler

/-- `try: body finally: last` — after a value and after every exception; what `last` throws replaces
the outcome of the body. -/
def ensure (body : Thread ι σ ε α) (last : Thread ι σ ε Unit) : Thread ι σ ε α := do
  let value ← body.handle fun e => some (last >>= fun _ => raise e)
  last
  pure value

/-- The program, answered by another environment. -/
def given {ι' : Type} (answer : ι' → ι) : Thread ι σ ε α → Thread ι' σ ε α
  | done result => done result
  | step change next =>
    step (fun i => change (answer i)) fun i s => (next (answer i) s).given answer

/-- A program of a part of the state, which is answered with a part of the answer. -/
def zoom {ι' σ' : Type} (answer : ι' → ι) (get : σ' → σ) (put : σ → σ' → σ') :
    Thread ι σ ε α → Thread ι' σ' ε α
  | done result => done result
  | step change next => step (fun i s => put (change (answer i) (get s)) s) fun i s =>
      (next (answer i) (get s)).zoom answer get put

/-! ### Weakest preconditions -/

/-- What a program relies on, what it may do, and the invariant of the state. -/
structure Law (σ : Type) where
  rely : σ → σ → Prop
  may : σ → σ → Prop
  inv : σ → Prop

/-- From this state, the program follows the law and ends in `Q` with a value and in `X` with an
exception. -/
def wp (law : Law σ) : Thread ι σ ε α → (α → σ → Prop) → (ε → σ → Prop) → σ → Prop
  | done (.ok value), Q, _, s => Q value s
  | done (.error e), _, X, s => X e s
  | step change next, Q, X, s => ∀ t, law.rely s t → law.inv t → ∀ i,
      law.inv (change i t) ∧ law.may t (change i t) ∧ (next i t).wp law Q X (change i t)

section Rules

variable {law : Law σ} {Q Q' : α → σ → Prop} {X X' : ε → σ → Prop} {s : σ}

theorem wp_bind (x : Thread ι σ ε β) (f : β → Thread ι σ ε α) :
    wp law (x >>= f) Q X s ↔ wp law x (fun value t => wp law (f value) Q X t) X s := by
  induction x generalizing s with
  | done result => rcases result with e | value <;> exact Iff.rfl
  | step change next ih =>
    refine forall_congr' fun t => forall_congr' fun _ => forall_congr' fun _ =>
      forall_congr' fun i => and_congr_right fun _ => and_congr_right fun _ => ?_
    exact ih i t

theorem wp_handle (x : Thread ι σ ε α) (handler : ε → Option (Thread ι σ ε α)) :
    wp law (x.handle handler) Q X s ↔
      wp law x Q (fun e t =>
        match handler e with
        | some recover => wp law recover Q X t
        | none => X e t) s := by
  induction x generalizing s with
  | done result =>
    rcases result with e | value
    · unfold handle
      rcases caught : handler e with _ | recover <;> simp only [wp, caught]
    · exact Iff.rfl
  | step change next ih =>
    refine forall_congr' fun t => forall_congr' fun _ => forall_congr' fun _ =>
      forall_congr' fun i => and_congr_right fun _ => and_congr_right fun _ => ?_
    exact ih i t

theorem wp_ensure (body : Thread ι σ ε α) (last : Thread ι σ ε Unit) :
    wp law (body.ensure last) Q X s ↔
      wp law body (fun value t => wp law last (fun _ u => Q value u) X t)
        (fun e t => wp law last (fun _ u => X e u) X t) s := by
  unfold ensure
  simp only [wp_bind, wp_handle]
  exact Iff.rfl

/-- An atomic step is a program that runs alone. -/
theorem wp_atomic (x : ι → Exec σ ε α) :
    wp law (atomic x) Q X s ↔ ∀ t, law.rely s t → law.inv t → ∀ i,
      Exec.wp (x i) (fun value u => law.inv u ∧ law.may t u ∧ Q value u)
        (fun e u => law.inv u ∧ law.may t u ∧ X e u) t := by
  refine forall_congr' fun t => forall_congr' fun _ => forall_congr' fun _ =>
    forall_congr' fun i => ?_
  rcases result : x i t with ⟨e | value, u⟩
  · rw [Exec.wp_of_error result]
    simp only [result, wp]
  · rw [Exec.wp_of_ok result]
    simp only [result, wp]

@[simp] theorem wp_ite (c : Prop) [Decidable c] (x y : Thread ι σ ε α) :
    wp law (if c then x else y) Q X s ↔ (c → wp law x Q X s) ∧ (¬ c → wp law y Q X s) := by
  by_cases holds : c <;> simp [holds]

/-- **Consequence**. -/
theorem wp_mono {x : Thread ι σ ε α} (holds : wp law x Q X s) (value : ∀ a t, Q a t → Q' a t)
    (thrown : ∀ e t, X e t → X' e t) : wp law x Q' X' s := by
  induction x generalizing s with
  | done result =>
    rcases result with e | a
    · exact thrown e s holds
    · exact value a s holds
  | step change next ih =>
    intro t others inv i
    obtain ⟨kept, allowed, rest⟩ := holds t others inv i
    exact ⟨kept, allowed, ih i t rest⟩

/-- A callee whose exceptions are the caller's. -/
theorem wp_value {x : Thread ι σ ε α} (holds : wp law x Q X s) (value : ∀ a t, Q a t → Q' a t) :
    wp law x Q' X s :=
  wp_mono holds value fun _ _ thrown => thrown

/-- A thread that waits is not disturbed by what it relies on. -/
theorem wp_stable {x : Thread ι σ ε α} {t : σ} (trans : ∀ {s t u}, law.rely s t →
    law.rely t u → law.rely s u) (value : ∀ a s t, law.rely s t → Q a s → Q a t)
    (thrown : ∀ e s t, law.rely s t → X e s → X e t) (others : law.rely s t)
    (holds : wp law x Q X s) : wp law x Q X t := by
  rcases x with (e | a) | ⟨change, next⟩
  · exact thrown e s t others holds
  · exact value a s t others holds
  · exact fun u more inv i => holds u (trans others more) inv i

/-- A program cannot both return and throw. -/
theorem wp_conflict [Inhabited ι] {x : Thread ι σ ε α} (refl : ∀ s, law.rely s s)
    (inv : ∀ s, law.inv s) (returns : wp law x Q (fun _ _ => False) s)
    (throws : wp law x (fun _ _ => False) X s) : False := by
  induction x generalizing s with
  | done result => rcases result with e | value <;> assumption
  | step change next ih =>
    obtain ⟨-, -, first⟩ := returns s (refl s) (inv s) default
    obtain ⟨-, -, second⟩ := throws s (refl s) (inv s) default
    exact ih default s first second

end Rules

/-! ### Another environment -/

section Given

variable {ι' : Type} (answer : ι' → ι)

theorem given_bind (x : Thread ι σ ε β) (f : β → Thread ι σ ε α) :
    (x >>= f).given answer = x.given answer >>= fun value => (f value).given answer := by
  induction x with
  | done result => rcases result with e | value <;> rfl
  | step change next ih =>
    show step _ _ = step _ _
    congr 1
    funext i s
    exact ih (answer i) s

theorem given_handle (x : Thread ι σ ε α) (handler : ε → Option (Thread ι σ ε α)) :
    (x.handle handler).given answer =
      (x.given answer).handle fun e => (handler e).map fun recover => recover.given answer := by
  induction x with
  | done result =>
    rcases result with e | value
    · rcases caught : handler e with _ | recover <;> simp [handle, given, caught]
    · rfl
  | step change next ih =>
    show step _ _ = step _ _
    congr 1
    funext i s
    exact ih (answer i) s

end Given

/-! ### What every step keeps -/

/-- Every step that is taken in a state of `P` ends in one. -/
def Keeps (P : σ → Prop) (x : Thread ι σ ε α) : Prop :=
  ∀ s, wp ⟨fun _ _ => True, fun _ _ => True, P⟩ x (fun _ _ => True) (fun _ _ => True) s

section Keeps

variable {P : σ → Prop}

theorem keeps_pure (value : α) : Keeps P (pure value : Thread ι σ ε α) := fun _ => trivial

theorem keeps_raise (e : ε) : Keeps P (raise e : Thread ι σ ε α) := fun _ => trivial

theorem keeps_bind {x : Thread ι σ ε β} {f : β → Thread ι σ ε α} (first : Keeps P x)
    (next : ∀ value, Keeps P (f value)) : Keeps P (x >>= f) := fun s => by
  rw [wp_bind]
  exact wp_mono (first s) (fun value t _ => next value t) fun _ _ _ => trivial

theorem keeps_ite {c : Prop} [Decidable c] {x y : Thread ι σ ε α} (yes : c → Keeps P x)
    (no : ¬ c → Keeps P y) : Keeps P (if c then x else y) := fun s => by
  rw [wp_ite]
  exact ⟨fun holds => yes holds s, fun fails => no fails s⟩

theorem keeps_handle {x : Thread ι σ ε α} {handler : ε → Option (Thread ι σ ε α)}
    (first : Keeps P x) (caught : ∀ e recover, handler e = some recover → Keeps P recover) :
    Keeps P (x.handle handler) := fun s => by
  rw [wp_handle]
  refine wp_mono (first s) (fun _ _ _ => trivial) fun e t _ => ?_
  rcases found : handler e with _ | recover
  · trivial
  · exact caught e recover found t

theorem keeps_atomic {x : ι → Exec σ ε α} (moves : ∀ i s, P s → Exec.Keeps P (x i) s) :
    Keeps P (atomic x) := fun _ => by
  rw [wp_atomic]
  intro t _ holds i
  exact Exec.wp_mono (moves i t holds) (fun _ _ kept => ⟨kept, trivial, trivial⟩)
    fun _ _ kept => ⟨kept, trivial, trivial⟩

/-- The state in which a program is judged does not matter. -/
theorem keeps_of_wp {x : Thread ι σ ε α} {s : σ}
    (holds : wp ⟨fun _ _ => True, fun _ _ => True, P⟩ x (fun _ _ => True) (fun _ _ => True) s) :
    Keeps P x := by
  intro t
  rcases x with (e | value) | ⟨change, next⟩
  · trivial
  · trivial
  · exact fun u _ inv i => holds u trivial inv i

/-- What is read in a state of `P`. -/
theorem keeps_read {f : σ → Thread ι σ ε α} (next : ∀ s, P s → Keeps P (f s)) :
    Keeps P (atomic (fun _ => Exec.read) >>= f) := fun s => by
  rw [wp_bind, wp_atomic]
  exact fun t _ holds _ => ⟨holds, trivial, next t holds t⟩

end Keeps

/-- The law of steps that are judged one at a time, wherever they are taken. -/
def Law.alone (may : σ → σ → Prop) : Law σ := ⟨fun _ _ => True, may, fun _ => True⟩

/-- Every step of the program is one of `may`, wherever it is taken. -/
def Stepwise (may : σ → σ → Prop) (x : Thread ι σ ε α) : Prop :=
  ∀ s, wp (Law.alone may) x (fun _ _ => True) (fun _ _ => True) s

section Stepwise

variable {may : σ → σ → Prop}

theorem stepwise_pure (value : α) : Stepwise may (pure value : Thread ι σ ε α) := fun _ => trivial

theorem stepwise_raise (e : ε) : Stepwise may (raise e : Thread ι σ ε α) := fun _ => trivial

theorem stepwise_bind {x : Thread ι σ ε β} {f : β → Thread ι σ ε α} (first : Stepwise may x)
    (next : ∀ value, Stepwise may (f value)) : Stepwise may (x >>= f) := fun s => by
  rw [wp_bind]
  exact wp_mono (first s) (fun value t _ => next value t) fun _ _ _ => trivial

theorem stepwise_ite {c : Prop} [Decidable c] {x y : Thread ι σ ε α} (yes : Stepwise may x)
    (no : Stepwise may y) : Stepwise may (if c then x else y) := fun s => by
  rw [wp_ite]
  exact ⟨fun _ => yes s, fun _ => no s⟩

theorem stepwise_handle {x : Thread ι σ ε α} {handler : ε → Option (Thread ι σ ε α)}
    (first : Stepwise may x) (caught : ∀ e recover, handler e = some recover →
      Stepwise may recover) : Stepwise may (x.handle handler) := fun s => by
  rw [wp_handle]
  refine wp_mono (first s) (fun _ _ _ => trivial) fun e t _ => ?_
  rcases found : handler e with _ | recover
  · trivial
  · exact caught e recover found t

theorem stepwise_atomic {x : ι → Exec σ ε α}
    (moves : ∀ i s, Exec.wp (x i) (fun _ => may s) (fun _ => may s) s) :
    Stepwise may (atomic x) := fun _ => by
  rw [wp_atomic]
  intro t _ _ i
  exact Exec.wp_mono (moves i t) (fun _ _ moved => ⟨trivial, moved, trivial⟩)
    fun _ _ moved => ⟨trivial, moved, trivial⟩

/-- Steps that do less do what is allowed. -/
theorem stepwise_mono {may' : σ → σ → Prop} {x : Thread ι σ ε α} (holds : Stepwise may x)
    (weaker : ∀ s t, may s t → may' s t) : Stepwise may' x := by
  intro s
  have first := holds s
  clear holds
  induction x generalizing s with
  | done result => rcases result with e | value <;> trivial
  | step change next ih =>
    intro t _ _ i
    obtain ⟨-, moved, rest⟩ := first t trivial trivial i
    exact ⟨trivial, weaker _ _ moved, ih i t _ rest⟩

/-- What the others leave, and every step keeps, is kept by the program. -/
theorem wp_stepwise {law : Law σ} {A : σ → Prop} {x : Thread ι σ ε α} {s : σ}
    (stable : ∀ s t, law.rely s t → A s → A t)
    (moved : ∀ s t, law.inv s → A s → may s t → law.inv t ∧ law.may s t ∧ A t)
    (steps : Stepwise may x) (holds : A s) : wp law x (fun _ => A) (fun _ => A) s := by
  have first := steps s
  clear steps
  induction x generalizing s with
  | done result => rcases result with e | value <;> exact holds
  | step change next ih =>
    intro t others inv i
    obtain ⟨-, step, rest⟩ := first t trivial trivial i
    obtain ⟨kept, allowed, after⟩ := moved t _ inv (stable s t others holds) step
    exact ⟨kept, allowed, ih i t after rest⟩

end Stepwise

/-! ### A part of the state -/

section Zoom

variable {ι' σ' : Type} (answer : ι' → ι) (get : σ' → σ) (put : σ → σ' → σ')

theorem zoom_bind (x : Thread ι σ ε β) (f : β → Thread ι σ ε α) :
    (x >>= f).zoom answer get put =
      x.zoom answer get put >>= fun value => (f value).zoom answer get put := by
  induction x with
  | done result => rcases result with e | value <;> rfl
  | step change next ih =>
    show step _ _ = step _ _
    congr 1
    funext i s
    exact ih (answer i) (get s)

theorem zoom_handle (x : Thread ι σ ε α) (handler : ε → Option (Thread ι σ ε α)) :
    (x.handle handler).zoom answer get put = (x.zoom answer get put).handle fun e =>
      (handler e).map fun recover => recover.zoom answer get put := by
  induction x with
  | done result =>
    rcases result with e | value
    · rcases caught : handler e with _ | recover <;> simp [handle, zoom, caught]
    · rfl
  | step change next ih =>
    show step _ _ = step _ _
    congr 1
    funext i s
    exact ih (answer i) (get s)

/-- Steps of a part, judged as steps of the whole. -/
theorem stepwise_zoom {may : σ → σ → Prop} {may' : σ' → σ' → Prop} {x : Thread ι σ ε α}
    (moved : ∀ t u, may (get t) u → may' t (put u t)) (steps : Stepwise may x) :
    Stepwise may' (x.zoom answer get put) := by
  intro s
  have first := steps (get s)
  clear steps
  revert first
  generalize get s = part
  intro first
  induction x generalizing s part with
  | done result => rcases result with e | value <;> trivial
  | step change next ih =>
    intro t _ _ i
    obtain ⟨-, step, rest⟩ := first (get t) trivial trivial (answer i)
    exact ⟨trivial, moved t _ step, ih _ _ _ _ rest⟩

/-- An atomic step of a part. -/
theorem wp_zoom_atomic {law : Law σ'} {Q : α → σ' → Prop} {X : ε → σ' → Prop} {s : σ'}
    (x : ι → Exec σ ε α) :
    wp law ((atomic x).zoom answer get put) Q X s ↔ ∀ t, law.rely s t → law.inv t → ∀ i,
      Exec.wp (x (answer i))
        (fun value u => law.inv (put u t) ∧ law.may t (put u t) ∧ Q value (put u t))
        (fun e u => law.inv (put u t) ∧ law.may t (put u t) ∧ X e (put u t)) (get t) := by
  refine forall_congr' fun t => forall_congr' fun _ => forall_congr' fun _ =>
    forall_congr' fun i => ?_
  rcases result : x (answer i) (get t) with ⟨e | value, u⟩
  · rw [Exec.wp_of_error result]
    simp only [result, zoom, wp]
  · rw [Exec.wp_of_ok result]
    simp only [result, zoom, wp]

end Zoom

/-- A program of a part of the state, judged by its steps, follows the law of the whole. -/
theorem wp_zoom {ι' σ' : Type} {answer : ι' → ι} {get : σ' → σ} {put : σ → σ' → σ'}
    {law : Law σ'} {may : σ → σ → Prop} {Q : α → σ → Prop} {X : ε → σ → Prop}
    {Q' : α → σ' → Prop} {X' : ε → σ' → Prop} {x : Thread ι σ ε α} {part : σ} {s : σ'}
    (moved : ∀ t u, law.inv t → may (get t) u → law.inv (put u t) ∧ law.may t (put u t))
    (value : ∀ a t u, law.inv (put u t) → Q a u → Q' a (put u t))
    (thrown : ∀ e t u, law.inv (put u t) → X e u → X' e (put u t))
    (ended : ∀ a, Q a part → Q' a s) (failed : ∀ e, X e part → X' e s)
    (holds : wp (Law.alone may) x Q X part) : wp law (x.zoom answer get put) Q' X' s := by
  induction x generalizing part s with
  | done result =>
    rcases result with e | a
    · exact failed e holds
    · exact ended a holds
  | step change next ih =>
    intro t others inv i
    obtain ⟨-, allowed, rest⟩ := holds (get t) trivial trivial (answer i)
    obtain ⟨kept, may⟩ := moved t _ inv allowed
    exact ⟨kept, may, ih _ _ (fun a => value a t _ kept) (fun e => thrown e t _ kept) rest⟩

/-- A program that follows a law of a part of the state follows a law of the whole that relies on no
less and forbids it nothing. -/
theorem wp_zoom_of_law {ι' σ' : Type} {answer : ι' → ι} {get : σ' → σ} {put : σ → σ' → σ'}
    {law : Law σ} {whole : Law σ'} {Q : α → σ → Prop} {X : ε → σ → Prop} {x : Thread ι σ ε α}
    {s : σ'} (got : ∀ u t, get (put u t) = u)
    (rely : ∀ s t, whole.rely s t → law.rely (get s) (get t))
    (inv : ∀ t, whole.inv t → law.inv (get t))
    (moved : ∀ t u, whole.inv t → law.inv u → law.may (get t) u →
      whole.inv (put u t) ∧ whole.may t (put u t))
    (holds : wp law x Q X (get s)) :
    wp whole (x.zoom answer get put) (fun a t => Q a (get t)) (fun e t => X e (get t)) s := by
  induction x generalizing s with
  | done result => rcases result with e | a <;> exact holds
  | step change next ih =>
    intro t others kept i
    obtain ⟨kept', allowed, rest⟩ := holds (get t) (rely s t others) (inv t kept) (answer i)
    obtain ⟨whole', may⟩ := moved t _ kept kept' allowed
    refine ⟨whole', may, ih _ _ ?_⟩
    rw [got]
    exact rest

end Thread

/-! ### Processes -/

/-- A service: how a process `π` starts, its programs `κ`, what its death does to the shared
state, and the moves `ω` of the world. -/
structure Service (π κ ω ι τ σ ε : Type) where
  launch : π → σ → τ
  program : π → κ → Thread ι (τ × σ) ε Unit
  crash : π → σ → σ
  world : ω → σ → σ

/-- One move of a run. -/
inductive Move (π κ ω ι : Type) : Type
  | launch (p : π)
  | call (p : π) (program : κ)
  | step (p : π) (answer : ι)
  | crash (p : π)
  | world (event : ω)

/-- The move leaves it to this process what it does: to go on, or to wait. -/
def Move.spares {π κ ω ι : Type} (p : π) : Move π κ ω ι → Prop
  | .launch q => q ≠ p
  | .call q _ => q ≠ p
  | .step _ _ => True
  | .crash q => q ≠ p
  | .world _ => True

/-- The shared state, and each living process: its own state, and what it has still to run. -/
structure Fleet (π ι τ σ ε : Type) where
  shared : σ
  processes : π → Option (τ × Thread ι (τ × σ) ε Unit)

section Fleets

variable {π κ ω ι τ σ ε : Type} [DecidableEq π]

/-- No process lives. -/
def Fleet.asleep (shared : σ) : Fleet π ι τ σ ε := ⟨shared, fun _ => none⟩

/-- A process and the shared state change together. -/
def Fleet.put (fleet : Fleet π ι τ σ ε) (p : π) (shared : σ)
    (process : Option (τ × Thread ι (τ × σ) ε Unit)) : Fleet π ι τ σ ε :=
  ⟨shared, Function.update fleet.processes p process⟩

/-- A process takes its next step. -/
def Fleet.stepped (fleet : Fleet π ι τ σ ε) (p : π) (answer : ι) : Fleet π ι τ σ ε :=
  match fleet.processes p with
  | some (own, .step change next) =>
    let state := change answer (own, fleet.shared)
    fleet.put p state.2 (some (state.1, next answer (own, fleet.shared)))
  | _ => fleet

namespace Service

variable (service : Service π κ ω ι τ σ ε)

/-- A process that does not live is launched. -/
def launched (fleet : Fleet π ι τ σ ε) (p : π) : Fleet π ι τ σ ε :=
  match fleet.processes p with
  | none => fleet.put p fleet.shared (some (service.launch p fleet.shared, .done (.ok ())))
  | some _ => fleet

/-- A process that has nothing to run is called. -/
def called (fleet : Fleet π ι τ σ ε) (p : π) (program : κ) : Fleet π ι τ σ ε :=
  match fleet.processes p with
  | some (own, .done _) => fleet.put p fleet.shared (some (own, service.program p program))
  | _ => fleet

/-- A process dies. -/
def crashed (fleet : Fleet π ι τ σ ε) (p : π) : Fleet π ι τ σ ε :=
  match fleet.processes p with
  | none => fleet
  | some _ => fleet.put p (service.crash p fleet.shared) none

/-- One move. -/
def move (fleet : Fleet π ι τ σ ε) : Move π κ ω ι → Fleet π ι τ σ ε
  | .launch p => service.launched fleet p
  | .call p program => service.called fleet p program
  | .step p answer => fleet.stepped p answer
  | .crash p => service.crashed fleet p
  | .world event => ⟨service.world event fleet.shared, fleet.processes⟩

/-- A run from a shared state, with no process alive. -/
def run (shared : σ) (moves : List (Move π κ ω ι)) : Fleet π ι τ σ ε :=
  moves.foldl service.move (Fleet.asleep shared)

end Service

/-! ### What every step keeps holds in every run -/

/-- The shared state and every process are as `A` and `B` say, and what is left to run keeps it. -/
structure Fleet.Sound (A : τ → Prop) (B : σ → Prop) (fleet : Fleet π ι τ σ ε) : Prop where
  shared : B fleet.shared
  own : ∀ p process, fleet.processes p = some process →
    A process.1 ∧ Thread.Keeps (fun s => A s.1 ∧ B s.2) process.2

section Sound

variable {A : τ → Prop} {B : σ → Prop} {fleet : Fleet π ι τ σ ε}

theorem Fleet.Sound.put (sound : fleet.Sound A B) {p : π} {shared : σ}
    {process : Option (τ × Thread ι (τ × σ) ε Unit)} (holds : B shared)
    (own : ∀ found, process = some found →
      A found.1 ∧ Thread.Keeps (fun s => A s.1 ∧ B s.2) found.2) :
    (fleet.put p shared process).Sound A B := by
  refine ⟨holds, fun q other found => ?_⟩
  change Function.update fleet.processes p process q = some other at found
  by_cases same : q = p
  · subst same
    rw [Function.update_self] at found
    exact own other found
  · rw [Function.update_of_ne same] at found
    exact sound.own q other found

theorem Fleet.Sound.stepped (sound : fleet.Sound A B) (p : π) (answer : ι) :
    (fleet.stepped p answer).Sound A B := by
  unfold Fleet.stepped
  rcases living : fleet.processes p with _ | ⟨own, result | ⟨change, next⟩⟩
  · exact sound
  · exact sound
  · obtain ⟨holds, keeps⟩ := sound.own p _ living
    obtain ⟨kept, -, rest⟩ :=
      keeps (own, fleet.shared) (own, fleet.shared) trivial ⟨holds, sound.shared⟩ answer
    refine sound.put kept.2 ?_
    rintro found ⟨rfl⟩
    exact ⟨kept.1, Thread.keeps_of_wp rest⟩

/-- **In every run** what every step keeps holds of the shared state and of every process. -/
theorem Service.always (service : Service π κ ω ι τ σ ε)
    (launch : ∀ p s, B s → A (service.launch p s))
    (program : ∀ p called, Thread.Keeps (fun s => A s.1 ∧ B s.2) (service.program p called))
    (crash : ∀ p s, B s → B (service.crash p s))
    (world : ∀ event s, B s → B (service.world event s))
    {shared : σ} (holds : B shared) (moves : List (Move π κ ω ι)) :
    (service.run shared moves).Sound A B := by
  have moved : ∀ fleet : Fleet π ι τ σ ε, fleet.Sound A B → ∀ move,
      (service.move fleet move).Sound A B := by
    intro fleet sound move
    cases move with
    | launch p =>
      show (service.launched fleet p).Sound A B
      unfold Service.launched
      rcases fleet.processes p with _ | process
      · refine sound.put sound.shared ?_
        rintro found ⟨rfl⟩
        exact ⟨launch p _ sound.shared, fun _ => trivial⟩
      · exact sound
    | call p called =>
      show (service.called fleet p called).Sound A B
      unfold Service.called
      rcases living : fleet.processes p with _ | ⟨own, result | ⟨change, next⟩⟩
      · exact sound
      · refine sound.put sound.shared ?_
        rintro found ⟨rfl⟩
        exact ⟨(sound.own p _ living).1, program p called⟩
      · exact sound
    | step p answer => exact sound.stepped p answer
    | crash p =>
      show (service.crashed fleet p).Sound A B
      unfold Service.crashed
      rcases fleet.processes p with _ | process
      · exact sound
      · exact sound.put (crash p _ sound.shared) nofun
    | world event => exact ⟨world event _ sound.shared, sound.own⟩
  have started : (Fleet.asleep shared : Fleet π ι τ σ ε).Sound A B :=
    ⟨holds, fun _ _ alive => by cases alive⟩
  unfold Service.run
  generalize Fleet.asleep shared = fleet at started
  induction moves generalizing fleet with
  | nil => exact started
  | cons move rest ih => exact ih _ (moved fleet started move)

end Sound

/-- Laws that fit together: a process may do what all the others rely on. -/
structure Discipline (service : Service π κ ω ι τ σ ε) where
  rely : π → σ → σ → Prop
  inv : σ → Prop
  /-- A process that has nothing to run. -/
  idle : π → τ × σ → Prop
  rely_refl : ∀ p s, rely p s s
  rely_trans : ∀ {p s t u}, rely p s t → rely p t u → rely p s u
  idle_stable : ∀ {p own s t}, rely p s t → idle p (own, s) → idle p (own, t)
  launch : ∀ {s} p, inv s → idle p (service.launch p s, s)
  call : ∀ {p state} program, idle p state → Thread.wp
    ⟨fun s t => t.1 = s.1 ∧ rely p s.2 t.2, fun s t => ∀ q, q ≠ p → rely q s.2 t.2,
      fun s => inv s.2⟩
    (service.program p program) (fun _ => idle p) (fun _ => idle p) state
  crash : ∀ {s} p, inv s → inv (service.crash p s) ∧ ∀ q, q ≠ p → rely q s (service.crash p s)
  world : ∀ {s} event, inv s →
    inv (service.world event s) ∧ ∀ q, rely q s (service.world event s)

namespace Discipline

variable {service : Service π κ ω ι τ σ ε} (discipline : Discipline service)

/-- The law of one process. -/
def law (p : π) : Thread.Law (τ × σ) where
  rely s t := t.1 = s.1 ∧ discipline.rely p s.2 t.2
  may s t := ∀ q, q ≠ p → discipline.rely q s.2 t.2
  inv s := discipline.inv s.2

/-- The rest of what a process runs follows its law. -/
def Follows (p : π) (shared : σ) (process : τ × Thread ι (τ × σ) ε Unit) : Prop :=
  Thread.wp (discipline.law p) process.2 (fun _ => discipline.idle p) (fun _ => discipline.idle p)
    (process.1, shared)

/-- The invariant holds and every process follows its law. -/
structure Orderly (fleet : Fleet π ι τ σ ε) : Prop where
  inv : discipline.inv fleet.shared
  follows : ∀ p process, fleet.processes p = some process →
    discipline.Follows p fleet.shared process

variable {discipline}

theorem law_trans {p : π} {s t u : τ × σ} (first : (discipline.law p).rely s t)
    (second : (discipline.law p).rely t u) : (discipline.law p).rely s u :=
  ⟨second.1.trans first.1, discipline.rely_trans first.2 second.2⟩

/-- A process that waits is not disturbed by what it relies on. -/
theorem Follows.stable {p : π} {s t : σ} {process : τ × Thread ι (τ × σ) ε Unit}
    (others : discipline.rely p s t) (follows : discipline.Follows p s process) :
    discipline.Follows p t process := by
  have calm : ∀ s t, (discipline.law p).rely s t → discipline.idle p s → discipline.idle p t := by
    rintro ⟨own, s⟩ ⟨_, t⟩ ⟨rfl, others⟩ idle
    exact discipline.idle_stable others idle
  have relied : (discipline.law p).rely (process.1, s) (process.1, t) := ⟨rfl, others⟩
  exact Thread.wp_stable law_trans (fun _ => calm) (fun _ => calm) relied follows

/-- A process that has nothing to run is idle. -/
theorem Follows.idle {p : π} {s : σ} {own : τ} {result : Except ε Unit}
    (follows : discipline.Follows p s (own, .done result)) : discipline.idle p (own, s) := by
  rcases result with e | value <;> exact follows

/-- One process changes, and the others rely on what it does. -/
theorem Orderly.put {fleet : Fleet π ι τ σ ε} (orderly : discipline.Orderly fleet) {p : π}
    {shared : σ} {process : Option (τ × Thread ι (τ × σ) ε Unit)} (inv : discipline.inv shared)
    (follows : ∀ own, process = some own → discipline.Follows p shared own)
    (others : ∀ q, q ≠ p → discipline.rely q fleet.shared shared) :
    discipline.Orderly (fleet.put p shared process) := by
  refine ⟨inv, fun q other found => ?_⟩
  change Function.update fleet.processes p process q = some other at found
  by_cases same : q = p
  · subst same
    rw [Function.update_self] at found
    exact follows other found
  · rw [Function.update_of_ne same] at found
    exact (orderly.follows q other found).stable (others q same)

theorem Orderly.launched {fleet : Fleet π ι τ σ ε} (orderly : discipline.Orderly fleet) (p : π) :
    discipline.Orderly (service.launched fleet p) := by
  unfold Service.launched
  rcases fleet.processes p with _ | process
  · refine orderly.put orderly.inv ?_ fun q _ => discipline.rely_refl q _
    rintro own ⟨rfl⟩
    exact discipline.launch p orderly.inv
  · exact orderly

theorem Orderly.called {fleet : Fleet π ι τ σ ε} (orderly : discipline.Orderly fleet) (p : π)
    (program : κ) : discipline.Orderly (service.called fleet p program) := by
  unfold Service.called
  rcases living : fleet.processes p with _ | ⟨own, result | ⟨change, next⟩⟩
  · exact orderly
  · have idle : discipline.idle p (own, fleet.shared) := (orderly.follows p _ living).idle
    refine orderly.put orderly.inv ?_ fun q _ => discipline.rely_refl q _
    rintro own ⟨rfl⟩
    exact discipline.call program idle
  · exact orderly

/-- A step follows the law of its process, so it disturbs no other one. -/
theorem Orderly.stepped {fleet : Fleet π ι τ σ ε} (orderly : discipline.Orderly fleet) (p : π)
    (answer : ι) : discipline.Orderly (fleet.stepped p answer) := by
  unfold Fleet.stepped
  rcases living : fleet.processes p with _ | ⟨own, result | ⟨change, next⟩⟩
  · exact orderly
  · exact orderly
  · obtain ⟨kept, allowed, rest⟩ := orderly.follows p _ living (own, fleet.shared)
      ⟨rfl, discipline.rely_refl p _⟩ orderly.inv answer
    refine orderly.put kept ?_ allowed
    rintro own ⟨rfl⟩
    exact rest

theorem Orderly.crashed {fleet : Fleet π ι τ σ ε} (orderly : discipline.Orderly fleet) (p : π) :
    discipline.Orderly (service.crashed fleet p) := by
  unfold Service.crashed
  rcases fleet.processes p with _ | process
  · exact orderly
  · obtain ⟨kept, others⟩ := discipline.crash p orderly.inv
    exact orderly.put kept nofun others

/-- **One move** keeps the order. -/
theorem Orderly.move {fleet : Fleet π ι τ σ ε} (orderly : discipline.Orderly fleet) :
    ∀ move : Move π κ ω ι, discipline.Orderly (service.move fleet move)
  | .launch p => orderly.launched p
  | .call p program => orderly.called p program
  | .step p answer => orderly.stepped p answer
  | .crash p => orderly.crashed p
  | .world event =>
    have moved := discipline.world event orderly.inv
    ⟨moved.1, fun q process found => (orderly.follows q process found).stable (moved.2 q)⟩

/-- What another one does, a process may rely on. -/
theorem Orderly.relies {fleet : Fleet π ι τ σ ε} (orderly : discipline.Orderly fleet) {p : π}
    {move : Move π κ ω ι} (spared : move.spares p) (other : ∀ answer, move ≠ .step p answer) :
    (service.move fleet move).processes p = fleet.processes p ∧
      discipline.rely p fleet.shared (service.move fleet move).shared := by
  cases move with
  | launch q =>
    show (service.launched fleet q).processes p = _ ∧
      discipline.rely p _ (service.launched fleet q).shared
    unfold Service.launched
    cases fleet.processes q with
    | none => exact ⟨Function.update_of_ne spared.symm _ _, discipline.rely_refl p _⟩
    | some process => exact ⟨rfl, discipline.rely_refl p _⟩
  | call q program =>
    show (service.called fleet q program).processes p = _ ∧
      discipline.rely p _ (service.called fleet q program).shared
    unfold Service.called
    split
    · exact ⟨Function.update_of_ne spared.symm _ _, discipline.rely_refl p _⟩
    · exact ⟨rfl, discipline.rely_refl p _⟩
  | step q answer =>
    have differs : p ≠ q := by
      rintro rfl
      exact other answer rfl
    show (fleet.stepped q answer).processes p = _ ∧
      discipline.rely p _ (fleet.stepped q answer).shared
    unfold Fleet.stepped
    rcases living : fleet.processes q with _ | ⟨own, result | ⟨change, next⟩⟩
    · exact ⟨rfl, discipline.rely_refl p _⟩
    · exact ⟨rfl, discipline.rely_refl p _⟩
    · obtain ⟨-, allowed, -⟩ := orderly.follows q _ living (own, fleet.shared)
        ⟨rfl, discipline.rely_refl q _⟩ orderly.inv answer
      exact ⟨Function.update_of_ne differs _ _, allowed p differs⟩
  | crash q =>
    show (service.crashed fleet q).processes p = _ ∧
      discipline.rely p _ (service.crashed fleet q).shared
    unfold Service.crashed
    cases fleet.processes q with
    | none => exact ⟨rfl, discipline.rely_refl p _⟩
    | some process =>
      obtain ⟨-, others⟩ := discipline.crash q orderly.inv
      exact ⟨Function.update_of_ne spared.symm _ _, others p spared.symm⟩
  | world event => exact ⟨rfl, (discipline.world event orderly.inv).2 p⟩

section Calls

variable {p : π} {Q : Unit → τ × σ → Prop} {X : ε → τ × σ → Prop}

/-- The process lives, and what it has still to run ends in `Q` or in `X`. -/
def Ends (discipline : Discipline service) (p : π) (Q : Unit → τ × σ → Prop)
    (X : ε → τ × σ → Prop) (fleet : Fleet π ι τ σ ε) : Prop :=
  ∃ process, fleet.processes p = some process ∧
    Thread.wp (discipline.law p) process.2 Q X (process.1, fleet.shared)

/-- Its own next step. -/
theorem Orderly.ends_step {fleet : Fleet π ι τ σ ε} (orderly : discipline.Orderly fleet)
    (ends : discipline.Ends p Q X fleet) (answer : ι) :
    discipline.Ends p Q X (fleet.stepped p answer) := by
  obtain ⟨⟨own, result | ⟨change, next⟩⟩, living, spec⟩ := ends
  · unfold Fleet.stepped
    rw [living]
    exact ⟨_, living, spec⟩
  · obtain ⟨-, -, rest⟩ :=
      spec (own, fleet.shared) ⟨rfl, discipline.rely_refl p _⟩ orderly.inv answer
    unfold Fleet.stepped
    rw [living]
    exact ⟨_, Function.update_self _ _ _, rest⟩

/-- A move that spares the process. -/
theorem Orderly.ends_move {fleet : Fleet π ι τ σ ε} (orderly : discipline.Orderly fleet)
    (value : ∀ a s t, (discipline.law p).rely s t → Q a s → Q a t)
    (thrown : ∀ e s t, (discipline.law p).rely s t → X e s → X e t)
    (ends : discipline.Ends p Q X fleet) {move : Move π κ ω ι} (spared : move.spares p) :
    discipline.Ends p Q X (service.move fleet move) := by
  by_cases mine : ∃ answer, move = .step p answer
  · obtain ⟨answer, rfl⟩ := mine
    exact orderly.ends_step ends answer
  · obtain ⟨same, others⟩ := orderly.relies spared fun answer equal => mine ⟨answer, equal⟩
    obtain ⟨process, living, spec⟩ := ends
    have relied : (discipline.law p).rely (process.1, fleet.shared)
        (process.1, (service.move fleet move).shared) := ⟨rfl, others⟩
    exact ⟨process, same.trans living, Thread.wp_stable law_trans value thrown relied spec⟩

/-- **A call ends as it should**, whatever the others do meanwhile. -/
theorem Orderly.ends_run {fleet : Fleet π ι τ σ ε} (orderly : discipline.Orderly fleet)
    (value : ∀ a s t, (discipline.law p).rely s t → Q a s → Q a t)
    (thrown : ∀ e s t, (discipline.law p).rely s t → X e s → X e t)
    (ends : discipline.Ends p Q X fleet) {moves : List (Move π κ ω ι)}
    (spared : ∀ move ∈ moves, move.spares p) :
    discipline.Ends p Q X (moves.foldl service.move fleet) := by
  induction moves generalizing fleet with
  | nil => exact ends
  | cons move rest ih =>
    obtain ⟨first, others⟩ := List.forall_mem_cons.mp spared
    exact ih (orderly.move move) (orderly.ends_move value thrown ends first) others

end Calls

/-- **Every run** keeps the order. -/
theorem Orderly.run {fleet : Fleet π ι τ σ ε} (orderly : discipline.Orderly fleet)
    (moves : List (Move π κ ω ι)) : discipline.Orderly (moves.foldl service.move fleet) := by
  induction moves generalizing fleet with
  | nil => exact orderly
  | cons move rest ih => exact ih (orderly.move move)

theorem orderly (discipline : Discipline service) {shared : σ} (inv : discipline.inv shared)
    (moves : List (Move π κ ω ι)) : discipline.Orderly (service.run shared moves) :=
  Orderly.run ⟨inv, fun _ _ alive => by cases alive⟩ moves

/-- **Every run** keeps the invariant. -/
theorem keeps (discipline : Discipline service) {shared : σ} (inv : discipline.inv shared)
    (moves : List (Move π κ ω ι)) : discipline.inv (service.run shared moves).shared :=
  (discipline.orderly inv moves).inv

end Discipline

end Fleets

/-! ### One process at a time -/

/-- What holds where one process runs at a time: `vacant` when none lives, `idle` when it has
nothing to run. Between two of its steps only the world moves. -/
structure Solo {κ ω ι τ σ ε : Type} (service : Service Unit κ ω ι τ σ ε) where
  rely : σ → σ → Prop
  inv : σ → Prop
  vacant : σ → Prop
  idle : τ × σ → Prop
  rely_refl : ∀ s, rely s s
  rely_trans : ∀ {s t u}, rely s t → rely t u → rely s u
  vacant_stable : ∀ {s t}, rely s t → vacant s → vacant t
  idle_stable : ∀ {own s t}, rely s t → idle (own, s) → idle (own, t)
  launch : ∀ {s}, vacant s → idle (service.launch () s, s)
  call : ∀ {state} program, idle state → Thread.wp
    ⟨fun s t => t.1 = s.1 ∧ rely s.2 t.2, fun _ _ => True, fun s => inv s.2⟩
    (service.program () program) (fun _ => idle) (fun _ => idle) state
  crash : ∀ {s}, inv s → inv (service.crash () s) ∧ vacant (service.crash () s)
  world : ∀ {s} event, inv s → inv (service.world event s) ∧ rely s (service.world event s)

namespace Solo

variable {κ ω ι τ σ ε : Type} {service : Service Unit κ ω ι τ σ ε} (solo : Solo service)

/-- The law of the process. -/
def law : Thread.Law (τ × σ) where
  rely s t := t.1 = s.1 ∧ solo.rely s.2 t.2
  may _ _ := True
  inv s := solo.inv s.2

/-- The invariant holds, and what the process has still to run follows its law. -/
structure Orderly (fleet : Fleet Unit ι τ σ ε) : Prop where
  inv : solo.inv fleet.shared
  vacant : fleet.processes () = none → solo.vacant fleet.shared
  follows : ∀ process, fleet.processes () = some process →
    Thread.wp solo.law process.2 (fun _ => solo.idle) (fun _ => solo.idle)
      (process.1, fleet.shared)

variable {solo}

theorem law_trans {s t u : τ × σ} (first : solo.law.rely s t) (second : solo.law.rely t u) :
    solo.law.rely s u := ⟨second.1.trans first.1, solo.rely_trans first.2 second.2⟩

/-- The process lives on, with another program. -/
theorem Orderly.alive {fleet : Fleet Unit ι τ σ ε} {shared : σ}
    {process : τ × Thread ι (τ × σ) ε Unit} (inv : solo.inv shared)
    (follows : Thread.wp solo.law process.2 (fun _ => solo.idle) (fun _ => solo.idle)
      (process.1, shared)) : solo.Orderly (fleet.put () shared (some process)) := by
  refine ⟨inv, fun gone => ?_, fun other found => ?_⟩
  · change Function.update fleet.processes () (some process) () = none at gone
    rw [Function.update_self] at gone
    cases gone
  · change Function.update fleet.processes () (some process) () = some other at found
    rw [Function.update_self] at found
    cases found
    exact follows

/-- **One move** keeps the order. -/
theorem Orderly.move {fleet : Fleet Unit ι τ σ ε} (orderly : solo.Orderly fleet) :
    ∀ move : Move Unit κ ω ι, solo.Orderly (service.move fleet move)
  | .launch () => by
    show solo.Orderly (service.launched fleet ())
    unfold Service.launched
    cases living : fleet.processes () with
    | none => exact .alive orderly.inv (solo.launch (orderly.vacant living))
    | some process => exact orderly
  | .call () program => by
    show solo.Orderly (service.called fleet () program)
    unfold Service.called
    rcases living : fleet.processes () with _ | ⟨own, result | ⟨change, next⟩⟩
    · exact orderly
    · have idle : solo.idle (own, fleet.shared) := by
        have ended := orderly.follows _ living
        cases result <;> exact ended
      exact .alive orderly.inv (solo.call program idle)
    · exact orderly
  | .step () answer => by
    show solo.Orderly (fleet.stepped () answer)
    unfold Fleet.stepped
    rcases living : fleet.processes () with _ | ⟨own, result | ⟨change, next⟩⟩
    · exact orderly
    · exact orderly
    · obtain ⟨kept, -, rest⟩ := orderly.follows _ living (own, fleet.shared)
        ⟨rfl, solo.rely_refl _⟩ orderly.inv answer
      exact .alive kept rest
  | .crash () => by
    show solo.Orderly (service.crashed fleet ())
    unfold Service.crashed
    cases living : fleet.processes () with
    | none => exact orderly
    | some process =>
      obtain ⟨kept, vacant⟩ := solo.crash orderly.inv
      refine ⟨kept, fun _ => vacant, fun other found => ?_⟩
      change Function.update fleet.processes () none () = some other at found
      rw [Function.update_self] at found
      cases found
  | .world event => by
    obtain ⟨kept, moved⟩ := solo.world event orderly.inv
    refine ⟨kept, fun gone => solo.vacant_stable moved (orderly.vacant gone),
      fun process found => ?_⟩
    have relied : solo.law.rely (process.1, fleet.shared)
        (process.1, service.world event fleet.shared) := ⟨rfl, moved⟩
    have calm : ∀ s t, solo.law.rely s t → solo.idle s → solo.idle t := by
      rintro ⟨own, s⟩ ⟨_, t⟩ ⟨rfl, others⟩ idle
      exact solo.idle_stable others idle
    exact Thread.wp_stable law_trans (fun _ => calm) (fun _ => calm) relied
      (orderly.follows process found)

/-- **Every run** keeps the invariant. -/
theorem keeps (solo : Solo service) {shared : σ} (inv : solo.inv shared)
    (vacant : solo.vacant shared) (moves : List (Move Unit κ ω ι)) :
    solo.inv (service.run shared moves).shared := by
  have asleep : solo.Orderly (Fleet.asleep shared) := by
    refine ⟨inv, fun _ => vacant, fun process found => ?_⟩
    cases found
  have run : ∀ fleet : Fleet Unit ι τ σ ε, solo.Orderly fleet →
      solo.Orderly (moves.foldl service.move fleet) := by
    induction moves with
    | nil => exact fun _ orderly => orderly
    | cons move rest ih => exact fun fleet orderly => ih _ (orderly.move move)
  exact (run _ asleep).inv

end Solo

end DbusEv
