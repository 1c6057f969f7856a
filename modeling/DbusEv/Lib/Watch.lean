/-
**A log beside the shared state of interleaved programs.**

* `Thread.watch` — the program, whose steps also write down what `note` says of them. The log is
  written and never read.
* `Thread.Forgets` — a program with a log does, step by step, what one without a log does, with a
  rule for every construct.
* `Service.forgets_run` — so do the processes of a service: a run with the log is, without it, the
  run of the service.
-/

import DbusEv.Lib.Threads

set_option autoImplicit false
set_option linter.unusedSectionVars false

namespace DbusEv

namespace Thread

variable {ι τ σ ν ε α β : Type}

/-- The state without the log. -/
abbrev unlogged (s : τ × σ × List ν) : τ × σ := (s.1, s.2.1)

/-- Each step also writes down what `note` says of its answer, the state before and the state
after. -/
def watch (note : ι → τ × σ → τ × σ → List ν) :
    Thread ι (τ × σ) ε α → Thread ι (τ × σ × List ν) ε α
  | done result => done result
  | step change next =>
    step
      (fun i s =>
        let after := change i (unlogged s)
        (after.1, after.2, note i (unlogged s) after ++ s.2.2))
      fun i s => (next i (unlogged s)).watch note

theorem watch_bind (note : ι → τ × σ → τ × σ → List ν) (x : Thread ι (τ × σ) ε β)
    (f : β → Thread ι (τ × σ) ε α) :
    (x >>= f).watch note = x.watch note >>= fun value => (f value).watch note := by
  induction x with
  | done result => cases result <;> rfl
  | step change next ih =>
    show step _ _ = step _ _
    congr 1
    funext i s
    exact ih i (unlogged s)

/-- Step by step, the first program does what the second does. -/
inductive Forgets : Thread ι (τ × σ × List ν) ε α → Thread ι (τ × σ) ε α → Prop
  | done (result : Except ε α) : Forgets (.done result) (.done result)
  | step {change next change' next'} (same : ∀ i s, unlogged (change i s) = change' i (unlogged s))
      (rest : ∀ i s, Forgets (next i s) (next' i (unlogged s))) :
      Forgets (.step change next) (.step change' next')

theorem forgets_pure (value : α) :
    Forgets (pure value : Thread ι (τ × σ × List ν) ε α) (pure value) := .done _

theorem forgets_raise (e : ε) :
    Forgets (raise e : Thread ι (τ × σ × List ν) ε α) (raise e) := .done _

theorem forgets_watch (note : ι → τ × σ → τ × σ → List ν) (x : Thread ι (τ × σ) ε α) :
    Forgets (x.watch note) x := by
  induction x with
  | done result => exact .done result
  | step change next ih => exact .step (fun _ _ => rfl) fun i s => ih i (unlogged s)

theorem forgets_bind {x : Thread ι (τ × σ × List ν) ε β} {y : Thread ι (τ × σ) ε β}
    {f : β → Thread ι (τ × σ × List ν) ε α} {g : β → Thread ι (τ × σ) ε α}
    (first : Forgets x y) (next : ∀ value, Forgets (f value) (g value)) :
    Forgets (x >>= f) (y >>= g) := by
  induction first with
  | done result =>
    cases result with
    | error e => exact .done _
    | ok value => exact next value
  | step same _ ih => exact .step same ih

theorem forgets_ite {c : Prop} [Decidable c] {x y : Thread ι (τ × σ × List ν) ε α}
    {x' y' : Thread ι (τ × σ) ε α} (yes : Forgets x x') (no : Forgets y y') :
    Forgets (if c then x else y) (if c then x' else y') := by
  by_cases holds : c
  · rw [if_pos holds, if_pos holds]
    exact yes
  · rw [if_neg holds, if_neg holds]
    exact no

/-- A handler catches the same exceptions, and recovers in the same way. -/
theorem forgets_handle {x : Thread ι (τ × σ × List ν) ε α} {y : Thread ι (τ × σ) ε α}
    {handler : ε → Option (Thread ι (τ × σ × List ν) ε α)}
    {handler' : ε → Option (Thread ι (τ × σ) ε α)} (first : Forgets x y)
    (caught : ∀ e, Option.Rel Forgets (handler e) (handler' e)) :
    Forgets (x.handle handler) (y.handle handler') := by
  induction first with
  | done result =>
    cases result with
    | ok value => exact .done _
    | error e =>
      unfold handle
      cases found : handler e <;> cases found' : handler' e <;>
        have same := caught e <;> rw [found, found'] at same <;> cases same
      · exact .done _
      · assumption
  | step same _ ih => exact .step same ih

/-- The rule for a watched atomic step. -/
theorem wp_watch_atomic {law : Law (τ × σ × List ν)} {Q : α → τ × σ × List ν → Prop}
    {X : ε → τ × σ × List ν → Prop} {s : τ × σ × List ν} (note : ι → τ × σ → τ × σ → List ν)
    (x : ι → Exec (τ × σ) ε α) :
    wp law ((atomic x).watch note) Q X s ↔ ∀ t, law.rely s t → law.inv t → ∀ i,
      let after := fun u => (u.1, u.2, note i (unlogged t) u ++ t.2.2)
      Exec.wp (x i) (fun value u => law.inv (after u) ∧ law.may t (after u) ∧ Q value (after u))
        (fun e u => law.inv (after u) ∧ law.may t (after u) ∧ X e (after u)) (unlogged t) := by
  refine forall_congr' fun t => forall_congr' fun _ => forall_congr' fun _ =>
    forall_congr' fun i => ?_
  rcases result : x i (unlogged t) with ⟨e | value, u⟩
  · simp only [Exec.wp_of_error result, watch, result, wp]
  · simp only [Exec.wp_of_ok result, watch, result, wp]

end Thread

/-! ### Processes -/

section Fleets

variable {π κ ω ι τ σ ν ε : Type} [DecidableEq π]

/-- The fleet without the log: the same shared state, and every process does the same. -/
structure Fleet.Forgets (logged : Fleet π ι τ (σ × List ν) ε) (fleet : Fleet π ι τ σ ε) : Prop where
  shared : logged.shared.1 = fleet.shared
  processes : ∀ p, Option.Rel (fun process process' => process.1 = process'.1 ∧
    Thread.Forgets process.2 process'.2) (logged.processes p) (fleet.processes p)

/-- The service with a log, which its programs write; the death of a process is noted. -/
def Service.logged (service : Service π κ ω ι τ σ ε)
    (program : π → κ → Thread ι (τ × σ × List ν) ε Unit) (died : List ν) :
    Service π κ ω ι τ (σ × List ν) ε where
  launch p s := service.launch p s.1
  program := program
  crash p s := (service.crash p s.1, died ++ s.2)
  world event s := (service.world event s.1, s.2)

variable {logged : Fleet π ι τ (σ × List ν) ε} {fleet : Fleet π ι τ σ ε}

theorem Fleet.Forgets.put (same : logged.Forgets fleet) {p : π} {shared : σ × List ν} {shared' : σ}
    {process : Option (τ × Thread ι (τ × σ × List ν) ε Unit)}
    {process' : Option (τ × Thread ι (τ × σ) ε Unit)} (equal : shared.1 = shared')
    (related : Option.Rel (fun process process' => process.1 = process'.1 ∧
      Thread.Forgets process.2 process'.2) process process') :
    (logged.put p shared process).Forgets (fleet.put p shared' process') := by
  refine ⟨equal, fun q => ?_⟩
  show Option.Rel _ (Function.update logged.processes p process q)
    (Function.update fleet.processes p process' q)
  by_cases mine : q = p
  · subst mine
    rw [Function.update_self, Function.update_self]
    exact related
  · rw [Function.update_of_ne mine, Function.update_of_ne mine]
    exact same.processes q

/-- A process lives in both or in neither. -/
theorem Fleet.Forgets.living (same : logged.Forgets fleet) (p : π) :
    (logged.processes p = none ∧ fleet.processes p = none) ∨
      ∃ own x y, logged.processes p = some (own, x) ∧ fleet.processes p = some (own, y) ∧
        Thread.Forgets x y := by
  have process := same.processes p
  cases living : logged.processes p <;> cases living' : fleet.processes p <;>
    rw [living, living'] at process
  · exact .inl ⟨rfl, rfl⟩
  · cases process
  · cases process
  · rename_i mine theirs
    obtain ⟨own, x⟩ := mine
    obtain ⟨own', y⟩ := theirs
    obtain ⟨rfl, forgets⟩ : own = own' ∧ Thread.Forgets x y := by
      cases process
      assumption
    exact .inr ⟨own, x, y, rfl, rfl, forgets⟩

/-- **One move** with the log is the move without it. -/
theorem Fleet.Forgets.move {service : Service π κ ω ι τ σ ε}
    {program : π → κ → Thread ι (τ × σ × List ν) ε Unit} {died : List ν}
    (programs : ∀ p called, Thread.Forgets (program p called) (service.program p called))
    (same : logged.Forgets fleet) (move : Move π κ ω ι) :
    ((service.logged program died).move logged move).Forgets (service.move fleet move) := by
  have shared := same.shared
  cases move with
  | launch p =>
    show ((service.logged program died).launched logged p).Forgets (service.launched fleet p)
    unfold Service.launched
    rcases same.living p with ⟨dead, dead'⟩ | ⟨own, x, y, alive, alive', -⟩
    · rw [dead, dead']
      refine same.put shared (.some ⟨?_, .done _⟩)
      show service.launch p logged.shared.1 = service.launch p fleet.shared
      rw [shared]
    · rw [alive, alive']
      exact same
  | call p called =>
    show ((service.logged program died).called logged p called).Forgets
      (service.called fleet p called)
    unfold Service.called
    rcases same.living p with ⟨dead, dead'⟩ | ⟨own, x, y, alive, alive', forgets⟩
    · rw [dead, dead']
      exact same
    · rw [alive, alive']
      cases forgets with
      | done result => exact same.put shared (.some ⟨rfl, programs p called⟩)
      | step => exact same
  | step p answer =>
    show (logged.stepped p answer).Forgets (fleet.stepped p answer)
    unfold Fleet.stepped
    rcases same.living p with ⟨dead, dead'⟩ | ⟨own, x, y, alive, alive', forgets⟩
    · rw [dead, dead']
      exact same
    · rw [alive, alive']
      cases forgets with
      | done result => exact same
      | step changes rest =>
        have after := changes answer (own, logged.shared)
        have rest := rest answer (own, logged.shared)
        unfold Thread.unlogged at after rest
        simp only [shared] at after rest
        exact same.put (congrArg Prod.snd after) (.some ⟨congrArg Prod.fst after, rest⟩)
  | crash p =>
    show ((service.logged program died).crashed logged p).Forgets (service.crashed fleet p)
    unfold Service.crashed
    rcases same.living p with ⟨dead, dead'⟩ | ⟨own, x, y, alive, alive', -⟩
    · rw [dead, dead']
      exact same
    · rw [alive, alive']
      refine same.put ?_ .none
      show service.crash p logged.shared.1 = service.crash p fleet.shared
      rw [shared]
  | world event =>
    refine ⟨?_, same.processes⟩
    show service.world event logged.shared.1 = service.world event fleet.shared
    rw [shared]

/-- **Every run** with the log is, without it, the run of the service. -/
theorem Service.forgets_run (service : Service π κ ω ι τ σ ε)
    {program : π → κ → Thread ι (τ × σ × List ν) ε Unit} {died : List ν}
    (programs : ∀ p called, Thread.Forgets (program p called) (service.program p called))
    (shared : σ) (moves : List (Move π κ ω ι)) :
    ((service.logged program died).run (shared, []) moves).Forgets (service.run shared moves) := by
  have asleep : (Fleet.asleep (shared, []) : Fleet π ι τ (σ × List ν) ε).Forgets
      (Fleet.asleep shared : Fleet π ι τ σ ε) := ⟨rfl, fun _ => .none⟩
  unfold Service.run
  generalize (Fleet.asleep (shared, []) : Fleet π ι τ (σ × List ν) ε) = logged at asleep
  generalize (Fleet.asleep shared : Fleet π ι τ σ ε) = fleet at asleep
  induction moves generalizing logged fleet with
  | nil => exact asleep
  | cons move rest ih => exact ih _ _ (asleep.move programs move)

end Fleets

end DbusEv
