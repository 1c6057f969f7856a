/-
**Sequential programs that keep a journal of their states.**

* `Exec.lift` — a program beside a journal, which it neither reads nor writes; `Exec.jot` writes.
* `Exec.Erases` — without its journal a program does what another one does, with a rule for every
  construct. What is jotted down is never read, so it is a record of the other program's run.
* `wp_lift`, `wp_jot` — how they are run symbolically.
-/

import DbusEv.Lib.Exec

set_option autoImplicit false

namespace DbusEv

namespace Exec

variable {σ κ ε α β : Type}

/-- The program beside a journal. -/
def lift (x : Exec σ ε α) : Exec (σ × List κ) ε α := fun s => ((x s.1).1, (x s.1).2, s.2)

/-- Write down what `note` says of the state. -/
def jot (note : σ → κ) : Exec (σ × List κ) ε Unit := change fun s => (s.1, note s.1 :: s.2)

section Rules

variable {s : σ × List κ}

@[simp] theorem wp_lift (x : Exec σ ε α) {Q : α → σ × List κ → Prop} {X : ε → σ × List κ → Prop} :
    wp (lift x) Q X s ↔
      wp x (fun value t => Q value (t, s.2)) (fun e t => X e (t, s.2)) s.1 := by
  unfold wp lift
  rcases x s.1 with ⟨_ | _, _⟩ <;> exact Iff.rfl

/-- What the program does beside the journal, where it does not matter. -/
theorem wp_lift_of_forall {x : Exec σ ε α} {Q : α → σ × List κ → Prop}
    {X : ε → σ × List κ → Prop} (value : ∀ a t, Q a (t, s.2)) (thrown : ∀ e t, X e (t, s.2)) :
    wp (lift x) Q X s := by
  rw [wp_lift]
  unfold wp
  rcases x s.1 with ⟨e | a, t⟩
  · exact thrown e t
  · exact value a t

@[simp] theorem wp_jot (note : σ → κ) {Q : Unit → σ × List κ → Prop}
    {X : ε → σ × List κ → Prop} : wp (jot note) Q X s ↔ Q () (s.1, note s.1 :: s.2) := Iff.rfl

end Rules

/-! ### Without the journal -/

/-- What is left of an outcome without the journal. -/
def erase (outcome : Except ε α × σ × List κ) : Except ε α × σ := (outcome.1, outcome.2.1)

/-- From every state, the first program ends as the second does. -/
def Erases (x : Exec (σ × List κ) ε α) (y : Exec σ ε α) : Prop := ∀ s, erase (x s) = y s.1

theorem erases_lift (x : Exec σ ε α) : Erases (lift x : Exec (σ × List κ) ε α) x := fun _ => rfl

theorem erases_pure (value : α) : Erases (pure value : Exec (σ × List κ) ε α) (pure value) :=
  fun _ => rfl

theorem erases_raise (e : ε) : Erases (raise e : Exec (σ × List κ) ε α) (raise e) := fun _ => rfl

theorem erases_bind {x : Exec (σ × List κ) ε β} {y : Exec σ ε β}
    {f : β → Exec (σ × List κ) ε α} {g : β → Exec σ ε α} (first : Erases x y)
    (next : ∀ value, Erases (f value) (g value)) : Erases (x >>= f) (y >>= g) := by
  intro s
  have same := first s
  rcases result : x s with ⟨e | value, t⟩
  · rw [result] at same
    rw [bind_error result, bind_error same.symm]
    rfl
  · rw [result] at same
    rw [bind_ok result, bind_ok same.symm]
    exact next value t

/-- What is jotted down first is erased. -/
theorem erases_jot (note : σ → κ) {x : Exec (σ × List κ) ε α} {y : Exec σ ε α}
    (rest : Erases x y) : Erases (jot note >>= fun _ => x) y := fun s =>
  rest (s.1, note s.1 :: s.2)

theorem erases_ite {c : Prop} [Decidable c] {x x' : Exec (σ × List κ) ε α} {y y' : Exec σ ε α}
    (yes : Erases x y) (no : Erases x' y') :
    Erases (if c then x else x') (if c then y else y') := by
  by_cases holds : c
  · rw [if_pos holds, if_pos holds]
    exact yes
  · rw [if_neg holds, if_neg holds]
    exact no

/-- A handler catches the same exceptions, and recovers in the same way. -/
theorem erases_handle {x : Exec (σ × List κ) ε α} {y : Exec σ ε α}
    {handler : ε → Option (Exec (σ × List κ) ε α)} {handler' : ε → Option (Exec σ ε α)}
    (first : Erases x y) (caught : ∀ e, Option.Rel Erases (handler e) (handler' e)) :
    Erases (handle x handler) (handle y handler') := by
  intro s
  have same := first s
  rcases result : x s with ⟨e | value, t⟩
  · rw [result] at same
    unfold handle
    rw [result, ← same]
    cases found : handler e <;> cases found' : handler' e <;>
      have both := caught e <;> rw [found, found'] at both <;> cases both
    · simp only [erase, found, found']
    · rename_i erases
      simp only [erase, found, found']
      exact erases t
  · rw [result] at same
    unfold handle
    rw [result, ← same]
    rfl

/-- A handler that jots down what it sees, and passes it on. -/
theorem erases_witness {x : Exec (σ × List κ) ε α} {y : Exec σ ε α}
    {handler : ε → Option (Exec (σ × List κ) ε α)} (first : Erases x y)
    (passed : ∀ e recover, handler e = some recover → Erases recover (raise e)) :
    Erases (handle x handler) y := by
  intro s
  have same := first s
  rcases result : x s with ⟨e | value, t⟩
  · rw [result] at same
    unfold handle
    rw [result, ← same]
    cases found : handler e with
    | none => simp only [found]
    | some recover =>
      simp only [found]
      exact passed e recover found t
  · rw [result] at same
    unfold handle
    rw [result]
    exact same

theorem erases_ensure {x : Exec (σ × List κ) ε α} {y : Exec σ ε α} {unwinds : ε → Bool}
    {final : Exec (σ × List κ) ε Unit} {final' : Exec σ ε Unit} (first : Erases x y)
    (last : Erases final final') : Erases (ensure x unwinds final) (ensure y unwinds final') := by
  intro s
  have same := first s
  rcases result : x s with ⟨e | value, t⟩
  · rw [result] at same
    unfold ensure
    rw [result, ← same]
    cases runs : unwinds e with
    | false => simp only [erase, runs, Bool.false_eq_true, if_false]
    | true =>
      simp only [erase, runs, if_true]
      exact erases_bind last (fun _ => erases_raise e) t
  · rw [result] at same
    unfold ensure
    rw [result, ← same]
    exact erases_bind last (fun _ => erases_pure value) t

end Exec

end DbusEv
