/-
**Programs with exceptions over one state, and their weakest preconditions.**

* `Exec σ ε α` — a program: it reads and changes a state, and ends with a value or throws.
* `handle`, `ensure` — `try/except` and `try/finally`, each with the exceptions it acts on: a
  handler sees what it can catch, a finalizer runs for what unwinds the stack.
* `wp` — the weakest precondition, with one postcondition for a value and one for an exception;
  every construct has its equation (`wp_pure` … `wp_ensure`), so a program is run symbolically by
  rewriting, and a callee is replaced by its own specification through `wp_mono`.
* `Keeps I x s` — from `s` the program ends in `I` whatever its outcome, with a rule for every
  construct; `Frames view x` — from every state it leaves what `view` sees as it was.
-/

import Mathlib.Tactic.Common

set_option autoImplicit false

namespace DbusEv

/-- A computation that returns took its first step. -/
theorem bind_eq_ok {ε α β : Type} {x : Except ε α} {f : α → Except ε β} {b : β} :
    x >>= f = .ok b ↔ ∃ a, x = .ok a ∧ f a = .ok b := by
  rcases x with e | a
  · exact ⟨nofun, nofun⟩
  · refine ⟨fun returned => ⟨a, rfl, returned⟩, ?_⟩
    rintro ⟨_, same, returned⟩
    cases same
    exact returned

/-- A program over states `σ` that ends with a value of type `α` or throws an `ε`. -/
def Exec (σ ε α : Type) : Type := σ → Except ε α × σ

namespace Exec

variable {σ ε α β : Type}

instance : Monad (Exec σ ε) where
  pure value := fun s => (.ok value, s)
  bind first next := fun s =>
    match first s with
    | (.ok value, t) => next value t
    | (.error e, t) => (.error e, t)

/-- Read the state. -/
def read : Exec σ ε σ := fun s => (.ok s, s)

/-- Change the state. -/
def change (f : σ → σ) : Exec σ ε Unit := fun s => (.ok (), f s)

/-- One change of the state that ends with a value or throws. -/
def once (f : σ → Except ε α × σ) : Exec σ ε α := f

/-- Throw an exception. -/
def raise (e : ε) : Exec σ ε α := fun s => (.error e, s)

/-- The outcome of a computation that does not touch the state. -/
def ofExcept (outcome : Except ε α) : Exec σ ε α := fun s => (outcome, s)

/-- A program over a part of the state. -/
def zoom {τ : Type} (get : σ → τ) (put : τ → σ → σ) (x : Exec τ ε α) : Exec σ ε α := fun s =>
  ((x (get s)).1, put (x (get s)).2 s)

/-- `for item in items: body(item)`. -/
def each (body : β → Exec σ ε Unit) : List β → Exec σ ε Unit
  | [] => fun s => (.ok (), s)
  | item :: rest => body item >>= fun _ => each body rest

/-- `try: body except: …` — the handler of an exception it catches runs in the state of the
raise; an exception it does not catch passes through. -/
def handle (body : Exec σ ε α) (handler : ε → Option (Exec σ ε α)) : Exec σ ε α := fun s =>
  match body s with
  | (.ok value, t) => (.ok value, t)
  | (.error e, t) =>
    match handler e with
    | some recover => recover t
    | none => (.error e, t)

/-- `try: body finally: last` — after a value, and after every exception that `unwinds`; what
`final` throws replaces the outcome of the body. -/
def ensure (body : Exec σ ε α) (unwinds : ε → Bool) (final : Exec σ ε Unit) :
    Exec σ ε α := fun s =>
  match body s with
  | (.ok value, t) => (final >>= fun _ => pure value) t
  | (.error e, t) => if unwinds e then (final >>= fun _ => raise e) t else (.error e, t)

/-! ### How the constructs run -/

theorem pure_run (value : α) (s : σ) : (pure value : Exec σ ε α) s = (.ok value, s) := rfl

theorem read_run (s : σ) : (read : Exec σ ε σ) s = (.ok s, s) := rfl

theorem bind_ok {x : Exec σ ε β} {f : β → Exec σ ε α} {s t : σ} {value : β}
    (ends : x s = (.ok value, t)) : (x >>= f) s = f value t := by
  show (match x s with
    | (.ok value, t) => f value t
    | (.error e, t) => (.error e, t)) = f value t
  rw [ends]

theorem bind_error {x : Exec σ ε β} {f : β → Exec σ ε α} {s t : σ} {e : ε}
    (throws : x s = (.error e, t)) : (x >>= f) s = (.error e, t) := by
  show (match x s with
    | (.ok value, t) => f value t
    | (.error e, t) => (.error e, t)) = (.error e, t)
  rw [throws]

/-! ### Weakest preconditions -/

/-- The states from which `x` ends in `Q` with a value and in `X` with an exception. -/
def wp (x : Exec σ ε α) (Q : α → σ → Prop) (X : ε → σ → Prop) (s : σ) : Prop :=
  match x s with
  | (.ok value, t) => Q value t
  | (.error e, t) => X e t

section Rules

variable {Q Q' : α → σ → Prop} {X X' : ε → σ → Prop} {s : σ}

theorem wp_of_ok {x : Exec σ ε α} {t : σ} {value : α} (ends : x s = (.ok value, t)) :
    wp x Q X s ↔ Q value t := by
  unfold wp
  rw [ends]

theorem wp_of_error {x : Exec σ ε α} {t : σ} {e : ε} (throws : x s = (.error e, t)) :
    wp x Q X s ↔ X e t := by
  unfold wp
  rw [throws]

@[simp] theorem wp_pure (value : α) : wp (pure value : Exec σ ε α) Q X s ↔ Q value s := Iff.rfl

@[simp] theorem wp_raise (e : ε) : wp (raise e : Exec σ ε α) Q X s ↔ X e s := Iff.rfl

@[simp] theorem wp_read {Q : σ → σ → Prop} : wp (read : Exec σ ε σ) Q X s ↔ Q s s := Iff.rfl

@[simp] theorem wp_change (f : σ → σ) {Q : Unit → σ → Prop} :
    wp (change f : Exec σ ε Unit) Q X s ↔ Q () (f s) := Iff.rfl

theorem wp_once (f : σ → Except ε α × σ) :
    wp (once f) Q X s ↔
      match (f s).1 with
      | .ok value => Q value (f s).2
      | .error e => X e (f s).2 := by
  unfold wp once
  rcases f s with ⟨e | value, t⟩ <;> exact Iff.rfl

theorem wp_ofExcept (outcome : Except ε α) :
    wp (ofExcept outcome) Q X s ↔
      match outcome with
      | .ok value => Q value s
      | .error e => X e s := by
  cases outcome <;> exact Iff.rfl

theorem wp_zoom {τ : Type} (get : σ → τ) (put : τ → σ → σ) (x : Exec τ ε α) :
    wp (zoom get put x) Q X s ↔
      wp x (fun value t => Q value (put t s)) (fun e t => X e (put t s)) (get s) := by
  unfold wp zoom
  rcases x (get s) with ⟨e | value, t⟩ <;> exact Iff.rfl

@[simp] theorem wp_bind (x : Exec σ ε β) (f : β → Exec σ ε α) :
    wp (x >>= f) Q X s ↔ wp x (fun value t => wp (f value) Q X t) X s := by
  rcases result : x s with ⟨e | value, t⟩
  · rw [wp_of_error (bind_error result), wp_of_error result]
  · rw [wp_of_ok result]
    unfold wp
    rw [bind_ok result]

@[simp] theorem wp_ite (c : Prop) [Decidable c] (x y : Exec σ ε α) :
    wp (if c then x else y) Q X s ↔ (c → wp x Q X s) ∧ (¬ c → wp y Q X s) := by
  by_cases holds : c <;> simp [holds]

@[simp] theorem wp_handle (body : Exec σ ε α) (handler : ε → Option (Exec σ ε α)) :
    wp (handle body handler) Q X s ↔
      wp body Q (fun e t => (∀ recover, handler e = some recover → wp recover Q X t) ∧
        (handler e = none → X e t)) s := by
  unfold wp handle
  rcases body s with ⟨e | value, t⟩
  · rcases caught : handler e with _ | recover <;> simp [caught]
  · rfl

@[simp] theorem wp_ensure (body : Exec σ ε α) (unwinds : ε → Bool) (final : Exec σ ε Unit) :
    wp (ensure body unwinds final) Q X s ↔
      wp body (fun value t => wp final (fun _ u => Q value u) X t)
        (fun e t => (unwinds e = true → wp final (fun _ u => X e u) X t) ∧
          (unwinds e = false → X e t)) s := by
  rcases result : body s with ⟨e | value, t⟩
  · rw [wp_of_error result]
    by_cases runs : unwinds e = true
    · have unwound : ensure body unwinds final s = (final >>= fun _ => raise e) t := by
        unfold ensure
        rw [result]
        simp only [runs, if_true]
      have same : wp (ensure body unwinds final) Q X s ↔
          wp (final >>= fun _ => raise e : Exec σ ε α) Q X t := by
        unfold wp
        rw [unwound]
      rw [same]
      simp [runs]
    · have passed : ensure body unwinds final s = (.error e, t) := by
        unfold ensure
        rw [result]
        simp only [runs, Bool.false_eq_true, if_false]
      rw [wp_of_error passed]
      simp [runs]
  · have ended : ensure body unwinds final s = (final >>= fun _ => pure value) t := by
      unfold ensure
      rw [result]
    have same : wp (ensure body unwinds final) Q X s ↔
        wp (final >>= fun _ => pure value : Exec σ ε α) Q X t := by
      unfold wp
      rw [ended]
    rw [same, wp_of_ok result]
    simp

/-- **Consequence**: a callee's specification serves any weaker postconditions. -/
theorem wp_mono {x : Exec σ ε α} (holds : wp x Q X s) (value : ∀ a t, Q a t → Q' a t)
    (thrown : ∀ e t, X e t → X' e t) : wp x Q' X' s := by
  unfold wp at *
  rcases result : x s with ⟨_ | _, _⟩ <;> rw [result] at holds
  · exact thrown _ _ holds
  · exact value _ _ holds

/-- A callee whose exceptions are the caller's. -/
theorem wp_value {x : Exec σ ε α} (holds : wp x Q X s) (value : ∀ a t, Q a t → Q' a t) :
    wp x Q' X s :=
  wp_mono holds value fun _ _ thrown => thrown

/-- Two specifications of one program hold together. -/
theorem wp_and {x : Exec σ ε α} (first : wp x Q X s) (second : wp x Q' X' s) :
    wp x (fun a t => Q a t ∧ Q' a t) (fun e t => X e t ∧ X' e t) s := by
  unfold wp at *
  rcases result : x s with ⟨_ | _, _⟩ <;> rw [result] at first second <;> exact ⟨first, second⟩

/-- A postcondition that ignores the outcome is a fact about the final state. -/
theorem final_of_wp {x : Exec σ ε α} {I : σ → Prop} (holds : wp x (fun _ => I) (fun _ => I) s) :
    I (x s).2 := by
  unfold wp at holds
  rcases result : x s with ⟨_ | _, _⟩ <;> rw [result] at holds <;> exact holds

/-- … and conversely. -/
theorem wp_of_final {x : Exec σ ε α} {I : σ → Prop} (holds : I (x s).2) :
    wp x (fun _ => I) (fun _ => I) s := by
  unfold wp
  rcases result : x s with ⟨_ | _, _⟩ <;> rw [result] at holds <;> exact holds

end Rules

/-! ### Predicates kept whatever the outcome -/

/-- From `s`, the program leaves a state of `I`, whether it ends with a value or throws. -/
def Keeps (I : σ → Prop) (x : Exec σ ε α) (s : σ) : Prop :=
  wp x (fun _ => I) (fun _ => I) s

section Keeps

variable {I : σ → Prop} {s : σ}

theorem Keeps.final {x : Exec σ ε α} (keeps : Keeps I x s) : I (x s).2 := final_of_wp keeps

theorem keeps_change {f : σ → σ} (holds : I (f s)) : Keeps I (change f : Exec σ ε Unit) s := holds

theorem keeps_bind {x : Exec σ ε β} {f : β → Exec σ ε α} (first : Keeps I x s)
    (next : ∀ value t, I t → Keeps I (f value) t) : Keeps I (x >>= f) s := by
  unfold Keeps
  rw [wp_bind]
  exact wp_value first next

theorem keeps_read {f : σ → Exec σ ε α} (next : Keeps I (f s) s) : Keeps I (read >>= f) s := by
  unfold Keeps
  rw [wp_bind, wp_read]
  exact next

theorem keeps_ofExcept {outcome : Except ε α} (holds : I s) :
    Keeps I (ofExcept outcome) s := by
  cases outcome <;> exact holds

/-- A loop whose rounds keep a predicate keeps it. -/
theorem keeps_each {body : β → Exec σ ε Unit} (items : List β)
    (round : ∀ item t, I t → Keeps I (body item) t) (holds : I s) :
    Keeps I (each body items) s := by
  induction items generalizing s with
  | nil => exact holds
  | cons item rest ih => exact keeps_bind (round item s holds) fun _ _ => ih

theorem keeps_ite {c : Prop} [Decidable c] {x y : Exec σ ε α} (yes : c → Keeps I x s)
    (no : ¬ c → Keeps I y s) : Keeps I (if c then x else y) s := by
  unfold Keeps
  rw [wp_ite]
  exact ⟨yes, no⟩

theorem keeps_handle {body : Exec σ ε α} {handler : ε → Option (Exec σ ε α)}
    (first : Keeps I body s)
    (caught : ∀ e recover t, handler e = some recover → I t → Keeps I recover t) :
    Keeps I (handle body handler) s := by
  unfold Keeps
  rw [wp_handle]
  exact wp_mono first (fun _ _ holds => holds) fun e t holds =>
    ⟨fun recover found => caught e recover t found holds, fun _ => holds⟩

theorem keeps_ensure {body : Exec σ ε α} {unwinds : ε → Bool} {final : Exec σ ε Unit}
    (first : Keeps I body s) (last : ∀ t, I t → Keeps I final t) :
    Keeps I (ensure body unwinds final) s := by
  unfold Keeps
  rw [wp_ensure]
  exact wp_mono first (fun _ t holds => last t holds) fun _ t holds =>
    ⟨fun _ => last t holds, fun _ => holds⟩

end Keeps

/-! ### What a program leaves alone -/

/-- Whatever its outcome, the program leaves what `view` sees as it was. -/
def Frames {ν : Type} (view : σ → ν) (x : Exec σ ε α) : Prop :=
  ∀ s, Keeps (fun t => view t = view s) x s

section Frames

variable {ν : Type} {view : σ → ν}

theorem frames_pure (value : α) : Frames view (pure value : Exec σ ε α) := fun _ => rfl

theorem frames_raise (e : ε) : Frames view (raise e : Exec σ ε α) := fun _ => rfl

theorem frames_change {f : σ → σ} (same : ∀ s, view (f s) = view s) :
    Frames view (change f : Exec σ ε Unit) := same

theorem frames_bind {x : Exec σ ε β} {f : β → Exec σ ε α} (first : Frames view x)
    (next : ∀ value, Frames view (f value)) : Frames view (x >>= f) := by
  intro s
  refine keeps_bind (first s) fun value t same => ?_
  exact wp_mono (next value t) (fun _ _ kept => kept.trans same) fun _ _ kept => kept.trans same

theorem frames_read {f : σ → Exec σ ε α} (next : ∀ s, Frames view (f s)) :
    Frames view (read >>= f) := fun s => keeps_read (next s s)

theorem frames_ite {c : Prop} [Decidable c] {x y : Exec σ ε α} (yes : Frames view x)
    (no : Frames view y) : Frames view (if c then x else y) := fun s =>
  keeps_ite (fun _ => yes s) fun _ => no s

theorem frames_handle {body : Exec σ ε α} {handler : ε → Option (Exec σ ε α)}
    (first : Frames view body)
    (caught : ∀ e recover, handler e = some recover → Frames view recover) :
    Frames view (handle body handler) := by
  intro s
  refine keeps_handle (first s) fun e recover t found same => ?_
  exact wp_mono (caught e recover found t) (fun _ _ kept => kept.trans same)
    fun _ _ kept => kept.trans same

theorem frames_ensure {body : Exec σ ε α} {unwinds : ε → Bool} {final : Exec σ ε Unit}
    (first : Frames view body) (last : Frames view final) :
    Frames view (ensure body unwinds final) := by
  intro s
  refine keeps_ensure (first s) fun t same => ?_
  exact wp_mono (last t) (fun _ _ kept => kept.trans same) fun _ _ kept => kept.trans same

end Frames

end Exec

end DbusEv
