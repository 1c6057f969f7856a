/-
**Programs that rewrite places one after the other, and can be stopped.**

A `Task` takes one place through some passing contents to its last one. A program is a list of
tasks, each made of writes; a run that is stopped has done so many of them.

* `finish` — a run to its end; `stopped` — a run after so many writes.
* `finish_eq_last` — what a place holds at the end, if its tasks agree.
* `stopped_cases` — a stopped run is whole, or has left the place of one task somewhere.
* `stopped_spoils` — so it spoils one place at most: every other one holds what it held, or the last
  content of a task.
-/

import Mathlib.Data.List.Basic
import Mathlib.Data.List.Infix
import Mathlib.Logic.Function.Basic

set_option autoImplicit false

namespace DbusEv.Tasks

variable {P V : Type}

/-- One place, and what it is taken through. -/
structure Task (P V : Type) where
  place : P
  passing : List V
  last : V

/-- The writes of a task. -/
def Task.writes (task : Task P V) : List (P × V) :=
  (task.passing ++ [task.last]).map fun content => (task.place, content)

/-- The writes of a program. -/
def writes (tasks : List (Task P V)) : List (P × V) := tasks.flatMap Task.writes

@[simp] theorem writes_nil : writes ([] : List (Task P V)) = [] := rfl

@[simp] theorem writes_cons (task : Task P V) (rest : List (Task P V)) :
    writes (task :: rest) = task.writes ++ writes rest := rfl

variable [DecidableEq P]

/-- The places after some writes. -/
def applyAll (done : List (P × V)) (held : P → V) : P → V :=
  done.foldl (fun held write => Function.update held write.1 write.2) held

/-- A run to its end. -/
def finish (tasks : List (Task P V)) (held : P → V) : P → V := applyAll (writes tasks) held

/-- A run that is stopped after so many writes. -/
def stopped (tasks : List (Task P V)) (n : ℕ) (held : P → V) : P → V :=
  applyAll ((writes tasks).take n) held

variable {held : P → V} {tasks : List (Task P V)} {place : P}

/-! ### The writes of one task -/

theorem applyAll_append (first second : List (P × V)) (held : P → V) :
    applyAll (first ++ second) held = applyAll second (applyAll first held) :=
  List.foldl_append

/-- Of some writes to one place the last one is seen. -/
theorem applyAll_same (place : P) (contents : List V) (held : P → V) :
    applyAll (contents.map fun content => (place, content)) held =
      Function.update held place (contents.getLast?.getD (held place)) := by
  induction contents generalizing held with
  | nil => exact (Function.update_eq_self place held).symm
  | cons content rest ih =>
    show applyAll (rest.map _) (Function.update held place content) = _
    rw [ih, Function.update_idem, Function.update_self, List.getLast?_cons, Option.getD_some]

theorem applyAll_writes (task : Task P V) (held : P → V) :
    applyAll task.writes held = Function.update held task.place task.last := by
  unfold Task.writes
  rw [applyAll_same, List.getLast?_append]
  rfl

/-- A task that is stopped leaves its place as it was, or with one of its passing contents, or is
done. -/
theorem applyAll_take_writes (task : Task P V) (n : ℕ) (held : P → V) :
    applyAll (task.writes.take n) held = Function.update held task.place task.last ∨
      ∃ content, (content = held task.place ∨ content ∈ task.passing) ∧
        applyAll (task.writes.take n) held = Function.update held task.place content := by
  unfold Task.writes
  rw [← List.map_take, applyAll_same]
  by_cases all : task.passing.length < n
  · left
    rw [List.take_of_length_le, List.getLast?_append]
    · rfl
    · rw [List.length_append, List.length_singleton]
      omega
  · right
    rw [List.take_append_of_le_length (by omega)]
    refine ⟨_, ?_, rfl⟩
    cases found : (task.passing.take n).getLast? with
    | none => exact Or.inl rfl
    | some content =>
      right
      exact List.mem_of_mem_take (List.mem_of_getLast? found)

/-! ### A whole run -/

@[simp] theorem finish_nil : finish [] held = held := rfl

theorem finish_cons (task : Task P V) (rest : List (Task P V)) (held : P → V) :
    finish (task :: rest) held = finish rest (Function.update held task.place task.last) := by
  unfold finish
  rw [writes_cons, applyAll_append, applyAll_writes]

theorem finish_append (first second : List (Task P V)) (held : P → V) :
    finish (first ++ second) held = finish second (finish first held) := by
  unfold finish writes
  rw [List.flatMap_append, applyAll_append]

theorem finish_eq_stopped (tasks : List (Task P V)) (held : P → V) :
    finish tasks held = stopped tasks (writes tasks).length held := by
  unfold finish stopped
  rw [List.take_length]

/-- A place holds what it held, or the last content of one of its tasks. -/
theorem finish_cases (tasks : List (Task P V)) (held : P → V) (place : P) :
    finish tasks held place = held place ∨
      ∃ task ∈ tasks, task.place = place ∧ finish tasks held place = task.last := by
  induction tasks generalizing held with
  | nil => exact Or.inl rfl
  | cons task rest ih =>
    rw [finish_cons]
    cases ih (Function.update held task.place task.last) with
    | inr later =>
      obtain ⟨last, member, here, holds⟩ := later
      exact Or.inr ⟨last, List.mem_cons_of_mem task member, here, holds⟩
    | inl kept =>
      rw [kept]
      by_cases here : task.place = place
      · rw [← here, Function.update_self]
        exact Or.inr ⟨task, List.mem_cons_self, rfl, rfl⟩
      · rw [Function.update_of_ne (Ne.symm here)]
        exact Or.inl rfl

/-- **A place whose tasks agree** holds their last content at the end. -/
theorem finish_eq_last {content : V}
    (agree : ∀ task ∈ tasks, task.place = place → task.last = content)
    (some : held place = content ∨ ∃ task ∈ tasks, task.place = place) :
    finish tasks held place = content := by
  induction tasks generalizing held with
  | nil =>
    cases some with
    | inl already => exact already
    | inr task =>
      obtain ⟨_, member, _⟩ := task
      cases member
  | cons task rest ih =>
    obtain ⟨first, later⟩ := List.forall_mem_cons.mp agree
    rw [finish_cons]
    apply ih later
    by_cases here : task.place = place
    · left
      rw [← here, Function.update_self]
      exact first here
    · rw [Function.update_of_ne (Ne.symm here)]
      refine some.imp id fun found => ?_
      obtain ⟨one, member, there⟩ := found
      cases List.mem_cons.mp member with
      | inl same => exact absurd (same ▸ there) here
      | inr after => exact ⟨one, after, there⟩

/-! ### A run that is stopped -/

/-- **A stopped run** is whole, or has finished the tasks before one, whose place it has left as it
was then or with a passing content. -/
theorem stopped_cases (tasks : List (Task P V)) (n : ℕ) (held : P → V) :
    stopped tasks n held = finish tasks held ∨
      ∃ before task after content, tasks = before ++ task :: after ∧
        (content = finish before held task.place ∨ content ∈ task.passing) ∧
        stopped tasks n held = Function.update (finish before held) task.place content := by
  induction tasks generalizing held n with
  | nil =>
    left
    unfold stopped finish
    rw [writes_nil, List.take_nil]
  | cons task rest ih =>
    have split : stopped (task :: rest) n held =
        stopped rest (n - task.writes.length) (applyAll (task.writes.take n) held) := by
      unfold stopped
      rw [writes_cons, List.take_append, applyAll_append]
    by_cases within : n ≤ task.writes.length
    · have last : stopped (task :: rest) n held = applyAll (task.writes.take n) held := by
        rw [split, Nat.sub_eq_zero_of_le within]
        rfl
      rw [last]
      cases applyAll_take_writes task n held with
      | inr part =>
        obtain ⟨content, origin, holds⟩ := part
        exact Or.inr ⟨[], task, rest, content, rfl, origin, holds⟩
      | inl whole =>
        rw [whole]
        cases rest with
        | nil => exact Or.inl (finish_cons task [] held).symm
        | cons next others =>
          refine Or.inr ⟨[task], next, others, _, rfl, Or.inl rfl, ?_⟩
          rw [Function.update_eq_self, finish_cons, finish_nil]
    · have whole : task.writes.take n = task.writes := List.take_of_length_le (by omega)
      rw [split, whole, applyAll_writes, finish_cons]
      refine (ih _ _).imp id fun part => ?_
      obtain ⟨before, one, after, content, shape, origin, holds⟩ := part
      refine ⟨task :: before, one, after, content, ?_, ?_, ?_⟩
      · rw [shape]
        rfl
      · rwa [finish_cons]
      · rw [holds, finish_cons]

/-- **A stopped run spoils one place at most.** Every other one holds what it held, or the last
content of one of its tasks. -/
theorem stopped_spoils (tasks : List (Task P V)) (n : ℕ) (held : P → V) :
    ∃ spoiled : List P, spoiled.length ≤ 1 ∧ ∀ place, place ∉ spoiled →
      stopped tasks n held place = held place ∨
        ∃ task ∈ tasks, task.place = place ∧ stopped tasks n held place = task.last := by
  cases stopped_cases tasks n held with
  | inl whole =>
    refine ⟨[], Nat.zero_le 1, fun place _ => ?_⟩
    rw [whole]
    exact finish_cases tasks held place
  | inr part =>
    obtain ⟨before, task, after, content, shape, -, holds⟩ := part
    refine ⟨[task.place], le_rfl, fun place other => ?_⟩
    rw [holds, Function.update_of_ne (List.ne_of_not_mem_cons other)]
    refine (finish_cases before held place).imp id fun found => ?_
    obtain ⟨one, member, here, last⟩ := found
    refine ⟨one, ?_, here, last⟩
    rw [shape]
    exact List.mem_append_left _ member

/-- What a place may hold, at every moment of a run: what it held, and what its tasks write. -/
theorem stopped_holds (Holds : V → Prop) (n : ℕ) (start : Holds (held place))
    (kept : ∀ task ∈ tasks, task.place = place →
      Holds task.last ∧ ∀ content ∈ task.passing, Holds content) :
    Holds (stopped tasks n held place) := by
  have whole : ∀ some : List (Task P V), some ⊆ tasks → Holds (finish some held place) := by
    intro some inside
    cases finish_cases some held place with
    | inl same =>
      rw [same]
      exact start
    | inr found =>
      obtain ⟨task, member, here, last⟩ := found
      rw [last]
      exact (kept task (inside member) here).1
  cases stopped_cases tasks n held with
  | inl same =>
    rw [same]
    exact whole tasks (List.Subset.refl tasks)
  | inr part =>
    obtain ⟨before, task, after, content, shape, origin, holds⟩ := part
    have inside : before ⊆ tasks := by
      rw [shape]
      exact List.subset_append_left before _
    have member : task ∈ tasks := by
      rw [shape]
      exact List.mem_append_right before List.mem_cons_self
    rw [holds]
    by_cases here : task.place = place
    · rw [← here, Function.update_self]
      cases origin with
      | inl earlier =>
        rw [earlier, here]
        exact whole before inside
      | inr passing => exact (kept task member here).2 content passing
    · rw [Function.update_of_ne (Ne.symm here)]
      exact whole before inside

end DbusEv.Tasks
