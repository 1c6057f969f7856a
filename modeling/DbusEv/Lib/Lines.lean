/-
**Editing a file line by line.**

* `deleteRange` — `sed '/start/,/stop/d'`: from a line that starts a range to the next that stops
  it, or to the end.
* `insertBefore` — a block before the first line that satisfies a predicate, or at the end.
* `outside` — the lines outside the ranges that are stopped. `deleteRange` keeps them exactly if no
  range is left open (`sublist_deleteRange_iff`).
-/

import Mathlib.Data.List.Basic
import Mathlib.Data.List.Infix
import Mathlib.Data.List.TakeWhile

set_option autoImplicit false

namespace DbusEv.Lines

variable {α : Type}

/-! ### Deleting a range -/

section Range

variable (start stop : α → Bool)

/-- What is left from a line on, inside a range or not. -/
def deleteFrom : Bool → List α → List α
  | _, [] => []
  | false, line :: rest =>
    if start line then deleteFrom true rest else line :: deleteFrom false rest
  | true, line :: rest => deleteFrom (!stop line) rest

/-- `sed '/start/,/stop/d'`. -/
def deleteRange (lines : List α) : List α := deleteFrom start stop false lines

/-- Whether a range is open after these lines. -/
def openAfter : Bool → List α → Bool
  | inside, [] => inside
  | false, line :: rest => openAfter (start line) rest
  | true, line :: rest => openAfter (!stop line) rest

/-- The lines outside the ranges, of which one that is never stopped is none. -/
def outsideFrom : Bool → List α → List α
  | _, [] => []
  | false, line :: rest =>
    if start line && rest.any stop then outsideFrom true rest else line :: outsideFrom false rest
  | true, line :: rest => outsideFrom (!stop line) rest

def outside (lines : List α) : List α := outsideFrom start stop false lines

variable {start stop}

theorem deleteFrom_append (inside : Bool) (first second : List α) :
    deleteFrom start stop inside (first ++ second) =
      deleteFrom start stop inside first ++
        deleteFrom start stop (openAfter start stop inside first) second := by
  induction first generalizing inside with
  | nil => cases inside <;> rfl
  | cons line rest ih =>
    cases inside with
    | true => exact ih _
    | false =>
      show (if start line then _ else _) = (if start line then _ else _) ++ deleteFrom start stop
        (openAfter start stop (start line) rest) second
      cases starts : start line with
      | true => exact ih true
      | false => exact congrArg (line :: ·) (ih false)

/-- No line that starts a range is left. -/
theorem not_start_of_mem {inside : Bool} {lines : List α} :
    ∀ line ∈ deleteFrom start stop inside lines, start line = false := by
  induction lines generalizing inside with
  | nil =>
    intro line member
    cases inside <;> cases member
  | cons first rest ih =>
    intro line member
    cases inside with
    | true => exact ih line member
    | false =>
      have member : line ∈ if start first then deleteFrom start stop true rest
        else first :: deleteFrom start stop false rest := member
      cases starts : start first with
      | true =>
        rw [starts, if_pos rfl] at member
        exact ih line member
      | false =>
        rw [starts, if_neg Bool.false_ne_true] at member
        cases List.mem_cons.mp member with
        | inl same => rw [same, starts]
        | inr later => exact ih line later

/-- Without a start nothing is deleted. -/
theorem deleteRange_of_not_start {lines : List α} (none : ∀ line ∈ lines, start line = false) :
    deleteRange start stop lines = lines := by
  induction lines with
  | nil => rfl
  | cons line rest ih =>
    obtain ⟨first, later⟩ := List.forall_mem_cons.mp none
    show (if start line then _ else line :: deleteFrom start stop false rest) = _
    rw [first, if_neg Bool.false_ne_true]
    exact congrArg (line :: ·) (ih later)

theorem openAfter_of_not_start {lines : List α} (none : ∀ line ∈ lines, start line = false) :
    openAfter start stop false lines = false := by
  induction lines with
  | nil => rfl
  | cons line rest ih =>
    obtain ⟨first, later⟩ := List.forall_mem_cons.mp none
    show openAfter start stop (start line) rest = false
    rw [first]
    exact ih later

/-- An open range is closed by a stop only. -/
theorem openAfter_of_not_stop {lines : List α} (none : lines.any stop = false) :
    openAfter start stop true lines = true ∧ deleteFrom start stop true lines = [] := by
  induction lines with
  | nil => exact ⟨rfl, rfl⟩
  | cons line rest ih =>
    rw [List.any_cons, Bool.or_eq_false_iff] at none
    obtain ⟨opened, deleted⟩ := ih none.2
    show openAfter start stop (!stop line) rest = true ∧
      deleteFrom start stop (!stop line) rest = []
    rw [none.1]
    exact ⟨opened, deleted⟩

theorem outsideFrom_of_closed {inside : Bool} {lines : List α}
    (closed : openAfter start stop inside lines = false) :
    outsideFrom start stop inside lines = deleteFrom start stop inside lines := by
  induction lines generalizing inside with
  | nil => cases inside <;> rfl
  | cons line rest ih =>
    cases inside with
    | true => exact ih closed
    | false =>
      have closed : openAfter start stop (start line) rest = false := closed
      show (if start line && rest.any stop then _ else _) = if start line then _ else _
      cases starts : start line with
      | false =>
        rw [starts] at closed
        exact congrArg (line :: ·) (ih closed)
      | true =>
        rw [starts] at closed
        have stops : rest.any stop = true := by
          by_contra none
          rw [(openAfter_of_not_stop (Bool.eq_false_iff.mpr none)).1] at closed
          cases closed
        rw [stops]
        exact ih closed

/-- A range that is left open takes lines with it that are in none. -/
theorem length_lt_of_open {inside : Bool} {lines : List α}
    (stops : inside = true → lines.any stop = true)
    (opened : openAfter start stop inside lines = true) :
    (deleteFrom start stop inside lines).length < (outsideFrom start stop inside lines).length := by
  induction lines generalizing inside with
  | nil =>
    cases inside with
    | false => cases opened
    | true => cases stops rfl
  | cons line rest ih =>
    cases inside with
    | true =>
      refine ih (fun still => ?_) opened
      have any := stops rfl
      have live : stop line = false := by simpa using still
      rw [List.any_cons, live, Bool.false_or] at any
      exact any
    | false =>
      have opened : openAfter start stop (start line) rest = true := opened
      show (if start line then deleteFrom start stop true rest
        else line :: deleteFrom start stop false rest).length < (if start line && rest.any stop
        then outsideFrom start stop true rest else line :: outsideFrom start stop false rest).length
      cases starts : start line with
      | false =>
        rw [starts] at opened
        exact Nat.succ_lt_succ (ih (fun inside => absurd inside Bool.false_ne_true) opened)
      | true =>
        rw [starts] at opened
        cases stops : rest.any stop with
        | true => exact ih (fun _ => stops) opened
        | false =>
          rw [if_pos rfl, (openAfter_of_not_stop stops).2]
          exact Nat.succ_pos _

/-- **`deleteRange` keeps what is outside** exactly if it leaves no range open. -/
theorem sublist_deleteRange_iff (lines : List α) :
    (outside start stop lines).Sublist (deleteRange start stop lines) ↔
      openAfter start stop false lines = false := by
  constructor
  · intro kept
    by_contra opened
    have opened : openAfter start stop false lines = true := by simpa using opened
    have shorter : (deleteFrom start stop false lines).length <
        (outsideFrom start stop false lines).length :=
      length_lt_of_open (fun inside => absurd inside Bool.false_ne_true) opened
    exact absurd kept.length_le (not_le.mpr shorter)
  · intro closed
    have same : outside start stop lines = deleteRange start stop lines :=
      outsideFrom_of_closed closed
    rw [same]

end Range

/-! ### Inserting a block -/

/-- The lines from one on, with the block inserted or not. -/
def insertFrom (before : α → Bool) (block : List α) : Bool → List α → List α
  | inserted, [] => if inserted then [] else block
  | inserted, line :: rest =>
    if !inserted && before line then block ++ line :: insertFrom before block true rest
    else line :: insertFrom before block inserted rest

/-- A block before the first line that satisfies `before`, or at the end. -/
def insertBefore (before : α → Bool) (block lines : List α) : List α :=
  insertFrom before block false lines

variable {before : α → Bool}

theorem insertFrom_true (block lines : List α) : insertFrom before block true lines = lines := by
  induction lines with
  | nil => rfl
  | cons line rest ih => exact congrArg (line :: ·) ih

/-- The lines before the block, and those after it. -/
theorem insertBefore_eq (block lines : List α) : insertBefore before block lines =
    lines.takeWhile (!before ·) ++ block ++ lines.dropWhile (!before ·) := by
  induction lines with
  | nil => simp [insertBefore, insertFrom]
  | cons line rest ih =>
    show (if !false && before line then block ++ line :: insertFrom before block true rest
      else line :: insertFrom before block false rest) = _
    cases here : before line with
    | true =>
      rw [insertFrom_true]
      simp [here]
    | false =>
      have step : line :: insertFrom before block false rest =
          line :: (rest.takeWhile (!before ·) ++ block ++ rest.dropWhile (!before ·)) :=
        congrArg (line :: ·) ih
      rw [List.takeWhile_cons_of_pos (by simp [here]), List.dropWhile_cons_of_pos (by simp [here])]
      exact step

/-- Before the first such line comes none, and after the block one if there is any. -/
theorem insertBefore_of_split {first second : List α} (block : List α)
    (none : ∀ line ∈ first, before line = false)
    (next : ∀ line ∈ second.head?, before line = true) :
    insertBefore before block (first ++ second) = first ++ block ++ second := by
  have pass : ∀ line ∈ first, (!before line) = true := by
    intro line member
    rw [none line member]
    rfl
  have stop : second.takeWhile (!before ·) = [] ∧ second.dropWhile (!before ·) = second := by
    cases second with
    | nil => exact ⟨rfl, rfl⟩
    | cons line rest =>
      have here := next line rfl
      simp [here]
  rw [insertBefore_eq, List.takeWhile_append_of_pos pass, List.dropWhile_append_of_pos pass,
    stop.1, stop.2, List.append_nil]

/-! ### A line that occurs once -/

/-- A split at the only marked line is the only split at a marked line. -/
theorem split_unique {marked : α → Bool} {first second first' second' : List α} {line line' : α}
    (same : first ++ line :: second = first' ++ line' :: second')
    (before : ∀ line ∈ first, marked line = false) (after : ∀ line ∈ second, marked line = false)
    (here : marked line' = true) : first = first' ∧ second = second' := by
  induction first generalizing first' with
  | nil =>
    cases first' with
    | nil => exact ⟨rfl, (List.cons.inj same).2⟩
    | cons other rest =>
      have member : line' ∈ second := by
        rw [(List.cons.inj same).2]
        exact List.mem_append_right _ List.mem_cons_self
      rw [after line' member] at here
      cases here
  | cons other rest ih =>
    cases first' with
    | nil =>
      rw [← (List.cons.inj same).1, before other List.mem_cons_self] at here
      cases here
    | cons other' rest' =>
      obtain ⟨head, tail⟩ := List.cons.inj same
      obtain ⟨earlier, later⟩ :=
        ih tail fun line member => before line (List.mem_cons_of_mem _ member)
      exact ⟨by rw [head, earlier], later⟩

end DbusEv.Lines
