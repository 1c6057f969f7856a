/-
**A request that is made at most once in a period, and again until it is accepted.**

The time of the last accepted request is kept; a request is due when there is none, or when it is a
period old. A restart forgets it.

* `Beat` — a restart, or a moment at which a due request is made and accepted or not.
* `period_le` — on one connection a request follows an accepted one by a period at least.
* `made_of_old` — a request is made when all accepted ones since the restart are a period old.
* `made_again` — one that was not accepted is made again at the next moment.
-/

import Mathlib.Algebra.Order.Group.Defs
import Mathlib.Algebra.Order.Sub.Basic
import Mathlib.Data.List.Induction

set_option autoImplicit false

namespace DbusEv.Pacing

inductive Beat (τ : Type)
  | restart
  | idle
  /-- A request that is due is made, and accepted if `accepts`. -/
  | moment (now : τ) (accepts : Bool)

variable {τ : Type} [AddCommGroup τ] [LinearOrder τ] {period : τ}

/-- No request is remembered, or it is a period old. -/
def isDue (period : τ) (last : Option τ) (now : τ) : Bool :=
  match last with
  | none => true
  | some last => period ≤ now - last

/-- What is remembered after one more beat. -/
def advance (period : τ) (last : Option τ) : Beat τ → Option τ
  | .restart => none
  | .idle => last
  | .moment now accepts => if isDue period last now = true ∧ accepts = true then some now else last

/-- The time that is remembered after these beats. -/
def memory (period : τ) (beats : List (Beat τ)) : Option τ := beats.foldl (advance period) none

/-- At this time, after these beats, a request is made. -/
def Made (period : τ) (before : List (Beat τ)) (now : τ) : Prop :=
  isDue period (memory period before) now = true

def Beat.time : Beat τ → Option τ
  | .moment now _ => some now
  | _ => none

/-- The moments are in the order of their times. -/
def Ordered (beats : List (Beat τ)) : Prop := (beats.filterMap Beat.time).Pairwise (· ≤ ·)

theorem advance_moment (last : Option τ) (now : τ) (accepts : Bool) :
    advance period last (.moment now accepts) =
      if isDue period last now = true ∧ accepts = true then some now else last := rfl

theorem memory_concat (beats : List (Beat τ)) (beat : Beat τ) :
    memory period (beats ++ [beat]) = advance period (memory period beats) beat := by
  unfold memory
  rw [List.foldl_append]
  rfl

theorem memory_idle (beats : List (Beat τ)) {between : List (Beat τ)}
    (quiet : ∀ beat ∈ between, beat = .idle) :
    memory period (beats ++ between) = memory period beats := by
  induction between using List.reverseRecOn with
  | nil => rw [List.append_nil]
  | append_singleton between beat ih =>
    rw [← List.append_assoc, memory_concat,
      ih fun other inside => quiet other (List.mem_append_left _ inside),
      quiet beat (List.mem_append_right _ List.mem_cons_self)]
    rfl

/-- What is remembered was made and accepted since the restart. -/
theorem exists_of_memory {beats : List (Beat τ)} {last : τ}
    (remembered : memory period beats = some last) :
    ∃ earlier between, beats = earlier ++ .moment last true :: between ∧ .restart ∉ between ∧
      Made period earlier last := by
  induction beats using List.reverseRecOn with
  | nil => cases remembered
  | append_singleton beats beat ih =>
    rw [memory_concat] at remembered
    have extend : beat ≠ .restart → memory period beats = some last → ∃ earlier between,
        beats ++ [beat] = earlier ++ .moment last true :: between ∧ .restart ∉ between ∧
          Made period earlier last := by
      intro other same
      obtain ⟨earlier, between, rfl, stays, made⟩ := ih same
      refine ⟨earlier, between ++ [beat], by simp, ?_, made⟩
      rw [List.mem_append, List.mem_singleton]
      rintro (inside | restarts)
      · exact stays inside
      · exact other restarts.symm
    cases beat with
    | restart => cases remembered
    | idle => exact extend nofun remembered
    | moment now accepts =>
      rw [advance_moment] at remembered
      split at remembered
      · next made =>
        obtain rfl := Option.some.inj remembered
        obtain rfl := made.2
        exact ⟨beats, [], rfl, List.not_mem_nil, made.1⟩
      · exact extend nofun remembered

/-- What was made and accepted since the restart is not later than what is remembered. -/
theorem le_memory {beats : List (Beat τ)} (ordered : Ordered beats)
    {earlier between : List (Beat τ)} {time : τ}
    (shape : beats = earlier ++ .moment time true :: between) (stays : .restart ∉ between)
    (made : Made period earlier time) :
    ∃ last, memory period beats = some last ∧ time ≤ last := by
  induction between using List.reverseRecOn generalizing beats with
  | nil =>
    refine ⟨time, ?_, le_rfl⟩
    rw [shape, memory_concat]
    exact if_pos ⟨made, rfl⟩
  | append_singleton between beat ih =>
    have longer : beats = (earlier ++ .moment time true :: between) ++ [beat] := by
      rw [shape, List.append_assoc, List.cons_append]
    rw [longer] at ordered ⊢
    unfold Ordered at ordered
    rw [List.filterMap_append, List.pairwise_append] at ordered
    obtain ⟨last, remembered, le⟩ := ih ordered.1 rfl fun inside =>
      stays (List.mem_append_left _ inside)
    rw [memory_concat, remembered]
    cases beat with
    | restart => exact absurd (List.mem_append_right _ List.mem_cons_self) stays
    | idle => exact ⟨last, rfl, le⟩
    | moment now accepts =>
      rw [advance_moment]
      split
      · refine ⟨now, rfl, ordered.2.2 time ?_ now (by simp [Beat.time])⟩
        simp [Beat.time]
      · exact ⟨last, rfl, le⟩

/-- **A request is made when all accepted ones since the restart are a period old.** -/
theorem made_of_old {beats : List (Beat τ)} {now : τ}
    (old : ∀ earlier time between, beats = earlier ++ .moment time true :: between →
      .restart ∉ between → Made period earlier time → period ≤ now - time) :
    Made period beats now := by
  unfold Made
  cases remembered : memory period beats with
  | none => rfl
  | some last =>
    obtain ⟨earlier, between, shape, stays, made⟩ := exists_of_memory remembered
    exact decide_eq_true (old earlier last between shape stays made)

variable [IsOrderedAddMonoid τ]

/-- **A request follows an accepted one by a period at least.** -/
theorem period_le {earlier between : List (Beat τ)} {time now : τ}
    (ordered : Ordered (earlier ++ .moment time true :: between)) (stays : .restart ∉ between)
    (first : Made period earlier time)
    (second : Made period (earlier ++ .moment time true :: between) now) :
    period ≤ now - time := by
  obtain ⟨last, remembered, le⟩ := le_memory ordered rfl stays first
  unfold Made at second
  rw [remembered] at second
  exact (of_decide_eq_true second).trans (sub_le_sub_left le now)

/-- **A request that was not accepted is made again.** -/
theorem made_again {before between : List (Beat τ)} {time now : τ} (first : Made period before time)
    (quiet : ∀ beat ∈ between, beat = .idle) (le : time ≤ now) :
    Made period (before ++ .moment time false :: between) now := by
  have shape : before ++ .moment time false :: between =
      (before ++ [.moment time false]) ++ between := by simp
  unfold Made at first ⊢
  rw [shape, memory_idle _ quiet, memory_concat]
  show isDue period (if _ ∧ false = true then _ else memory period before) now = true
  rw [if_neg (by simp)]
  cases remembered : memory period before with
  | none => rfl
  | some last =>
    rw [remembered] at first
    exact decide_eq_true ((of_decide_eq_true first).trans (sub_le_sub_right le last))

end DbusEv.Pacing
