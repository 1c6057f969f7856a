/-
**Replacing a text in a text.**

`replaceAll pattern new text` is Python's `text.replace(pattern, new)` for a pattern that is not
empty: from the left, without looking at what was put in.

* `replaceAll_induction` — a text is empty, begins with the pattern, or with another character.
* `replaceAll_append_cons` — a character that is not in the pattern separates.
* `replaceAll_of_absent` — nothing to replace.
* `count_replaceAll_lt` — a character of the pattern that is not in the new text gets rarer.
-/

import Mathlib.Data.List.Basic
import Mathlib.Data.List.Infix
import Mathlib.Tactic.Linarith

set_option autoImplicit false

namespace DbusEv

/-- A pattern without the separator that begins a text begins its first part. -/
theorem isPrefix_of_isPrefix_append_cons {α : Type} {pattern first second : List α} {c : α}
    (apart : c ∉ pattern) (here : pattern <+: first ++ c :: second) : pattern <+: first := by
  by_cases short : pattern.length ≤ first.length
  · exact List.prefix_of_prefix_length_le here (List.prefix_append first _) short
  · have longer : (first ++ [c]).length ≤ pattern.length := by
      rw [List.length_append, List.length_singleton]
      omega
    have same : first ++ c :: second = (first ++ [c]) ++ second := by simp
    have begins : first ++ [c] <+: pattern :=
      List.prefix_of_prefix_length_le (same ▸ List.prefix_append (first ++ [c]) second) here longer
    exact absurd (begins.subset (by simp)) apart

variable {α : Type} [DecidableEq α]

/-- The text after `skip` characters, with the pattern replaced. -/
def replaceFrom (pattern new : List α) : ℕ → List α → List α
  | _, [] => []
  | 0, c :: rest =>
    if pattern <+: c :: rest then new ++ replaceFrom pattern new (pattern.length - 1) rest
    else c :: replaceFrom pattern new 0 rest
  | skip + 1, _ :: rest => replaceFrom pattern new skip rest

/-- `text.replace(pattern, new)`. -/
def replaceAll (pattern new text : List α) : List α := replaceFrom pattern new 0 text

variable {pattern new : List α}

theorem replaceFrom_append (first text : List α) :
    replaceFrom pattern new first.length (first ++ text) = replaceAll pattern new text := by
  induction first with
  | nil => rfl
  | cons c rest ih => exact ih

@[simp] theorem replaceAll_nil : replaceAll pattern new [] = [] := rfl

theorem replaceAll_append (nonempty : pattern ≠ []) (new text : List α) :
    replaceAll pattern new (pattern ++ text) = new ++ replaceAll pattern new text := by
  cases pattern with
  | nil => exact absurd rfl nonempty
  | cons c rest =>
    have here : (c :: rest) <+: c :: (rest ++ text) := List.prefix_append (c :: rest) text
    show (if (c :: rest) <+: c :: (rest ++ text) then _ else _) = _
    rw [if_pos here, List.length_cons, Nat.add_sub_cancel]
    exact congrArg (new ++ ·) (replaceFrom_append rest text)

/-- A text that is the pattern alone. -/
theorem replaceAll_self (nonempty : pattern ≠ []) (new : List α) :
    replaceAll pattern new pattern = new := by
  have alone := replaceAll_append nonempty new []
  rwa [List.append_nil, replaceAll_nil, List.append_nil] at alone

theorem replaceAll_cons {c : α} {text : List α} (other : ¬ pattern <+: c :: text) :
    replaceAll pattern new (c :: text) = c :: replaceAll pattern new text :=
  if_neg other

/-- A text is empty, begins with the pattern, or with another character. -/
theorem replaceAll_induction (nonempty : pattern ≠ []) {P : List α → Prop} (nil : P [])
    (found : ∀ text, P text → P (pattern ++ text))
    (other : ∀ c text, ¬ pattern <+: c :: text → P text → P (c :: text)) (text : List α) :
    P text := by
  induction length : text.length using Nat.strong_induction_on generalizing text with
  | _ n ih =>
    cases text with
    | nil => exact nil
    | cons c rest =>
      by_cases here : pattern <+: c :: rest
      · obtain ⟨after, shape⟩ := here
        have shorter : after.length < n := by
          have longer := List.length_pos_of_ne_nil nonempty
          have lengths := congrArg List.length shape
          rw [List.length_append] at lengths
          omega
        rw [← shape]
        exact found after (ih _ shorter after rfl)
      · have shorter : rest.length < n := by
          rw [← length]
          exact Nat.lt_succ_self _
        exact other c rest here (ih _ shorter rest rfl)

/-- **A character that is not in the pattern separates.** -/
theorem replaceAll_append_cons (nonempty : pattern ≠ []) {c : α} (apart : c ∉ pattern)
    (first second : List α) : replaceAll pattern new (first ++ c :: second) =
      replaceAll pattern new first ++ c :: replaceAll pattern new second := by
  induction first using replaceAll_induction nonempty with
  | nil =>
    apply replaceAll_cons
    rintro ⟨after, shape⟩
    cases pattern with
    | nil => exact nonempty rfl
    | cons d rest =>
      apply apart
      rw [← (List.cons.inj shape).1]
      exact List.mem_cons_self
  | found text ih =>
    rw [List.append_assoc, replaceAll_append nonempty, ih, replaceAll_append nonempty,
      List.append_assoc]
  | other d text none ih =>
    have still : ¬ pattern <+: d :: (text ++ c :: second) := by
      intro here
      exact none (isPrefix_of_isPrefix_append_cons apart here)
    rw [List.cons_append, replaceAll_cons still, ih, replaceAll_cons none]
    rfl

theorem replaceAll_of_absent (nonempty : pattern ≠ []) {text : List α}
    (none : ¬ pattern <:+: text) : replaceAll pattern new text = text := by
  induction text using replaceAll_induction nonempty with
  | nil => rfl
  | found text ih => exact absurd (List.prefix_append pattern text).isInfix none
  | other c text not ih =>
    rw [replaceAll_cons not, ih fun inside => none (List.infix_cons inside)]

/-- A character that the new text does not have gets no more frequent. -/
theorem count_replaceAll_le (nonempty : pattern ≠ []) {c : α} (fresh : c ∉ new) (text : List α) :
    (replaceAll pattern new text).count c ≤ text.count c := by
  induction text using replaceAll_induction nonempty with
  | nil => exact le_rfl
  | found text ih =>
    rw [replaceAll_append nonempty, List.count_append, List.count_append,
      List.count_eq_zero_of_not_mem fresh]
    omega
  | other d text none ih =>
    rw [replaceAll_cons none, List.count_cons, List.count_cons]
    omega

/-- **A character of the pattern gets rarer** where the pattern is found. -/
theorem count_replaceAll_lt {c : α} (inside : c ∈ pattern) (fresh : c ∉ new) {text : List α}
    (found : pattern <:+: text) : (replaceAll pattern new text).count c < text.count c := by
  have nonempty := List.ne_nil_of_mem inside
  induction text using replaceAll_induction nonempty with
  | nil => exact absurd (List.infix_nil.mp found) nonempty
  | found text ih =>
    have le := count_replaceAll_le nonempty fresh text
    have some := List.count_pos_iff.mpr inside
    rw [replaceAll_append nonempty, List.count_append, List.count_append,
      List.count_eq_zero_of_not_mem fresh]
    omega
  | other d text none ih =>
    cases List.infix_cons_iff.mp found with
    | inl here => exact absurd here none
    | inr later =>
      have lt := ih later
      rw [replaceAll_cons none, List.count_cons, List.count_cons]
      omega

/-- Replacing one character. -/
theorem replaceAll_singleton (c : α) (text : List α) :
    replaceAll [c] new text = text.flatMap fun d => if d = c then new else [d] := by
  induction text with
  | nil => rfl
  | cons d rest ih =>
    rw [List.flatMap_cons]
    by_cases same : d = c
    · rw [if_pos same, same]
      have step := replaceAll_append (List.cons_ne_nil c []) new rest
      rw [← ih]
      exact step
    · have other : ¬ [c] <+: d :: rest := by
        rintro ⟨after, shape⟩
        exact same (List.cons.inj shape).1.symm
      rw [if_neg same, replaceAll_cons other, ih]
      rfl

end DbusEv
