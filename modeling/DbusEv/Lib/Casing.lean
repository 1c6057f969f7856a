/-
**Names in words: joined by a separator, or by capitals.**

* `camel` — the words of a name after its first one get a capital, and the separators go.
* `snake` — every capital becomes a separator and the small letter.
* `snake_camel` — a name without capitals whose later words begin with a letter comes back, so two
  such names never get the same capitals (`camel_injective`).
-/

import Mathlib.Data.List.Basic

set_option autoImplicit false

namespace DbusEv

/-- What capitals are: `upper` of a character may be several ones. -/
structure Casing (α : Type) where
  upper : α → List α
  isUpper : α → Bool
  lower : α → α

namespace Casing

variable {α : Type} (casing : Casing α) (separator : α)

/-- A word with a capital. -/
def capital : List α → List α
  | [] => []
  | first :: rest => casing.upper first ++ rest

/-- The words in one, with capitals. -/
def join : List (List α) → List α
  | [] => []
  | first :: rest => first ++ (rest.map casing.capital).flatten

def snake (name : List α) : List α :=
  name.flatMap fun letter =>
    if casing.isUpper letter then [separator, casing.lower letter] else [letter]

/-- A small letter: it has one capital, and is the small letter of it. -/
def Small (letter : α) : Prop :=
  ∃ large, casing.upper letter = [large] ∧ casing.isUpper large = true ∧
    casing.lower large = letter

/-- The word begins with a small letter. -/
def Begun (word : List α) : Prop := ∃ first rest, word = first :: rest ∧ casing.Small first

variable {casing separator}

theorem snake_append (one other : List α) :
    casing.snake separator (one ++ other) =
      casing.snake separator one ++ casing.snake separator other := by
  unfold snake
  rw [List.flatMap_append]

theorem snake_of_small {name : List α} (small : ∀ letter ∈ name, casing.isUpper letter = false) :
    casing.snake separator name = name := by
  induction name with
  | nil => rfl
  | cons letter rest ih =>
    obtain ⟨first, others⟩ := List.forall_mem_cons.mp small
    have step : casing.snake separator (letter :: rest) =
        [letter] ++ casing.snake separator rest := by
      unfold snake
      rw [List.flatMap_cons, first, if_neg Bool.false_ne_true]
    rw [step, ih others]
    rfl

/-- A word comes back with its separator. -/
theorem snake_capital {word : List α} (begun : casing.Begun word)
    (small : ∀ letter ∈ word, casing.isUpper letter = false) :
    casing.snake separator (casing.capital word) = separator :: word := by
  obtain ⟨first, rest, rfl, large, upper, isUpper, lower⟩ := begun
  have capital : casing.capital (first :: rest) = [large] ++ rest := by
    show casing.upper first ++ rest = _
    rw [upper]
  rw [capital, snake_append, snake_of_small (List.forall_mem_cons.mp small).2]
  unfold snake
  rw [List.flatMap_cons, if_pos isUpper, lower]
  rfl

theorem snake_capitals {words : List (List α)}
    (small : ∀ word ∈ words, ∀ letter ∈ word, casing.isUpper letter = false)
    (begun : ∀ word ∈ words, casing.Begun word) :
    casing.snake separator (words.map casing.capital).flatten =
      (words.map (separator :: ·)).flatten := by
  induction words with
  | nil => rfl
  | cons word rest ih =>
    obtain ⟨here, there⟩ := List.forall_mem_cons.mp small
    obtain ⟨starts, further⟩ := List.forall_mem_cons.mp begun
    rw [List.map_cons, List.flatten_cons, snake_append, ih there further,
      snake_capital starts here]
    rfl

/-- The words with their separators, from the first one on. -/
theorem intercalate_cons (head : List α) (tail : List (List α)) :
    [separator].intercalate (head :: tail) = head ++ (tail.map (separator :: ·)).flatten := by
  induction tail generalizing head with
  | nil => rw [List.intercalate_singleton, List.map_nil, List.flatten_nil, List.append_nil]
  | cons word rest ih =>
    rw [List.intercalate_cons_cons, ih word, List.map_cons, List.flatten_cons, List.append_assoc]
    rfl

/-- The letters of the words are letters of the name. -/
theorem mem_intercalate {words : List (List α)} {word : List α} (member : word ∈ words)
    {letter : α} (inside : letter ∈ word) : letter ∈ [separator].intercalate words := by
  cases words with
  | nil => cases member
  | cons head tail =>
    rw [intercalate_cons]
    rcases List.mem_cons.mp member with rfl | later
    · exact List.mem_append_left _ inside
    · refine List.mem_append_right _ (List.mem_flatten.mpr ⟨separator :: word, ?_, ?_⟩)
      · exact List.mem_map_of_mem later
      · exact List.mem_cons_of_mem _ inside

theorem snake_join {words : List (List α)}
    (small : ∀ word ∈ words, ∀ letter ∈ word, casing.isUpper letter = false)
    (begun : ∀ word ∈ words.tail, casing.Begun word) :
    casing.snake separator (casing.join words) = [separator].intercalate words := by
  cases words with
  | nil => rfl
  | cons head tail =>
    obtain ⟨first, others⟩ := List.forall_mem_cons.mp small
    rw [intercalate_cons, ← snake_capitals others begun]
    unfold join
    rw [snake_append, snake_of_small first]

/-! ### Names -/

variable [DecidableEq α]

variable (casing separator) in
def camel (name : List α) : List α := casing.join (name.splitOn separator)

variable (casing separator) in
/-- No capitals, and the words after the first one begin with a small letter. -/
structure Plain (name : List α) : Prop where
  small : ∀ letter ∈ name, casing.isUpper letter = false
  begun : ∀ word ∈ (name.splitOn separator).tail, casing.Begun word

/-- Only the capitals of the later words count. -/
theorem camel_congr {other : Casing α} {name : List α}
    (same : ∀ word ∈ (name.splitOn separator).tail, casing.capital word = other.capital word) :
    casing.camel separator name = other.camel separator name := by
  unfold camel
  cases words : name.splitOn separator with
  | nil => rfl
  | cons head tail =>
    rw [words, List.tail_cons] at same
    show head ++ (tail.map casing.capital).flatten = head ++ (tail.map other.capital).flatten
    rw [List.map_congr_left same]

/-- **The capitals of a plain name can be read back.** -/
theorem snake_camel {name : List α} (plain : casing.Plain separator name) :
    casing.snake separator (casing.camel separator name) = name := by
  have words : [separator].intercalate (name.splitOn separator) = name :=
    List.intercalate_splitOn separator
  unfold camel
  rw [snake_join (fun word member letter inside => plain.small letter ?_) plain.begun, words]
  rw [← words]
  exact mem_intercalate member inside

/-- **Plain names have different capitals.** -/
theorem camel_injective {one other : List α} (plain : casing.Plain separator one)
    (too : casing.Plain separator other)
    (same : casing.camel separator one = casing.camel separator other) : one = other := by
  rw [← snake_camel plain, same, snake_camel too]

end Casing

end DbusEv
