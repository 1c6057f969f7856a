/-
**Jinja's lexing of an expression**: the string literals in it and what they denote.

A literal runs to the first quote that no backslash escapes, and literals that touch are one
literal. What the backslash escapes in a literal stand for is a parameter.

* `lex` — the tokens: literals by their values, and the characters of the code between them.
* `adjacent` — the value of the literals that touch.
* `lex_render` — an expression with literals without escapes in it.
* `lex_double` — a literal whose quotes and backslashes are doubled: the backslashes
  arrive, the quotes do not.
-/

import Mathlib.Data.List.Basic
import Mathlib.Data.List.Infix

set_option autoImplicit false

namespace DbusEv.Jinja

/-! ### Line ends -/

/-- `newline_re.split`, joined by line feeds. -/
def normalizeFrom : (afterReturn : Bool) → List Char → List Char
  | _, [] => []
  | afterReturn, c :: rest =>
    if c = '\r' then '\n' :: normalizeFrom true rest
    else if c = '\n' ∧ afterReturn = true then normalizeFrom false rest
    else c :: normalizeFrom false rest

/-- The source that is lexed: each line end is a line feed. -/
def normalize (source : List Char) : List Char := normalizeFrom false source

theorem return_not_mem_normalizeFrom (afterReturn : Bool) (source : List Char) :
    '\r' ∉ normalizeFrom afterReturn source := by
  induction source generalizing afterReturn with
  | nil => exact List.not_mem_nil
  | cons c rest ih =>
    unfold normalizeFrom
    split
    · exact List.not_mem_cons_of_ne_of_not_mem (by decide) (ih true)
    · next other =>
      split
      · exact ih false
      · exact List.not_mem_cons_of_ne_of_not_mem (Ne.symm other) (ih false)

theorem normalizeFrom_subset (afterReturn : Bool) (source : List Char) {c : Char}
    (inside : c ∈ normalizeFrom afterReturn source) : c ∈ source ∨ c = '\n' := by
  induction source generalizing afterReturn with
  | nil => exact absurd inside List.not_mem_nil
  | cons d rest ih =>
    unfold normalizeFrom at inside
    split at inside
    · cases List.mem_cons.mp inside with
      | inl same => exact .inr same
      | inr later => exact (ih true later).imp_left (List.mem_cons_of_mem d)
    · split at inside
      · exact (ih false inside).imp_left (List.mem_cons_of_mem d)
      · cases List.mem_cons.mp inside with
        | inl same => exact .inl (same ▸ List.mem_cons_self)
        | inr later => exact (ih false later).imp_left (List.mem_cons_of_mem d)

theorem normalize_of_not_mem {source : List Char} (none : '\r' ∉ source) :
    normalize source = source := by
  unfold normalize
  induction source with
  | nil => rfl
  | cons c rest ih =>
    have apart : c ≠ '\r' := fun same => none (same ▸ List.mem_cons_self)
    have tail := ih fun inside => none (List.mem_cons_of_mem c inside)
    simp [normalizeFrom, apart, tail]

/-- **A character that ends no line separates.** -/
theorem normalize_append_cons {c : Char} (notReturn : c ≠ '\r') (notFeed : c ≠ '\n')
    (first second : List Char) :
    normalize (first ++ c :: second) = normalize first ++ c :: normalize second := by
  have flagged : ∀ afterReturn, normalizeFrom afterReturn (first ++ c :: second) =
      normalizeFrom afterReturn first ++ c :: normalizeFrom false second := by
    induction first with
    | nil =>
      intro afterReturn
      simp [normalizeFrom, notReturn, notFeed]
    | cons d rest ih =>
      intro afterReturn
      rw [List.cons_append, normalizeFrom, normalizeFrom, ih, ih]
      split
      · rfl
      · split <;> rfl
  exact flagged false

/-! ### Tokens -/

/-- The value of a literal's text: the escapes of `unicode-escape`, `none` where they are none. -/
class Escapes where
  decode : List Char → Option (List Char)

export Escapes (decode)

class LawfulEscapes [Escapes] : Prop where
  decode_nil : decode [] = some []
  decode_cons : ∀ (c : Char) (rest : List Char), c ≠ '\\' →
    decode (c :: rest) = (decode rest).map (c :: ·)
  decode_backslash : ∀ rest : List Char,
    decode ('\\' :: '\\' :: rest) = (decode rest).map ('\\' :: ·)

inductive Token where
  | str (value : List Char)
  | code (c : Char)
  | error
  deriving DecidableEq

/-- Where the lexer is: in the code, in a literal, or behind a backslash in a literal. -/
inductive Mode where
  | code
  | inside (quote : Char) (raw : List Char)
  | escaped (quote : Char) (raw : List Char)

def ofValue : Option (List Char) → Token
  | some value => .str value
  | none => .error

def isQuote (c : Char) : Bool := c = '\'' || c = '"'

/-- The tokens of an expression. -/
def lex [Escapes] : Mode → List Char → List Token
  | .code, [] => []
  | .inside _ _, [] => [.error]
  | .escaped _ _, [] => [.error]
  | .code, c :: rest =>
    if isQuote c then lex (.inside c []) rest
    else if c.isWhitespace then lex .code rest
    else .code c :: lex .code rest
  | .inside quote raw, c :: rest =>
    if c = quote then ofValue (decode raw) :: lex .code rest
    else if c = '\\' then lex (.escaped quote raw) rest
    else lex (.inside quote (raw ++ [c])) rest
  | .escaped quote raw, c :: rest => lex (.inside quote (raw ++ ['\\', c])) rest

/-- The value of the literals that touch. -/
def adjacent : List Token → Option (List Char)
  | .str value :: rest => (adjacent rest).map (value ++ ·)
  | .error :: _ => none
  | .code _ :: _ => some []
  | [] => some []

/-- The value of the literal that the tokens begin with. -/
def literal : List Token → Option (List Char)
  | .str value :: rest => (adjacent rest).map (value ++ ·)
  | _ => none

/-- What follows the first place where the pattern is. -/
def after {α : Type} [DecidableEq α] (pattern : List α) : List α → Option (List α)
  | [] => if pattern = [] then some [] else none
  | c :: rest =>
    if pattern <+: c :: rest then some ((c :: rest).drop pattern.length)
    else after pattern rest

/-! ### An expression with literals without escapes in it -/

/-- Some code and the literal behind it. -/
structure Piece where
  code : List Char
  quote : Char
  content : List Char

def render (tail : List Char) : List Piece → List Char
  | [] => tail
  | piece :: more => piece.code ++ piece.quote :: (piece.content ++ piece.quote :: render tail more)

theorem render_append (tail : List Char) (first second : List Piece) :
    render tail (first ++ second) = render (render tail second) first := by
  induction first with
  | nil => rfl
  | cons piece more ih => rw [List.cons_append, render, render, ih]

def Piece.map (f : List Char → List Char) (piece : Piece) : Piece :=
  { piece with code := f piece.code, content := f piece.content }

/-- What leaves quotes alone and works on each side of them works on each piece. -/
theorem map_render {f : List Char → List Char}
    (separates : ∀ q first second, isQuote q = true → f (first ++ q :: second) =
      f first ++ q :: f second) (tail : List Char) {pieces : List Piece}
    (quotes : ∀ p ∈ pieces, isQuote p.quote = true) :
    f (render tail pieces) = render (f tail) (pieces.map (Piece.map f)) := by
  induction pieces with
  | nil => rfl
  | cons piece more ih =>
    have here := quotes piece List.mem_cons_self
    have later := ih fun p inside => quotes p (List.mem_cons_of_mem piece inside)
    rw [render, separates _ _ _ here, separates _ _ _ here, later]
    rfl

/-- The tokens of code without quotes. -/
def codes (text : List Char) : List Token := (text.filter (!·.isWhitespace)).map .code

def Piece.tokens (piece : Piece) : List Token := codes piece.code ++ [.str piece.content]

structure Piece.Plain (piece : Piece) : Prop where
  quote : isQuote piece.quote = true
  code : ∀ c ∈ piece.code, isQuote c = false
  noQuote : piece.quote ∉ piece.content
  noBackslash : '\\' ∉ piece.content

theorem lex_code [Escapes] {text : List Char} (noQuote : ∀ c ∈ text, isQuote c = false)
    (rest : List Char) : lex .code (text ++ rest) = codes text ++ lex .code rest := by
  induction text with
  | nil => rfl
  | cons c text ih =>
    have here := noQuote c List.mem_cons_self
    have tail := ih fun d inside => noQuote d (List.mem_cons_of_mem c inside)
    by_cases white : c.isWhitespace <;> simp [lex, codes, here, white, tail]

/-- What was read of a literal stands for this value, whatever follows. -/
def Reads [Escapes] (raw value : List Char) : Prop :=
  ∀ rest : List Char, decode (raw ++ rest) = (decode rest).map (value ++ ·)

theorem reads_nil [Escapes] : Reads [] [] := by
  intro rest
  simp

section Reading

variable [Escapes] [LawfulEscapes] {raw value : List Char}

theorem Reads.snoc (reads : Reads raw value) {c : Char} (plain : c ≠ '\\') :
    Reads (raw ++ [c]) (value ++ [c]) := by
  intro rest
  rw [List.append_assoc, reads, List.singleton_append, LawfulEscapes.decode_cons c rest plain]
  cases decode rest with
  | none => rfl
  | some tail => simp

theorem Reads.snoc_backslash (reads : Reads raw value) :
    Reads (raw ++ ['\\', '\\']) (value ++ ['\\']) := by
  intro rest
  rw [List.append_assoc, reads, List.cons_append, List.singleton_append,
    LawfulEscapes.decode_backslash]
  cases decode rest with
  | none => rfl
  | some tail => simp

theorem Reads.decode_eq (reads : Reads raw value) : decode raw = some value := by
  have all := reads []
  rw [List.append_nil, LawfulEscapes.decode_nil] at all
  simpa using all

/-- A literal without its quote and without backslashes. -/
theorem lex_inside (reads : Reads raw value) {quote : Char} {text : List Char}
    (noQuote : quote ∉ text) (noBackslash : '\\' ∉ text) (rest : List Char) :
    lex (.inside quote raw) (text ++ quote :: rest) = .str (value ++ text) :: lex .code rest := by
  induction text generalizing raw value with
  | nil => simp [lex, reads.decode_eq, ofValue]
  | cons c text ih =>
    have notQuote : c ≠ quote := fun same => noQuote (same ▸ List.mem_cons_self)
    have plain : c ≠ '\\' := fun same => noBackslash (same ▸ List.mem_cons_self)
    have tail := ih (reads.snoc plain) (fun inside => noQuote (List.mem_cons_of_mem c inside))
      fun inside => noBackslash (List.mem_cons_of_mem c inside)
    rw [List.cons_append, lex, if_neg notQuote, if_neg plain, tail, List.append_assoc,
      List.singleton_append]

/-- **The tokens of an expression with literals without escapes.** -/
theorem lex_render (tail : List Char) {pieces : List Piece} (plain : ∀ p ∈ pieces, p.Plain) :
    lex .code (render tail pieces) = pieces.flatMap Piece.tokens ++ lex .code tail := by
  induction pieces with
  | nil => rfl
  | cons piece more ih =>
    have here := plain piece List.mem_cons_self
    have later := ih fun p inside => plain p (List.mem_cons_of_mem piece inside)
    rw [render, lex_code here.code, lex, if_pos here.quote,
      lex_inside reads_nil here.noQuote here.noBackslash, later]
    simp [Piece.tokens]

end Reading

/-! ### A literal with everything doubled -/

/-- Each character of `special` twice. -/
def double (special text : List Char) : List Char :=
  text.flatMap fun c => if c ∈ special then [c, c] else [c]

theorem double_cons (special : List Char) (c : Char) (text : List Char) :
    double special (c :: text) = (if c ∈ special then [c, c] else [c]) ++ double special text :=
  List.flatMap_cons

theorem double_append (special first second : List Char) :
    double special (first ++ second) = double special first ++ double special second :=
  List.flatMap_append

theorem double_of_not_mem {special text : List Char} (none : ∀ c ∈ text, c ∉ special) :
    double special text = text := by
  induction text with
  | nil => rfl
  | cons c rest ih =>
    rw [double_cons, if_neg (none c List.mem_cons_self),
      ih fun d inside => none d (List.mem_cons_of_mem c inside)]
    rfl

/-- **A literal whose quotes and backslashes are doubled** is lexed as literals that touch: a
doubled quote ends one and begins the next. -/
theorem lex_double [Escapes] [LawfulEscapes] {raw value : List Char} (reads : Reads raw value)
    (text rest : List Char) : ∃ first : List Char, ∃ more : List (List Char),
      first ++ more.flatten = value ++ text.filter (· ≠ '\'') ∧
      lex (.inside '\'' raw) (double ['\'', '\\'] text ++ '\'' :: rest) =
        .str first :: (more.map .str ++ lex .code rest) := by
  induction text generalizing raw value with
  | nil =>
    refine ⟨value, [], by simp, ?_⟩
    simp [double, lex, reads.decode_eq, ofValue]
  | cons c text ih =>
    rw [double_cons]
    by_cases quote : c = '\''
    · obtain ⟨first, more, values, tokens⟩ := ih reads_nil
      subst quote
      refine ⟨value, first :: more, by simpa using values, ?_⟩
      simp [lex, reads.decode_eq, ofValue, isQuote, tokens]
    · by_cases backslash : c = '\\'
      · obtain ⟨first, more, values, tokens⟩ := ih reads.snoc_backslash
        subst backslash
        refine ⟨first, more, by simpa using values, ?_⟩
        simpa [lex] using tokens
      · obtain ⟨first, more, values, tokens⟩ := ih (reads.snoc backslash)
        refine ⟨first, more, by simpa [quote] using values, ?_⟩
        simpa [lex, quote, backslash] using tokens

theorem adjacent_strs (values : List (List Char)) {tokens : List Token}
    (ends : adjacent tokens = some []) :
    adjacent (values.map .str ++ tokens) = some values.flatten := by
  induction values with
  | nil => exact ends
  | cons value more ih =>
    rw [List.map_cons, List.cons_append, adjacent, ih]
    rfl

end DbusEv.Jinja
