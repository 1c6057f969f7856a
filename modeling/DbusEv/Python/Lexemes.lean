/-
**The text of a JSON value, lexeme by lexeme.**

* `Json` — a value whose dictionaries have each key once, as Python's have.
* `dump` — the lexemes `json.dump` writes, in their order.
* `loads` — `json.loads`: one value and nothing behind it, or the `ValueError`.
* `loads_dump` — what was written whole reads back as the value.
-/

import DbusEv.Python.Value

set_option autoImplicit false

namespace DbusEv

/-! ### Values -/

namespace Dict

variable {α : Type}

theorem nodup_update {d : Dict α} (keys : (d.map Prod.fst).Nodup) (changes : Dict α) :
    ((d.update changes).map Prod.fst).Nodup := by
  induction changes generalizing d with
  | nil => exact keys
  | cons item rest ih => exact ih (nodup_set keys item.1 item.2)

theorem forall_update {P : α → Prop} {d changes : Dict α} (values : ∀ item ∈ d, P item.2)
    (changed : ∀ item ∈ changes, P item.2) : ∀ item ∈ d.update changes, P item.2 := by
  induction changes generalizing d with
  | nil => exact values
  | cons item rest ih =>
    obtain ⟨first, others⟩ := List.forall_mem_cons.mp changed
    exact ih (forall_set item.1 values first) others

/-- A new key comes last. -/
theorem set_of_not_mem {d : Dict α} {key : String} (value : α) (absent : key ∉ d.map Prod.fst) :
    d.set key value = d ++ [(key, value)] := by
  induction d with
  | nil => rfl
  | cons head rest ih =>
    obtain ⟨k, v⟩ := head
    rw [List.map_cons, List.mem_cons, not_or] at absent
    have differs : ¬ key = k := absent.1
    rw [set, if_neg differs, ih absent.2, List.cons_append]

/-- New keys come last, in their order. -/
theorem update_of_nodup {d changes : Dict α} (keys : ((d ++ changes).map Prod.fst).Nodup) :
    d.update changes = d ++ changes := by
  induction changes generalizing d with
  | nil => exact (List.append_nil d).symm
  | cons item rest ih =>
    have absent : item.1 ∉ d.map Prod.fst := by
      rw [List.map_append, List.map_cons] at keys
      intro found
      exact (List.nodup_append.mp keys).2.2 item.1 found item.1 List.mem_cons_self rfl
    have added : d.set item.1 item.2 = d ++ [item] := set_of_not_mem item.2 absent
    have keys : ((d ++ [item] ++ rest).map Prod.fst).Nodup := by
      rwa [List.append_assoc]
    calc d.update (item :: rest) = (d.set item.1 item.2).update rest := rfl
      _ = d ++ item :: rest := by rw [added, ih keys, List.append_assoc, List.singleton_append]

end Dict

mutual

/-- Every dictionary in the value has each key once. -/
def PyValue.distinct : PyValue → Bool
  | .list items => distinctItems items
  | .dict entries => distinctEntries entries
  | _ => true

def distinctItems : List PyValue → Bool
  | [] => true
  | item :: rest => item.distinct && distinctItems rest

def distinctEntries : List (String × PyValue) → Bool
  | [] => true
  | (key, value) :: rest =>
    decide (key ∉ rest.map Prod.fst) && (value.distinct && distinctEntries rest)

end

theorem distinctItems_iff {items : List PyValue} :
    distinctItems items = true ↔ ∀ item ∈ items, item.distinct = true := by
  induction items with
  | nil => simp [distinctItems]
  | cons item rest ih => simp [distinctItems, ih]

theorem distinctEntries_iff {entries : List (String × PyValue)} :
    distinctEntries entries = true ↔
      (entries.map Prod.fst).Nodup ∧ ∀ entry ∈ entries, entry.2.distinct = true := by
  induction entries with
  | nil => simp [distinctEntries]
  | cons entry rest ih =>
    obtain ⟨key, value⟩ := entry
    rw [distinctEntries, Bool.and_eq_true, Bool.and_eq_true, decide_eq_true_eq, ih, List.map_cons,
      List.nodup_cons, List.forall_mem_cons]
    tauto

/-- A value as `json.loads` returns it. -/
@[ext]
structure Json where
  value : PyValue
  distinct : value.distinct = true

namespace Json

/-- `[…]`. -/
def ofList (items : List Json) : Json :=
  ⟨.list (items.map value), distinctItems_iff.mpr fun found member => by
    obtain ⟨item, -, rfl⟩ := List.mem_map.mp member
    exact item.distinct⟩

/-- A pair of a dictionary, as it is in the value. -/
def entry (pair : String × Json) : String × PyValue := (pair.1, pair.2.value)

theorem distinct_update (pairs : List (String × Json)) :
    distinctEntries (Dict.update [] (pairs.map entry)) = true := by
  refine distinctEntries_iff.mpr ⟨Dict.nodup_update (by simp) _, ?_⟩
  apply Dict.forall_update (P := fun found : PyValue => found.distinct = true)
    (List.forall_mem_nil _)
  intro found member
  obtain ⟨pair, -, rfl⟩ := List.mem_map.mp member
  exact pair.2.distinct

/-- `dict(pairs)`: a later pair replaces an earlier one of its key. -/
def ofPairs (pairs : List (String × Json)) : Json :=
  ⟨.dict (Dict.update [] (pairs.map entry)), distinct_update pairs⟩

/-- `{}`. -/
def empty : Json := ofPairs []

end Json

/-! ### Lexemes -/

/-- A lexeme. The `repr` of a number and the escapes of a text read back as what they stand for. -/
inductive Lexeme
  | null
  | bool (value : Bool)
  | int (value : ℤ)
  | float (value : PyFloat)
  | str (text : String)
  | openList
  | closeList
  | openDict
  | closeDict
  | comma
  | colon

/-- A text. -/
abbrev Lexemes := List Lexeme

mutual

/-- `json.dump(value, stream)`. -/
def dump : PyValue → Lexemes
  | .none => [.null]
  | .bool value => [.bool value]
  | .int value => [.int value]
  | .float value => [.float value]
  | .str text => [.str text]
  | .list [] => [.openList, .closeList]
  | .list (item :: rest) => .openList :: (dump item ++ dumpItems rest)
  | .dict [] => [.openDict, .closeDict]
  | .dict ((key, value) :: rest) =>
    .openDict :: .str key :: .colon :: (dump value ++ dumpEntries rest)

/-- The items of a list after the first one. -/
def dumpItems : List PyValue → Lexemes
  | [] => [.closeList]
  | item :: rest => .comma :: (dump item ++ dumpItems rest)

/-- The entries of a dictionary after the first one. -/
def dumpEntries : List (String × PyValue) → Lexemes
  | [] => [.closeDict]
  | (key, value) :: rest => .comma :: .str key :: .colon :: (dump value ++ dumpEntries rest)

end

mutual

/-- The value a text begins with, and what is behind it; the fuel bounds the nesting and the
length. -/
def readValue : ℕ → Lexemes → Except PyError (Json × Lexemes)
  | 0, _ => .error .value
  | _ + 1, .null :: rest => .ok (⟨.none, rfl⟩, rest)
  | _ + 1, .bool value :: rest => .ok (⟨.bool value, rfl⟩, rest)
  | _ + 1, .int value :: rest => .ok (⟨.int value, rfl⟩, rest)
  | _ + 1, .float value :: rest => .ok (⟨.float value, rfl⟩, rest)
  | _ + 1, .str text :: rest => .ok (⟨.str text, rfl⟩, rest)
  | _ + 1, .openList :: .closeList :: rest => .ok (.ofList [], rest)
  | fuel + 1, .openList :: rest => do
    let (item, rest) ← readValue fuel rest
    let (items, rest) ← readItems fuel rest
    .ok (.ofList (item :: items), rest)
  | _ + 1, .openDict :: .closeDict :: rest => .ok (.ofPairs [], rest)
  | fuel + 1, .openDict :: .str key :: .colon :: rest => do
    let (value, rest) ← readValue fuel rest
    let (pairs, rest) ← readPairs fuel rest
    .ok (.ofPairs ((key, value) :: pairs), rest)
  | _ + 1, _ => .error .value

/-- The items of a list after the first one. -/
def readItems : ℕ → Lexemes → Except PyError (List Json × Lexemes)
  | 0, _ => .error .value
  | _ + 1, .closeList :: rest => .ok ([], rest)
  | fuel + 1, .comma :: rest => do
    let (item, rest) ← readValue fuel rest
    let (items, rest) ← readItems fuel rest
    .ok (item :: items, rest)
  | _ + 1, _ => .error .value

/-- The pairs of a dictionary after the first one. -/
def readPairs : ℕ → Lexemes → Except PyError (List (String × Json) × Lexemes)
  | 0, _ => .error .value
  | _ + 1, .closeDict :: rest => .ok ([], rest)
  | fuel + 1, .comma :: .str key :: .colon :: rest => do
    let (value, rest) ← readValue fuel rest
    let (pairs, rest) ← readPairs fuel rest
    .ok ((key, value) :: pairs, rest)
  | _ + 1, _ => .error .value

end

/-- `json.loads(text)`. -/
def loads (text : Lexemes) : Except PyError Json :=
  match readValue text.length text with
  | .ok (value, []) => .ok value
  | .ok (_, _ :: _) => .error .value
  | .error e => .error e

/-! ### The round trip -/

/-- No value begins like the end of a list. -/
theorem dump_ne_closeList (value : PyValue) (rest text : Lexemes) :
    dump value ++ rest ≠ .closeList :: text := by
  rcases value with _ | _ | _ | _ | _ | (_ | _) | (_ | _) <;> simp [dump]

theorem readValue_openList {fuel : ℕ} {value : PyValue} {rest : Lexemes} :
    readValue (fuel + 1) (.openList :: (dump value ++ rest)) = (do
      let (item, rest) ← readValue fuel (dump value ++ rest)
      let (items, rest) ← readItems fuel rest
      .ok (.ofList (item :: items), rest)) := by
  rw [readValue]
  exact dump_ne_closeList value rest

/-- With this fuel, what was written is read back. -/
structure ReadsBack (fuel : ℕ) : Prop where
  value : ∀ (value : PyValue) (distinct : value.distinct = true) (rest : Lexemes),
    (dump value).length ≤ fuel →
      readValue fuel (dump value ++ rest) = .ok (⟨value, distinct⟩, rest)
  items : ∀ (items : List PyValue) (rest : Lexemes), distinctItems items = true →
    (dumpItems items).length ≤ fuel → ∃ found : List Json,
      readItems fuel (dumpItems items ++ rest) = .ok (found, rest) ∧
        found.map Json.value = items
  pairs : ∀ (entries : List (String × PyValue)) (rest : Lexemes), distinctEntries entries = true →
    (dumpEntries entries).length ≤ fuel → ∃ found : List (String × Json),
      readPairs fuel (dumpEntries entries ++ rest) = .ok (found, rest) ∧
        found.map Json.entry = entries

theorem Json.ofList_eq {found : List Json} {items : List PyValue}
    (same : found.map Json.value = items) (distinct : (PyValue.list items).distinct = true) :
    Json.ofList found = ⟨.list items, distinct⟩ := by
  ext1
  exact congrArg PyValue.list same

theorem Json.ofPairs_eq {found : List (String × Json)} {entries : List (String × PyValue)}
    (same : found.map Json.entry = entries) (distinct : (PyValue.dict entries).distinct = true) :
    Json.ofPairs found = ⟨.dict entries, distinct⟩ := by
  have keys : (([] ++ entries).map Prod.fst).Nodup := (distinctEntries_iff.mp distinct).1
  ext1
  show PyValue.dict (Dict.update [] (found.map Json.entry)) = .dict entries
  rw [same, Dict.update_of_nodup keys, List.nil_append]

theorem readValue_succ {fuel : ℕ} (back : ReadsBack fuel) (value : PyValue)
    (distinct : value.distinct = true) (rest : Lexemes)
    (enough : (dump value).length ≤ fuel + 1) :
    readValue (fuel + 1) (dump value ++ rest) = .ok (⟨value, distinct⟩, rest) := by
  cases value with
  | none => rfl
  | bool value => rfl
  | int value => rfl
  | float value => rfl
  | str text => rfl
  | list items =>
    cases items with
    | nil => rfl
    | cons item others =>
      have parts := distinct
      simp only [dump, List.length_cons, List.length_append, PyValue.distinct, distinctItems,
        Bool.and_eq_true] at enough parts
      obtain ⟨found, read, same⟩ := back.items others rest parts.2 (by omega)
      have first := back.value item parts.1 (dumpItems others ++ rest) (by omega)
      rw [dump, List.cons_append, List.append_assoc, readValue_openList, first]
      show (readItems fuel (dumpItems others ++ rest) >>= _) = _
      rw [read]
      show Except.ok (Json.ofList (⟨item, _⟩ :: found), rest) = _
      rw [Json.ofList_eq (List.map_cons.trans (congrArg _ same)) distinct]
  | dict entries =>
    cases entries with
    | nil => rfl
    | cons entry others =>
      obtain ⟨key, value⟩ := entry
      have parts := distinct
      simp only [dump, List.length_cons, List.length_append, PyValue.distinct, distinctEntries,
        Bool.and_eq_true] at enough parts
      obtain ⟨found, read, same⟩ := back.pairs others rest parts.2.2 (by omega)
      have first := back.value value parts.2.1 (dumpEntries others ++ rest) (by omega)
      have all : List.map Json.entry ((key, ⟨value, parts.2.1⟩) :: found) =
          (key, value) :: others := congrArg (List.cons (key, value)) same
      rw [dump, List.cons_append, List.cons_append, List.cons_append, List.append_assoc, readValue,
        first]
      show (readPairs fuel (dumpEntries others ++ rest) >>= _) = _
      rw [read]
      show Except.ok (Json.ofPairs ((key, ⟨value, _⟩) :: found), rest) = _
      rw [Json.ofPairs_eq all distinct]

theorem readItems_succ {fuel : ℕ} (back : ReadsBack fuel) (items : List PyValue) (rest : Lexemes)
    (distinct : distinctItems items = true) (enough : (dumpItems items).length ≤ fuel + 1) :
    ∃ found : List Json, readItems (fuel + 1) (dumpItems items ++ rest) = .ok (found, rest) ∧
      found.map Json.value = items := by
  cases items with
  | nil => exact ⟨[], rfl, rfl⟩
  | cons item others =>
    simp only [dumpItems, List.length_cons, List.length_append, distinctItems,
      Bool.and_eq_true] at enough distinct
    obtain ⟨found, read, same⟩ := back.items others rest distinct.2 (by omega)
    have first := back.value item distinct.1 (dumpItems others ++ rest) (by omega)
    refine ⟨⟨item, distinct.1⟩ :: found, ?_, by rw [List.map_cons, same]⟩
    rw [dumpItems, List.cons_append, List.append_assoc, readItems, first]
    show (readItems fuel (dumpItems others ++ rest) >>= _) = _
    rw [read]
    rfl

theorem readPairs_succ {fuel : ℕ} (back : ReadsBack fuel) (entries : List (String × PyValue))
    (rest : Lexemes) (distinct : distinctEntries entries = true)
    (enough : (dumpEntries entries).length ≤ fuel + 1) :
    ∃ found : List (String × Json),
      readPairs (fuel + 1) (dumpEntries entries ++ rest) = .ok (found, rest) ∧
        found.map Json.entry = entries := by
  cases entries with
  | nil => exact ⟨[], rfl, rfl⟩
  | cons entry others =>
    obtain ⟨key, value⟩ := entry
    simp only [dumpEntries, List.length_cons, List.length_append, distinctEntries,
      Bool.and_eq_true] at enough distinct
    obtain ⟨found, read, same⟩ := back.pairs others rest distinct.2.2 (by omega)
    have first := back.value value distinct.2.1 (dumpEntries others ++ rest) (by omega)
    refine ⟨(key, ⟨value, distinct.2.1⟩) :: found, ?_, by rw [List.map_cons, same]; rfl⟩
    rw [dumpEntries, List.cons_append, List.cons_append, List.cons_append, List.append_assoc,
      readPairs, first]
    show (readPairs fuel (dumpEntries others ++ rest) >>= _) = _
    rw [read]
    rfl

/-- Everything that is written has a lexeme, so without fuel nothing has to be read. -/
theorem readsBack (fuel : ℕ) : ReadsBack fuel := by
  induction fuel with
  | zero =>
    refine ⟨fun value distinct rest enough => ?_, fun items rest distinct enough => ?_,
      fun entries rest distinct enough => ?_⟩
    · rcases value with _ | _ | _ | _ | _ | (_ | _) | (_ | _) <;> simp [dump] at enough
    · cases items <;> simp [dumpItems] at enough
    · cases entries <;> simp [dumpEntries] at enough
  | succ fuel back => exact ⟨readValue_succ back, readItems_succ back, readPairs_succ back⟩

/-- **The round trip**: a text that was written whole reads back as its value. -/
theorem loads_dump (value : Json) : loads (dump value.value) = .ok value := by
  have read := (readsBack (dump value.value).length).value value.value value.distinct [] le_rfl
  rw [List.append_nil] at read
  unfold loads
  rw [read]

end DbusEv
