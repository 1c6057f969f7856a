/-
**Python values, as far as the client looks into them.**

* `PyFloat` — a double: a finite value, an infinity or NaN; `PyFloat.ofRat` rounds to nearest, ties
  to even.
* `PyValue` — what `json.loads` and `MessageToDict` return.
* `PyText` — the functions on text the client calls (`float`, `str`, `strip`, …).
* `finite` — `protocol.finite`: the one conversion every cloud number goes through.
-/

import Mathlib.Data.Rat.Floor
import Mathlib.Algebra.Order.Field.Rat

set_option autoImplicit false

namespace DbusEv

/-! ### Doubles -/

/-- A Python `float`. -/
inductive PyFloat
  | finite (value : ℚ)
  | inf (negative : Bool)
  | nan
  deriving DecidableEq, Repr

namespace PyFloat

/-- The exponent of the last bit of the double nearest to a positive rational. -/
def lastBit (q : ℚ) : ℤ :=
  let guess : ℤ := (Nat.log2 q.num.natAbs : ℤ) - Nat.log2 q.den
  let exponent := if (2 : ℚ) ^ guess ≤ q then guess else guess - 1
  max (exponent - 52) (-1074)

/-- Round to an integer, ties to even. -/
def roundEven (q : ℚ) : ℤ :=
  let down := ⌊q⌋
  if q - down < 1 / 2 then down
  else if 1 / 2 < q - down then down + 1
  else if down % 2 = 0 then down else down + 1

/-- The double nearest to a rational; an infinity from `2 ^ 1024` on. -/
def ofRat (q : ℚ) : PyFloat :=
  if q = 0 then .finite 0
  else
    let bit := lastBit |q|
    let rounded := (roundEven (|q| / (2 : ℚ) ^ bit) : ℚ) * (2 : ℚ) ^ bit
    if (2 : ℚ) ^ 1024 ≤ rounded then .inf (q < 0)
    else .finite (if q < 0 then -rounded else rounded)

/-- The product of two finite doubles. -/
def mul (x y : ℚ) : PyFloat := ofRat (x * y)

end PyFloat

/-! ### Dictionaries -/

/-- A `dict` with text keys, in insertion order. -/
abbrev Dict (α : Type) := List (String × α)

namespace Dict

variable {α : Type}

/-- `d.get(key)`. -/
def get (d : Dict α) (key : String) : Option α := d.lookup key

/-- `d[key] = value`: in place when the key is there, else at the end. -/
def set (d : Dict α) (key : String) (value : α) : Dict α :=
  match d with
  | [] => [(key, value)]
  | (k, v) :: rest => if key = k then (k, value) :: rest else (k, v) :: Dict.set rest key value

@[simp] theorem get_nil (key : String) : get ([] : Dict α) key = none := rfl

theorem get_cons (k : String) (v : α) (rest : Dict α) (key : String) :
    get ((k, v) :: rest) key = if key = k then some v else get rest key := by
  unfold get
  by_cases same : key = k
  · subst same
    simp
  · have differs : (key == k) = false := by simpa using same
    simp [List.lookup_cons, differs, same]

@[simp] theorem get_set_self (d : Dict α) (key : String) (value : α) :
    get (set d key value) key = some value := by
  induction d with
  | nil => simp [set, get_cons]
  | cons head rest ih =>
    obtain ⟨k, v⟩ := head
    by_cases same : key = k
    · simp [set, get_cons, same]
    · simp [set, get_cons, same, ih]

@[simp] theorem get_set_ne (d : Dict α) {key other : String} (value : α) (ne : other ≠ key) :
    get (set d key value) other = get d other := by
  induction d with
  | nil => simp [set, get_cons, ne]
  | cons head rest ih =>
    obtain ⟨k, v⟩ := head
    by_cases same : key = k
    · subst same
      simp [set, get_cons, ne]
    · by_cases here : other = k
      · simp [set, get_cons, same, here]
      · simp [set, get_cons, same, here, ih]

theorem mem_of_get {d : Dict α} {key : String} {value : α} (found : get d key = some value) :
    (key, value) ∈ d := by
  induction d with
  | nil => cases found
  | cons head rest ih =>
    obtain ⟨k, v⟩ := head
    rw [get_cons] at found
    split at found
    · rename_i same
      rw [same, Option.some_inj.mp found]
      exact List.mem_cons_self
    · exact List.mem_cons_of_mem _ (ih found)

/-- Assignment to a dictionary changes the entry of its key and keeps the others. -/
theorem mem_set {d : Dict α} {key : String} {value : α} {item : String × α}
    (keys : (d.map Prod.fst).Nodup) (member : item ∈ set d key value) :
    item = (key, value) ∨ (item ∈ d ∧ item.1 ≠ key) := by
  induction d with
  | nil => exact Or.inl (List.mem_singleton.mp member)
  | cons head rest ih =>
    obtain ⟨k, v⟩ := head
    rw [List.map_cons, List.nodup_cons] at keys
    unfold set at member
    split at member
    · rename_i same
      rcases List.mem_cons.mp member with rfl | later
      · exact Or.inl (by rw [same])
      · refine Or.inr ⟨List.mem_cons_of_mem _ later, fun equal => keys.1 ?_⟩
        exact List.mem_map.mpr ⟨item, later, equal.trans same⟩
    · rename_i differs
      rcases List.mem_cons.mp member with rfl | later
      · exact Or.inr ⟨List.mem_cons_self, fun equal => differs equal.symm⟩
      · exact (ih keys.2 later).imp id fun both => ⟨List.mem_cons_of_mem _ both.1, both.2⟩

theorem nodup_set {d : Dict α} (keys : (d.map Prod.fst).Nodup) (key : String) (value : α) :
    ((set d key value).map Prod.fst).Nodup := by
  induction d with
  | nil => exact List.nodup_cons.mpr ⟨List.not_mem_nil, List.nodup_nil⟩
  | cons head rest ih =>
    obtain ⟨k, v⟩ := head
    have parts := keys
    rw [List.map_cons, List.nodup_cons] at parts
    unfold set
    split
    · exact keys
    · rename_i differs
      rw [List.map_cons, List.nodup_cons]
      refine ⟨fun member => ?_, ih parts.2⟩
      obtain ⟨item, inside, same⟩ := List.mem_map.mp member
      rcases mem_set parts.2 inside with rfl | ⟨before, -⟩
      · exact differs same
      · exact parts.1 (same ▸ List.mem_map_of_mem before)

/-- What holds of the values of a dictionary and of a new one holds after the assignment. -/
theorem forall_set {P : α → Prop} {d : Dict α} {value : α} (key : String)
    (values : ∀ item ∈ d, P item.2) (holds : P value) : ∀ item ∈ set d key value, P item.2 := by
  induction d with
  | nil => exact List.forall_mem_singleton.mpr holds
  | cons head rest ih =>
    obtain ⟨k, v⟩ := head
    obtain ⟨first, others⟩ := List.forall_mem_cons.mp values
    unfold set
    split
    · exact List.forall_mem_cons.mpr ⟨holds, others⟩
    · exact List.forall_mem_cons.mpr ⟨first, ih others⟩

/-- `dict(d, **changes)`. -/
def update (d changes : Dict α) : Dict α := changes.foldl (fun d item => d.set item.1 item.2) d

/-- Assignment to a key that is there keeps the keys. -/
theorem keys_set {d : Dict α} {key : String} (value : α) (there : key ∈ d.map Prod.fst) :
    (set d key value).map Prod.fst = d.map Prod.fst := by
  induction d with
  | nil => cases there
  | cons head rest ih =>
    obtain ⟨k, v⟩ := head
    unfold set
    by_cases same : key = k
    · rw [if_pos same]
      rfl
    · rw [if_neg same, List.map_cons, List.map_cons,
        ih ((List.mem_cons.mp there).resolve_left same)]

theorem keys_update {d changes : Dict α} (there : ∀ item ∈ changes, item.1 ∈ d.map Prod.fst) :
    (update d changes).map Prod.fst = d.map Prod.fst := by
  induction changes generalizing d with
  | nil => rfl
  | cons item rest ih =>
    obtain ⟨first, others⟩ := List.forall_mem_cons.mp there
    have kept := keys_set item.2 first
    rw [← kept]
    exact ih fun later member => by rw [kept]; exact others later member

/-- A key that is not changed keeps its value. -/
theorem get_update_ne {d changes : Dict α} {key : String}
    (other : ∀ item ∈ changes, item.1 ≠ key) : get (update d changes) key = get d key := by
  induction changes generalizing d with
  | nil => rfl
  | cons item rest ih =>
    obtain ⟨first, others⟩ := List.forall_mem_cons.mp other
    exact (ih others).trans (get_set_ne d item.2 (Ne.symm first))

/-- A change is there afterwards, when every key is changed once. -/
theorem get_update {d changes : Dict α} (once : (changes.map Prod.fst).Nodup)
    {item : String × α} (member : item ∈ changes) :
    get (update d changes) item.1 = some item.2 := by
  induction changes generalizing d with
  | nil => cases member
  | cons first rest ih =>
    rw [List.map_cons, List.nodup_cons] at once
    rcases List.mem_cons.mp member with rfl | later
    · have last : get (update (d.set item.1 item.2) rest) item.1 =
          get (d.set item.1 item.2) item.1 :=
        get_update_ne fun other inside same =>
          once.1 (List.mem_map.mpr ⟨other, inside, same⟩)
      exact last.trans (get_set_self d item.1 item.2)
    · exact ih once.2 later

end Dict

/-! ### Exceptions -/

/-- The class of an ordinary exception, as far as a handler tells it apart. -/
inductive PyError
  | os
  | runtime
  | value
  | subprocess
  | type
  | overflow
  | other
  deriving DecidableEq, Repr

/-! ### Values -/

/-- A value from `json.loads` or `MessageToDict`. -/
inductive PyValue
  | none
  | bool (value : Bool)
  | int (value : ℤ)
  | float (value : PyFloat)
  | str (text : String)
  | list (items : List PyValue)
  | dict (items : List (String × PyValue))

namespace PyValue

/-- `bool(value)`. -/
def truthy : PyValue → Bool
  | .none => false
  | .bool value => value
  | .int value => value ≠ 0
  | .float value => value ≠ .finite 0
  | .str text => text ≠ ""
  | .list items => !items.isEmpty
  | .dict items => !items.isEmpty

end PyValue

/-- `now >= value`, for a clock reading: only a number compares with it. -/
def PyValue.reachedAt (now : ℚ) : PyValue → Except PyError Bool
  | .bool value => .ok (decide ((if value then 1 else 0) ≤ now))
  | .int value => .ok (decide ((value : ℚ) ≤ now))
  | .float (.finite value) => .ok (decide (value ≤ now))
  | .float (.inf negative) => .ok negative
  | .float .nan => .ok false
  | _ => .error .type

/-- The functions on text the client calls; `float` and `int` are undefined where Python's raise,
and `str` is the text of any value. -/
class PyText where
  float : String → Option PyFloat
  int : String → Option ℤ
  str : PyValue → String
  strip : String → String
  lower : String → String
  upper : String → String

/-- Text functions for values whose numbers are numbers. -/
@[reducible] def plainText : PyText where
  float _ := none
  int _ := none
  str _ := ""
  strip text := text
  lower text := text
  upper text := text

variable [PyText]

/-- `float(value)`, undefined where it raises `TypeError`, `ValueError` or `OverflowError`. -/
def toFloat : PyValue → Option PyFloat
  | .bool value => some (.finite (if value then 1 else 0))
  | .int value =>
    match PyFloat.ofRat value with
    | .finite rounded => some (.finite rounded)
    | _ => none
  | .float value => some value
  | .str text => PyText.float text
  | _ => none

/-- `float(value)`, with the exception it raises. -/
def floatOf : PyValue → Except PyError PyFloat
  | .int value =>
    match PyFloat.ofRat value with
    | .finite rounded => .ok (.finite rounded)
    | _ => .error .overflow
  | .str text =>
    match PyText.float text with
    | some number => .ok number
    | none => .error .value
  | .bool value => .ok (.finite (if value then 1 else 0))
  | .float value => .ok value
  | _ => .error .type

/-- `int(value)`. -/
def toInt : PyValue → Except PyError ℤ
  | .bool value => .ok (if value then 1 else 0)
  | .int value => .ok value
  | .float (.finite value) => .ok (value.num.tdiv value.den)
  | .float (.inf _) => .error .overflow
  | .float .nan => .error .value
  | .str text =>
    match PyText.int text with
    | some value => .ok value
    | none => .error .value
  | _ => .error .type

/-- `protocol.finite`: the finite number a value converts to, or `None`. -/
def finite (value : PyValue) : Option ℚ :=
  match toFloat value with
  | some (.finite result) => some result
  | _ => none

end DbusEv
