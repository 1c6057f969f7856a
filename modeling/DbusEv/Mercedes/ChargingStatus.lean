/-
**The two readings of a charging status** (`dbus_ev/mercedes/client.py`, `ha_client.py`,
`charger.py`).

The snapshot maps the text of a status to the Venus enum and publishes its number, which the charger
maps to its own. The two agree on a value exactly if its text is that of its number.

* `LawfulText` — what is used of Python's `str`, `float`, `str.strip` and `str.lower`.
* `Agrees` — both projections show the number that is published.
* `agrees_iff` — they do for a value exactly if it is `Plain`: integers always, booleans never, a
  float unless it is a number of the table, a text if it is the digits of its number.

That an integer is read off its digits (`Int.repr_injective`) comes with the whole library only.
-/

import DbusEv.App
import DbusEv.Charger
import DbusEv.Python.Double
import Mathlib

set_option autoImplicit false

namespace DbusEv

/-! ### Python's texts -/

/-- The words of `_CHARGING_STATE_MAP`. -/
def chargingWords : List String := ["charging", "not charging", "discharging", "sustain", "blocked"]

/-- What Python's texts are. -/
class LawfulText [PyText] : Prop where
  str_text (text : String) : PyText.str (.str text) = text
  str_int (n : ℤ) : PyText.str (.int n) = n.repr
  /-- `True` and `False`. -/
  str_bool (flag : Bool) :
    PyText.lower (PyText.strip (PyText.str (.bool flag))) = if flag then "true" else "false"
  /-- The text of a float has a point, an exponent, or is `inf` or `nan`. -/
  str_float (x : PyFloat) : (∀ n : ℤ, PyText.strip (PyText.str (.float x)) ≠ n.repr) ∧
    PyText.lower (PyText.strip (PyText.str (.float x))) ∉ chargingWords
  strip_int (n : ℤ) : PyText.strip n.repr = n.repr
  /-- Nothing else is a digit in lower case. -/
  lower_int (text : String) (n : ℤ) : PyText.lower text = n.repr ↔ text = n.repr
  /-- `float` reads digits as their number, unless it takes exception at the blanks. -/
  float_int (text : String) (n : ℤ) (x : PyFloat) (digits : PyText.strip text = n.repr)
    (reads : PyText.float text = some x) : x = PyFloat.ofRat n
  /-- `float` reads no word. -/
  float_word (text : String) (word : PyText.lower (PyText.strip text) ∈ chargingWords) :
    PyText.float text = none

/-! ### The enum -/

/-- The entry of a number. -/
def enumEntry (n : ℚ) : Option ℕ :=
  if n.den = 1 then chargingStateMap.get n.num.repr else none

/-- The keys of the table. -/
theorem mem_chargingStateMap : ∀ item ∈ chargingStateMap,
    item.1 ∈ chargingWords ∨ ∃ k ∈ List.range 17, item.1 = (k : ℤ).repr := by
  decide

theorem enumEntry_intCast (n : ℤ) : enumEntry n = chargingStateMap.get n.repr := by
  simp [enumEntry]

/-- The text of an integer has digits, and perhaps a sign. -/
theorem repr_ne {text : String} (n : ℤ)
    (letter : ∃ c ∈ text.toList, ¬ (c.isDigit = true ∨ c = '-')) : n.repr ≠ text := by
  rintro rfl
  obtain ⟨c, member, letter⟩ := letter
  apply letter
  rw [Int.repr_eq_if] at member
  split at member
  · rw [Nat.toList_repr] at member
    exact Or.inl (Nat.isDigit_of_mem_toDigits (by decide) (by decide) member)
  · rw [String.toList_append, Nat.toList_repr] at member
    cases List.mem_append.mp member with
    | inl sign => exact Or.inr (List.mem_singleton.mp sign)
    | inr digit => exact Or.inl (Nat.isDigit_of_mem_toDigits (by decide) (by decide) digit)

/-- No integer is a word. -/
theorem repr_not_word (n : ℤ) : n.repr ∉ chargingWords := by
  intro word
  have letters : ∀ text ∈ chargingWords, ∃ c ∈ text.toList, ¬ (c.isDigit = true ∨ c = '-') := by
    intro text listed
    simp only [chargingWords, List.mem_cons, List.not_mem_nil, or_false] at listed
    rcases listed with rfl | rfl | rfl | rfl | rfl <;> simp
  exact repr_ne n (letters _ word) rfl

/-- A key of the table that is no word is a number of it. -/
theorem exists_of_get {n : ℤ} {entry : ℕ} (listed : chargingStateMap.get n.repr = some entry) :
    ∃ k ∈ List.range 17, n = k := by
  cases mem_chargingStateMap _ (Dict.mem_of_get listed) with
  | inl word => exact absurd word (repr_not_word n)
  | inr digits =>
    obtain ⟨k, member, same⟩ := digits
    exact ⟨k, member, Int.repr_injective same⟩

/-- The numbers of the table. -/
theorem exists_of_enumEntry {n : ℚ} {entry : ℕ} (listed : enumEntry n = some entry) :
    ∃ k : ℤ, n = k ∧ |k| ≤ 2 ^ 52 ∧ chargingStateMap.get k.repr = some entry := by
  unfold enumEntry at listed
  split at listed
  · rename_i whole
    obtain ⟨k, member, number⟩ := exists_of_get listed
    refine ⟨n.num, (Rat.coe_int_num_of_den_eq_one whole).symm, ?_, listed⟩
    rw [number, Nat.abs_cast]
    have below := List.mem_range.mp member
    omega
  · cases listed

/-- What the charger shows has an entry in the table. -/
theorem enumEntry_of_chargerStatus {n : ℚ} (unlisted : enumEntry n = none) :
    chargerStatus (.float (.finite n)) = none := by
  have known : ∀ k ∈ List.range 17, enumEntry ((k : ℤ) : ℚ) ≠ none := by
    intro k member
    rw [enumEntry_intCast]
    revert k
    decide
  have other : ∀ k : ℤ, 0 ≤ k → k < 17 → (PyValue.float (.finite n)).isNumber k = false := by
    intro k low high
    lift k to ℕ using low
    apply decide_eq_false
    intro same
    exact known k (List.mem_range.mpr (by omega)) (same ▸ unlisted)
  have none_ : ∀ list : List ℤ, (∀ k ∈ list, 0 ≤ k ∧ k < 17) →
      list.any (PyValue.float (.finite n)).isNumber = false := by
    intro list range
    rw [List.any_eq_false]
    intro k member
    rw [other k (range k member).1 (range k member).2]
    exact Bool.false_ne_true
  unfold chargerStatus
  rw [none_ _ (by decide), none_ [2, 8, 12, 15] (by decide), other 1 (by decide) (by decide),
    other 3 (by decide) (by decide)]
  rfl

/-- What the charger reads of a snapshot of this client, which has no `charger_status`. -/
def chargerFields (snapshot : Mercedes.Snapshot) : Dict PyValue :=
  [("mercedes_charging_status", .ofNumber snapshot.mercedesChargingStatus),
    ("at_site", .ofBool snapshot.atSite), ("power", .ofFloat snapshot.power)]

theorem snapshotStatus_chargerFields {snapshot : Mercedes.Snapshot}
    (away : snapshot.atSite = none) :
    snapshotStatus (chargerFields snapshot) =
      statusValue (chargerStatus (.ofNumber snapshot.mercedesChargingStatus)) := by
  unfold chargerFields
  rw [away]
  rfl

section Readings

variable [PyText]

theorem mapChargingState_eq (state : String) : mapChargingState state =
    (chargingStateMap.get (PyText.lower (PyText.strip state))).getD 255 := by
  unfold mapChargingState
  dsimp only
  generalize PyText.lower (PyText.strip state) = key
  by_cases unknown : key = "unavailable" ∨ key = "unknown"
  · rw [if_pos unknown]
    cases unknown with
    | inl same =>
      rw [same]
      rfl
    | inr same =>
      rw [same]
      rfl
  · rw [if_neg unknown]

/-- The text under which a value is looked up. -/
def keyOf (v : PyValue) : String := PyText.lower (PyText.strip (PyText.str v))

/-- Both projections show the number of a value. -/
structure Agrees (v : PyValue) (snapshot : Mercedes.Snapshot) : Prop where
  number : snapshot.mercedesChargingStatus = finite v
  known : ∀ n entry, finite v = some n → enumEntry n = some entry →
    snapshot.chargingState = some entry ∧ snapshotStatus (chargerFields snapshot) =
      statusValue (chargerStatus (.float (.finite n)))
  unknown : (finite v).bind enumEntry = none →
    (keyOf v ∉ chargingWords → snapshot.chargingState = some 255) ∧
      snapshotStatus (chargerFields snapshot) = .none

/-- A status as the vehicle may report it. -/
inductive Status
  | text (content : String)
  | int (n : ℤ)
  | float (x : PyFloat)
  | bool (flag : Bool)

def Status.value : Status → PyValue
  | .text content => .str content
  | .int n => .int n
  | .float x => .float x
  | .bool flag => .bool flag

/-- The text of a status is that of its number, as far as the table tells its entry from 255. -/
def Status.Plain : Status → Prop
  | .text content => ∀ (n : ℤ) (entry : ℕ), enumEntry n = some entry → entry ≠ 255 →
    (finite (.str content) = some (n : ℚ) ↔ PyText.strip content = n.repr)
  | .int _ => True
  | .float x => ∀ (n : ℤ) (entry : ℕ), enumEntry n = some entry → entry ≠ 255 → x ≠ .finite n
  | .bool _ => False

/-- What a value must satisfy for its key to be no other number's. -/
structure Readable (v : PyValue) : Prop where
  digits : ∀ n : ℤ, |n| ≤ 2 ^ 52 → keyOf v = n.repr → finite v = none ∨ finite v = some (n : ℚ)
  word : keyOf v ∈ chargingWords → finite v = none

/-- A key of the table is a word, which has no number, or a number, which is the value's if it has
one. -/
theorem Readable.found {v : PyValue} (readable : Readable v) {entry : ℕ}
    (found : chargingStateMap.get (keyOf v) = some entry) :
    (keyOf v ∈ chargingWords ∧ finite v = none) ∨ ∃ n : ℤ, keyOf v = n.repr ∧
      enumEntry n = some entry ∧ (finite v = none ∨ finite v = some (n : ℚ)) := by
  cases mem_chargingStateMap _ (Dict.mem_of_get found) with
  | inl word => exact Or.inl ⟨word, readable.word word⟩
  | inr digits =>
    obtain ⟨k, member, key⟩ := digits
    have key : keyOf v = (k : ℤ).repr := key
    have small : |(k : ℤ)| ≤ 2 ^ 52 := by
      rw [Nat.abs_cast]
      have below := List.mem_range.mp member
      omega
    refine Or.inr ⟨k, key, ?_, readable.digits k small key⟩
    rw [enumEntry_intCast, ← key, found]

/-- The projection of a status. -/
theorem snapshotOf_chargingState {car : Mercedes.Car} {status : Status}
    (valid : Mercedes.readingOf car "electric" "chargingstatus" = status.value) (vin : String)
    (capacity : Option ℚ) : (Mercedes.snapshotOf car vin capacity).chargingState =
      some ((chargingStateMap.get (keyOf status.value)).getD 255) := by
  unfold Mercedes.snapshotOf keyOf
  dsimp only
  rw [valid, ← mapChargingState_eq]
  cases status <;> rfl

/-- A key of the table whose value has a number is that number. -/
theorem Readable.number {v : PyValue} (readable : Readable v) {entry : ℕ} {q : ℚ}
    (found : chargingStateMap.get (keyOf v) = some entry) (reads : finite v = some q) :
    ∃ n : ℤ, keyOf v = n.repr ∧ enumEntry n = some entry ∧ q = n := by
  cases readable.found found with
  | inl word =>
    rw [word.2] at reads
    cases reads
  | inr digits =>
    obtain ⟨n, key, listed, none | number⟩ := digits
    · rw [none] at reads
      cases reads
    · rw [number, Option.some.injEq] at reads
      exact ⟨n, key, listed, reads.symm⟩

/-- For every number of the table that is not 255: the value is it exactly if the key is. -/
def Plain (v : PyValue) : Prop :=
  ∀ (n : ℤ) (entry : ℕ), enumEntry n = some entry → entry ≠ 255 →
    (finite v = some (n : ℚ) ↔ keyOf v = n.repr)

section Agreement

variable {v : PyValue} {snapshot : Mercedes.Snapshot}

theorem plain_of_agrees (readable : Readable v)
    (state : snapshot.chargingState = some ((chargingStateMap.get (keyOf v)).getD 255))
    (agrees : Agrees v snapshot) : Plain v := by
  intro n entry listed shown
  have get : chargingStateMap.get n.repr = some entry := by rw [← enumEntry_intCast, listed]
  constructor
  · intro reads
    have same := (agrees.known n entry reads listed).1
    rw [state, Option.some.injEq] at same
    cases found : chargingStateMap.get (keyOf v) with
    | none =>
      rw [found] at same
      exact absurd same.symm shown
    | some other =>
      obtain ⟨k, key, -, whole⟩ := readable.number found reads
      have same : n = k := by exact_mod_cast whole
      rw [key, same]
  · intro key
    obtain ⟨k, whole, small, -⟩ := exists_of_enumEntry listed
    have same : n = k := by exact_mod_cast whole
    cases readable.digits n (same ▸ small) key with
    | inr reads => exact reads
    | inl none =>
      have word : keyOf v ∉ chargingWords := key ▸ repr_not_word n
      have other := (agrees.unknown (by rw [none]; rfl)).1 word
      rw [state, key, get, Option.some.injEq] at other
      exact absurd other shown

/-- A number of the table is shown as its entry. -/
theorem Plain.known (plain : Plain v) (readable : Readable v) {n : ℚ} {entry : ℕ}
    (reads : finite v = some n) (listed : enumEntry n = some entry) :
    (chargingStateMap.get (keyOf v)).getD 255 = entry := by
  obtain ⟨k, rfl, small, get⟩ := exists_of_enumEntry listed
  by_cases shown : entry = 255
  · -- Any other key would be a word, or another number.
    cases found : chargingStateMap.get (keyOf v) with
    | none => exact shown.symm
    | some other =>
      obtain ⟨n, -, listed', whole⟩ := readable.number found reads
      rw [whole, listed'] at listed
      exact Option.some.inj listed
  · rw [(plain k entry listed shown).mp reads, get]
    rfl

/-- What is no number of the table and no word is shown as 255. -/
theorem Plain.unknown (plain : Plain v) (readable : Readable v)
    (unlisted : (finite v).bind enumEntry = none) (word : keyOf v ∉ chargingWords) :
    (chargingStateMap.get (keyOf v)).getD 255 = 255 := by
  cases found : chargingStateMap.get (keyOf v) with
  | none => rfl
  | some entry =>
    cases readable.found found with
    | inl listed => exact absurd listed.1 word
    | inr digits =>
      obtain ⟨n, key, listed, reads⟩ := digits
      by_contra shown
      have number := (plain n entry listed shown).mpr key
      rw [number, Option.bind_some, listed] at unlisted
      cases unlisted

/-- **The two readings agree** exactly if the key of a value is its number. -/
theorem agrees_iff_key (readable : Readable v)
    (number : snapshot.mercedesChargingStatus = finite v)
    (state : snapshot.chargingState = some ((chargingStateMap.get (keyOf v)).getD 255))
    (away : snapshot.atSite = none) : Agrees v snapshot ↔ Plain v := by
  have charger := snapshotStatus_chargerFields away
  rw [number] at charger
  constructor
  · exact plain_of_agrees readable state
  · intro plain
    refine ⟨number, fun n entry reads listed => ⟨?_, ?_⟩, fun unlisted => ⟨fun word => ?_, ?_⟩⟩
    · rw [state, plain.known readable reads listed]
    · rw [charger, reads]
      rfl
    · rw [state, plain.unknown readable unlisted word]
    · rw [charger]
      cases reads : finite v with
      | none => rfl
      | some n =>
        rw [reads] at unlisted
        show statusValue (chargerStatus (.float (.finite n))) = .none
        rw [enumEntry_of_chargerStatus unlisted]
        rfl

end Agreement

/-! ### Each kind of value -/

theorem finite_int {n : ℤ} (small : |n| ≤ 2 ^ 53) : finite (.int n) = some (n : ℚ) := by
  simp only [finite, toFloat, PyFloat.ofRat_intCast small]

theorem eq_of_finite_int {m n : ℤ} (small : |n| ≤ 2 ^ 52) (reads : finite (.int m) = some (n : ℚ)) :
    m = n := by
  unfold finite toFloat at reads
  dsimp only at reads
  cases rounds : PyFloat.ofRat m with
  | finite x =>
    rw [rounds] at reads
    exact PyFloat.eq_of_ofRat_intCast small (rounds.trans (congrArg _ (Option.some.inj reads)))
  | inf negative =>
    rw [rounds] at reads
    cases reads
  | nan =>
    rw [rounds] at reads
    cases reads

theorem finite_float_iff {x : PyFloat} {n : ℚ} : finite (.float x) = some n ↔ x = .finite n := by
  cases x <;> simp [finite, toFloat]

variable [LawfulText]

theorem keyOf_int (n : ℤ) : keyOf (.int n) = n.repr := by
  unfold keyOf
  rw [LawfulText.str_int, LawfulText.strip_int, (LawfulText.lower_int _ n).mpr rfl]

theorem keyOf_text_iff (content : String) (n : ℤ) :
    keyOf (.str content) = n.repr ↔ PyText.strip content = n.repr := by
  unfold keyOf
  rw [LawfulText.str_text, LawfulText.lower_int]

theorem keyOf_bool_ne (flag : Bool) (n : ℤ) : keyOf (.bool flag) ≠ n.repr := by
  unfold keyOf
  rw [LawfulText.str_bool]
  apply Ne.symm
  apply repr_ne
  cases flag <;> simp

theorem keyOf_float_ne (x : PyFloat) (n : ℤ) : keyOf (.float x) ≠ n.repr := by
  unfold keyOf
  rw [Ne, LawfulText.lower_int]
  exact (LawfulText.str_float x).1 n

/-- **Every status is readable.** -/
theorem readable (status : Status) : Readable status.value := by
  cases status with
  | text content =>
    refine ⟨fun n small key => ?_, fun word => ?_⟩
    · have digits := (keyOf_text_iff content n).mp key
      show finite (.str content) = none ∨ finite (.str content) = some (n : ℚ)
      unfold finite toFloat
      dsimp only
      cases reads : PyText.float content with
      | none => exact Or.inl rfl
      | some x =>
        rw [LawfulText.float_int content n x digits reads, PyFloat.ofRat_intCast (by omega)]
        exact Or.inr rfl
    · unfold keyOf at word
      rw [show Status.value (.text content) = .str content from rfl, LawfulText.str_text] at word
      simp only [Status.value, finite, toFloat, LawfulText.float_word content word]
  | int m =>
    refine ⟨fun n small key => Or.inr ?_, fun word => ?_⟩
    · have same : m = n := Int.repr_injective ((keyOf_int m).symm.trans key)
      rw [same]
      exact finite_int (by omega)
    · rw [show Status.value (.int m) = .int m from rfl, keyOf_int] at word
      exact absurd word (repr_not_word m)
  | float x =>
    refine ⟨fun n _ key => absurd key (keyOf_float_ne x n), fun word => ?_⟩
    exact absurd word (LawfulText.str_float x).2
  | bool flag =>
    refine ⟨fun n _ key => absurd key (keyOf_bool_ne flag n), fun word => ?_⟩
    unfold keyOf at word
    rw [show Status.value (.bool flag) = .bool flag from rfl, LawfulText.str_bool] at word
    cases flag <;> exact absurd word (by decide)

theorem plain_iff (status : Status) :
    (∀ (n : ℤ) (entry : ℕ), enumEntry n = some entry → entry ≠ 255 →
      (finite status.value = some (n : ℚ) ↔ keyOf status.value = n.repr)) ↔ status.Plain := by
  cases status with
  | text content =>
    unfold Status.value Status.Plain
    simp only [keyOf_text_iff]
  | int m =>
    refine iff_of_true (fun n entry listed _ => ?_) trivial
    obtain ⟨k, whole, small, -⟩ := exists_of_enumEntry listed
    have same : n = k := by exact_mod_cast whole
    show finite (.int m) = some (n : ℚ) ↔ keyOf (.int m) = n.repr
    rw [keyOf_int]
    constructor
    · intro reads
      rw [eq_of_finite_int (same ▸ small) reads]
    · intro key
      rw [Int.repr_injective key]
      exact finite_int (by rw [same]; omega)
  | float x =>
    unfold Status.value Status.Plain
    simp only [keyOf_float_ne, iff_false, finite_float_iff]
  | bool flag =>
    refine iff_of_false (fun plain => ?_) not_false
    cases flag with
    | false => exact keyOf_bool_ne false 0 ((plain 0 3 (by decide) (by decide)).mp rfl)
    | true => exact keyOf_bool_ne true 1 ((plain 1 244 (by decide) (by decide)).mp rfl)

/-- **The two projections of a valid status agree** exactly if the status is plain. -/
theorem agrees_iff (car : Mercedes.Car) (status : Status)
    (valid : Mercedes.readingOf car "electric" "chargingstatus" = status.value) (vin : String)
    (capacity : Option ℚ) :
    Agrees status.value (Mercedes.snapshotOf car vin capacity) ↔ status.Plain := by
  have number : (Mercedes.snapshotOf car vin capacity).mercedesChargingStatus =
      finite status.value := by
    unfold Mercedes.snapshotOf
    dsimp only
    rw [valid]
  rw [agrees_iff_key (readable status) number (snapshotOf_chargingState valid vin capacity) rfl]
  exact plain_iff status

end Readings

/-! ### A value of the vehicle -/

/-- Texts of the values below. -/
@[reducible] def digitText : PyText where
  float text := if text ∈ chargingWords then none else
    text.toInt?.map fun n => PyFloat.ofRat n
  int text := text.toInt?
  str value := match value with
    | .str text => text
    | .int n => n.repr
    | .bool flag => if flag then "True" else "False"
    | .float (.finite x) => x.num.repr ++ ".0"
    | _ => "nan"
  strip text := text
  lower text := if text = "True" then "true" else if text = "False" then "false" else text
  upper text := text

/-- The text of a float has a letter or a point. -/
theorem digitText_float (x : PyFloat) : letI := digitText
    ∃ c ∈ (PyText.str (.float x)).toList, ¬ (c.isDigit = true ∨ c = '-') := by
  cases x with
  | finite x =>
    refine ⟨'.', ?_, by decide⟩
    show '.' ∈ (x.num.repr ++ ".0").toList
    rw [String.toList_append]
    exact List.mem_append.mpr (Or.inr (by simp))
  | inf negative =>
    refine ⟨'n', ?_, by decide⟩
    show 'n' ∈ "nan".toList
    simp
  | nan =>
    refine ⟨'n', ?_, by decide⟩
    show 'n' ∈ "nan".toList
    simp

theorem digitText_lower {text : String} (n : ℤ) : letI := digitText
    PyText.lower text = n.repr ↔ text = n.repr := by
  have letter : ∀ word : String, word ∈ ["True", "False", "true", "false"] → word ≠ n.repr := by
    intro word listed
    apply Ne.symm
    apply repr_ne
    simp only [List.mem_cons, List.not_mem_nil, or_false] at listed
    rcases listed with rfl | rfl | rfl | rfl <;> simp
  show (if text = "True" then "true" else if text = "False" then "false" else text) = n.repr ↔ _
  by_cases yes : text = "True"
  · rw [if_pos yes, yes]
    exact iff_of_false (letter _ (by simp)) (letter _ (by simp))
  · by_cases no : text = "False"
    · rw [if_neg yes, if_pos no, no]
      exact iff_of_false (letter _ (by simp)) (letter _ (by simp))
    · rw [if_neg yes, if_neg no]

theorem digitText_word {text : String} : letI := digitText
    PyText.lower text ∈ chargingWords → text ∈ chargingWords := by
  show (if text = "True" then "true" else if text = "False" then "false" else text) ∈ _ → _
  split
  · exact fun word => absurd word (by decide)
  · split
    · exact fun word => absurd word (by decide)
    · exact id

theorem lawful_digitText : @LawfulText digitText :=
  letI := digitText
  { str_text := fun _ => rfl
    str_int := fun _ => rfl
    str_bool := by decide
    str_float := fun x => by
      refine ⟨fun n same => repr_ne n (digitText_float x) same.symm, fun word => ?_⟩
      have listed := digitText_word word
      cases x with
      | finite x =>
        have listed : x.num.repr ++ ".0" ∈ chargingWords := listed
        have pointed : '.' ∈ (x.num.repr ++ ".0").toList := by
          rw [String.toList_append]
          exact List.mem_append.mpr (Or.inr (by simp))
        have none : ∀ word ∈ chargingWords, '.' ∉ word.toList := by simp [chargingWords]
        exact none _ listed pointed
      | inf negative =>
        have listed : "nan" ∈ chargingWords := listed
        exact absurd listed (by decide)
      | nan =>
        have listed : "nan" ∈ chargingWords := listed
        exact absurd listed (by decide)
    strip_int := fun _ => rfl
    lower_int := fun _ n => digitText_lower n
    float_int := fun text n x digits reads => by
      have digits : text = n.repr := digits
      rw [digits] at reads
      have value : (if n.repr ∈ chargingWords then none else
        n.repr.toInt?.map fun n => PyFloat.ofRat n) = some x := reads
      rw [if_neg (repr_not_word n), Int.toInt?_repr] at value
      exact (Option.some.inj value).symm
    float_word := fun text word => if_pos (digitText_word word) }

/-- A car whose only attribute is the status. -/
def reporting (value : PyValue) : Mercedes.Car := fun group field =>
  if group = "electric" ∧ field = "chargingstatus" then some ⟨value, .str "VALID", none⟩ else none

theorem agrees_unplugged : letI := digitText
    Agrees (.int 3) (Mercedes.snapshotOf (reporting (.int 3)) "" none) :=
  (@agrees_iff digitText lawful_digitText (reporting (.int 3)) (.int 3) rfl "" none).mpr trivial

/-- **The status `3.0`**: the car is unplugged for the charger, and its state is unknown. -/
theorem unplugged_disagrees : letI := digitText
    ¬ Agrees (.float (.finite 3))
      (Mercedes.snapshotOf (reporting (.float (.finite 3))) "" none) := by
  intro agrees
  have shown := (@Agrees.known digitText _ _ agrees 3 0 rfl (by decide)).1
  revert shown
  decide

end DbusEv
