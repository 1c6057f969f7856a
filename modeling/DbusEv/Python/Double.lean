/-
**Rounding to a double.**

* `lastBit_eq` — the exponent of the last bit, by the integer logarithm.
* `ofRat_exact` — a value of 53 bits within the range is its own double, so rounding twice is
  rounding once (`ofRat_ofRat`).
* `half_le_of_ofRat` — a double is at least half of what it stands for, so from `2 ^ 1025` on there
  is none (`ofRat_ne_finite`); below `2 ^ 64` there is one (`exists_ofRat`).
* `intCast_le_abs_ofRat`, `abs_ofRat_le_intCast` — rounding does not cross an integer of 53 bits.
* `Float64` — the doubles, as a type.
-/

import DbusEv.Python.Value
import Mathlib.Data.Int.Log
import Mathlib.Data.Nat.Log
import Mathlib.Algebra.Order.Field.Power
import Mathlib.Tactic.FieldSimp
import Mathlib.Tactic.Linarith
import Mathlib.Tactic.NormNum
import Mathlib.Tactic.Positivity
import Mathlib.Tactic.Ring

set_option autoImplicit false

namespace DbusEv.PyFloat

/-! ### Rounding to an integer -/

theorem roundEven_intCast (n : ℤ) : roundEven n = n := by
  simp [roundEven]

/-- The error of rounding to an integer is a half at most. -/
theorem abs_roundEven_sub (q : ℚ) : |(roundEven q : ℚ) - q| ≤ 1 / 2 := by
  have low := Int.floor_le q
  have high := Int.lt_floor_add_one q
  unfold roundEven
  rw [abs_le]
  dsimp only
  split
  · constructor <;> linarith
  · split
    · push_cast
      constructor <;> linarith
    · split
      · constructor <;> linarith
      · push_cast
        constructor <;> linarith

theorem roundEven_nonneg {q : ℚ} (nonneg : 0 ≤ q) : 0 ≤ roundEven q := by
  have floor := Int.floor_nonneg.mpr nonneg
  unfold roundEven
  dsimp only
  split
  · exact floor
  · split
    · omega
    · split <;> omega

theorem le_roundEven {n : ℤ} {q : ℚ} (le : (n : ℚ) ≤ q) : n ≤ roundEven q := by
  have floor : n ≤ ⌊q⌋ := Int.le_floor.mpr le
  unfold roundEven
  dsimp only
  split
  · exact floor
  · split
    · omega
    · split <;> omega

theorem roundEven_le {n : ℤ} {q : ℚ} (le : q ≤ n) : roundEven q ≤ n := by
  have error := (abs_le.mp (abs_roundEven_sub q)).2
  have low : ⌊q⌋ ≤ n := Int.floor_le_iff.mpr (lt_of_le_of_lt le (by linarith))
  by_cases whole : ⌊q⌋ = n
  · have same : q = n := le_antisymm le (whole ▸ Int.floor_le q)
    rw [same, roundEven_intCast]
  · -- Rounding up ends at the next integer.
    have next : (⌊q⌋ : ℚ) + 1 ≤ n := by exact_mod_cast (by omega : ⌊q⌋ + 1 ≤ n)
    have below := Int.lt_floor_add_one q
    have close : (roundEven q : ℚ) < n + 1 := by linarith
    have cast : roundEven q < n + 1 := by exact_mod_cast close
    omega

theorem half_le_roundEven {q : ℚ} (big : 1 ≤ q) : q / 2 ≤ roundEven q := by
  have error := (abs_le.mp (abs_roundEven_sub q)).1
  linarith

/-! ### The last bit -/

/-- The exponent of the last bit is that of the first, 52 bits on, or the least there is. -/
theorem lastBit_eq {q : ℚ} (pos : 0 < q) : lastBit q = max (Int.log 2 q - 52) (-1074) := by
  have numerator : q.num.natAbs ≠ 0 := by
    rw [Ne, Int.natAbs_eq_zero]
    exact (Rat.num_pos.mpr pos).ne'
  have value : q = (q.num.natAbs : ℚ) / q.den := by
    have abs : (q.num.natAbs : ℤ) = q.num := Int.natAbs_of_nonneg (Rat.num_nonneg.mpr pos.le)
    have cast : ((q.num.natAbs : ℤ) : ℚ) = q.num := by rw [abs]
    rw [Int.cast_natCast] at cast
    rw [cast]
    exact (Rat.num_div_den q).symm
  set n := q.num.natAbs
  set d := q.den with den
  have dpos : d ≠ 0 := q.den_nz
  have nlow : (2 : ℚ) ^ (Nat.log2 n : ℤ) ≤ n := by
    rw [zpow_natCast]
    exact_mod_cast Nat.log2_self_le numerator
  have nhigh : (n : ℚ) < (2 : ℚ) ^ (Nat.log2 n + 1 : ℤ) := by
    have high : (n : ℚ) < (2 : ℚ) ^ (Nat.log2 n + 1) := by exact_mod_cast Nat.lt_log2_self
    exact_mod_cast high
  have dlow : (2 : ℚ) ^ (Nat.log2 d : ℤ) ≤ d := by
    rw [zpow_natCast]
    exact_mod_cast Nat.log2_self_le dpos
  have dhigh : (d : ℚ) < (2 : ℚ) ^ (Nat.log2 d + 1 : ℤ) := by
    have high : (d : ℚ) < (2 : ℚ) ^ (Nat.log2 d + 1) := by exact_mod_cast Nat.lt_log2_self
    exact_mod_cast high
  have dq : (0 : ℚ) < d := by exact_mod_cast Nat.pos_of_ne_zero dpos
  have two : ∀ e : ℤ, (0 : ℚ) < 2 ^ e := fun e => zpow_pos two_pos e
  set guess : ℤ := (Nat.log2 n : ℤ) - Nat.log2 d with guessed
  have below : (2 : ℚ) ^ (guess - 1) ≤ q := by
    rw [value, le_div_iff₀ dq]
    calc (2 : ℚ) ^ (guess - 1) * d ≤ 2 ^ (guess - 1) * 2 ^ (Nat.log2 d + 1 : ℤ) :=
          mul_le_mul_of_nonneg_left dhigh.le (two _).le
      _ = 2 ^ (Nat.log2 n : ℤ) := by
          rw [← zpow_add₀ two_ne_zero, guessed]
          congr 1
          ring
      _ ≤ n := nlow
  have above : q < (2 : ℚ) ^ (guess + 1) := by
    rw [value, div_lt_iff₀ dq]
    calc (n : ℚ) < 2 ^ (Nat.log2 n + 1 : ℤ) := nhigh
      _ = 2 ^ (guess + 1) * 2 ^ (Nat.log2 d : ℤ) := by
          rw [← zpow_add₀ two_ne_zero, guessed]
          congr 1
          ring
      _ ≤ 2 ^ (guess + 1) * d := mul_le_mul_of_nonneg_left dlow (two _).le
  have exponent : (if (2 : ℚ) ^ guess ≤ q then guess else guess - 1) = Int.log 2 q := by
    have nat : ((2 : ℕ) : ℚ) = 2 := by norm_num
    have log_le : ∀ e : ℤ, (2 : ℚ) ^ e ≤ q → e ≤ Int.log 2 q := by
      intro e le
      exact (Int.zpow_le_iff_le_log one_lt_two pos).mp (by rw [nat]; exact le)
    have log_lt : ∀ e : ℤ, q < (2 : ℚ) ^ e → Int.log 2 q < e := by
      intro e lt
      exact (Int.lt_zpow_iff_log_lt one_lt_two pos).mp (by rw [nat]; exact lt)
    split
    · rename_i le
      have := log_le guess le
      have := log_lt (guess + 1) above
      omega
    · rename_i lt
      have := log_le (guess - 1) below
      have := log_lt guess (not_le.mp lt)
      omega
  unfold lastBit
  show max ((if (2 : ℚ) ^ guess ≤ q then guess else guess - 1) - 52) (-1074) = _
  rw [exponent]

/-! ### What rounding yields -/

/-- The multiple of the last bit that is nearest to the absolute value. -/
def multiple (q : ℚ) : ℤ := roundEven (|q| / (2 : ℚ) ^ lastBit |q|)

/-- A value is in front of its last bit 53 bits long at most, and at least 52 unless it is
subnormal. -/
theorem div_lastBit_lt {q : ℚ} (pos : 0 < q) : q / (2 : ℚ) ^ lastBit q < 2 ^ 53 := by
  have two : (0 : ℚ) < 2 ^ lastBit q := zpow_pos two_pos _
  have below : q < (2 : ℚ) ^ (Int.log 2 q + 1) := by
    exact_mod_cast Int.lt_zpow_succ_log_self one_lt_two q
  have long : Int.log 2 q + 1 ≤ 53 + lastBit q := by
    rw [lastBit_eq pos]
    omega
  rw [div_lt_iff₀ two]
  calc q < (2 : ℚ) ^ (Int.log 2 q + 1) := below
    _ ≤ 2 ^ (53 + lastBit q) := zpow_le_zpow_right₀ one_le_two long
    _ = 2 ^ 53 * 2 ^ lastBit q := by rw [zpow_add₀ two_ne_zero]; norm_cast

theorem multiple_nonneg (q : ℚ) : 0 ≤ multiple q :=
  roundEven_nonneg (div_nonneg (abs_nonneg q) (zpow_nonneg zero_le_two _))

theorem multiple_le {q : ℚ} (nonzero : q ≠ 0) : multiple q ≤ 2 ^ 53 := by
  have bound := div_lastBit_lt (abs_pos.mpr nonzero)
  have error := (abs_le.mp (abs_roundEven_sub (|q| / (2 : ℚ) ^ lastBit |q|))).2
  have close : ((multiple q : ℤ) : ℚ) < 2 ^ 53 + 1 := by
    unfold multiple
    linarith
  have whole : multiple q < 2 ^ 53 + 1 := by exact_mod_cast close
  omega

theorem ofRat_of_ne {q : ℚ} (nonzero : q ≠ 0) :
    ofRat q = if (2 : ℚ) ^ 1024 ≤ multiple q * (2 : ℚ) ^ lastBit |q| then .inf (q < 0)
      else .finite (if q < 0 then -(multiple q * (2 : ℚ) ^ lastBit |q|)
        else multiple q * (2 : ℚ) ^ lastBit |q|) := by
  unfold ofRat
  rw [if_neg nonzero]
  rfl

/-- A value of 53 bits is a multiple of its last bit. -/
theorem exists_multiple {q : ℚ} (m b : ℤ) (value : q = m * (2 : ℚ) ^ b) (pos : 0 < q)
    (short : m ≤ 2 ^ 53) (low : -1074 ≤ b) : ∃ k : ℤ, q / (2 : ℚ) ^ lastBit q = k := by
  have two : (0 : ℚ) < 2 ^ b := zpow_pos two_pos b
  have bit := lastBit_eq pos
  by_cases long : m = 2 ^ 53
  · have power : q = (2 : ℚ) ^ (53 + b) := by
      rw [value, long, zpow_add₀ two_ne_zero]
      norm_cast
    have log : Int.log 2 q = 53 + b := by
      have cast : ((2 : ℕ) : ℚ) ^ (53 + b) = q := by rw [power]; norm_cast
      rw [← cast, Int.log_zpow one_lt_two]
    have last : lastBit q = b + 1 := by
      rw [bit, log]
      omega
    refine ⟨2 ^ 52, ?_⟩
    rw [last, power, ← zpow_sub₀ two_ne_zero, show 53 + b - (b + 1) = 52 by ring]
    norm_num
  · have less : m < 2 ^ 53 := lt_of_le_of_ne short long
    have bound : (m : ℚ) < 2 ^ 53 := by exact_mod_cast less
    have below : q < (2 : ℚ) ^ (53 + b) := by
      rw [value, zpow_add₀ two_ne_zero]
      exact_mod_cast mul_lt_mul_of_pos_right bound two
    have cast : q < ((2 : ℕ) : ℚ) ^ (53 + b) := by exact_mod_cast below
    have log : Int.log 2 q < 53 + b := (Int.lt_zpow_iff_log_lt one_lt_two pos).mp cast
    have last : lastBit q ≤ b := by
      rw [bit]
      omega
    obtain ⟨shift, moved⟩ := Int.le.dest last
    refine ⟨m * 2 ^ shift, ?_⟩
    have shape : b - lastBit q = shift := by omega
    calc q / (2 : ℚ) ^ lastBit q = m * (2 ^ b / 2 ^ lastBit q) := by
          rw [← mul_div_assoc, ← value]
      _ = m * 2 ^ shift := by rw [← zpow_sub₀ two_ne_zero, shape, zpow_natCast]
      _ = (m * 2 ^ shift : ℤ) := by push_cast; rfl

/-- **A value of 53 bits within the range is its own double.** -/
theorem ofRat_exact {q : ℚ} (m b : ℤ) (value : q = m * (2 : ℚ) ^ b) (short : |m| ≤ 2 ^ 53)
    (low : -1074 ≤ b) (inRange : |q| < 2 ^ 1024) : ofRat q = .finite q := by
  by_cases zero : q = 0
  · rw [zero]
    rfl
  · have two : (0 : ℚ) < 2 ^ b := zpow_pos two_pos b
    have bit : (0 : ℚ) < 2 ^ lastBit |q| := zpow_pos two_pos _
    have absolute : |q| = (|m| : ℤ) * (2 : ℚ) ^ b := by
      rw [value, abs_mul, abs_of_pos two, Int.cast_abs]
    obtain ⟨k, whole⟩ := exists_multiple |m| b absolute (abs_pos.mpr zero) short low
    have same : (multiple q : ℚ) * (2 : ℚ) ^ lastBit |q| = |q| := by
      unfold multiple
      rw [whole, roundEven_intCast, ← whole, div_mul_cancel₀ _ bit.ne']
    rw [ofRat_of_ne zero, same, if_neg (not_le.mpr inRange)]
    congr 1
    by_cases negative : q < 0
    · rw [if_pos negative, abs_of_neg negative, neg_neg]
    · rw [if_neg negative, abs_of_nonneg (not_lt.mp negative)]

/-- An integer of 53 bits is its own double. -/
theorem ofRat_intCast {n : ℤ} (short : |n| ≤ 2 ^ 53) : ofRat n = .finite n := by
  have cast : |(n : ℚ)| ≤ 2 ^ 53 := by exact_mod_cast short
  refine ofRat_exact n 0 (by rw [zpow_zero, mul_one]) short (by norm_num) ?_
  calc |(n : ℚ)| ≤ 2 ^ 53 := cast
    _ < 2 ^ 1024 := pow_lt_pow_right₀ one_lt_two (by norm_num)

/-- What a finite double is made of. -/
theorem multiple_of_ofRat {q x : ℚ} (nonzero : q ≠ 0) (rounds : ofRat q = .finite x) :
    |x| = multiple q * (2 : ℚ) ^ lastBit |q| ∧ |x| < 2 ^ 1024 ∧
      x = (if q < 0 then -multiple q else multiple q : ℤ) * (2 : ℚ) ^ lastBit |q| := by
  have nonneg : (0 : ℚ) ≤ multiple q * (2 : ℚ) ^ lastBit |q| :=
    mul_nonneg (by exact_mod_cast multiple_nonneg q) (zpow_nonneg zero_le_two _)
  rw [ofRat_of_ne nonzero] at rounds
  split at rounds
  · cases rounds
  · rename_i small
    have value := finite.inj rounds
    have absolute : |x| = multiple q * (2 : ℚ) ^ lastBit |q| := by
      rw [← value]
      split
      · rw [abs_neg, abs_of_nonneg nonneg]
      · rw [abs_of_nonneg nonneg]
    refine ⟨absolute, absolute ▸ not_le.mp small, ?_⟩
    rw [← value]
    split <;> push_cast <;> ring

/-- **Rounding twice is rounding once.** -/
theorem ofRat_ofRat {q x : ℚ} (rounds : ofRat q = .finite x) : ofRat x = .finite x := by
  by_cases zero : q = 0
  · rw [zero] at rounds
    have none : (0 : ℚ) = x := finite.inj rounds
    rw [← none]
    rfl
  · obtain ⟨-, inRange, value⟩ := multiple_of_ofRat zero rounds
    have short := multiple_le zero
    have nonneg := multiple_nonneg q
    refine ofRat_exact _ _ value ?_ ?_ inRange
    · rw [abs_le]
      split <;> constructor <;> omega
    · rw [lastBit_eq (abs_pos.mpr zero)]
      exact le_max_right _ _

/-- No double of a value from one on is less than half of it. -/
theorem half_le_of_ofRat {q x : ℚ} (big : 1 ≤ |q|) (rounds : ofRat q = .finite x) :
    |q| / 2 ≤ |x| := by
  have pos : 0 < |q| := lt_of_lt_of_le one_pos big
  have zero : q ≠ 0 := abs_pos.mp pos
  have bit : (0 : ℚ) < 2 ^ lastBit |q| := zpow_pos two_pos _
  have log : 0 ≤ Int.log 2 |q| :=
    (Int.zpow_le_iff_le_log one_lt_two pos).mp (by rw [zpow_zero]; exact big)
  have above : (2 : ℚ) ^ lastBit |q| ≤ |q| := by
    have first : ((2 : ℕ) : ℚ) ^ Int.log 2 |q| ≤ |q| := Int.zpow_log_le_self one_lt_two pos
    have least : lastBit |q| ≤ Int.log 2 |q| := by
      rw [lastBit_eq pos]
      omega
    exact (zpow_le_zpow_right₀ one_le_two least).trans (by exact_mod_cast first)
  have halved := half_le_roundEven ((one_le_div₀ bit).mpr above)
  rw [(multiple_of_ofRat zero rounds).1]
  calc |q| / 2 = |q| / 2 ^ lastBit |q| / 2 * 2 ^ lastBit |q| := by
        field_simp
    _ ≤ multiple q * 2 ^ lastBit |q| := mul_le_mul_of_nonneg_right halved bit.le

/-- An integer that rounds to one of 52 bits is that integer. -/
theorem eq_of_ofRat_intCast {n m : ℤ} (short : |m| ≤ 2 ^ 52) (rounds : ofRat n = .finite m) :
    n = m := by
  by_cases exact_ : |n| ≤ 2 ^ 53
  · have same : (n : ℚ) = m := finite.inj ((ofRat_intCast exact_).symm.trans rounds)
    exact_mod_cast same
  · have large : 2 ^ 53 < |n| := not_le.mp exact_
    have big : 1 ≤ |(n : ℚ)| := by exact_mod_cast (by omega : 1 ≤ |n|)
    have half := half_le_of_ofRat big rounds
    have cast : (2 : ℚ) ^ 53 < |(n : ℚ)| := by exact_mod_cast large
    have least : |(m : ℚ)| ≤ 2 ^ 52 := by exact_mod_cast short
    linarith

/-- From `2 ^ 1025` on nothing rounds to a double. -/
theorem ofRat_ne_finite {q : ℚ} (huge : 2 ^ 1025 ≤ |q|) (x : ℚ) : ofRat q ≠ .finite x := by
  intro rounds
  have big : 1 ≤ |q| := le_trans (one_le_pow₀ one_le_two) huge
  have zero : q ≠ 0 := abs_pos.mp (lt_of_lt_of_le one_pos big)
  have half := half_le_of_ofRat big rounds
  obtain ⟨-, below, -⟩ := multiple_of_ofRat zero rounds
  have least : (2 : ℚ) ^ 1024 ≤ |q| / 2 := by
    rw [le_div_iff₀ two_pos, ← pow_succ]
    exact huge
  exact absurd (least.trans half) (not_le.mpr below)

/-- Below `2 ^ 64` every value has its double. -/
theorem exists_ofRat {q : ℚ} (small : |q| < 2 ^ 64) : ∃ x, ofRat q = .finite x := by
  by_cases zero : q = 0
  · exact ⟨0, by rw [zero]; rfl⟩
  · have pos : 0 < |q| := abs_pos.mpr zero
    have log : Int.log 2 |q| < 64 :=
      (Int.lt_zpow_iff_log_lt one_lt_two pos).mp (by exact_mod_cast small)
    have bit : lastBit |q| ≤ 12 := by
      rw [lastBit_eq pos]
      omega
    have short : (multiple q : ℚ) ≤ 2 ^ 53 := by exact_mod_cast multiple_le zero
    have inRange : (multiple q : ℚ) * (2 : ℚ) ^ lastBit |q| < 2 ^ 1024 := by
      calc (multiple q : ℚ) * (2 : ℚ) ^ lastBit |q| ≤ 2 ^ 53 * (2 : ℚ) ^ (12 : ℤ) :=
            mul_le_mul short (zpow_le_zpow_right₀ one_le_two bit) (zpow_nonneg zero_le_two _)
              (by positivity)
        _ = 2 ^ 65 := by norm_num
        _ < 2 ^ 1024 := pow_lt_pow_right₀ one_lt_two (by norm_num)
    rw [ofRat_of_ne zero, if_neg (not_le.mpr inRange)]
    exact ⟨_, rfl⟩

/-- Below `2 ^ 53` the last bit is that of an integer, or after it. -/
theorem lastBit_nonpos {q : ℚ} (pos : 0 < q) (small : q < 2 ^ 53) : lastBit q ≤ 0 := by
  have log : Int.log 2 q < 53 :=
    (Int.lt_zpow_iff_log_lt one_lt_two pos).mp (by exact_mod_cast small)
  rw [lastBit_eq pos]
  omega

/-- A double below `2 ^ 53` is a fraction of an integer that rounding yields. -/
theorem exists_shift {q x : ℚ} (nonzero : q ≠ 0) (small : |q| < 2 ^ 53)
    (rounds : ofRat q = .finite x) : ∃ k : ℕ, |x| * 2 ^ k = roundEven (|q| * 2 ^ k) := by
  have pos : 0 < |q| := abs_pos.mpr nonzero
  obtain ⟨k, shift⟩ := Int.eq_ofNat_of_zero_le (neg_nonneg.mpr (lastBit_nonpos pos small))
  have two : (0 : ℚ) < 2 ^ k := by positivity
  have unit : (2 : ℚ) ^ lastBit |q| = (2 ^ k)⁻¹ := by
    rw [← zpow_natCast, ← zpow_neg, ← shift, neg_neg]
  obtain ⟨value, -, -⟩ := multiple_of_ofRat nonzero rounds
  refine ⟨k, ?_⟩
  rw [value, unit, inv_mul_cancel_right₀ two.ne', multiple, unit, div_inv_eq_mul]

/-- **Rounding does not cross an integer** that is a double. -/
theorem intCast_le_abs_ofRat {n : ℤ} {q x : ℚ} (nonzero : q ≠ 0) (small : |q| < 2 ^ 53)
    (rounds : ofRat q = .finite x) (le : (n : ℚ) ≤ |q|) : (n : ℚ) ≤ |x| := by
  obtain ⟨k, value⟩ := exists_shift nonzero small rounds
  have two : (0 : ℚ) < 2 ^ k := by positivity
  have shifted : n * 2 ^ k ≤ roundEven (|q| * 2 ^ k) := by
    apply le_roundEven
    push_cast
    exact mul_le_mul_of_nonneg_right le two.le
  have cast : (n : ℚ) * 2 ^ k ≤ |x| * 2 ^ k := by
    rw [value]
    exact_mod_cast shifted
  exact le_of_mul_le_mul_right cast two

theorem abs_ofRat_le_intCast {n : ℤ} {q x : ℚ} (nonzero : q ≠ 0) (small : |q| < 2 ^ 53)
    (rounds : ofRat q = .finite x) (le : |q| ≤ n) : |x| ≤ n := by
  obtain ⟨k, value⟩ := exists_shift nonzero small rounds
  have two : (0 : ℚ) < 2 ^ k := by positivity
  have shifted : roundEven (|q| * 2 ^ k) ≤ n * 2 ^ k := by
    apply roundEven_le
    push_cast
    exact mul_le_mul_of_nonneg_right le two.le
  have cast : |x| * 2 ^ k ≤ (n : ℚ) * 2 ^ k := by
    rw [value]
    exact_mod_cast shifted
  exact le_of_mul_le_mul_right cast two

/-- The sign of a double is that of what it stands for. -/
theorem nonneg_of_ofRat {q x : ℚ} (rounds : ofRat q = .finite x) (nonneg : 0 ≤ q) : 0 ≤ x := by
  by_cases zero : q = 0
  · rw [zero] at rounds
    exact (finite.inj rounds).le
  · obtain ⟨absolute, -, value⟩ := multiple_of_ofRat zero rounds
    rw [if_neg (not_lt.mpr nonneg)] at value
    rw [value, ← absolute]
    exact abs_nonneg x

theorem nonpos_of_ofRat {q x : ℚ} (rounds : ofRat q = .finite x) (nonpos : q ≤ 0) : x ≤ 0 := by
  by_cases zero : q = 0
  · rw [zero] at rounds
    exact (finite.inj rounds).ge
  · obtain ⟨absolute, -, value⟩ := multiple_of_ofRat zero rounds
    rw [if_pos (lt_of_le_of_ne nonpos zero), Int.cast_neg, neg_mul] at value
    rw [value, ← absolute]
    exact neg_nonpos.mpr (abs_nonneg x)

end DbusEv.PyFloat

namespace DbusEv

/-- The doubles. -/
structure Float64 where
  value : PyFloat
  isDouble : ∀ q, value = .finite q → PyFloat.ofRat q = .finite q

namespace Float64

/-- The double nearest to a value. -/
def ofRat (q : ℚ) : Float64 := ⟨PyFloat.ofRat q, fun _ => PyFloat.ofRat_ofRat⟩

end Float64

end DbusEv
