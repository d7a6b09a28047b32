import Mathlib.Data.Int.Log
import Mathlib.Data.Nat.Cast.Order.Field
import Mathlib.Data.Rat.Floor
import Mathlib.Tactic.FieldSimp
import Mathlib.Tactic.Linarith
import Mathlib.Tactic.Positivity
import Mathlib.Tactic.Ring

set_option autoImplicit false

namespace Binary64

def nearestEven (x : ℚ) : ℤ :=
  if x - ⌊x⌋ < 1 / 2 then ⌊x⌋
  else if 1 / 2 < x - ⌊x⌋ then ⌊x⌋ + 1
  else if ⌊x⌋ % 2 = 0 then ⌊x⌋
  else ⌊x⌋ + 1

/-- The spacing of the representable numbers at the magnitude of `x`. -/
def ulp (x : ℚ) : ℚ := 2 ^ (Int.log 2 |x| - 52)

def round (x : ℚ) : ℚ := nearestEven (x / ulp x) * ulp x

example : round (1 / 10) = 3602879701896397 / 36028797018963968 := by decide +kernel

section Nearest

theorem le_nearestEven (x : ℚ) (n : ℤ) (below : n ≤ x) : n ≤ nearestEven x := by
  have floor : n ≤ ⌊x⌋ := Int.le_floor.mpr below
  unfold nearestEven
  split_ifs <;> omega

theorem nearestEven_le (x : ℚ) (n : ℤ) (above : x ≤ n) : nearestEven x ≤ n := by
  have floor : (⌊x⌋ : ℚ) ≤ x := Int.floor_le x
  by_cases whole : ⌊x⌋ = n
  next =>
    have same : x - ⌊x⌋ < 1 / 2 := by
      rw [whole]
      linarith
    rw [nearestEven, if_pos same]
    exact whole.le
  next =>
    have least : ⌊x⌋ ≤ n := by
      exact_mod_cast floor.trans above
    unfold nearestEven
    split_ifs <;> omega

theorem nearestEven_error (x : ℚ) : nearestEven x ≤ x + 1 / 2 := by
  have floor : (⌊x⌋ : ℚ) ≤ x := Int.floor_le x
  unfold nearestEven
  split_ifs <;> push_cast <;> linarith

theorem nearestEven_error_below (x : ℚ) : x ≤ nearestEven x + 1 / 2 := by
  have floor : x < ⌊x⌋ + 1 := Int.lt_floor_add_one x
  unfold nearestEven
  split_ifs <;> push_cast <;> linarith

end Nearest

theorem ulp_pos (x : ℚ) : 0 < ulp x := zpow_pos (by norm_num) _

-- `x` has 53 bits above its spacing.
theorem ulp_le (x : ℚ) (positive : 0 < x) : ulp x * 2 ^ 52 ≤ x := by
  have log : (2 : ℚ) ^ Int.log 2 x ≤ x := by
    exact_mod_cast Int.zpow_log_le_self (by decide) positive
  calc ulp x * 2 ^ 52 = 2 ^ Int.log 2 x := by
        rw [ulp, abs_of_pos positive, zpow_sub₀ (by norm_num)]
        norm_num
    _ ≤ x := log

theorem round_error (x : ℚ) : round x ≤ x + ulp x / 2 := by
  have positive := ulp_pos x
  have error := mul_le_mul_of_nonneg_right (nearestEven_error (x / ulp x)) positive.le
  rw [add_mul, div_mul_cancel₀ _ positive.ne'] at error
  rw [round]
  linarith

theorem round_error_abs (x : ℚ) : |round x - x| ≤ ulp x / 2 := by
  have positive := ulp_pos x
  have above := round_error x
  have below := mul_le_mul_of_nonneg_right (nearestEven_error_below (x / ulp x)) positive.le
  rw [add_mul, div_mul_cancel₀ _ positive.ne', ← round] at below
  rw [abs_le]
  constructor <;> linarith

section Multiples

variable (x : ℚ) (n : ℤ)

theorem le_round (below : n * ulp x ≤ x) : n * ulp x ≤ round x := by
  have positive := ulp_pos x
  have nearest := le_nearestEven (x / ulp x) n ((le_div_iff₀ positive).mpr below)
  exact mul_le_mul_of_nonneg_right (by exact_mod_cast nearest) positive.le

theorem round_le (above : x ≤ n * ulp x) : round x ≤ n * ulp x := by
  have positive := ulp_pos x
  have nearest := nearestEven_le (x / ulp x) n ((div_le_iff₀ positive).mpr above)
  exact mul_le_mul_of_nonneg_right (by exact_mod_cast nearest) positive.le

theorem round_multiple (same : x = n * ulp x) : round x = x := by
  apply le_antisymm
  next => exact (round_le x n same.le).trans same.ge
  next => exact same.le.trans (le_round x n same.ge)

theorem round_nonpos (nonpos : x ≤ 0) : round x ≤ 0 := by
  have bound := round_le x 0 (by simpa using nonpos)
  simpa using bound

end Multiples

section Integers

-- Below `2 ^ 53` the spacing divides 1.
theorem multiple_of_small (x : ℚ) (small : |x| < 2 ^ 53) (n : ℤ) : ∃ k : ℤ, (n : ℚ) = k * ulp x := by
  have log : Int.log 2 |x| ≤ 52 := by
    by_cases zero : |x| = 0
    next => simp [zero]
    next =>
      have positive : 0 < |x| := lt_of_le_of_ne (abs_nonneg x) (Ne.symm zero)
      have power : (2 : ℚ) ^ Int.log 2 |x| < 2 ^ (53 : ℤ) := by
        have below := Int.zpow_log_le_self (b := 2) (by decide) positive
        norm_num at below ⊢
        linarith
      have less := (zpow_lt_zpow_iff_right₀ (by norm_num : (1 : ℚ) < 2)).mp power
      omega
  obtain ⟨bits, value⟩ := Int.eq_ofNat_of_zero_le (show 0 ≤ 52 - Int.log 2 |x| by omega)
  refine ⟨n * 2 ^ bits, ?_⟩
  have spacing : ulp x = (2 ^ bits)⁻¹ := by
    rw [ulp, show Int.log 2 |x| - 52 = -(bits : ℤ) by omega, zpow_neg, zpow_natCast]
  rw [spacing]
  push_cast
  field_simp

theorem round_int (n : ℤ) (low : -2 ^ 53 ≤ n) (high : n ≤ 2 ^ 53) : round n = n := by
  by_cases small : |(n : ℚ)| < 2 ^ 53
  next =>
    obtain ⟨k, same⟩ := multiple_of_small n small n
    exact round_multiple n k same
  next =>
    have extreme : n = 2 ^ 53 ∨ n = -2 ^ 53 := by
      have size : (2 : ℤ) ^ 53 ≤ |n| := by
        rw [not_lt] at small
        exact_mod_cast small
      rcases abs_cases n with ⟨value, -⟩ | ⟨value, -⟩ <;> omega
    rcases extreme with rfl | rfl
    next => decide +kernel
    next => decide +kernel

theorem round_large_int (n : ℤ) (large : 2 ^ 53 ≤ |n|) :
    ∃ (k : ℤ) (bits : ℕ), round n = k * 2 ^ (bits + 1) ∧ |round n - n| ≤ 2 ^ bits ∧ 2 ^ (bits + 53) ≤ |n| ∧
      |n| < 2 ^ (bits + 54) := by
  have size : (2 : ℚ) ^ (53 : ℤ) ≤ |(n : ℚ)| := by exact_mod_cast large
  have positive : 0 < |(n : ℚ)| := lt_of_lt_of_le (by norm_num) size
  have low : (2 : ℚ) ^ Int.log 2 |(n : ℚ)| ≤ |(n : ℚ)| := by
    exact_mod_cast Int.zpow_log_le_self (b := 2) (by decide) positive
  have high : |(n : ℚ)| < (2 : ℚ) ^ (Int.log 2 |(n : ℚ)| + 1) := by
    exact_mod_cast Int.lt_zpow_succ_log_self (b := 2) (by decide) |(n : ℚ)|
  have exponent : 53 < Int.log 2 |(n : ℚ)| + 1 :=
    (zpow_lt_zpow_iff_right₀ (by norm_num : (1 : ℚ) < 2)).mp (size.trans_lt high)
  obtain ⟨bits, value⟩ := Int.eq_ofNat_of_zero_le (show 0 ≤ Int.log 2 |(n : ℚ)| - 53 by omega)
  have log : Int.log 2 |(n : ℚ)| = (bits + 53 : ℕ) := by omega
  have spacing : ulp n = 2 ^ (bits + 1) := by
    rw [ulp, log, show ((bits + 53 : ℕ) : ℤ) - 52 = (bits + 1 : ℕ) by omega, zpow_natCast]
  have error := round_error_abs n
  rw [spacing, pow_succ, mul_div_cancel_right₀ _ (by norm_num)] at error
  rw [log, zpow_natCast] at low
  rw [log, show ((bits + 53 : ℕ) : ℤ) + 1 = (bits + 54 : ℕ) by omega, zpow_natCast] at high
  exact ⟨nearestEven (n / ulp n), bits, by rw [← spacing, round], error, by exact_mod_cast low,
    by exact_mod_cast high⟩

theorem int_le_round (x : ℚ) (small : |x| < 2 ^ 53) (n : ℤ) (below : n ≤ x) : n ≤ round x := by
  obtain ⟨k, same⟩ := multiple_of_small x small n
  rw [same] at below ⊢
  exact le_round x k below

-- The error is less than what the quotient lacks to the next integer.
theorem round_div_lt (a b : ℕ) (positive : 0 < b) (small : a ≤ 2 ^ 53) :
    round ((a : ℚ) / b) < (a / b : ℕ) + 1 := by
  let x : ℚ := a / b
  have divisor : (0 : ℚ) < b := by exact_mod_cast positive
  have value : x * b = a := div_mul_cancel₀ _ divisor.ne'
  have bound : (a : ℚ) ≤ 2 ^ 53 := by exact_mod_cast small
  have next : (a : ℚ) + 1 ≤ ((a / b : ℕ) + 1) * b := by
    have whole : a + 1 ≤ (a / b + 1) * b := by
      rw [Nat.add_mul, Nat.one_mul]
      exact Nat.lt_div_mul_add positive
    exact_mod_cast whole
  have less : x < (a / b : ℕ) + 1 := by
    rw [div_lt_iff₀ divisor]
    linarith
  rcases (show 0 ≤ x by positivity).eq_or_lt with zero | above
  next =>
    have rounded := round_nonpos x zero.ge
    linarith
  have spacing := ulp_le x above
  have error := round_error x
  rcases spacing.eq_or_lt with power | strict
  next =>
    -- A power of two is exact.
    have exactly := round_multiple x (2 ^ 52) (by push_cast; linarith)
    rw [exactly]
    exact less
  next =>
    have scaled : round x * b < ((a / b : ℕ) + 1) * b := by
      have product : ulp x * b * 2 ^ 53 < 2 * a := by
        rw [← value]
        nlinarith
      nlinarith
    exact lt_of_mul_lt_mul_right scaled divisor.le

/-- A quotient of naturals up to `2 ^ 53` is never rounded up to the next integer. -/
theorem floor_round_div (a b : ℕ) (positive : 0 < b) (small : a ≤ 2 ^ 53) :
    ⌊round ((a : ℚ) / b)⌋ = (a / b : ℕ) := by
  rw [Int.floor_eq_iff, Int.cast_natCast]
  refine ⟨?_, round_div_lt a b positive small⟩
  by_cases one : b = 1
  next =>
    have exactly : round (a : ℚ) = a := by exact_mod_cast round_int a (by omega) (by exact_mod_cast small)
    rw [one, Nat.div_one, Nat.cast_one, div_one, exactly]
  next =>
    have bound : (a : ℚ) ≤ 2 ^ 53 := by exact_mod_cast small
    have divisor : (2 : ℚ) ≤ b := by exact_mod_cast (show 2 ≤ b by omega)
    have less : (a : ℚ) / b < 2 ^ 53 := by
      rw [div_lt_iff₀ (by linarith)]
      linarith
    have below : ((a / b : ℕ) : ℚ) ≤ a / b := Nat.cast_div_le
    have rounded := int_le_round ((a : ℚ) / b) (by rwa [abs_of_nonneg (by positivity)]) (a / b : ℕ)
      (by exact_mod_cast below)
    exact_mod_cast rounded

end Integers

end Binary64
