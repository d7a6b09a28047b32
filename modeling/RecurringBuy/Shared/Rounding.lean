import Mathlib.Tactic.Linarith
import Mathlib.Tactic.Ring

set_option autoImplicit false

namespace Rounding

theorem tdiv_between (value divisor : Int) (positive : 0 < divisor) :
    min value 0 ≤ value.tdiv divisor ∧ value.tdiv divisor ≤ max value 0 := by
  have small : (value.tdiv divisor).natAbs ≤ value.natAbs :=
    (Int.natAbs_tdiv value divisor).trans_le (Nat.div_le_self _ _)
  by_cases below : value < 0
  · have truncated : value.tdiv divisor ≤ 0 := by
      have := Int.tdiv_le_tdiv positive below.le
      simpa using this
    omega
  · have truncated : 0 ≤ value.tdiv divisor := Int.tdiv_nonneg (by omega) positive.le
    omega

-- Truncation and flooring differ only below zero.
theorem max_tdiv (value divisor least : Int) (positive : 0 < divisor) (nonneg : 0 ≤ least) :
    max (value.tdiv divisor) least = max (value / divisor) least := by
  by_cases below : value < 0
  · have truncated := (tdiv_between value divisor positive).2
    have floored : value / divisor < 0 := Int.ediv_neg_of_neg_of_pos below positive
    omega
  · rw [Int.tdiv_eq_ediv_of_nonneg (by omega)]

theorem max_ediv_clamped (value divisor low : Int) (positive : 0 < divisor) (below : low ≤ 0) :
    max (max low value / divisor) 1 = max (value / divisor) 1 := by
  by_cases above : low ≤ value
  · rw [max_eq_right above]
  · rw [max_eq_left (show value ≤ low by omega)]
    have clamped : low / divisor ≤ 0 := by
      have := Int.ediv_le_ediv positive below
      simpa using this
    have bare : value / divisor < 0 := Int.ediv_neg_of_neg_of_pos (by omega) positive
    omega

/-- `amount / price` rounded down, then scaled by `kept / whole` and rounded down again. -/
def discounted (amount price kept whole : Nat) : Nat := amount / price * kept / whole

theorem discounted_le (amount price kept whole : Nat) :
    discounted amount price kept whole * price * whole ≤ amount * kept := by
  have outer : discounted amount price kept whole * whole ≤ amount / price * kept := Nat.div_mul_le_self _ _
  have inner : amount / price * price ≤ amount := Nat.div_mul_le_self _ _
  calc discounted amount price kept whole * price * whole
      = discounted amount price kept whole * whole * price := by ring
    _ ≤ amount / price * kept * price := Nat.mul_le_mul_right _ outer
    _ = amount / price * price * kept := by ring
    _ ≤ amount * kept := Nat.mul_le_mul_right _ inner

-- Each of the two floors loses less than one unit.
theorem lt_discounted (amount price kept whole : Nat) (priced : 0 < price) (scaled : 0 < whole)
    (share : kept ≤ whole) :
    amount * kept < (discounted amount price kept whole + 2) * price * whole := by
  have outer : amount / price * kept < (discounted amount price kept whole + 1) * whole := by
    rw [Nat.mul_comm _ whole]
    exact Nat.lt_mul_div_succ _ scaled
  have inner : amount ≤ (amount / price + 1) * price := by
    rw [Nat.mul_comm _ price]
    exact (Nat.lt_mul_div_succ _ priced).le
  calc amount * kept
      ≤ (amount / price + 1) * price * kept := Nat.mul_le_mul_right _ inner
    _ = (amount / price * kept + kept) * price := by ring
    _ < ((discounted amount price kept whole + 1) * whole + whole) * price :=
        Nat.mul_lt_mul_of_pos_right (by omega) priced
    _ = (discounted amount price kept whole + 2) * price * whole := by ring

theorem discounted_le_quotient (amount price kept whole : Nat) (share : kept ≤ whole) :
    discounted amount price kept whole ≤ amount / price := by
  cases whole with
  | zero => simp [discounted]
  | succ whole =>
    apply Nat.div_le_of_le_mul
    rw [Nat.mul_comm (whole + 1)]
    exact Nat.mul_le_mul_left _ share

theorem discounted_whole (amount price whole : Nat) (scaled : 0 < whole) :
    discounted amount price whole whole = amount / price :=
  Nat.mul_div_cancel _ scaled

theorem discounted_mono (amount amount' price price' kept kept' whole : Nat) (priced : 0 < price')
    (more : amount ≤ amount') (cheaper : price' ≤ price) (keeps : kept ≤ kept') :
    discounted amount price kept whole ≤ discounted amount' price' kept' whole := by
  have quotient : amount / price ≤ amount' / price' :=
    (Nat.div_le_div_left cheaper priced).trans (Nat.div_le_div_right more)
  exact Nat.div_le_div_right (Nat.mul_le_mul quotient keeps)

-- Rounding twice is at most one unit below rounding once.
theorem discounted_floor (amount price kept whole : Nat) (priced : 0 < price) (scaled : 0 < whole)
    (share : kept ≤ whole) :
    discounted amount price kept whole = amount * kept / (whole * price) ∨
      discounted amount price kept whole + 1 = amount * kept / (whole * price) := by
  have positive : 0 < whole * price := Nat.mul_pos scaled priced
  have low : discounted amount price kept whole ≤ amount * kept / (whole * price) := by
    rw [Nat.le_div_iff_mul_le positive, Nat.mul_comm whole, ← Nat.mul_assoc]
    exact discounted_le amount price kept whole
  have high : amount * kept / (whole * price) < discounted amount price kept whole + 2 := by
    rw [Nat.div_lt_iff_lt_mul positive, Nat.mul_comm whole, ← Nat.mul_assoc]
    exact lt_discounted amount price kept whole priced scaled share
  omega

-- Converting at a price and back at the same price never gains.
theorem quotient_back (amount scale price converted : Nat)
    (low : converted ≤ amount * scale / price) : converted * price / scale ≤ amount := by
  apply Nat.div_le_of_le_mul
  rw [Nat.mul_comm scale]
  exact (Nat.mul_le_mul_right _ low).trans (Nat.div_mul_le_self _ _)

theorem lt_quotient_back (amount scale price : Nat) (positive : 0 < scale) (priced : 0 < price) :
    amount * scale < (amount * scale / price * price / scale + 1) * scale + price := by
  have there : amount * scale < amount * scale / price * price + price := by
    have := Nat.lt_mul_div_succ (amount * scale) priced
    rw [Nat.mul_comm price, Nat.succ_mul] at this
    exact this
  have back : amount * scale / price * price < (amount * scale / price * price / scale + 1) * scale := by
    rw [Nat.mul_comm (_ + 1) scale]
    exact Nat.lt_mul_div_succ _ positive
  omega

end Rounding
