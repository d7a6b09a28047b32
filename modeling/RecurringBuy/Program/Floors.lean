import RecurringBuy.Program.State
import RecurringBuy.Shared.Rounding

set_option autoImplicit false

namespace RecurringBuy

open Checked Rounding

-- Common to both floors: `amountIn * multiplier / divisor`, less the slippage band.
def bandFloor (amountIn multiplier divisor : U128) (maxSlippageBps : UInt16) : Except Error UInt64 := do
  let product ← okOr (U128.checkedMul amountIn multiplier) (.buy .overflow)
  let ideal ← okOr (U128.checkedDiv product divisor) (.buy .overflow)
  -- `10_000u128 - max_slippage_bps` is the one unchecked subtraction.
  require (maxSlippageBps ≤ 10000) .panicked
  let scaled ← okOr (U128.checkedMul ideal (10000 - maxSlippageBps.toNat)) (.buy .overflow)
  let floor ← okOr (U128.checkedDiv scaled 10000) (.buy .overflow)
  pure floor.asU64

def priceFloor (amountIn priceRefMicros : UInt64) (targetDecimals : UInt8) (maxSlippageBps : UInt16) :
    Except Error UInt64 := do
  let scale ← okOr (U128.checkedPow 10 targetDecimals.toNat) (.buy .overflow)
  bandFloor amountIn.toNat scale priceRefMicros.toNat maxSlippageBps

def sellFloor (amountIn priceRefMicros : UInt64) (targetDecimals : UInt8) (maxSlippageBps : UInt16) :
    Except Error UInt64 := do
  let scale ← okOr (U128.checkedPow 10 targetDecimals.toNat) (.buy .overflow)
  bandFloor amountIn.toNat priceRefMicros.toNat scale maxSlippageBps

example : priceFloor 2000000000 2000000000 9 50 = .ok 995000000 := by decide

example : sellFloor 500000000 2000000000 9 50 = .ok 995000000 := by decide

theorem bandFloor_ok (amountIn multiplier divisor : Nat) (maxSlippageBps : UInt16) (floor : UInt64) :
    bandFloor amountIn multiplier divisor maxSlippageBps = .ok floor ↔
      amountIn * multiplier < 2 ^ 128 ∧ divisor ≠ 0 ∧ maxSlippageBps.toNat ≤ 10000 ∧
      amountIn * multiplier / divisor * (10000 - maxSlippageBps.toNat) < 2 ^ 128 ∧
      floor.toNat = discounted (amountIn * multiplier) divisor (10000 - maxSlippageBps.toNat) 10000 % 2 ^ 64 := by
  have bps : maxSlippageBps ≤ 10000 ↔ maxSlippageBps.toNat ≤ 10000 := UInt16.le_iff_toNat_le
  simp only [bandFloor, bind_ok, okOr_ok, require_ok, pure_ok, U128.checkedMul_some, U128.checkedDiv_some,
    decide_eq_true_eq, exists_const, bps, and_assoc, exists_and_left, exists_eq_left, discounted,
    ← UInt64.toNat_inj (b := floor), U128.asU64_toNat]
  simp only [eq_comm (b := floor.toNat), ne_eq, OfNat.ofNat_ne_zero, not_false_eq_true, true_and]

theorem scale_fits (decimals : Nat) (few : decimals ≤ 12) : 10 ^ decimals ≤ 10 ^ 12 :=
  Nat.pow_le_pow_right (by decide) few

theorem priceFloor_ok (amountIn priceRefMicros : UInt64) (targetDecimals : UInt8) (maxSlippageBps : UInt16)
    (floor : UInt64) (decimals : targetDecimals.toNat ≤ 12) (bps : maxSlippageBps.toNat ≤ 10000) :
    priceFloor amountIn priceRefMicros targetDecimals maxSlippageBps = .ok floor ↔
      priceRefMicros.toNat ≠ 0 ∧
      floor.toNat = discounted (amountIn.toNat * 10 ^ targetDecimals.toNat) priceRefMicros.toNat
        (10000 - maxSlippageBps.toNat) 10000 % 2 ^ 64 := by
  have scale := scale_fits _ decimals
  have product : amountIn.toNat * 10 ^ targetDecimals.toNat ≤ 2 ^ 64 * 10 ^ 12 :=
    Nat.mul_le_mul amountIn.toNat_lt.le scale
  -- 2 ^ 64 * 10 ^ 12 * 10000 is still below 2 ^ 118.
  have scaled : amountIn.toNat * 10 ^ targetDecimals.toNat / priceRefMicros.toNat *
      (10000 - maxSlippageBps.toNat) ≤ 2 ^ 64 * 10 ^ 12 * 10000 :=
    Nat.mul_le_mul ((Nat.div_le_self _ _).trans product) (Nat.sub_le _ _)
  simp only [priceFloor, bind_ok, okOr_ok, U128.checkedPow_some, bandFloor_ok, and_assoc,
    exists_and_left, exists_eq_left]
  constructor
  · intro accepted
    rcases accepted with ⟨-, -, priced, -, -, value⟩
    exact ⟨priced, value⟩
  · intro conditions
    rcases conditions with ⟨priced, value⟩
    exact ⟨by omega, by omega, priced, bps, by omega, value⟩

theorem sellFloor_ok (amountIn priceRefMicros : UInt64) (targetDecimals : UInt8) (maxSlippageBps : UInt16)
    (floor : UInt64) (decimals : targetDecimals.toNat ≤ 12) (bps : maxSlippageBps.toNat ≤ 10000) :
    sellFloor amountIn priceRefMicros targetDecimals maxSlippageBps = .ok floor ↔
      amountIn.toNat * priceRefMicros.toNat / 10 ^ targetDecimals.toNat * (10000 - maxSlippageBps.toNat) < 2 ^ 128 ∧
      floor.toNat = discounted (amountIn.toNat * priceRefMicros.toNat) (10 ^ targetDecimals.toNat)
        (10000 - maxSlippageBps.toNat) 10000 % 2 ^ 64 := by
  have scale := scale_fits _ decimals
  have product : amountIn.toNat * priceRefMicros.toNat < 2 ^ 64 * 2 ^ 64 :=
    Nat.mul_lt_mul'' amountIn.toNat_lt priceRefMicros.toNat_lt
  have positive : 10 ^ targetDecimals.toNat ≠ 0 := by positivity
  simp only [sellFloor, bind_ok, okOr_ok, U128.checkedPow_some, bandFloor_ok, and_assoc,
    exists_and_left, exists_eq_left]
  constructor
  · intro accepted
    rcases accepted with ⟨-, -, -, -, fits, value⟩
    exact ⟨fits, value⟩
  · intro conditions
    rcases conditions with ⟨fits, value⟩
    exact ⟨by omega, by omega, positive, bps, fits, value⟩

end RecurringBuy
