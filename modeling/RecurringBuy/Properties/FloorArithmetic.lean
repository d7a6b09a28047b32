import RecurringBuy.Properties.SwapFacts

set_option autoImplicit false

namespace RecurringBuy

open Checked Rounding

structure Quote where
  amountIn : UInt64
  priceRefMicros : UInt64
  targetDecimals : UInt8
  maxSlippageBps : UInt16

namespace Quote

def floor (quote : Quote) : Direction → Except Error UInt64
  | .buy => priceFloor quote.amountIn quote.priceRefMicros quote.targetDecimals quote.maxSlippageBps
  | .sell => sellFloor quote.amountIn quote.priceRefMicros quote.targetDecimals quote.maxSlippageBps

def dividend (quote : Quote) : Direction → Nat
  | .buy => quote.amountIn.toNat * 10 ^ quote.targetDecimals.toNat
  | .sell => quote.amountIn.toNat * quote.priceRefMicros.toNat

def divisor (quote : Quote) : Direction → Nat
  | .buy => quote.priceRefMicros.toNat
  | .sell => 10 ^ quote.targetDecimals.toNat

def kept (quote : Quote) : Nat := 10000 - quote.maxSlippageBps.toNat

def exact (quote : Quote) (direction : Direction) : Nat :=
  quote.dividend direction * quote.kept / (10000 * quote.divisor direction)

structure InRange (quote : Quote) (direction : Direction) : Prop where
  priced : 0 < quote.priceRefMicros.toNat
  decimals : quote.targetDecimals.toNat ≤ 12
  slippage : quote.maxSlippageBps.toNat ≤ 10000
  fits : quote.dividend direction / quote.divisor direction < 2 ^ 64

/-- The second quote sells at least as much, tolerates at most as much, and has the better price. -/
structure Improves (direction : Direction) (quote quote' : Quote) : Prop where
  decimals : quote'.targetDecimals = quote.targetDecimals
  amount : quote.amountIn ≤ quote'.amountIn
  slippage : quote'.maxSlippageBps ≤ quote.maxSlippageBps
  price : match direction with
    | .buy => quote'.priceRefMicros ≤ quote.priceRefMicros
    | .sell => quote.priceRefMicros ≤ quote'.priceRefMicros

section Value

variable (direction : Direction) (quote : Quote)

theorem divisor_pos (range : quote.InRange direction) : 0 < quote.divisor direction := by
  cases direction with
  | buy => exact range.priced
  | sell => exact Nat.pow_pos (by decide)

-- Where the quotient fits, neither the products nor the narrowing lose anything.
theorem floor_ok (range : quote.InRange direction) :
    ∃ floor, quote.floor direction = .ok floor ∧
      floor.toNat = discounted (quote.dividend direction) (quote.divisor direction) quote.kept 10000 := by
  have below : discounted (quote.dividend direction) (quote.divisor direction) quote.kept 10000 ≤
      quote.dividend direction / quote.divisor direction := discounted_le_quotient _ _ _ _ (Nat.sub_le _ _)
  have small := below.trans_lt range.fits
  refine ⟨UInt64.ofNat (discounted (quote.dividend direction) (quote.divisor direction) quote.kept 10000), ?_, ?_⟩
  next =>
    cases direction with
    | buy =>
      apply (priceFloor_ok _ _ _ _ _ range.decimals range.slippage).mpr
      refine ⟨range.priced.ne', ?_⟩
      rw [UInt64.toNat_ofNat']
      rfl
    | sell =>
      have product : quote.dividend .sell / quote.divisor .sell * (10000 - quote.maxSlippageBps.toNat) ≤
          2 ^ 64 * 10000 := Nat.mul_le_mul range.fits.le (Nat.sub_le _ _)
      simp only [dividend, divisor] at product
      apply (sellFloor_ok _ _ _ _ _ range.decimals range.slippage).mpr
      refine ⟨by omega, ?_⟩
      rw [UInt64.toNat_ofNat']
      rfl
  next => rw [UInt64.toNat_ofNat', Nat.mod_eq_of_lt small]

theorem improves_discounted (quote' : Quote) (range' : quote'.InRange direction)
    (improves : Improves direction quote quote') :
    discounted (quote.dividend direction) (quote.divisor direction) quote.kept 10000 ≤
      discounted (quote'.dividend direction) (quote'.divisor direction) quote'.kept 10000 := by
  have amount := UInt64.le_iff_toNat_le.mp improves.amount
  have slippage := UInt16.le_iff_toNat_le.mp improves.slippage
  have keeps : quote.kept ≤ quote'.kept := by
    unfold kept
    omega
  have price := improves.price
  apply discounted_mono _ _ _ _ _ _ _ (quote'.divisor_pos direction range') _ _ keeps
  next =>
    cases direction with
    | buy =>
      simp only [dividend, improves.decimals]
      exact Nat.mul_le_mul_right _ amount
    | sell => exact Nat.mul_le_mul amount (UInt64.le_iff_toNat_le.mp price)
  next =>
    cases direction with
    | buy => exact UInt64.le_iff_toNat_le.mp price
    | sell => simp only [divisor, improves.decimals, le_refl]

end Value

end Quote

theorem floor_accurate (direction : Direction) (quote : Quote) (range : quote.InRange direction) :
    ∃ floor, quote.floor direction = .ok floor ∧
      (floor.toNat = quote.exact direction ∨ floor.toNat + 1 = quote.exact direction) ∧
      (quote.maxSlippageBps = 0 → floor.toNat = quote.exact direction) ∧
      ∀ quote' floor', quote'.InRange direction → Quote.Improves direction quote quote' →
        quote'.floor direction = .ok floor' → floor ≤ floor' := by
  obtain ⟨floor, accepted, value⟩ := quote.floor_ok direction range
  refine ⟨floor, accepted, ?_, ?_, ?_⟩
  next =>
    rw [value]
    exact discounted_floor _ _ _ _ (quote.divisor_pos direction range) (by decide) (Nat.sub_le _ _)
  next =>
    intro none
    have whole : quote.kept = 10000 := by
      unfold Quote.kept
      rw [none]
      rfl
    rw [value, Quote.exact, whole, discounted_whole _ _ _ (by decide), Nat.mul_comm _ 10000,
      Nat.mul_div_mul_left _ _ (by decide)]
  next =>
    intro quote' floor' range' improves accepted'
    obtain ⟨_, again, value'⟩ := quote'.floor_ok direction range'
    cases again.symm.trans accepted'
    rw [UInt64.le_iff_toNat_le, value, value']
    exact quote.improves_discounted direction quote' range' improves

-- The quotient 7 is discounted to 3.5 and rounded again; the exact value is 3.75.
theorem floor_accurate_seven :
    ∃ floor : UInt64, Quote.floor ⟨15, 2, 0, 5000⟩ .buy = .ok floor ∧
      (floor.toNat = Quote.exact ⟨15, 2, 0, 5000⟩ .buy ∨ floor.toNat + 1 = Quote.exact ⟨15, 2, 0, 5000⟩ .buy) := by
  have range : Quote.InRange ⟨15, 2, 0, 5000⟩ .buy := by constructor <;> decide
  obtain ⟨floor, accepted, near, -⟩ := floor_accurate .buy ⟨15, 2, 0, 5000⟩ range
  exact ⟨floor, accepted, near⟩

section RoundTrip

variable (amountIn priceRefMicros : UInt64) (targetDecimals : UInt8) (maxSlippageBps : UInt16)
  (decimals : targetDecimals.toNat ≤ 12) (bps : maxSlippageBps.toNat ≤ 10000)

include decimals bps

-- Narrowing can only lower a floor.
theorem priceFloor_le (floor : UInt64)
    (accepted : priceFloor amountIn priceRefMicros targetDecimals maxSlippageBps = .ok floor) :
    floor.toNat ≤ amountIn.toNat * 10 ^ targetDecimals.toNat / priceRefMicros.toNat := by
  obtain ⟨-, value⟩ := (priceFloor_ok _ _ _ _ _ decimals bps).mp accepted
  rw [value]
  exact (Nat.mod_le _ _).trans (discounted_le_quotient _ _ _ _ (Nat.sub_le _ _))

theorem sellFloor_le (floor : UInt64)
    (accepted : sellFloor amountIn priceRefMicros targetDecimals maxSlippageBps = .ok floor) :
    floor.toNat ≤ amountIn.toNat * priceRefMicros.toNat / 10 ^ targetDecimals.toNat := by
  obtain ⟨-, value⟩ := (sellFloor_ok _ _ _ _ _ decimals bps).mp accepted
  rw [value]
  exact (Nat.mod_le _ _).trans (discounted_le_quotient _ _ _ _ (Nat.sub_le _ _))

end RoundTrip

theorem floors_round_trip (priceRefMicros : UInt64) (targetDecimals : UInt8) (maxSlippageBps maxSlippageBps' : UInt16)
    (priced : 0 < priceRefMicros.toNat) (decimals : targetDecimals.toNat ≤ 12)
    (bps : maxSlippageBps.toNat ≤ 10000) (bps' : maxSlippageBps'.toNat ≤ 10000) (amountIn there back : UInt64) :
    (priceFloor amountIn priceRefMicros targetDecimals maxSlippageBps = .ok there →
      sellFloor there priceRefMicros targetDecimals maxSlippageBps' = .ok back → back ≤ amountIn) ∧
    (sellFloor amountIn priceRefMicros targetDecimals maxSlippageBps = .ok there →
      priceFloor there priceRefMicros targetDecimals maxSlippageBps' = .ok back → back ≤ amountIn) ∧
    (amountIn.toNat * 10 ^ targetDecimals.toNat / priceRefMicros.toNat < 2 ^ 64 →
      priceFloor amountIn priceRefMicros targetDecimals 0 = .ok there →
      sellFloor there priceRefMicros targetDecimals 0 = .ok back →
      ((amountIn.toNat : Int) - back.toNat - 1) * 10 ^ targetDecimals.toNat < priceRefMicros.toNat) := by
  refine ⟨?_, ?_, ?_⟩
  next =>
    intro bought sold
    have low := priceFloor_le _ _ _ _ decimals bps _ bought
    have high := sellFloor_le _ _ _ _ decimals bps' _ sold
    rw [UInt64.le_iff_toNat_le]
    exact high.trans (quotient_back _ _ _ _ low)
  next =>
    intro sold bought
    have low := sellFloor_le _ _ _ _ decimals bps _ sold
    have high := priceFloor_le _ _ _ _ decimals bps' _ bought
    rw [UInt64.le_iff_toNat_le]
    exact high.trans (quotient_back _ _ _ _ low)
  next =>
    intro fits bought sold
    have none : (0 : UInt16).toNat ≤ 10000 := by decide
    obtain ⟨-, thereValue⟩ := (priceFloor_ok _ _ _ _ _ decimals none).mp bought
    obtain ⟨-, backValue⟩ := (sellFloor_ok _ _ _ _ _ decimals none).mp sold
    have whole : 10000 - (0 : UInt16).toNat = 10000 := rfl
    rw [whole, discounted_whole _ _ _ (by decide), Nat.mod_eq_of_lt fits] at thereValue
    rw [whole, discounted_whole _ _ _ (by decide), thereValue] at backValue
    have positive : 0 < 10 ^ targetDecimals.toNat := Nat.pow_pos (by decide)
    have again : amountIn.toNat * 10 ^ targetDecimals.toNat / priceRefMicros.toNat * priceRefMicros.toNat /
        10 ^ targetDecimals.toNat ≤ amountIn.toNat := quotient_back _ _ _ _ le_rfl
    rw [Nat.mod_eq_of_lt (again.trans_lt amountIn.toNat_lt)] at backValue
    have lost := lt_quotient_back amountIn.toNat _ _ positive priced
    rw [← backValue] at lost
    have lost' : (amountIn.toNat : Int) * 10 ^ targetDecimals.toNat <
        (back.toNat + 1) * 10 ^ targetDecimals.toNat + priceRefMicros.toNat := by exact_mod_cast lost
    linarith

theorem floors_round_trip_bitcoin :
    priceFloor 2000000001 60000000000 8 0 = .ok 3333333 ∧ sellFloor 3333333 60000000000 8 0 = .ok 1999999800 ∧
      ((2000000001 : Int) - 1999999800 - 1) * 10 ^ 8 < 60000000000 := by
  have bought : priceFloor 2000000001 60000000000 8 0 = .ok 3333333 := by decide
  have sold : sellFloor 3333333 60000000000 8 0 = .ok 1999999800 := by decide
  exact ⟨bought, sold, (floors_round_trip 60000000000 8 0 0 (by decide) (by decide) (by decide) (by decide)
    2000000001 3333333 1999999800).2.2 (by decide) bought sold⟩

end RecurringBuy
