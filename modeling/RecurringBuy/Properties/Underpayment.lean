import RecurringBuy.Properties.RogueCall

set_option autoImplicit false

namespace RecurringBuy

open Checked SplToken ProgramAddress Rounding

variable {Pubkey : Type} [ProgramAddress Pubkey]

def Swap.gain (swap : Swap Pubkey) (user mint : Pubkey) : Nat :=
  swap.after.balance (wallet user mint) - swap.before.balance (wallet user mint)

def BuyBounded (user : Pubkey) (cfg : Config Pubkey) (swap : Swap Pubkey) : Prop :=
  (swap.amountIn.toNat - swap.fee.toNat) * 10 ^ cfg.targetDecimals.toNat * (10000 - cfg.maxSlippageBps.toNat) <
    (swap.gain user cfg.targetMint + 2) * cfg.priceRefMicros.toNat * 10000

instance (user : Pubkey) (cfg : Config Pubkey) (swap : Swap Pubkey) : Decidable (BuyBounded user cfg swap) :=
  Nat.decLt _ _

def SellBounded (user : Pubkey) (cfg : Config Pubkey) (swap : Swap Pubkey) : Prop :=
  (swap.amountIn.toNat - swap.fee.toNat) * cfg.priceRefMicros.toNat * (10000 - cfg.maxSlippageBps.toNat) <
    (swap.gain user cfg.usdcMint + 2) * 10 ^ cfg.targetDecimals.toNat * 10000

namespace Direction

def dividend (cfg : Config Pubkey) (netIn : Nat) : Direction → Nat
  | buy => netIn * 10 ^ cfg.targetDecimals.toNat
  | sell => netIn * cfg.priceRefMicros.toNat

def divisor (cfg : Config Pubkey) : Direction → Nat
  | buy => cfg.priceRefMicros.toNat
  | sell => 10 ^ cfg.targetDecimals.toNat

def Bounded (direction : Direction) (user : Pubkey) (cfg : Config Pubkey) (swap : Swap Pubkey) : Prop :=
  direction.dividend cfg (swap.amountIn.toNat - swap.fee.toNat) * (10000 - cfg.maxSlippageBps.toNat) <
    (swap.gain user (direction.mintOut cfg) + 2) * direction.divisor cfg * 10000

omit [ProgramAddress Pubkey] in
theorem exactFloor_eq (direction : Direction) (cfg : Config Pubkey) (netIn : Nat) :
    direction.exactFloor cfg netIn =
      discounted (direction.dividend cfg netIn) (direction.divisor cfg) (10000 - cfg.maxSlippageBps.toNat) 10000 := by
  cases direction <;> rfl

omit [ProgramAddress Pubkey] in
theorem divisor_pos (direction : Direction) (cfg : Config Pubkey) (active : ¬ cfg.Halted) :
    0 < direction.divisor cfg := by
  cases direction with
  | buy =>
    apply Nat.pos_of_ne_zero
    intro zero
    exact active (.inr (.inr (UInt64.toNat_inj.mp zero)))
  | sell => exact Nat.pow_pos (by decide)

end Direction

instance (user : Pubkey) (cfg : Config Pubkey) (swap : Swap Pubkey) : Decidable (SellBounded user cfg swap) :=
  Nat.decLt _ _

theorem gain_received (direction : Direction) (user : Pubkey) (cfg : Config Pubkey) (feeConfig : FeeConfig Pubkey)
    (swap : Swap Pubkey) (facts : SwapFacts direction user cfg feeConfig swap) :
    swap.gain user (direction.mintOut cfg) = swap.amountOut.toNat ∧
      swap.amountIn.toNat - swap.fee.toNat = feeConfig.netOf swap.amountIn.toNat := by
  have received := facts.received
  have charged := facts.charged
  unfold Swap.gain FeeConfig.netOf
  omega

theorem bounded_of_fits (direction : Direction) (user : Pubkey) (cfg : Config Pubkey) (feeConfig : FeeConfig Pubkey)
    (swap : Swap Pubkey) (facts : SwapFacts direction user cfg feeConfig swap)
    (fits : direction.exactFloor cfg (feeConfig.netOf swap.amountIn.toNat) < 2 ^ 64) :
    direction.Bounded user cfg swap := by
  obtain ⟨gain, net⟩ := gain_received direction user cfg feeConfig swap facts
  have active : ¬ cfg.Halted := fun halted => facts.granted (.inl halted)
  have floorMet := facts.floorMet
  rw [Nat.mod_eq_of_lt fits] at floorMet
  have enough := facts.enough
  let floor := direction.exactFloor cfg (feeConfig.netOf swap.amountIn.toNat)
  have exact' : direction.dividend cfg (feeConfig.netOf swap.amountIn.toNat) * (10000 - cfg.maxSlippageBps.toNat) <
      (floor + 2) * direction.divisor cfg * 10000 := by
    simp only [floor, direction.exactFloor_eq]
    exact lt_discounted _ _ _ _ (direction.divisor_pos cfg active) (by decide) (Nat.sub_le _ _)
  have paid : (floor + 2) * direction.divisor cfg * 10000 ≤
      (swap.amountOut.toNat + 2) * direction.divisor cfg * 10000 := by
    apply Nat.mul_le_mul_right
    apply Nat.mul_le_mul_right
    omega
  rw [Direction.Bounded, gain, net]
  exact exact'.trans_le paid

-- The wrapped floor is short by a multiple of 2 ^ 64, far more than the two units allowed.
theorem not_bounded_of_wrap (direction : Direction) (user : Pubkey) (cfg : Config Pubkey)
    (feeConfig : FeeConfig Pubkey) (swap : Swap Pubkey) (facts : SwapFacts direction user cfg feeConfig swap)
    (short : swap.amountOut.toNat + 2 ≤ direction.exactFloor cfg (feeConfig.netOf swap.amountIn.toNat)) :
    ¬ direction.Bounded user cfg swap := by
  obtain ⟨gain, net⟩ := gain_received direction user cfg feeConfig swap facts
  rw [Direction.Bounded, gain, net, Nat.not_lt]
  calc (swap.amountOut.toNat + 2) * direction.divisor cfg * 10000
      ≤ direction.exactFloor cfg (feeConfig.netOf swap.amountIn.toNat) * direction.divisor cfg * 10000 :=
        Nat.mul_le_mul_right _ (Nat.mul_le_mul_right _ short)
    _ ≤ direction.dividend cfg (feeConfig.netOf swap.amountIn.toNat) * (10000 - cfg.maxSlippageBps.toNat) := by
        rw [direction.exactFloor_eq]
        exact discounted_le _ _ _ _

variable [DecidableEq Pubkey]

theorem everySwap_bounded (direction : Direction) (world : World Pubkey) (user : Pubkey) (cfg : Config Pubkey)
    (feeConfig : FeeConfig Pubkey) (formed : world.WellFormed) (configLoaded : world.config = some cfg)
    (feeConfigLoaded : world.feeConfig = some feeConfig) :
    EverySwap world user (direction.Bounded user) direction ↔
      direction.Refuses cfg feeConfig (world.ledger.balance (transient user (direction.mintIn cfg))) ∨
      direction.exactFloor cfg
        (feeConfig.netOf (world.ledger.balance (transient user (direction.mintIn cfg)))) < 2 ^ 64 := by
  constructor
  next =>
    intro every
    by_contra exposed
    obtain ⟨granted, wraps⟩ := not_or.mp exposed
    rw [Nat.not_lt] at wraps
    obtain ⟨minOut, floorMet, feeMet, least⟩ := minOut_exists feeConfig (formed.feeConfig feeConfig feeConfigLoaded)
      (direction.exactFloor cfg (feeConfig.netOf (world.ledger.balance (transient user (direction.mintIn cfg)))))
      (world.ledger.balance (transient user (direction.mintIn cfg))) (Ledger.balance_lt _ _)
    obtain ⟨swap, transients, facts, played, -, bounded⟩ := everySwap_rogue world user cfg feeConfig formed
      configLoaded feeConfigLoaded _ direction every granted minOut 0 0 (fun _ => ⟨rfl, rfl⟩) (Nat.zero_le _)
      (Nat.zero_le _) (Ledger.balance_lt _ _) floorMet false
      (.inl ((rebate_le _ _ _ _ _).trans (by omega)))
    have input := facts.input.trans (transients _)
    have received := facts.received
    have destBefore := played.destBefore
    have destAfter := played.destAfter
    have fee := feeOf_le feeConfig (formed.feeConfig feeConfig feeConfigLoaded)
      (world.ledger.balance (transient user (direction.mintIn cfg)))
    have small := world.ledger.balance_lt (transient user (direction.mintIn cfg))
    have wrapped := Nat.mod_add_div (direction.exactFloor cfg
      (feeConfig.netOf (world.ledger.balance (transient user (direction.mintIn cfg))))) (2 ^ 64)
    refine not_bounded_of_wrap direction user cfg feeConfig swap facts ?_ bounded
    rw [input]
    omega
  next =>
    intro safe
    apply everySwap_sound world user cfg feeConfig formed configLoaded feeConfigLoaded
    intro swap transients facts
    have input := facts.input.trans (transients _)
    rcases safe with refused | fits
    next =>
      have granted := facts.granted
      rw [transients] at granted
      exact absurd refused granted
    next =>
      rw [← input] at fits
      exact bounded_of_fits direction user cfg feeConfig swap facts fits

theorem buy_bounded_iff (world : World Pubkey) (user : Pubkey) (cfg : Config Pubkey) (feeConfig : FeeConfig Pubkey)
    (reachable : world.Reachable) (configLoaded : world.config = some cfg)
    (feeConfigLoaded : world.feeConfig = some feeConfig) :
    EverySwap world user (BuyBounded user) .buy ↔
      Direction.buy.Refuses cfg feeConfig (world.ledger.balance (transient user cfg.usdcMint)) ∨
      cfg.exactBuyFloor (feeConfig.netOf (world.ledger.balance (transient user cfg.usdcMint))) < 2 ^ 64 :=
  everySwap_bounded .buy world user cfg feeConfig (reachable_wellFormed world reachable) configLoaded feeConfigLoaded

section BuySample

-- A token of 12 decimals at one millionth of a dollar.
def penny : Terms :=
  { targetDecimals := 12, priceRefMicros := 1, maxSlippageBps := 0, feeBps := 0, endTs := 61, periodSecs := 60 }

theorem penny_acceptable : penny.Acceptable := by
  constructor <;> decide

def pennyWorld (pulled : UInt64) : World Address :=
  penny.deployed (Rogue.buyer.ledger Ledger.empty pulled 0).accounts

theorem buy_bounded_iff_penny : EverySwap (pennyWorld 18000000) Terms.user (BuyBounded Terms.user) .buy :=
  (buy_bounded_iff (pennyWorld 18000000) Terms.user penny.config penny.feeConfig (Terms.deployed_reachable _ _)
    (Terms.deployed_config _ _ penny_acceptable) (Terms.deployed_feeConfig _ _ penny_acceptable)).mpr
    (.inr (by decide))

-- At 18.446745 dollars the exact floor is 18446745 * 10 ^ 12, which exceeds 2 ^ 64 by 926290448384.
theorem buy_floor_wraps :
    ¬ ∀ world' event, executeBuy (pennyWorld 18446745)
      (Rogue.buyer.context (Rogue.buyer.buyAccounts Terms.swapProgram)) 926290448384 []
      (Rogue.buyer.venue 0 0 926290448384) = .ok (world', event) →
      BuyBounded Terms.user penny.config
        ⟨(pennyWorld 18446745).ledger, world'.ledger, 926290448384, event.amountIn, event.fee, event.amountOut⟩ := by
  intro always
  have after : (executeBuy (pennyWorld 18446745)
      (Rogue.buyer.context (Rogue.buyer.buyAccounts Terms.swapProgram)) 926290448384 []
      (Rogue.buyer.venue 0 0 926290448384)).map
        (fun result => decide (BuyBounded Terms.user penny.config ⟨(pennyWorld 18446745).ledger, result.1.ledger,
          926290448384, result.2.amountIn, result.2.fee, result.2.amountOut⟩)) = .ok false := by decide
  obtain ⟨⟨world', event⟩, accepted, value⟩ := (map_ok _ _ _).mp after
  exact of_decide_eq_false value (always world' event accepted)

end BuySample

theorem sell_bounded_iff (world : World Pubkey) (user : Pubkey) (cfg : Config Pubkey) (feeConfig : FeeConfig Pubkey)
    (reachable : world.Reachable) (configLoaded : world.config = some cfg)
    (feeConfigLoaded : world.feeConfig = some feeConfig) :
    EverySwap world user (SellBounded user) .sell ↔
      Direction.sell.Refuses cfg feeConfig (world.ledger.balance (transient user cfg.targetMint)) ∨
      cfg.exactSellFloor (feeConfig.netOf (world.ledger.balance (transient user cfg.targetMint))) < 2 ^ 64 :=
  everySwap_bounded .sell world user cfg feeConfig (reachable_wellFormed world reachable) configLoaded feeConfigLoaded

section SellSample

def ingot : Terms :=
  { targetDecimals := 0, priceRefMicros := 4294967296, maxSlippageBps := 0, feeBps := 0, endTs := 61
    periodSecs := 60 }

theorem ingot_acceptable : ingot.Acceptable := by
  constructor <;> decide

def ingotWorld (pulled : UInt64) : World Address :=
  ingot.deployed (Rogue.seller.ledger Ledger.empty pulled 0).accounts

theorem sell_bounded_iff_ingot : EverySwap (ingotWorld 4294967295) Terms.user (SellBounded Terms.user) .sell :=
  (sell_bounded_iff (ingotWorld 4294967295) Terms.user ingot.config ingot.feeConfig (Terms.deployed_reachable _ _)
    (Terms.deployed_config _ _ ingot_acceptable) (Terms.deployed_feeConfig _ _ ingot_acceptable)).mpr
    (.inr (by decide))

-- 2 ^ 32 tokens are worth 2 ^ 64 units, so the floor is zero and the user gets nothing for them.
theorem sell_floor_wraps :
    ¬ ∀ world' event, executeSell (ingotWorld 4294967296)
      (Rogue.seller.context (Rogue.seller.sellAccounts Terms.swapProgram)) 0 [] (Rogue.seller.venue 0 0 0) =
        .ok (world', event) →
      SellBounded Terms.user ingot.config
        ⟨(ingotWorld 4294967296).ledger, world'.ledger, 0, event.amountIn, event.fee, event.amountOut⟩ := by
  intro always
  have after : (executeSell (ingotWorld 4294967296)
      (Rogue.seller.context (Rogue.seller.sellAccounts Terms.swapProgram)) 0 [] (Rogue.seller.venue 0 0 0)).map
        (fun result => decide (SellBounded Terms.user ingot.config ⟨(ingotWorld 4294967296).ledger,
          result.1.ledger, 0, result.2.amountIn, result.2.fee, result.2.amountOut⟩)) = .ok false := by decide
  obtain ⟨⟨world', event⟩, accepted, value⟩ := (map_ok _ _ _).mp after
  exact of_decide_eq_false value (always world' event accepted)

end SellSample

end RecurringBuy
