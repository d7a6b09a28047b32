import RecurringBuy.Properties.Underpayment

set_option autoImplicit false

namespace RecurringBuy

open Checked SplToken ProgramAddress Rounding

variable {Pubkey : Type}

namespace Direction

/-- The output at the reference price, before the slippage. -/
def reference (direction : Direction) (cfg : Config Pubkey) (netIn : Nat) : Nat :=
  direction.dividend cfg netIn / direction.divisor cfg

def Rewarded [AssociatedAddress Pubkey] (direction : Direction) (user : Pubkey) (cfg : Config Pubkey)
    (swap : Swap Pubkey) : Prop :=
  10000 ≤ direction.reference cfg (swap.amountIn.toNat - swap.fee.toNat) →
    swap.before.balance (AssociatedAddress.associated user (direction.mintOut cfg)) <
      swap.after.balance (AssociatedAddress.associated user (direction.mintOut cfg))

/-- The reference output is small, or the floor is neither switched off nor narrowed to zero. -/
def Protects (direction : Direction) (cfg : Config Pubkey) (netIn : Nat) : Prop :=
  direction.reference cfg netIn < 10000 ∨
    (cfg.maxSlippageBps.toNat ≠ 10000 ∧
      ¬ (0 < direction.exactFloor cfg netIn ∧ 2 ^ 64 ∣ direction.exactFloor cfg netIn))

theorem exactFloor_full (direction : Direction) (cfg : Config Pubkey) (netIn : Nat)
    (full : cfg.maxSlippageBps.toNat = 10000) : direction.exactFloor cfg netIn = 0 := by
  rw [direction.exactFloor_eq, full]
  simp [discounted]

-- Below the full slippage at least one part in 10000 is kept.
theorem exactFloor_pos (direction : Direction) (cfg : Config Pubkey) (netIn : Nat)
    (large : 10000 ≤ direction.reference cfg netIn) (active : cfg.maxSlippageBps.toNat < 10000) :
    0 < direction.exactFloor cfg netIn := by
  rw [direction.exactFloor_eq]
  unfold discounted
  have kept : 1 ≤ 10000 - cfg.maxSlippageBps.toNat := by omega
  have product : 10000 * 1 ≤ direction.dividend cfg netIn / direction.divisor cfg *
      (10000 - cfg.maxSlippageBps.toNat) := Nat.mul_le_mul large kept
  exact Nat.div_pos (by omega) (by decide)

end Direction

variable [ProgramAddress Pubkey]

theorem rewarded_of_protects (direction : Direction) (user : Pubkey) (cfg : Config Pubkey)
    (feeConfig : FeeConfig Pubkey) (swap : Swap Pubkey) (formed : cfg.WellFormed)
    (facts : SwapFacts direction user cfg feeConfig swap)
    (protects : direction.Protects cfg (feeConfig.netOf swap.amountIn.toNat)) :
    direction.Rewarded user cfg swap := by
  obtain ⟨-, net⟩ := gain_received direction user cfg feeConfig swap facts
  intro large
  rw [net] at large
  rcases protects with small | ⟨active, wraps⟩
  next => omega
  next =>
    have positive := direction.exactFloor_pos cfg _ large (lt_of_le_of_ne formed.slippage active)
    have narrowed : direction.exactFloor cfg (feeConfig.netOf swap.amountIn.toNat) % 2 ^ 64 ≠ 0 :=
      fun zero => wraps ⟨positive, Nat.dvd_of_mod_eq_zero zero⟩
    have floorMet := facts.floorMet
    have enough := facts.enough
    have received := facts.received
    simp only [wallet] at received
    omega

variable [DecidableEq Pubkey]

theorem floor_protects (direction : Direction) (world : World Pubkey) (user : Pubkey) (cfg : Config Pubkey)
    (feeConfig : FeeConfig Pubkey) (reachable : world.Reachable) (configLoaded : world.config = some cfg)
    (feeConfigLoaded : world.feeConfig = some feeConfig) :
    EverySwap world user (direction.Rewarded user) direction ↔
      direction.Refuses cfg feeConfig (world.ledger.balance (transient user (direction.mintIn cfg))) ∨
      direction.Protects cfg
        (feeConfig.netOf (world.ledger.balance (transient user (direction.mintIn cfg)))) := by
  have formed := reachable_wellFormed world reachable
  constructor
  next =>
    intro every
    by_contra exposed
    simp only [not_or] at exposed
    obtain ⟨granted, unprotected⟩ := exposed
    obtain ⟨large, zero⟩ : 10000 ≤ direction.reference cfg
          (feeConfig.netOf (world.ledger.balance (transient user (direction.mintIn cfg)))) ∧
        direction.exactFloor cfg
          (feeConfig.netOf (world.ledger.balance (transient user (direction.mintIn cfg)))) % 2 ^ 64 = 0 := by
      simp only [Direction.Protects, not_or, Nat.not_lt] at unprotected
      refine ⟨unprotected.1, ?_⟩
      by_cases full : cfg.maxSlippageBps.toNat = 10000
      next => rw [direction.exactFloor_full cfg _ full, Nat.zero_mod]
      next =>
        obtain ⟨-, multiple⟩ := Classical.not_not.mp fun whole => unprotected.2 ⟨full, whole⟩
        exact Nat.mod_eq_zero_of_dvd multiple
    have zero' : (0 : UInt64).toNat = 0 := rfl
    -- The fee may land at the destination, and the route then takes it back from an account that was handed over.
    have rebated := rebate_le user (direction.mintIn cfg) (direction.mintOut cfg) feeConfig.destination
      (feeConfig.feeOf (world.ledger.balance (transient user (direction.mintIn cfg))))
    have fee := feeOf_le feeConfig (formed.feeConfig feeConfig feeConfigLoaded)
      (world.ledger.balance (transient user (direction.mintIn cfg)))
    have held := Ledger.balance_lt world.ledger (transient user (direction.mintIn cfg))
    obtain ⟨swap, transients, facts, played, value, rewarded⟩ := everySwap_rogue world user cfg feeConfig formed
      configLoaded feeConfigLoaded _ direction every granted 0 0 0 (fun _ => ⟨rfl, rfl⟩) (Nat.zero_le _)
      (Nat.zero_le _) (Ledger.balance_lt _ _) (by rw [zero, zero']) true (.inr ⟨rfl, by omega⟩)
    obtain ⟨-, net⟩ := gain_received direction user cfg feeConfig swap facts
    have input := facts.input.trans (transients _)
    have gained := rewarded (by rwa [net, input])
    have destBefore := played.destBefore
    have destAfter := played.destAfter
    simp only [wallet] at destBefore destAfter
    omega
  next =>
    intro safe
    apply everySwap_sound world user cfg feeConfig formed configLoaded feeConfigLoaded
    intro swap transients facts
    have input := facts.input.trans (transients _)
    rcases safe with refused | protects
    next =>
      have granted := facts.granted
      rw [transients] at granted
      exact absurd refused granted
    next =>
      rw [← input] at protects
      exact rewarded_of_protects direction user cfg feeConfig swap (formed.config cfg configLoaded) facts protects

section Sample

theorem floor_protects_dollar :
    EverySwap (Terms.dollar.deployed (Rogue.buyer.ledger Ledger.empty 20000 0).accounts) Terms.user
      (Direction.buy.Rewarded Terms.user) .buy :=
  (floor_protects .buy _ Terms.user Terms.dollar.config Terms.dollar.feeConfig (Terms.deployed_reachable _ _)
    (Terms.deployed_config _ _ Terms.dollar_acceptable)
    (Terms.deployed_feeConfig _ _ Terms.dollar_acceptable)).mpr (.inr (.inr ⟨by decide, by decide⟩))

-- The admin of the deployment sets the slippage to 10000 bps.
def unprotected : World Address :=
  (Terms.dollar.deployed (Rogue.buyer.ledger Ledger.empty 20000 0).accounts).run
    [.call (.setParams (Address.context ⟨Terms.admin, .config⟩ [20]) 1000000 10000)]

-- 20000 units are swapped for nothing.
theorem floor_switched_off :
    ¬ ∀ world' event, executeBuy unprotected (Rogue.buyer.context (Rogue.buyer.buyAccounts Terms.swapProgram)) 0 []
        (Rogue.buyer.venue 0 0 0) = .ok (world', event) →
      10000 ≤ (event.amountIn.toNat - event.fee.toNat) * 10 ^ 6 / 1000000 →
      unprotected.ledger.balance (wallet Terms.user Terms.targetMint) <
        world'.ledger.balance (wallet Terms.user Terms.targetMint) := by
  intro always
  have before : unprotected.ledger.balance (wallet Terms.user Terms.targetMint) = 0 := by decide
  have after : (executeBuy unprotected (Rogue.buyer.context (Rogue.buyer.buyAccounts Terms.swapProgram)) 0 []
      (Rogue.buyer.venue 0 0 0)).map (fun result => (result.2.amountIn, result.2.fee,
        result.1.ledger.balance (wallet Terms.user Terms.targetMint))) = .ok (20000, 0, 0) := by decide
  obtain ⟨⟨world', event⟩, bought, value⟩ := (map_ok _ _ _).mp after
  simp only [Prod.mk.injEq] at value
  obtain ⟨input, fee, nothing⟩ := value
  have large : 10000 ≤ (event.amountIn.toNat - event.fee.toNat) * 10 ^ 6 / 1000000 := by
    rw [input, fee]
    decide
  have gained := always world' event bought large
  omega

end Sample

end RecurringBuy
