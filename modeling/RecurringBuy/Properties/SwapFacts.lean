import RecurringBuy.Program.Step

set_option autoImplicit false

namespace RecurringBuy

open Checked SplToken ProgramAddress Rounding

variable {Pubkey : Type}

section Addresses

variable [ProgramAddress Pubkey]

def wallet (user mint : Pubkey) : Pubkey := AssociatedAddress.associated user mint

def transient (user mint : Pubkey) : Pubkey := AssociatedAddress.associated (buyAuthority user) mint

/-- The user's canonical account for `mint` with that of the transient PDA. -/
def holding (ledger : Ledger Pubkey) (user mint : Pubkey) : Nat :=
  ledger.balance (wallet user mint) + ledger.balance (transient user mint)

theorem keypair_ne_wallet (i : Nat) (user mint : Pubkey) : keypair i ≠ wallet user mint :=
  keypair_ne_associated i user mint

theorem keypair_ne_transient (i : Nat) (user mint : Pubkey) : keypair i ≠ transient user mint :=
  keypair_ne_associated i (buyAuthority user) mint

theorem transient_ne_wallet (user mint mint' : Pubkey) : transient user mint ≠ wallet user mint' :=
  fun same => buyAuthority_ne_self user (AssociatedAddress.associated_inj _ _ _ _ same).1

theorem transient_mint (user mint mint' : Pubkey) (same : transient user mint = transient user mint') :
    mint = mint' :=
  (AssociatedAddress.associated_inj _ _ _ _ same).2

theorem keypair_ne (i j : Nat) (different : i ≠ j) : (keypair i : Pubkey) ≠ keypair j :=
  fun same => different (keypair_inj i j same)

end Addresses

section Quantities

-- Every `execute_buy` and every `execute_sell` is refused.
def Config.Halted (cfg : Config Pubkey) : Prop :=
  cfg.paused = true ∨ cfg.swapProgramCount = 0 ∨ cfg.priceRefMicros = 0

def FeeConfig.feeOf (feeConfig : FeeConfig Pubkey) (amountIn : Nat) : Nat :=
  amountIn * feeConfig.feeBps.toNat / 10000

def FeeConfig.netOf (feeConfig : FeeConfig Pubkey) (amountIn : Nat) : Nat :=
  amountIn - feeConfig.feeOf amountIn

-- The two floors before they are narrowed to 64 bits.
def Config.exactBuyFloor (cfg : Config Pubkey) (netIn : Nat) : Nat :=
  discounted (netIn * 10 ^ cfg.targetDecimals.toNat) cfg.priceRefMicros.toNat
    (10000 - cfg.maxSlippageBps.toNat) 10000

def Config.exactSellFloor (cfg : Config Pubkey) (netIn : Nat) : Nat :=
  discounted (netIn * cfg.priceRefMicros.toNat) (10 ^ cfg.targetDecimals.toNat)
    (10000 - cfg.maxSlippageBps.toNat) 10000

def Config.SellOverflows (cfg : Config Pubkey) (netIn : Nat) : Prop :=
  2 ^ 128 ≤ netIn * cfg.priceRefMicros.toNat / 10 ^ cfg.targetDecimals.toNat *
    (10000 - cfg.maxSlippageBps.toNat)

inductive Direction where
  | buy
  | sell

namespace Direction

def mintIn (cfg : Config Pubkey) : Direction → Pubkey
  | buy => cfg.usdcMint
  | sell => cfg.targetMint

def mintOut (cfg : Config Pubkey) : Direction → Pubkey
  | buy => cfg.targetMint
  | sell => cfg.usdcMint

def exactFloor (cfg : Config Pubkey) (netIn : Nat) : Direction → Nat
  | buy => cfg.exactBuyFloor netIn
  | sell => cfg.exactSellFloor netIn

def Overflows (cfg : Config Pubkey) (netIn : Nat) : Direction → Prop
  | buy => False
  | sell => cfg.SellOverflows netIn

/-- No swap of `amountIn` is accepted, whatever the accounts, the route and the venue. -/
def Refuses (direction : Direction) (cfg : Config Pubkey) (feeConfig : FeeConfig Pubkey) (amountIn : Nat) : Prop :=
  cfg.Halted ∨ amountIn = 0 ∨ direction.Overflows cfg (feeConfig.netOf amountIn)

end Direction

end Quantities

section Accepted

theorem whitelisted_listed [DecidableEq Pubkey] (cfg : Config Pubkey) (programId : Pubkey)
    (whitelisted : cfg.isWhitelisted programId = .ok true) : cfg.swapProgramCount ≠ 0 := by
  intro zero
  have none : cfg.swapProgramCount.toNat = 0 := by rw [zero]; rfl
  simp only [Config.isWhitelisted, bind_ok, require_ok, exists_const, pure_ok, none, List.take_zero] at whitelisted
  simp at whitelisted

theorem not_halted [DecidableEq Pubkey] (cfg : Config Pubkey) (programId : Pubkey) (running : cfg.paused = false)
    (whitelisted : cfg.isWhitelisted programId = .ok true) (priced : 0 < cfg.priceRefMicros.toNat) :
    ¬ cfg.Halted := by
  intro halted
  rcases halted with paused | unlisted | unpriced
  next => simp [running] at paused
  next => exact whitelisted_listed _ _ whitelisted unlisted
  next =>
    rw [unpriced] at priced
    exact absurd priced (by decide)

variable [ProgramAddress Pubkey]

theorem feeOf_le (feeConfig : FeeConfig Pubkey) (formed : feeConfig.WellFormed) (amountIn : Nat) :
    feeConfig.feeOf amountIn ≤ amountIn / 100 := by
  have capped := formed.capped
  have scaled : amountIn * feeConfig.feeBps.toNat ≤ amountIn * 100 := Nat.mul_le_mul_left _ capped
  unfold FeeConfig.feeOf
  omega

theorem fee_total (feeConfig : FeeConfig Pubkey) (formed : feeConfig.WellFormed) (amountIn : UInt64) :
    ∃ fee, executionFee amountIn feeConfig.feeBps = .ok fee ∧ fee.toNat = feeConfig.feeOf amountIn.toNat := by
  have small := amountIn.toNat_lt
  have least := feeOf_le feeConfig formed amountIn.toNat
  have value : (UInt64.ofNat (feeConfig.feeOf amountIn.toNat)).toNat = feeConfig.feeOf amountIn.toNat := by
    rw [UInt64.toNat_ofNat', Nat.mod_eq_of_lt (by omega)]
  exact ⟨_, (executionFee_ok _ _ _ formed.capped).mpr value, value⟩

theorem net_value (feeConfig : FeeConfig Pubkey) (formed : feeConfig.WellFormed) (amountIn fee netIn : UInt64)
    (feeValue : executionFee amountIn feeConfig.feeBps = .ok fee) (net : netIn.toNat + fee.toNat = amountIn.toNat) :
    fee.toNat = feeConfig.feeOf amountIn.toNat ∧ netIn.toNat = feeConfig.netOf amountIn.toNat := by
  have value : fee.toNat = feeConfig.feeOf amountIn.toNat := (executionFee_ok _ _ _ formed.capped).mp feeValue
  refine ⟨value, ?_⟩
  unfold FeeConfig.netOf
  omega

/-- An accepted swap: the ledgers around it, the argument `min_out` and the amounts of its event. -/
structure Swap (Pubkey : Type) where
  before : Ledger Pubkey
  after : Ledger Pubkey
  minOut : UInt64
  amountIn : UInt64
  fee : UInt64
  amountOut : UInt64

structure SwapFacts (direction : Direction) (user : Pubkey) (cfg : Config Pubkey) (feeConfig : FeeConfig Pubkey)
    (swap : Swap Pubkey) : Prop where
  granted : ¬ direction.Refuses cfg feeConfig (swap.before.balance (transient user (direction.mintIn cfg)))
  input : swap.amountIn.toNat = swap.before.balance (transient user (direction.mintIn cfg))
  charged : swap.fee.toNat = feeConfig.feeOf swap.amountIn.toNat
  floorMet : direction.exactFloor cfg (feeConfig.netOf swap.amountIn.toNat) % 2 ^ 64 ≤ swap.minOut.toNat
  drained : swap.after.balance (transient user (direction.mintIn cfg)) = 0
  enough : swap.minOut.toNat ≤ swap.amountOut.toNat
  received : swap.after.balance (wallet user (direction.mintOut cfg)) =
    swap.before.balance (wallet user (direction.mintOut cfg)) + swap.amountOut.toNat

variable [DecidableEq Pubkey]

theorem settlement_balances (ledger skimmed settled : Ledger Pubkey) (signers : List Pubkey)
    (remainingAccounts : List (AccountInfo Pubkey)) (leg : Leg Pubkey) (fee minOut out : UInt64)
    (swapData : List UInt8) (venue : Venue Pubkey) (dest : TokenAccount Pubkey)
    (present : ledger.accounts leg.destination = some dest)
    (settlement : Settlement ledger skimmed settled signers remainingAccounts leg fee dest.amount minOut out
      swapData venue) :
    settled.balance leg.transient = 0 ∧
      settled.balance leg.destination = ledger.balance leg.destination + out.toNat := by
  obtain ⟨emptied, atSource, zero⟩ := settlement.drained
  obtain ⟨credited, atDest, gained⟩ := settlement.received
  constructor
  next =>
    rw [Ledger.balance_some _ _ _ atSource, zero]
    rfl
  next =>
    rw [Ledger.balance_some _ _ _ atDest, Ledger.balance_some _ _ _ present]
    omega

theorem executeBuy_facts (world world' : World Pubkey) (ctx : Context Pubkey (ExecuteBuy Pubkey))
    (minOut : UInt64) (swapData : List UInt8) (venue : Venue Pubkey) (event : BuyExecuted Pubkey)
    (cfg : Config Pubkey) (feeConfig : FeeConfig Pubkey) (formed : cfg.WellFormed)
    (feeFormed : feeConfig.WellFormed) (configLoaded : world.config = some cfg)
    (feeConfigLoaded : world.feeConfig = some feeConfig)
    (accepted : executeBuy world ctx minOut swapData venue = .ok (world', event)) :
    SwapFacts .buy ctx.accounts.user cfg feeConfig
      ⟨world.ledger, world'.ledger, minOut, event.amountIn, event.fee, event.amountOut⟩ := by
  obtain ⟨cfg', feeConfig', source, dest, fee, netIn, floor, out, skimmed, course, rfl⟩ :=
    (executeBuy_ok _ _ _ _ _ _ _).mp accepted
  obtain rfl : cfg' = cfg := Option.some.inj (course.configLoaded.symm.trans configLoaded)
  obtain rfl : feeConfig' = feeConfig := Option.some.inj (course.feeConfigLoaded.symm.trans feeConfigLoaded)
  have sourceAddress : ctx.accounts.transientUsdc = transient ctx.accounts.user cfg'.usdcMint := by
    rw [course.transientAddress, course.authoritySeeds, transient]
  have destAddress : ctx.accounts.destAta = wallet ctx.accounts.user cfg'.targetMint := course.destAddress
  have sourceBalance := Ledger.balance_some _ _ _ course.transientAccount
  obtain ⟨feeValue, net⟩ := net_value _ feeFormed _ _ _ course.feeValue course.net
  obtain ⟨-, floorValue⟩ := (priceFloor_ok _ _ _ _ _ formed.decimals formed.slippage).mp course.floorValue
  obtain ⟨drained, received⟩ := settlement_balances _ _ _ _ _ _ _ _ _ _ _ _ course.destAccount course.settlement
  simp only [ExecuteBuy.leg, sourceAddress, destAddress] at sourceBalance drained received
  constructor
  case granted =>
    intro refused
    rcases refused with halted | nothing | never
    next => exact not_halted _ _ course.running course.whitelisted course.priced halted
    next => exact absurd (sourceBalance.symm.trans nothing) course.pulled.ne'
    next => exact never
  case input => exact sourceBalance.symm
  case charged => exact feeValue
  case floorMet =>
    have met := course.floorMet
    rw [floorValue, net] at met
    exact met
  case drained => exact drained
  case enough => exact course.settlement.enough
  case received => exact received

theorem executeSell_facts (world world' : World Pubkey) (ctx : Context Pubkey (ExecuteSell Pubkey))
    (minOut : UInt64) (swapData : List UInt8) (venue : Venue Pubkey) (event : SellExecuted Pubkey)
    (cfg : Config Pubkey) (feeConfig : FeeConfig Pubkey) (formed : cfg.WellFormed)
    (feeFormed : feeConfig.WellFormed) (configLoaded : world.config = some cfg)
    (feeConfigLoaded : world.feeConfig = some feeConfig)
    (accepted : executeSell world ctx minOut swapData venue = .ok (world', event)) :
    SwapFacts .sell ctx.accounts.user cfg feeConfig
      ⟨world.ledger, world'.ledger, minOut, event.amountIn, event.fee, event.amountOut⟩ := by
  obtain ⟨cfg', feeConfig', plan, advanced, source, pot, dest, fee, netIn, floor, out, skimmed, course, rfl⟩ :=
    (executeSell_ok _ _ _ _ _ _ _).mp accepted
  obtain rfl : cfg' = cfg := Option.some.inj (course.configLoaded.symm.trans configLoaded)
  obtain rfl : feeConfig' = feeConfig := Option.some.inj (course.feeConfigLoaded.symm.trans feeConfigLoaded)
  have sourceAddress : ctx.accounts.transientTarget = transient ctx.accounts.user cfg'.targetMint := by
    rw [course.transientAddress, course.authoritySeeds, transient]
  have destAddress : ctx.accounts.destUsdc = wallet ctx.accounts.user cfg'.usdcMint := course.destAddress
  have sourceBalance := Ledger.balance_some _ _ _ course.transientAccount
  obtain ⟨feeValue, net⟩ := net_value _ feeFormed _ _ _ course.feeValue course.net
  obtain ⟨inRange, floorValue⟩ := (sellFloor_ok _ _ _ _ _ formed.decimals formed.slippage).mp course.floorValue
  obtain ⟨drained, received⟩ := settlement_balances _ _ _ _ _ _ _ _ _ _ _ _ course.destAccount course.settlement
  simp only [ExecuteSell.leg, sourceAddress, destAddress] at sourceBalance drained received
  constructor
  case granted =>
    intro refused
    rcases refused with halted | nothing | overflows
    next => exact not_halted _ _ course.running course.whitelisted course.priced halted
    next => exact absurd (sourceBalance.symm.trans nothing) course.pulled.ne'
    next =>
      have amount : source.amount.toNat = world.ledger.balance (transient ctx.accounts.user cfg'.targetMint) :=
        sourceBalance.symm
      rw [net, amount] at inRange
      exact Nat.not_le_of_lt inRange overflows
  case input => exact sourceBalance.symm
  case charged => exact feeValue
  case floorMet =>
    have met := course.floorMet
    rw [floorValue, net] at met
    exact met
  case drained => exact drained
  case enough => exact course.settlement.enough
  case received => exact received

end Accepted

end RecurringBuy
