import RecurringBuy.Keeper.Funding
import RecurringBuy.Keeper.Service

set_option autoImplicit false

namespace RecurringBuy

open Checked SplToken ProgramAddress

section Acceptance

variable {Pubkey : Type} [DecidableEq Pubkey] [ProgramAddress Pubkey] (daemon : Daemon Pubkey)
  (world : World Pubkey) (cfg : Config Pubkey) (feeConfig : FeeConfig Pubkey)

theorem composeBuy_leg (loaded : world.feeConfig = some feeConfig) (user : Pubkey) (avail : Int) :
    (daemon.composeBuy world user avail).ctx.accounts.leg =
      daemon.leg user daemon.usdc daemon.target feeConfig.destination := by
  simp [Daemon.composeBuy, Daemon.context, ExecuteBuy.leg, Daemon.leg, loadFeeConfig_some world feeConfig loaded]

theorem composeBuy_data (loaded : world.feeConfig = some feeConfig) (user : Pubkey) (avail : Int)
    (amountIn fee netIn floor : UInt64) (agreement : Agreement daemon cfg feeConfig amountIn fee netIn floor)
    (total : avail + world.ledger.balance (transient user daemon.usdc) = amountIn.toNat) :
    (daemon.composeBuy world user avail).data =
      Daemon.execData daemon.executeBuy floor.toNat (daemon.mockSwapData netIn.toNat netIn.toNat) := by
  simp only [Daemon.composeBuy, loadFeeConfig_some world feeConfig loaded, total, agreement.daemonNet,
    agreement.daemonFloor]

theorem crankBuy_some (del : Delegation Pubkey) (now : Number) (avail : Int)
    (allowed : available del now = some avail) (positive : 0 < avail) :
    daemon.crankBuy world del now = some (daemon.composeBuy world del.delegator avail) := by
  simp [Daemon.crankBuy, allowed, guard, positive]

theorem composeBuy_course (serves : daemon.Serves world cfg feeConfig) (user : Pubkey) (avail : Int)
    (amountIn fee netIn floor : UInt64) (agreement : Agreement daemon cfg feeConfig amountIn fee netIn floor)
    (funded : Ledger Pubkey)
    (found : Funded daemon funded user daemon.usdc daemon.target feeConfig.destination daemon.poolUsdc daemon.poolTarget
      amountIn.toNat)
    (liquid : netIn.toNat ≤ funded.balance daemon.poolTarget) :
    ∃ settled out, executeBuy { world with ledger := funded } (daemon.composeBuy world user avail).ctx floor
        (daemon.mockSwapData netIn.toNat netIn.toNat) daemon.mockSwap.venue =
          .ok ({ world with ledger := settled },
            { user := user, amountIn := amountIn, amountOut := out, fee := fee
              venue := daemon.mockSwap.programId }) ∧
      settled.balance (transient user daemon.usdc) = 0 ∧ floor.toNat ≤ out.toNat := by
  have formed := reachable_wellFormed world serves.reachable
  have net := agreement.net
  have netPositive := agreement.netPositive
  obtain ⟨source, atSource, sourceMint, -⟩ := found.input
  obtain ⟨dest, atDest, destMint⟩ := found.dest
  obtain ⟨feeAccount, atFee, -⟩ := found.fee
  have amount := Ledger.amount_of_balance _ _ _ amountIn atSource found.amount
  obtain ⟨skimmed, settled, out, settlement, drained⟩ := funded_settles daemon user daemon.usdc daemon.target
    feeConfig.destination daemon.poolUsdc daemon.poolTarget funded amountIn.toNat fee netIn dest.amount floor found net
    liquid (Ledger.balance_some _ _ _ atDest).symm agreement.floorBelow
  refine ⟨settled, out, ?_, drained, settlement.enough⟩
  apply (executeBuy_ok _ _ _ _ _ _ _).mpr
  refine ⟨cfg, feeConfig, source, dest, fee, netIn, floor, out, skimmed, ?_, by rw [amount]; rfl⟩
  constructor
  case keeper => exact List.mem_singleton_self _
  case configLoaded => exact serves.configLoaded
  case configSeeds => exact ⟨rfl, (formed.config cfg serves.configLoaded).bump⟩
  case authoritySeeds => rfl
  case feeConfigLoaded => exact serves.feeConfigLoaded
  case feeConfigSeeds => exact ⟨rfl, (formed.feeConfig feeConfig serves.feeConfigLoaded).bump⟩
  case transientAccount => exact atSource
  case destAccount => exact atDest
  case feeAccount =>
    have address : (daemon.composeBuy world user avail).ctx.accounts.feeAta = wallet feeConfig.destination daemon.usdc :=
      congrArg Leg.feeAta (composeBuy_leg daemon world feeConfig serves.feeConfigLoaded user avail)
    simp [address, atFee]
  case running => exact serves.running
  case destMint => rw [destMint, serves.targetMint]
  case destAddress => rw [← serves.targetMint]; rfl
  case transientMint => rw [sourceMint, serves.usdcMint]
  case transientAddress => rw [← serves.usdcMint]; rfl
  case pulled => rw [amount]; omega
  case whitelisted => exact serves.whitelisted
  case feeValue => rw [amount]; exact agreement.feeValue
  case net => rw [amount]; exact net
  case netPositive => exact netPositive
  case feeAddress =>
    rw [← serves.usdcMint]
    exact congrArg Leg.feeAta (composeBuy_leg daemon world feeConfig serves.feeConfigLoaded user avail)
  case priced => rw [serves.price]; decide
  case floorValue => exact agreement.buyFloor
  case floorMet => exact le_rfl
  case unchanged => rfl
  case settlement =>
    rw [composeBuy_leg daemon world feeConfig serves.feeConfigLoaded user avail]
    exact settlement

theorem crankBuy_accepted (serves : daemon.Serves world cfg feeConfig) (rail : Rail Pubkey) (del : Delegation Pubkey)
    (now : Number) (avail : Int) (allowed : available del now = some avail) (positive : 0 < avail)
    (fundable : Fundable daemon del.delegator daemon.usdc daemon.target feeConfig.destination daemon.poolUsdc
      daemon.poolTarget world.ledger)
    (pays : rail.Pays del world.ledger (wallet del.delegator daemon.usdc) (transient del.delegator daemon.usdc)
      daemon.usdc (UInt64.ofNat avail.toNat))
    (liquid : avail + world.ledger.balance (transient del.delegator daemon.usdc) -
      feeOn (avail + world.ledger.balance (transient del.delegator daemon.usdc)) feeConfig.feeBps.toNat ≤
        world.ledger.balance daemon.poolTarget) :
    ∃ crank world' event netIn floor,
      daemon.crankBuy world del now = some crank ∧
      crank.data = Daemon.execData daemon.executeBuy floor.toNat (daemon.mockSwapData netIn.toNat netIn.toNat) ∧
      daemon.submitBuy crank rail del world = some (world', event) ∧
      (event.amountIn.toNat : Int) = avail + world.ledger.balance (transient del.delegator daemon.usdc) ∧
      Agreement daemon cfg feeConfig event.amountIn event.fee netIn floor ∧
      world'.ledger.balance (transient del.delegator daemon.usdc) = 0 ∧ floor.toNat ≤ event.amountOut.toNat := by
  obtain ⟨amount, rfl, small⟩ := available_nat del now avail allowed
  obtain ⟨funded, ran, found, poolKept, -, -⟩ := fundable_funds daemon del.delegator daemon.usdc daemon.target
    feeConfig.destination daemon.poolUsdc daemon.poolTarget world.ledger fundable rail del amount small fun _ => pays
  let residue := world.ledger.balance (transient del.delegator daemon.usdc)
  -- The transient account holds the sum, so it is a `u64`.
  have fits : residue + amount < 2 ^ 64 := by
    rw [← found.amount]
    exact Ledger.balance_lt _ _
  let amountIn := UInt64.ofNat (residue + amount)
  have value : amountIn.toNat = residue + amount := ofNat_toNat _ fits
  have total : (amount : Int) + residue = amountIn.toNat := by omega
  obtain ⟨fee, netIn, floor, agreement⟩ := serves_agreement daemon world cfg feeConfig serves amountIn (by omega)
  rw [total, agreement.daemonNet] at liquid
  rw [← value] at found
  obtain ⟨settled, out, bought, drained, enough⟩ := composeBuy_course daemon world cfg feeConfig serves del.delegator
    amount amountIn fee netIn floor agreement funded found (by omega)
  have data := composeBuy_data daemon world cfg feeConfig serves.feeConfigLoaded del.delegator amount amountIn fee netIn
    floor agreement total
  rw [if_pos (show 0 < amount by omega)] at ran
  have short := mockSwapData_short daemon netIn.toNat netIn.toNat
  have submitted := (submitBuy_some daemon rail del world funded floor _ _ ran data short _).mpr bought
  exact ⟨_, _, _, netIn, floor, crankBuy_some daemon world del now amount allowed positive, data, submitted,
    total.symm, agreement, drained, enough⟩

end Acceptance

section Sample

open Served

def weekly : Delegation Address :=
  { delegator := Terms.user, amountPerPeriod := 25000, amountPulledInPeriod := 5000, currentPeriodStartTs := 0
    periodLengthS := 604800 }

-- Of 25000 units, 5000 are pulled already; 500 stand in the transient account.
theorem crankBuy_accepted_weekly :
    ∃ crank world' event netIn floor,
      daemon.crankBuy (world .buy 1000000 500 5000000) weekly 100 = some crank ∧
      crank.data = Daemon.execData daemon.executeBuy floor (daemon.mockSwapData netIn netIn) ∧
      daemon.submitBuy crank (delegateRail subscriptionAuthority) weekly (world .buy 1000000 500 5000000) =
        some (world', event) ∧
      event.amountIn.toNat = 20500 ∧ event.fee.toNat = 102 := by
  have allowed : available weekly 100 = some 20000 := by decide +kernel
  have residue : (world .buy 1000000 500 5000000).ledger.balance (transient weekly.delegator daemon.usdc) = 500 := by
    decide
  have pool : (world .buy 1000000 500 5000000).ledger.balance daemon.poolTarget = 5000000 := by decide
  have pays := pays .buy 1000000 500 5000000 weekly (transient weekly.delegator daemon.usdc)
    (UInt64.ofNat (20000 : Int).toNat) (by decide) (by decide)
  obtain ⟨crank, world', event, netIn, floor, sent, data, submitted, amountIn, agreement, -⟩ := crankBuy_accepted daemon
    (world .buy 1000000 500 5000000) Served.terms.config Served.terms.feeConfig (serves .buy 1000000 500 5000000)
    (delegateRail subscriptionAuthority) weekly 100 20000 allowed (by decide)
    (fundable .buy 1000000 500 5000000 (by decide)) pays (by rw [residue, pool]; decide)
  rw [residue] at amountIn
  have value : event.amountIn.toNat = 20500 := by omega
  have fee := agreement.daemonFee
  rw [value, show feeOn (20500 : Nat) (Served.terms.feeConfig.feeBps.toNat : Nat) = 102 by decide] at fee
  exact ⟨crank, world', event, netIn.toNat, floor.toNat, sent, data, submitted, value, by omega⟩

end Sample

end RecurringBuy
