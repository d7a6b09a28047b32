import RecurringBuy.Keeper.Service
import RecurringBuy.Program.History

set_option autoImplicit false

namespace RecurringBuy

open Checked SplToken ProgramAddress

section Conditions

variable {Pubkey : Type}

-- Every time the daemon reads is a number. The period of a plan always is.
structure ExactTimes (plan : SellPlan Pubkey) (now : Int64) : Prop where
  endTs : Number.Exact plan.endTs.toInt
  nextDueTs : Number.Exact plan.nextDueTs.toInt
  now : Number.Exact now.toInt

-- The number of periods with both roundings of JavaScript.
def countedPeriods (plan : SellPlan Pubkey) (now : Int64) : Int :=
  max ⌊Binary64.round (Binary64.round (plan.endTs.toInt - now.toInt) / plan.periodSecs.toInt)⌋ 1

/-- When a sell goes through that draws on `pot` under an allowance of `avail`. -/
structure SellFits (plan : SellPlan Pubkey) (now : Int64) (pot residue : Nat) (avail : Int) : Prop where
  within : ∀ periods, plan.remainingPeriods now = .ok periods → residue ≤ (pot + residue) / periods.toInt.toNat
  -- Where rounding takes a period away, the allowance or the division has to make up for it.
  counted : ∀ periods, plan.remainingPeriods now = .ok periods →
    avail + residue ≤ ((pot + residue) / periods.toInt.toNat : Nat) ∨
      (pot + residue) / (countedPeriods plan now).toNat ≤ (pot + residue) / periods.toInt.toNat
  next : plan.NextFits now

variable (plan : SellPlan Pubkey) (now : Int64)

theorem nextFits_near (formed : plan.WellFormed) (early : -2 ^ 53 ≤ plan.nextDueTs.toInt) (late : now.toInt ≤ 2 ^ 53)
    (due : plan.nextDueTs.toInt ≤ now.toInt) : plan.NextFits now := by
  have least := formed.minPeriod
  have most := formed.maxPeriod
  let elapsed := now.toInt - plan.nextDueTs.toInt
  have whole : elapsed / plan.periodSecs.toInt * plan.periodSecs.toInt ≤ elapsed := Int.ediv_mul_le _ (by omega)
  have jump : (elapsed / plan.periodSecs.toInt + 1) * plan.periodSecs.toInt =
      elapsed / plan.periodSecs.toInt * plan.periodSecs.toInt + plan.periodSecs.toInt := by ring
  refine ⟨by omega, ?_, ?_⟩
  next => exact jump.trans_lt (by omega)
  next =>
    have landing : plan.nextDueTs.toInt + (elapsed / plan.periodSecs.toInt + 1) * plan.periodSecs.toInt < 2 ^ 63 := by
      rw [jump]
      omega
    exact landing

theorem countedPeriods_near (formed : plan.WellFormed) (near : plan.endTs.toInt - now.toInt ≤ 2 ^ 53)
    (periods : Int64) (left : plan.remainingPeriods now = .ok periods) : countedPeriods plan now = periods.toInt := by
  have positive := wellFormed_positive plan formed
  have value := (remainingPeriods_of_pos plan now periods positive).mp left
  have counted := daemon_periods_near plan.endTs.toInt plan.periodSecs.toInt now.toInt positive near
  rw [daemon_periods _ _ _ (by exact_mod_cast positive), Option.some.injEq] at counted
  rw [value, min_eq_left (by omega), ← counted]
  rfl

theorem sellFits_near (formed : plan.WellFormed) (pot residue : Nat) (avail : Int)
    (due : plan.nextDueTs.toInt ≤ now.toInt) (near : plan.endTs.toInt - now.toInt ≤ 2 ^ 53)
    (early : -2 ^ 53 ≤ plan.nextDueTs.toInt) (late : now.toInt ≤ 2 ^ 53) :
    SellFits plan now pot residue avail ↔
      ∀ periods, plan.remainingPeriods now = .ok periods → residue ≤ (pot + residue) / periods.toInt.toNat := by
  constructor
  next => exact SellFits.within
  next =>
    intro within
    refine ⟨within, ?_, nextFits_near plan now formed early late due⟩
    intro periods left
    right
    rw [countedPeriods_near plan now formed near periods left]

theorem pull_capped (formed : plan.WellFormed) (pot residue : Nat) (avail pull : Int) (left amountIn : UInt64)
    (allowed : 0 ≤ avail)
    (cut : pull = min avail ((pot + residue) / (countedPeriods plan now).toNat - residue : Nat))
    (total : (amountIn.toNat : Int) = pull + residue) (rest : left.toNat + amountIn.toNat = pot + residue)
    (due : plan.nextDueTs.toInt ≤ now.toInt) :
    (plan.checkCap left amountIn now = .ok () ∧ ∃ advanced, plan.advance now = .ok advanced) ↔
      SellFits plan now pot residue avail := by
  obtain ⟨periods, remaining, -⟩ := remainingPeriods_exists plan now (wellFormed_positive plan formed)
  rw [checkCap_ok plan left amountIn now formed, rest, advance_exists plan now (wellFormed_positive plan formed) due]
  constructor
  next =>
    intro accepted
    obtain ⟨⟨_, again, share⟩, next⟩ := accepted
    obtain rfl := Except.ok.inj (remaining.symm.trans again)
    refine ⟨?_, ?_, next⟩
    next =>
      intro periods' remaining'
      obtain rfl := Except.ok.inj (remaining.symm.trans remaining')
      omega
    next =>
      intro periods' remaining'
      obtain rfl := Except.ok.inj (remaining.symm.trans remaining')
      omega
  next =>
    intro fits
    have within := fits.within periods remaining
    have counted := fits.counted periods remaining
    exact ⟨⟨periods, remaining, by omega⟩, fits.next⟩

end Conditions

section Acceptance

variable {Pubkey : Type} [DecidableEq Pubkey] [ProgramAddress Pubkey] (daemon : Daemon Pubkey)
  (world : World Pubkey) (cfg : Config Pubkey) (feeConfig : FeeConfig Pubkey)

theorem composeSell_leg (loaded : world.feeConfig = some feeConfig) (user : Pubkey) (pull : Int) :
    (daemon.composeSell world user pull).ctx.accounts.leg =
      daemon.leg user daemon.target daemon.usdc feeConfig.destination := by
  simp [Daemon.composeSell, Daemon.context, ExecuteSell.leg, Daemon.leg, loadFeeConfig_some world feeConfig loaded]

theorem composeSell_data (loaded : world.feeConfig = some feeConfig) (user : Pubkey) (pull : Int)
    (amountIn fee netIn floor : UInt64) (agreement : Agreement daemon cfg feeConfig amountIn fee netIn floor)
    (total : pull + world.ledger.balance (transient user daemon.target) = amountIn.toNat) :
    (daemon.composeSell world user pull).data =
      Daemon.execData daemon.executeSell floor.toNat (daemon.mockSwapData netIn.toNat netIn.toNat) := by
  simp only [Daemon.composeSell, loadFeeConfig_some world feeConfig loaded, total, agreement.daemonNet,
    agreement.daemonFloor]

theorem composeSell_accepted_iff (serves : daemon.Serves world cfg feeConfig) (user : Pubkey) (pull : Int)
    (plan : SellPlan Pubkey) (planLoaded : world.sellPlans (sellPlanPda user) = some plan)
    (due : plan.checkDue world.clock = .ok ()) (amountIn fee netIn floor left : UInt64)
    (agreement : Agreement daemon cfg feeConfig amountIn fee netIn floor) (funded : Ledger Pubkey)
    (found : Funded daemon funded user daemon.target daemon.usdc feeConfig.destination daemon.poolTarget daemon.poolUsdc
      amountIn.toNat)
    (pot : OfMint funded (wallet user daemon.target) daemon.target)
    (rest : funded.balance (wallet user daemon.target) = left.toNat)
    (liquid : netIn.toNat ≤ funded.balance daemon.poolUsdc) :
    (∃ result, executeSell { world with ledger := funded } (daemon.composeSell world user pull).ctx floor
        (daemon.mockSwapData netIn.toNat netIn.toNat) daemon.mockSwap.venue = .ok result) ↔
      plan.checkCap left amountIn world.clock = .ok () ∧ ∃ advanced, plan.advance world.clock = .ok advanced := by
  have formed := reachable_wellFormed world serves.reachable
  obtain ⟨owner, bump⟩ := reachable_plan world serves.reachable user plan planLoaded
  have net := agreement.net
  have netPositive := agreement.netPositive
  have leg := composeSell_leg daemon world feeConfig serves.feeConfigLoaded user pull
  obtain ⟨source, atSource, -⟩ := found.input
  obtain ⟨dest, atDest, -⟩ := found.dest
  obtain ⟨feeAccount, atFee, -⟩ := found.fee
  obtain ⟨wallet', atWallet, -⟩ := pot
  have amount := Ledger.amount_of_balance _ _ _ amountIn atSource found.amount
  have kept := Ledger.amount_of_balance _ _ _ left atWallet rest
  constructor
  next =>
    intro accepted
    obtain ⟨⟨world', event⟩, sold⟩ := accepted
    obtain ⟨_, _, plan', advanced, source', wallet'', _, _, _, _, _, _, course, -⟩ :=
      (executeSell_ok _ _ _ _ _ _ _).mp sold
    obtain rfl : plan = plan' := Option.some.inj (planLoaded.symm.trans course.planLoaded)
    obtain rfl : source = source' := Option.some.inj (atSource.symm.trans course.transientAccount)
    obtain rfl : wallet' = wallet'' := Option.some.inj (atWallet.symm.trans course.potAccount)
    have capped := course.capped
    rw [amount, kept] at capped
    exact ⟨capped, advanced, course.advancedValue⟩
  next =>
    intro conditions
    obtain ⟨capped, advanced, advancedValue⟩ := conditions
    obtain ⟨skimmed, settled, out, settlement, -⟩ := funded_settles daemon user daemon.target daemon.usdc
      feeConfig.destination daemon.poolTarget daemon.poolUsdc funded amountIn.toNat fee netIn dest.amount floor found
      net liquid (Ledger.balance_some _ _ _ atDest).symm agreement.floorBelow
    refine ⟨({ world with ledger := settled }.setSellPlan (sellPlanPda user) (some advanced),
      { user := user, amountIn := source.amount, amountOut := out, fee := fee, venue := daemon.mockSwap.programId }), ?_⟩
    apply (executeSell_ok _ _ _ _ _ _ _).mpr
    refine ⟨cfg, feeConfig, plan, advanced, source, wallet', dest, fee, netIn, floor, out, skimmed, ?_, rfl⟩
    constructor
    case keeper => exact List.mem_singleton_self _
    case configLoaded => exact serves.configLoaded
    case configSeeds => exact ⟨rfl, (formed.config cfg serves.configLoaded).bump⟩
    case planLoaded => exact planLoaded
    case planSeeds => exact ⟨rfl, bump⟩
    case planOwner => exact owner
    case authoritySeeds => rfl
    case transientAccount => exact atSource
    case potAccount => exact atWallet
    case destAccount => exact atDest
    case feeConfigLoaded => exact serves.feeConfigLoaded
    case feeConfigSeeds => exact ⟨rfl, (formed.feeConfig feeConfig serves.feeConfigLoaded).bump⟩
    case feeAccount =>
      have address : (daemon.composeSell world user pull).ctx.accounts.feeAta =
          wallet feeConfig.destination daemon.target := congrArg Leg.feeAta leg
      simp [address, atFee]
    case running => exact serves.running
    case due => exact due
    case destAddress => rw [← serves.usdcMint]; rfl
    case transientAddress => rw [← serves.targetMint]; rfl
    case potAddress => rw [← serves.targetMint]; rfl
    case pulled => rw [amount]; omega
    case capped => rw [amount, kept]; exact capped
    case whitelisted => exact serves.whitelisted
    case feeValue => rw [amount]; exact agreement.feeValue
    case net => rw [amount]; exact net
    case netPositive => exact netPositive
    case feeAddress =>
      rw [← serves.targetMint]
      exact congrArg Leg.feeAta leg
    case priced => rw [serves.price]; decide
    case floorValue => exact agreement.sellFloor
    case floorMet => exact le_rfl
    case advancedValue => exact advancedValue
    case changed => rfl
    case settlement =>
      rw [leg]
      exact settlement

theorem crankSell_sent (del : Delegation Pubkey) (plan : SellPlan Pubkey)
    (planLoaded : world.sellPlans (sellPlanPda del.delegator) = some plan) (formed : plan.WellFormed)
    (times : ExactTimes plan world.clock) (avail : Int)
    (allowed : available del (.ofBigInt world.clock.toInt) = some avail) (crank : Crank Pubkey (ExecuteSell Pubkey))
    (sent : daemon.crankSell world del (.ofBigInt world.clock.toInt) = some crank) :
    plan.checkDue world.clock = .ok () ∧ ∃ pull,
      pull = min avail ((world.ledger.balance (wallet del.delegator daemon.target) +
        world.ledger.balance (transient del.delegator daemon.target)) / (countedPeriods plan world.clock).toNat -
          world.ledger.balance (transient del.delegator daemon.target) : Nat) ∧
      (0 ≤ pull ∧ pull ≤ world.ledger.balance (wallet del.delegator daemon.target)) ∧
      0 < pull + world.ledger.balance (transient del.delegator daemon.target) ∧
      crank = daemon.composeSell world del.delegator pull := by
  have positive := wellFormed_positive plan formed
  have least := formed.minPeriod
  have most := formed.maxPeriod
  have period : Number.Exact plan.periodSecs.toInt := Binary64.round_int _ (by omega) (by omega)
  have counted : Daemon.periods (.ofBigInt plan.endTs.toInt) (.ofBigInt plan.periodSecs.toInt)
      (.ofBigInt world.clock.toInt) = some (countedPeriods plan world.clock) := by
    rw [times.endTs, period, times.now, daemon_periods _ _ _ (by exact_mod_cast positive)]
    rfl
  have drawn := daemon_draw (world.ledger.balance (wallet del.delegator daemon.target))
    (world.ledger.balance (transient del.delegator daemon.target)) _ _ _ _ (by simp [countedPeriods]) counted
  simp only [Daemon.crankSell, planLoaded, drawn, allowed, Option.bind_eq_bind, Option.bind_some,
    Option.bind_eq_some_iff, Option.guard_eq_some', exists_const, Option.pure_def, Option.some.injEq] at sent
  rw [times.endTs, times.nextDueTs, times.now] at sent
  obtain ⟨⟨unfinished, due⟩, something, rfl⟩ := sent
  obtain ⟨allowance, rfl, -⟩ := available_nat del _ avail allowed
  have share := Nat.div_le_self (world.ledger.balance (wallet del.delegator daemon.target) +
    world.ledger.balance (transient del.delegator daemon.target)) (countedPeriods plan world.clock).toNat
  refine ⟨(checkDue_ok _ _ _).mpr ⟨by exact_mod_cast unfinished, by exact_mod_cast due⟩, _, ?_, ?_, ?_, rfl⟩
  next => split_ifs <;> omega
  next => split_ifs <;> omega
  next => split_ifs at something ⊢ <;> omega

theorem crankSell_asks (serves : daemon.Serves world cfg feeConfig) (del : Delegation Pubkey) (plan : SellPlan Pubkey)
    (planLoaded : world.sellPlans (sellPlanPda del.delegator) = some plan) (times : ExactTimes plan world.clock)
    (avail : Int) (allowed : available del (.ofBigInt world.clock.toInt) = some avail)
    (small : world.ledger.balance (wallet del.delegator daemon.target) +
      world.ledger.balance (transient del.delegator daemon.target) < 2 ^ 64)
    (crank : Crank Pubkey (ExecuteSell Pubkey))
    (sent : daemon.crankSell world del (.ofBigInt world.clock.toInt) = some crank) (minOut netIn : UInt64)
    (data : crank.data =
      Daemon.execData daemon.executeSell minOut.toNat (daemon.mockSwapData netIn.toNat netIn.toNat)) :
    netIn.toNat ≤ world.ledger.balance (wallet del.delegator daemon.target) +
      world.ledger.balance (transient del.delegator daemon.target) := by
  have formed := (reachable_wellFormed world serves.reachable).sellPlans _ _ planLoaded
  obtain ⟨-, pull, -, ⟨nonneg, affordable⟩, something, rfl⟩ :=
    crankSell_sent daemon world del plan planLoaded formed times avail allowed crank sent
  let amountIn := UInt64.ofNat (pull + world.ledger.balance (transient del.delegator daemon.target)).toNat
  have value : amountIn.toNat = (pull + world.ledger.balance (transient del.delegator daemon.target)).toNat :=
    ofNat_toNat _ (by omega)
  obtain ⟨fee, net, floor, agreement⟩ := serves_agreement daemon world cfg feeConfig serves amountIn (by omega)
  have composed := composeSell_data daemon world cfg feeConfig serves.feeConfigLoaded del.delegator pull amountIn fee net
    floor agreement (by omega)
  obtain rfl := asked_inj daemon daemon.executeSell minOut floor netIn net (data.symm.trans composed)
  have split := agreement.net
  omega

theorem crankSell_accepted_iff (serves : daemon.Serves world cfg feeConfig) (rail : Rail Pubkey)
    (del : Delegation Pubkey) (plan : SellPlan Pubkey)
    (planLoaded : world.sellPlans (sellPlanPda del.delegator) = some plan) (times : ExactTimes plan world.clock)
    (avail : Int) (allowed : available del (.ofBigInt world.clock.toInt) = some avail)
    (fundable : Fundable daemon del.delegator daemon.target daemon.usdc feeConfig.destination daemon.poolTarget
      daemon.poolUsdc world.ledger)
    (pays : ∀ amount : UInt64, amount.toNat ≤ avail →
      amount.toNat ≤ world.ledger.balance (wallet del.delegator daemon.target) →
      rail.Pays del world.ledger (wallet del.delegator daemon.target) (transient del.delegator daemon.target)
        daemon.target amount)
    (crank : Crank Pubkey (ExecuteSell Pubkey))
    (sent : daemon.crankSell world del (.ofBigInt world.clock.toInt) = some crank)
    (liquid : ∀ minOut netIn : UInt64,
      crank.data = Daemon.execData daemon.executeSell minOut.toNat (daemon.mockSwapData netIn.toNat netIn.toNat) →
      netIn.toNat ≤ world.ledger.balance daemon.poolUsdc) :
    ((∃ result, daemon.submitSell crank rail del world = some result) ↔
      SellFits plan world.clock (world.ledger.balance (wallet del.delegator daemon.target))
        (world.ledger.balance (transient del.delegator daemon.target)) avail) ∧
    (plan.endTs.toInt - world.clock.toInt ≤ 2 ^ 53 → -2 ^ 53 ≤ plan.nextDueTs.toInt → world.clock.toInt ≤ 2 ^ 53 →
      ((∃ result, daemon.submitSell crank rail del world = some result) ↔
        ∀ periods, plan.remainingPeriods world.clock = .ok periods →
          world.ledger.balance (transient del.delegator daemon.target) ≤
            (world.ledger.balance (wallet del.delegator daemon.target) +
              world.ledger.balance (transient del.delegator daemon.target)) / periods.toInt.toNat)) := by
  let pot := world.ledger.balance (wallet del.delegator daemon.target)
  let residue := world.ledger.balance (transient del.delegator daemon.target)
  have formed := (reachable_wellFormed world serves.reachable).sellPlans _ _ planLoaded
  obtain ⟨due, pull, cut, ⟨nonneg, affordable⟩, something, rfl⟩ :=
    crankSell_sent daemon world del plan planLoaded formed times avail allowed crank sent
  have late := ((checkDue_ok _ _ _).mp due).2
  obtain ⟨allowance, rfl, small⟩ := available_nat del _ avail allowed
  obtain ⟨amount, rfl⟩ := Int.eq_ofNat_of_zero_le nonneg
  have value : (UInt64.ofNat amount).toNat = amount := ofNat_toNat _ (by omega)
  obtain ⟨funded, ran, found, poolKept, wallet', rest⟩ := fundable_funds daemon del.delegator daemon.target daemon.usdc
    feeConfig.destination daemon.poolTarget daemon.poolUsdc world.ledger fundable rail del amount (by omega)
    fun _ => pays (UInt64.ofNat amount) (by omega) (by omega)
  have fits : residue + amount < 2 ^ 64 := by
    rw [← found.amount]
    exact Ledger.balance_lt _ _
  let amountIn := UInt64.ofNat (residue + amount)
  let left := UInt64.ofNat (funded.balance (wallet del.delegator daemon.target))
  have amountValue : amountIn.toNat = residue + amount := ofNat_toNat _ fits
  have leftValue : left.toNat = funded.balance (wallet del.delegator daemon.target) := Ledger.balance_ofNat _ _
  have total : (amount : Int) + residue = amountIn.toNat := by omega
  obtain ⟨fee, netIn, floor, agreement⟩ := serves_agreement daemon world cfg feeConfig serves amountIn (by omega)
  have data := composeSell_data daemon world cfg feeConfig serves.feeConfigLoaded del.delegator amount amountIn fee netIn
    floor agreement total
  have pool := liquid floor netIn data
  rw [← amountValue] at found
  have setup : (daemon.composeSell world del.delegator amount).setup.foldlM (SetupInstruction.run rail del)
      world.ledger = some funded := by
    simp only [Daemon.composeSell, Int.natCast_pos]
    exact ran
  have accepted : (∃ result, daemon.submitSell (daemon.composeSell world del.delegator amount) rail del world =
      some result) ↔ SellFits plan world.clock pot residue allowance := by
    rw [← pull_capped plan world.clock formed pot residue allowance amount left amountIn (by omega) cut total.symm
      (by omega) late]
    rw [← composeSell_accepted_iff daemon world cfg feeConfig serves del.delegator amount plan planLoaded due amountIn
      fee netIn floor left agreement funded found wallet' leftValue.symm (by omega)]
    apply exists_congr
    intro result
    exact submitSell_some daemon rail del world funded floor _ _ setup data (mockSwapData_short daemon _ _) result
  refine ⟨accepted, ?_⟩
  intro near early now
  exact accepted.trans (sellFits_near plan world.clock formed pot residue allowance late near early now)

end Acceptance

section Sample

open Served

def monthly : Delegation Address :=
  { delegator := Terms.user, amountPerPeriod := 25000, amountPulledInPeriod := 0, currentPeriodStartTs := 0
    periodLengthS := 2592000 }

theorem monthly_available (pot residue liquidity : UInt64) :
    available monthly (.ofBigInt (world .sell pot residue liquidity).clock.toInt) = some 25000 := by
  rw [world_clock]
  decide +kernel

theorem exactTimes (pot residue liquidity : UInt64) :
    ExactTimes terms.plan (world .sell pot residue liquidity).clock := by
  rw [world_clock]
  exact ⟨by decide +kernel, by decide +kernel, by decide +kernel⟩

theorem monthly_pays (pot residue liquidity amount : UInt64) (allowed : amount.toNat ≤ (25000 : Int))
    (enough : amount.toNat ≤
      (world .sell pot residue liquidity).ledger.balance (wallet monthly.delegator daemon.target)) :
    (delegateRail subscriptionAuthority).Pays monthly (world .sell pot residue liquidity).ledger
      (wallet monthly.delegator daemon.target) (transient monthly.delegator daemon.target) daemon.target amount := by
  have most : monthly.amountPerPeriod.toNat = 25000 := by decide
  have held : (world .sell pot residue liquidity).ledger.balance (wallet monthly.delegator daemon.target) =
      pot.toNat := by
    rw [world_ledger]
    rfl
  apply pays .sell pot residue liquidity
  next =>
    rw [UInt64.le_iff_toNat_le, most]
    omega
  next => rwa [← held]

-- Ten periods are left, and a tenth of all is what stands in the transient account.
theorem crankSell_accepted_iff_tenth :
    ∃ crank result,
      daemon.crankSell (world .sell 900 100 5000000) monthly (.ofBigInt (world .sell 900 100 5000000).clock.toInt) =
        some crank ∧
      daemon.submitSell crank (delegateRail subscriptionAuthority) monthly (world .sell 900 100 5000000) =
        some result := by
  have sends : (daemon.crankSell (world .sell 900 100 5000000) monthly
      (.ofBigInt (world .sell 900 100 5000000).clock.toInt)).isSome = true := by decide +kernel
  have pot : (world .sell 900 100 5000000).ledger.balance (wallet monthly.delegator daemon.target) = 900 := by decide
  have residue : (world .sell 900 100 5000000).ledger.balance (transient monthly.delegator daemon.target) = 100 := by
    decide
  have pool : (world .sell 900 100 5000000).ledger.balance daemon.poolUsdc = 5000000 := by decide
  have ten : terms.plan.remainingPeriods (world .sell 900 100 5000000).clock = .ok 10 := by decide
  obtain ⟨crank, sent⟩ := Option.isSome_iff_exists.mp sends
  have loaded := world_plan .sell 900 100 5000000
  have accepted := (crankSell_accepted_iff daemon (world .sell 900 100 5000000) terms.config terms.feeConfig
    (serves .sell 900 100 5000000) (delegateRail subscriptionAuthority) monthly terms.plan loaded
    (exactTimes 900 100 5000000) 25000 (monthly_available 900 100 5000000)
    (fundable .sell 900 100 5000000 (by decide)) (monthly_pays 900 100 5000000) crank sent (by
      intro minOut netIn data
      have asked := crankSell_asks daemon (world .sell 900 100 5000000) terms.config terms.feeConfig
        (serves .sell 900 100 5000000) monthly terms.plan loaded (exactTimes 900 100 5000000) 25000
        (monthly_available 900 100 5000000) (by rw [pot, residue]; decide) crank sent minOut netIn data
      omega)).2 (by decide) (by decide) (by decide)
  obtain ⟨result, submitted⟩ := accepted.mpr (by
    intro periods left
    obtain rfl := Except.ok.inj (ten.symm.trans left)
    rw [pot, residue]
    decide)
  exact ⟨crank, result, sent, submitted⟩

-- Nothing is pulled, the residue of 1000 units is sent on, and a tenth of 1900 is the cap.
theorem crankSell_overdraws :
    daemon.Serves (world .sell 900 1000 5000000) terms.config terms.feeConfig ∧
    (world .sell 900 1000 5000000).sellPlans (sellPlanPda monthly.delegator) = some terms.plan ∧
    ExactTimes terms.plan (world .sell 900 1000 5000000).clock ∧
    available monthly (.ofBigInt (world .sell 900 1000 5000000).clock.toInt) = some 25000 ∧
    Fundable daemon monthly.delegator daemon.target daemon.usdc terms.feeConfig.destination daemon.poolTarget
      daemon.poolUsdc (world .sell 900 1000 5000000).ledger ∧
    (∀ amount : UInt64, amount.toNat ≤ (25000 : Int) →
      amount.toNat ≤ (world .sell 900 1000 5000000).ledger.balance (wallet monthly.delegator daemon.target) →
      (delegateRail subscriptionAuthority).Pays monthly (world .sell 900 1000 5000000).ledger
        (wallet monthly.delegator daemon.target) (transient monthly.delegator daemon.target) daemon.target amount) ∧
    ∃ crank,
      daemon.crankSell (world .sell 900 1000 5000000) monthly (.ofBigInt (world .sell 900 1000 5000000).clock.toInt) =
        some crank ∧
      (∀ minOut netIn : UInt64,
        crank.data = Daemon.execData daemon.executeSell minOut.toNat (daemon.mockSwapData netIn.toNat netIn.toNat) →
        netIn.toNat ≤ (world .sell 900 1000 5000000).ledger.balance daemon.poolUsdc) ∧
      ¬ ∃ result, daemon.submitSell crank (delegateRail subscriptionAuthority) monthly (world .sell 900 1000 5000000) =
        some result := by
  have pot : (world .sell 900 1000 5000000).ledger.balance (wallet monthly.delegator daemon.target) = 900 := by decide
  have residue : (world .sell 900 1000 5000000).ledger.balance (transient monthly.delegator daemon.target) = 1000 := by
    decide
  have pool : (world .sell 900 1000 5000000).ledger.balance daemon.poolUsdc = 5000000 := by decide
  have refused : (daemon.crankSell (world .sell 900 1000 5000000) monthly
      (.ofBigInt (world .sell 900 1000 5000000).clock.toInt)).map (fun crank =>
        daemon.submitSell crank (delegateRail subscriptionAuthority) monthly (world .sell 900 1000 5000000) |>.isSome) =
          some false := by decide +kernel
  obtain ⟨crank, sent, unaccepted⟩ := Option.map_eq_some_iff.mp refused
  have loaded := world_plan .sell 900 1000 5000000
  refine ⟨serves .sell 900 1000 5000000, loaded, exactTimes 900 1000 5000000, monthly_available 900 1000 5000000,
    fundable .sell 900 1000 5000000 (by decide), monthly_pays 900 1000 5000000, crank, sent, ?_, ?_⟩
  next =>
    intro minOut netIn data
    have asked := crankSell_asks daemon (world .sell 900 1000 5000000) terms.config terms.feeConfig
      (serves .sell 900 1000 5000000) monthly terms.plan loaded (exactTimes 900 1000 5000000) 25000
      (monthly_available 900 1000 5000000) (by rw [pot, residue]; decide) crank sent minOut netIn data
    omega
  next =>
    intro accepted
    rw [Option.isSome_iff_exists.mpr accepted] at unaccepted
    cases unaccepted

end Sample

end RecurringBuy
