import RecurringBuy.Program.Deployment
import RecurringBuy.Properties.RogueRoute

set_option autoImplicit false

namespace RecurringBuy

open Checked SplToken ProgramAddress Rounding

variable {Pubkey : Type}

variable [ProgramAddress Pubkey]

/-- The same configuration and fee, and the same balances in the transients of `user`. -/
structure World.Alike (user : Pubkey) (world other : World Pubkey) : Prop where
  config : other.config = world.config
  feeConfig : other.feeConfig = world.feeConfig
  transients : ∀ mint, other.ledger.balance (transient user mint) = world.ledger.balance (transient user mint)

namespace Rogue

structure Played (user mintIn mintOut : Pubkey) (before after : Ledger Pubkey) (minOut taken deposit : Nat) :
    Prop where
  destBefore : before.balance (wallet user mintOut) = 0
  destAfter : after.balance (wallet user mintOut) = minOut
  inAfter : after.balance (transient user mintIn) = 0
  outAfter : mintIn ≠ mintOut →
    after.balance (transient user mintOut) = before.balance (transient user mintOut) - taken + deposit

variable [DecidableEq Pubkey]

def against (user mintIn mintOut feeOwner : Pubkey) (handed : Bool) : Rogue Pubkey :=
  { user := user
    mintIn := mintIn
    mintOut := mintOut
    feeOwner := feeOwner
    first := if keypair 0 = user then 1 else 0
    handed := handed }

-- Opened at time 0 with the shortest cadence and horizon.
def plan (rogue : Rogue Pubkey) : SellPlan Pubkey :=
  { user := rogue.user, endTs := 61, periodSecs := 60, nextDueTs := 0, bump := sellPlanBump rogue.user }

def world (rogue : Rogue Pubkey) (base : World Pubkey) : World Pubkey :=
  { base with
    ledger := rogue.ledger base.ledger
      (UInt64.ofNat (base.ledger.balance (transient rogue.user rogue.mintIn)))
      (UInt64.ofNat (base.ledger.balance (transient rogue.user rogue.mintOut)))
    clock := 0 }.setSellPlan (sellPlanPda rogue.user) (some rogue.plan)

def buyAccounts (rogue : Rogue Pubkey) (swapProgram : Pubkey) : ExecuteBuy Pubkey :=
  { keeper := rogue.keeper
    config := configPda
    user := rogue.user
    buyAuthority := buyAuthority rogue.user
    transientUsdc := transient rogue.user rogue.mintIn
    destAta := wallet rogue.user rogue.mintOut
    swapProgram := swapProgram
    feeConfig := feeConfigPda
    feeAta := wallet rogue.feeOwner rogue.mintIn }

def sellAccounts (rogue : Rogue Pubkey) (swapProgram : Pubkey) : ExecuteSell Pubkey :=
  { keeper := rogue.keeper
    config := configPda
    user := rogue.user
    sellPlan := sellPlanPda rogue.user
    buyAuthority := buyAuthority rogue.user
    transientTarget := transient rogue.user rogue.mintIn
    userTargetAta := wallet rogue.user rogue.mintIn
    destUsdc := wallet rogue.user rogue.mintOut
    swapProgram := swapProgram
    feeConfig := feeConfigPda
    feeAta := wallet rogue.feeOwner rogue.mintIn }

theorem pot_ledger (rogue : Rogue Pubkey) (base : Ledger Pubkey) (input output : UInt64)
    (stage : rogue.Stage (rogue.ledger base input output) input.toNat output.toNat 0) :
    ∃ account, (rogue.ledger base input output).accounts (wallet rogue.user rogue.mintIn) = some account := by
  by_cases same : rogue.mintIn = rogue.mintOut
  next =>
    obtain ⟨account, present, -⟩ := stage.destHeld
    exact ⟨account, by rwa [same]⟩
  next =>
    have held : Held (rogue.ledger base input output) (wallet rogue.user rogue.mintIn) rogue.mintIn rogue.user 0 := by
      refine Held.other _ _ _ _ _ _ _ ?_ (Held.other _ _ _ _ _ _ _ ?_ (Held.other _ _ _ _ _ _ _ ?_
        (Held.other _ _ _ _ _ _ _ ?_ (Held.other _ _ _ _ _ _ _ ?_ (Held.other _ _ _ _ _ _ _ ?_ (Held.set _ _ _ _ 0))))))
      iterate 3 exact (keypair_ne_wallet _ _ _).symm
      iterate 2 exact (transient_ne_wallet _ _ _).symm
      exact fun keys => same (AssociatedAddress.associated_inj _ _ _ _ keys).2
    obtain ⟨account, present, -⟩ := held
    exact ⟨account, present⟩

theorem fee_present (rogue : Rogue Pubkey) (base : Ledger Pubkey) (input output : UInt64)
    (stage : rogue.Stage (rogue.ledger base input output) input.toNat output.toNat 0) :
    ((rogue.ledger base input output).accounts (wallet rogue.feeOwner rogue.mintIn)).isSome := by
  by_cases own : rogue.feeOwner = buyAuthority rogue.user
  next =>
    obtain ⟨account, present, -⟩ := stage.inHeld
    rw [own]
    exact Option.isSome_iff_exists.mpr ⟨account, present⟩
  next =>
    obtain ⟨_, account, present, -⟩ := rogue.fee_ledger base input output own
    exact Option.isSome_iff_exists.mpr ⟨account, present⟩

theorem ledger_transient (rogue : Rogue Pubkey) (base : Ledger Pubkey) (input output : UInt64) (mint : Pubkey)
    (notIn : mint ≠ rogue.mintIn) (notOut : mint ≠ rogue.mintOut) :
    (rogue.ledger base input output).accounts (transient rogue.user mint) =
      base.accounts (transient rogue.user mint) := by
  have atIn : transient rogue.user mint ≠ transient rogue.user rogue.mintIn :=
    fun keys => notIn (transient_mint _ _ _ keys)
  have atOut : transient rogue.user mint ≠ transient rogue.user rogue.mintOut :=
    fun keys => notOut (transient_mint _ _ _ keys)
  have atFee : transient rogue.user mint ≠ wallet rogue.feeOwner rogue.mintIn :=
    fun keys => notIn (AssociatedAddress.associated_inj _ _ _ _ keys).2
  simp only [ledger, Ledger.setAccount_accounts]
  simp [bank, sink, reserve, (keypair_ne_transient _ rogue.user mint).symm, transient_ne_wallet, atIn, atOut, atFee]

theorem world_stage (rogue : Rogue Pubkey) (base : World Pubkey) :
    rogue.Stage (rogue.world base).ledger (base.ledger.balance (transient rogue.user rogue.mintIn))
      (base.ledger.balance (transient rogue.user rogue.mintOut)) 0 := by
  have stage := rogue.stage_ledger base.ledger
    (UInt64.ofNat (base.ledger.balance (transient rogue.user rogue.mintIn)))
    (UInt64.ofNat (base.ledger.balance (transient rogue.user rogue.mintOut))) fun same => by rw [same]
  rwa [Ledger.balance_ofNat, Ledger.balance_ofNat] at stage

theorem world_alike (rogue : Rogue Pubkey) (base : World Pubkey) :
    World.Alike rogue.user base (rogue.world base) := by
  have stage := rogue.world_stage base
  refine ⟨rfl, rfl, ?_⟩
  intro mint
  by_cases isIn : mint = rogue.mintIn
  case pos => rw [isIn, stage.inHeld.balance]
  by_cases isOut : mint = rogue.mintOut
  case pos => rw [isOut, stage.outHeld.balance]
  apply Ledger.balance_congr
  exact rogue.ledger_transient _ _ _ _ isIn isOut

-- Everything about a rogue call that does not depend on its direction.
structure Course (rogue : Rogue Pubkey) (base : World Pubkey) (feeConfig : FeeConfig Pubkey)
    (swapProgram : Pubkey) (minOut : UInt64) (taken deposit : Nat) (source dest : TokenAccount Pubkey)
    (fee netIn : UInt64) (skimmed settled : Ledger Pubkey) : Prop where
  sourceAccount : (rogue.world base).ledger.accounts (transient rogue.user rogue.mintIn) = some source
  sourceMint : source.mint = rogue.mintIn
  sourceAmount : source.amount.toNat = base.ledger.balance (transient rogue.user rogue.mintIn)
  destAccount : (rogue.world base).ledger.accounts (wallet rogue.user rogue.mintOut) = some dest
  destMint : dest.mint = rogue.mintOut
  feeAccount : ((rogue.world base).ledger.accounts (wallet rogue.feeOwner rogue.mintIn)).isSome
  potAccount : ∃ pot, (rogue.world base).ledger.accounts (wallet rogue.user rogue.mintIn) = some pot
  feeValue : executionFee source.amount feeConfig.feeBps = .ok fee
  net : netIn.toNat + fee.toNat = source.amount.toNat
  netValue : netIn.toNat = feeConfig.netOf source.amount.toNat
  netPositive : 0 < source.amount.toNat → 0 < netIn.toNat
  settlement : Settlement (rogue.world base).ledger skimmed settled [rogue.keeper] rogue.route
    (rogue.leg swapProgram) fee dest.amount minOut minOut [] (rogue.venue taken deposit minOut.toNat)
  played : Played rogue.user rogue.mintIn rogue.mintOut (rogue.world base).ledger settled minOut.toNat taken deposit

theorem rogue_course (rogue : Rogue Pubkey) (base : World Pubkey) (feeConfig : FeeConfig Pubkey)
    (formed : feeConfig.WellFormed) (swapProgram : Pubkey) (minOut : UInt64) (taken deposit : Nat)
    (twin : rogue.mintIn = rogue.mintOut → taken = 0 ∧ deposit = 0)
    (available : taken ≤ base.ledger.balance (transient rogue.user rogue.mintOut)) (least : deposit ≤ 1)
    (room : base.ledger.balance (transient rogue.user rogue.mintOut) + deposit < 2 ^ 64)
    (enough : rebate rogue.user rogue.mintIn rogue.mintOut rogue.feeOwner
        (feeConfig.feeOf (base.ledger.balance (transient rogue.user rogue.mintIn))) + taken ≤ minOut.toNat ∨
      rogue.handed = true ∧ rebate rogue.user rogue.mintIn rogue.mintOut rogue.feeOwner
        (feeConfig.feeOf (base.ledger.balance (transient rogue.user rogue.mintIn))) + taken + 1 < 2 ^ 64) :
    ∃ source dest fee netIn skimmed settled, rogue.Course base feeConfig swapProgram minOut taken deposit source
      dest fee netIn skimmed settled := by
  let input := UInt64.ofNat (base.ledger.balance (transient rogue.user rogue.mintIn))
  let output := UInt64.ofNat (base.ledger.balance (transient rogue.user rogue.mintOut))
  have inputValue : input.toNat = base.ledger.balance (transient rogue.user rogue.mintIn) := Ledger.balance_ofNat _ _
  have outputValue : output.toNat = base.ledger.balance (transient rogue.user rogue.mintOut) := Ledger.balance_ofNat _ _
  have one (same : rogue.mintIn = rogue.mintOut) : input = output := by simp only [input, output, same]
  have small := feeOf_le feeConfig formed input.toNat
  have inputSmall := input.toNat_lt
  rw [← inputValue] at enough
  rw [← outputValue] at available room
  let fee := UInt64.ofNat (feeConfig.feeOf input.toNat)
  have feeValue : fee.toNat = feeConfig.feeOf input.toNat := ofNat_toNat _ (by omega)
  let netIn := UInt64.ofNat (feeConfig.netOf input.toNat)
  have netValue : netIn.toNat = feeConfig.netOf input.toNat :=
    ofNat_toNat _ (by unfold FeeConfig.netOf; omega)
  have opening := rogue.stage_ledger base.ledger input output one
  obtain ⟨skimmed, settled, settlement, drained, received, others⟩ := rogue.rogue_settlement base.ledger
    swapProgram input output fee minOut taken deposit (fun same => ⟨one same, twin same⟩) (by omega) available
    least room (by rwa [feeValue])
  have destBefore := opening.destHeld.balance
  have outBefore := opening.outHeld.balance
  have potAccount := rogue.pot_ledger base.ledger input output opening
  have feeAccount := rogue.fee_present base.ledger input output opening
  obtain ⟨source, sourceAccount, sourceMint, -, -, sourceAmount⟩ := opening.inHeld
  obtain ⟨dest, destAccount, destMint, -, -, destAmount⟩ := opening.destHeld
  have sourceIs : source.amount = input := UInt64.toNat_inj.mp sourceAmount
  have destIs : dest.amount = 0 := UInt64.toNat_inj.mp destAmount
  refine ⟨source, dest, fee, netIn, skimmed, settled, ?_⟩
  constructor
  case sourceAccount => exact sourceAccount
  case sourceMint => exact sourceMint
  case sourceAmount => rw [sourceIs, inputValue]
  case destAccount => exact destAccount
  case destMint => exact destMint
  case feeAccount => exact feeAccount
  case potAccount => exact potAccount
  case feeValue =>
    rw [sourceIs]
    exact (executionFee_ok _ _ _ formed.capped).mpr feeValue
  case net =>
    rw [sourceIs, netValue, feeValue]
    unfold FeeConfig.netOf
    omega
  case netValue => rw [sourceIs, netValue]
  case netPositive =>
    intro positive
    rw [sourceIs] at positive
    rw [netValue]
    unfold FeeConfig.netOf
    omega
  case settlement =>
    rw [destIs]
    exact settlement
  case played =>
    refine ⟨destBefore, received, drained, ?_⟩
    intro different
    rw [others different]
    exact congrArg (fun held => held - taken + deposit) outBefore.symm

end Rogue

section Calls

variable [DecidableEq Pubkey]

theorem firstVenue_whitelisted (cfg : Config Pubkey) (formed : cfg.WellFormed) (listed : cfg.swapProgramCount ≠ 0) :
    cfg.isWhitelisted (cfg.swapPrograms.get ⟨0, by decide⟩) = .ok true := by
  have positive : cfg.swapProgramCount.toNat ≠ 0 := fun zero => listed (UInt8.toNat_inj.mp zero)
  simp only [Config.isWhitelisted, bind_ok, require_ok, exists_const, pure_ok, decide_eq_true_eq,
    List.contains_iff_mem]
  refine ⟨formed.count, ?_⟩
  apply List.mem_iff_getElem.mpr
  refine ⟨0, ?_, ?_⟩
  next =>
    rw [List.length_take, Vector.length_toList]
    exact lt_min (Nat.pos_of_ne_zero positive) (by decide)
  next => simp [Vector.get]

theorem rogue_buy (world : World Pubkey) (user : Pubkey) (cfg : Config Pubkey) (feeConfig : FeeConfig Pubkey)
    (formed : world.WellFormed) (configLoaded : world.config = some cfg)
    (feeConfigLoaded : world.feeConfig = some feeConfig) (active : ¬ cfg.Halted)
    (pulled : 0 < world.ledger.balance (transient user cfg.usdcMint)) (minOut : UInt64) (taken deposit : Nat)
    (twin : cfg.usdcMint = cfg.targetMint → taken = 0 ∧ deposit = 0)
    (available : taken ≤ world.ledger.balance (transient user cfg.targetMint)) (least : deposit ≤ 1)
    (room : world.ledger.balance (transient user cfg.targetMint) + deposit < 2 ^ 64)
    (floorMet : cfg.exactBuyFloor (feeConfig.netOf (world.ledger.balance (transient user cfg.usdcMint))) % 2 ^ 64 ≤
      minOut.toNat)
    (handed : Bool)
    (enough : rebate user cfg.usdcMint cfg.targetMint feeConfig.destination
        (feeConfig.feeOf (world.ledger.balance (transient user cfg.usdcMint))) + taken ≤ minOut.toNat ∨
      handed = true ∧ rebate user cfg.usdcMint cfg.targetMint feeConfig.destination
        (feeConfig.feeOf (world.ledger.balance (transient user cfg.usdcMint))) + taken + 1 < 2 ^ 64) :
    ∃ other ctx venue other' event, World.Alike user world other ∧ ctx.accounts.user = user ∧
      executeBuy other ctx minOut [] venue = .ok (other', event) ∧
      Rogue.Played user cfg.usdcMint cfg.targetMint other.ledger other'.ledger minOut.toNat taken deposit := by
  obtain ⟨running, listed, priced⟩ : cfg.paused = false ∧ cfg.swapProgramCount ≠ 0 ∧ cfg.priceRefMicros ≠ 0 := by
    simpa [Config.Halted] using active
  have positive : 0 < cfg.priceRefMicros.toNat := Nat.pos_of_ne_zero fun zero => priced (UInt64.toNat_inj.mp zero)
  have cfgFormed := formed.config cfg configLoaded
  have feeFormed := formed.feeConfig feeConfig feeConfigLoaded
  let rogue := Rogue.against user cfg.usdcMint cfg.targetMint feeConfig.destination handed
  obtain ⟨source, dest, fee, netIn, skimmed, settled, course⟩ := rogue.rogue_course world feeConfig feeFormed
    (cfg.swapPrograms.get ⟨0, by decide⟩) minOut taken deposit twin available least room enough
  let ctx := rogue.context (rogue.buyAccounts (cfg.swapPrograms.get ⟨0, by decide⟩))
  let other := rogue.world world
  let floor := UInt64.ofNat (cfg.exactBuyFloor netIn.toNat % 2 ^ 64)
  have floorValue : floor.toNat = cfg.exactBuyFloor netIn.toNat % 2 ^ 64 := ofNat_toNat _ (Nat.mod_lt _ (by decide))
  have sourceAmount : source.amount.toNat = world.ledger.balance (transient user cfg.usdcMint) := course.sourceAmount
  have accepted : BuyCourse other ctx minOut [] (rogue.venue taken deposit minOut.toNat)
      { other with ledger := settled } cfg feeConfig source dest fee netIn floor minOut skimmed :=
    { keeper := List.mem_singleton_self _
      configLoaded := configLoaded
      configSeeds := ⟨rfl, cfgFormed.bump⟩
      authoritySeeds := rfl
      feeConfigLoaded := feeConfigLoaded
      feeConfigSeeds := ⟨rfl, feeFormed.bump⟩
      transientAccount := course.sourceAccount
      destAccount := course.destAccount
      feeAccount := course.feeAccount
      running := running
      destMint := course.destMint
      destAddress := rfl
      transientMint := course.sourceMint
      transientAddress := rfl
      pulled := by rwa [sourceAmount]
      whitelisted := firstVenue_whitelisted cfg cfgFormed listed
      feeValue := course.feeValue
      net := course.net
      netPositive := course.netPositive (by rwa [sourceAmount])
      feeAddress := rfl
      priced := positive
      floorValue := (priceFloor_ok _ _ _ _ _ cfgFormed.decimals cfgFormed.slippage).mpr ⟨positive.ne', floorValue⟩
      floorMet := by
        rw [floorValue, course.netValue, sourceAmount]
        exact floorMet
      unchanged := rfl
      settlement := course.settlement }
  exact ⟨other, ctx, _, _, _, rogue.world_alike world, rfl,
    (executeBuy_ok _ _ _ _ _ _ _).mpr ⟨_, _, _, _, _, _, _, _, _, accepted, rfl⟩, course.played⟩

omit [DecidableEq Pubkey] in
theorem plan_accepts (rogue : Rogue Pubkey) (pot amountIn : UInt64) :
    rogue.plan.checkDue 0 = .ok () ∧ rogue.plan.checkCap pot amountIn 0 = .ok () ∧
      ∃ advanced, rogue.plan.advance 0 = .ok advanced := by
  have period : rogue.plan.periodSecs.toInt = 60 := by simp only [Rogue.plan]; decide
  have horizon : rogue.plan.endTs.toInt = 61 := by simp only [Rogue.plan]; decide
  have start : rogue.plan.nextDueTs.toInt = 0 := by simp only [Rogue.plan]; decide
  have zero : (0 : Int64).toInt = 0 := rfl
  have one : (1 : Int64).toInt = 1 := rfl
  have formed : rogue.plan.WellFormed := by constructor <;> omega
  refine ⟨(checkDue_ok _ _ _).mpr (by omega), ?_, ?_⟩
  next =>
    apply (checkCap_ok _ _ _ _ formed _).mpr
    refine ⟨1, (remainingPeriods_ok _ _ _ formed).mpr ?_, ?_⟩
    next => rw [period, horizon, zero, one]; decide
    next =>
      rw [one]
      exact Nat.le_trans (Nat.le_add_left _ _) (Nat.div_one _).ge
  next =>
    have late : I64.checkedSub 0 0 = some 0 := by decide
    have missed : I64.checkedDiv 0 60 = some 0 := by decide
    have next : I64.checkedAdd 0 1 = some 1 := by decide
    have jump : I64.checkedMul 1 60 = some 60 := by decide
    have due : I64.checkedAdd 0 60 = some 60 := by decide
    simp only [SellPlan.advance, bind_ok, okOr_ok, pure_ok]
    exact ⟨_, 0, late, 0, missed, 1, next, 60, jump, 60, due, rfl⟩

theorem rogue_sell (world : World Pubkey) (user : Pubkey) (cfg : Config Pubkey) (feeConfig : FeeConfig Pubkey)
    (formed : world.WellFormed) (configLoaded : world.config = some cfg)
    (feeConfigLoaded : world.feeConfig = some feeConfig) (active : ¬ cfg.Halted)
    (pulled : 0 < world.ledger.balance (transient user cfg.targetMint))
    (fits : ¬ cfg.SellOverflows (feeConfig.netOf (world.ledger.balance (transient user cfg.targetMint))))
    (minOut : UInt64) (taken deposit : Nat)
    (twin : cfg.targetMint = cfg.usdcMint → taken = 0 ∧ deposit = 0)
    (available : taken ≤ world.ledger.balance (transient user cfg.usdcMint)) (least : deposit ≤ 1)
    (room : world.ledger.balance (transient user cfg.usdcMint) + deposit < 2 ^ 64)
    (floorMet : cfg.exactSellFloor (feeConfig.netOf (world.ledger.balance (transient user cfg.targetMint))) % 2 ^ 64 ≤
      minOut.toNat)
    (handed : Bool)
    (enough : rebate user cfg.targetMint cfg.usdcMint feeConfig.destination
        (feeConfig.feeOf (world.ledger.balance (transient user cfg.targetMint))) + taken ≤ minOut.toNat ∨
      handed = true ∧ rebate user cfg.targetMint cfg.usdcMint feeConfig.destination
        (feeConfig.feeOf (world.ledger.balance (transient user cfg.targetMint))) + taken + 1 < 2 ^ 64) :
    ∃ other ctx venue other' event, World.Alike user world other ∧ ctx.accounts.user = user ∧
      executeSell other ctx minOut [] venue = .ok (other', event) ∧
      Rogue.Played user cfg.targetMint cfg.usdcMint other.ledger other'.ledger minOut.toNat taken deposit := by
  obtain ⟨running, listed, priced⟩ : cfg.paused = false ∧ cfg.swapProgramCount ≠ 0 ∧ cfg.priceRefMicros ≠ 0 := by
    simpa [Config.Halted] using active
  have positive : 0 < cfg.priceRefMicros.toNat := Nat.pos_of_ne_zero fun zero => priced (UInt64.toNat_inj.mp zero)
  have cfgFormed := formed.config cfg configLoaded
  have feeFormed := formed.feeConfig feeConfig feeConfigLoaded
  let rogue := Rogue.against user cfg.targetMint cfg.usdcMint feeConfig.destination handed
  obtain ⟨source, dest, fee, netIn, skimmed, settled, course⟩ := rogue.rogue_course world feeConfig feeFormed
    (cfg.swapPrograms.get ⟨0, by decide⟩) minOut taken deposit twin available least room enough
  obtain ⟨pot, potAccount⟩ := course.potAccount
  obtain ⟨due, capped, advanced, advancedValue⟩ := plan_accepts rogue pot.amount source.amount
  let ctx := rogue.context (rogue.sellAccounts (cfg.swapPrograms.get ⟨0, by decide⟩))
  let other := rogue.world world
  let floor := UInt64.ofNat (cfg.exactSellFloor netIn.toNat % 2 ^ 64)
  have floorValue : floor.toNat = cfg.exactSellFloor netIn.toNat % 2 ^ 64 := ofNat_toNat _ (Nat.mod_lt _ (by decide))
  have sourceAmount : source.amount.toNat = world.ledger.balance (transient user cfg.targetMint) := course.sourceAmount
  have inRange : ¬ cfg.SellOverflows netIn.toNat := by rwa [course.netValue, sourceAmount]
  have accepted : SellCourse other ctx minOut [] (rogue.venue taken deposit minOut.toNat)
      ({ other with ledger := settled }.setSellPlan (sellPlanPda user) (some advanced)) cfg feeConfig rogue.plan
      advanced source pot dest fee netIn floor minOut skimmed :=
    { keeper := List.mem_singleton_self _
      configLoaded := configLoaded
      configSeeds := ⟨rfl, cfgFormed.bump⟩
      planLoaded := if_pos rfl
      planSeeds := ⟨rfl, rfl⟩
      planOwner := rfl
      authoritySeeds := rfl
      transientAccount := course.sourceAccount
      potAccount := potAccount
      destAccount := course.destAccount
      feeConfigLoaded := feeConfigLoaded
      feeConfigSeeds := ⟨rfl, feeFormed.bump⟩
      feeAccount := course.feeAccount
      running := running
      due := due
      destAddress := rfl
      transientAddress := rfl
      potAddress := rfl
      pulled := by rwa [sourceAmount]
      capped := capped
      whitelisted := firstVenue_whitelisted cfg cfgFormed listed
      feeValue := course.feeValue
      net := course.net
      netPositive := course.netPositive (by rwa [sourceAmount])
      feeAddress := rfl
      priced := positive
      floorValue := (sellFloor_ok _ _ _ _ _ cfgFormed.decimals cfgFormed.slippage).mpr
        ⟨Nat.lt_of_not_le inRange, floorValue⟩
      floorMet := by
        rw [floorValue, course.netValue, sourceAmount]
        exact floorMet
      advancedValue := advancedValue
      changed := rfl
      settlement := course.settlement }
  exact ⟨other, ctx, _, _, _, rogue.world_alike world, rfl,
    (executeSell_ok _ _ _ _ _ _ _).mpr ⟨_, _, _, _, _, _, _, _, _, _, _, _, accepted, rfl⟩, course.played⟩

end Calls

section Every

-- The least `min_out` above the floor that leaves room for the fee and one token more.
theorem minOut_exists (feeConfig : FeeConfig Pubkey) (formed : feeConfig.WellFormed) (floor amountIn : Nat)
    (small : amountIn < 2 ^ 64) :
    ∃ minOut : UInt64, floor % 2 ^ 64 ≤ minOut.toNat ∧ feeConfig.feeOf amountIn + 1 ≤ minOut.toNat ∧
      minOut.toNat ≤ max (floor % 2 ^ 64) (feeConfig.feeOf amountIn + 1) := by
  have fee := feeOf_le feeConfig formed amountIn
  have low := Nat.mod_lt floor (show 0 < 2 ^ 64 by decide)
  refine ⟨UInt64.ofNat (max (floor % 2 ^ 64) (feeConfig.feeOf amountIn + 1)), ?_⟩
  rw [ofNat_toNat _ (by omega)]
  omega

variable [DecidableEq Pubkey]

/-- Whatever else the ledger and the sell plans hold, and whatever the accounts, the route, `min_out` and
the venue: each accepted call for `user` in a world like `world` is a swap of which `holds` is true. -/
def EverySwap (world : World Pubkey) (user : Pubkey) (holds : Config Pubkey → Swap Pubkey → Prop) :
    Direction → Prop
  | .buy => ∀ other ctx minOut swapData venue other' event cfg, World.Alike user world other →
      ctx.accounts.user = user → other.config = some cfg →
      executeBuy other ctx minOut swapData venue = .ok (other', event) →
      holds cfg ⟨other.ledger, other'.ledger, minOut, event.amountIn, event.fee, event.amountOut⟩
  | .sell => ∀ other ctx minOut swapData venue other' event cfg, World.Alike user world other →
      ctx.accounts.user = user → other.config = some cfg →
      executeSell other ctx minOut swapData venue = .ok (other', event) →
      holds cfg ⟨other.ledger, other'.ledger, minOut, event.amountIn, event.fee, event.amountOut⟩

variable (world : World Pubkey) (user : Pubkey) (cfg : Config Pubkey) (feeConfig : FeeConfig Pubkey)
  (formed : world.WellFormed) (configLoaded : world.config = some cfg)
  (feeConfigLoaded : world.feeConfig = some feeConfig) (holds : Config Pubkey → Swap Pubkey → Prop)
  (direction : Direction)

include formed configLoaded feeConfigLoaded

theorem everySwap_sound
    (sound : ∀ swap : Swap Pubkey,
      (∀ mint, swap.before.balance (transient user mint) = world.ledger.balance (transient user mint)) →
      SwapFacts direction user cfg feeConfig swap → holds cfg swap) :
    EverySwap world user holds direction := by
  have cfgFormed := formed.config cfg configLoaded
  have feeFormed := formed.feeConfig feeConfig feeConfigLoaded
  cases direction with
  | buy =>
    intro other ctx minOut swapData venue other' event cfg' alike owner loaded accepted
    obtain rfl : cfg' = cfg := Option.some.inj (loaded.symm.trans (alike.config.trans configLoaded))
    have facts := executeBuy_facts _ _ _ _ _ _ _ _ _ cfgFormed feeFormed loaded
      (alike.feeConfig.trans feeConfigLoaded) accepted
    rw [owner] at facts
    exact sound _ alike.transients facts
  | sell =>
    intro other ctx minOut swapData venue other' event cfg' alike owner loaded accepted
    obtain rfl : cfg' = cfg := Option.some.inj (loaded.symm.trans (alike.config.trans configLoaded))
    have facts := executeSell_facts _ _ _ _ _ _ _ _ _ cfgFormed feeFormed loaded
      (alike.feeConfig.trans feeConfigLoaded) accepted
    rw [owner] at facts
    exact sound _ alike.transients facts

theorem everySwap_rogue (every : EverySwap world user holds direction)
    (granted : ¬ direction.Refuses cfg feeConfig (world.ledger.balance (transient user (direction.mintIn cfg))))
    (minOut : UInt64) (taken deposit : Nat)
    (twin : direction.mintIn cfg = direction.mintOut cfg → taken = 0 ∧ deposit = 0)
    (available : taken ≤ world.ledger.balance (transient user (direction.mintOut cfg))) (least : deposit ≤ 1)
    (room : world.ledger.balance (transient user (direction.mintOut cfg)) + deposit < 2 ^ 64)
    (floorMet : direction.exactFloor cfg
      (feeConfig.netOf (world.ledger.balance (transient user (direction.mintIn cfg)))) % 2 ^ 64 ≤ minOut.toNat)
    (handed : Bool)
    (enough : rebate user (direction.mintIn cfg) (direction.mintOut cfg) feeConfig.destination
        (feeConfig.feeOf (world.ledger.balance (transient user (direction.mintIn cfg)))) + taken ≤ minOut.toNat ∨
      handed = true ∧ rebate user (direction.mintIn cfg) (direction.mintOut cfg) feeConfig.destination
        (feeConfig.feeOf (world.ledger.balance (transient user (direction.mintIn cfg)))) + taken + 1 < 2 ^ 64) :
    ∃ swap : Swap Pubkey,
      (∀ mint, swap.before.balance (transient user mint) = world.ledger.balance (transient user mint)) ∧
      SwapFacts direction user cfg feeConfig swap ∧
      Rogue.Played user (direction.mintIn cfg) (direction.mintOut cfg) swap.before swap.after minOut.toNat taken
        deposit ∧
      swap.minOut = minOut ∧ holds cfg swap := by
  have cfgFormed := formed.config cfg configLoaded
  have feeFormed := formed.feeConfig feeConfig feeConfigLoaded
  simp only [Direction.Refuses, not_or] at granted
  obtain ⟨active, pulled, fits⟩ := granted
  cases direction with
  | buy =>
    obtain ⟨other, ctx, venue, other', event, alike, owner, accepted, played⟩ := rogue_buy world user cfg feeConfig
      formed configLoaded feeConfigLoaded active (Nat.pos_of_ne_zero pulled) minOut taken deposit twin available
      least room floorMet handed enough
    have loaded := alike.config.trans configLoaded
    have facts := executeBuy_facts _ _ _ _ _ _ _ _ _ cfgFormed feeFormed loaded
      (alike.feeConfig.trans feeConfigLoaded) accepted
    rw [owner] at facts
    exact ⟨_, alike.transients, facts, played, rfl, every _ _ _ _ _ _ _ _ alike owner loaded accepted⟩
  | sell =>
    obtain ⟨other, ctx, venue, other', event, alike, owner, accepted, played⟩ := rogue_sell world user cfg feeConfig
      formed configLoaded feeConfigLoaded active (Nat.pos_of_ne_zero pulled) fits minOut taken deposit twin available
      least room floorMet handed enough
    have loaded := alike.config.trans configLoaded
    have facts := executeSell_facts _ _ _ _ _ _ _ _ _ cfgFormed feeFormed loaded
      (alike.feeConfig.trans feeConfigLoaded) accepted
    rw [owner] at facts
    exact ⟨_, alike.transients, facts, played, rfl, every _ _ _ _ _ _ _ _ alike owner loaded accepted⟩

end Every

def Rogue.buyer : Rogue Address :=
  { user := Terms.user
    mintIn := Terms.usdcMint
    mintOut := Terms.targetMint
    feeOwner := Terms.feeOwner
    first := 0
    handed := false }

def Rogue.seller : Rogue Address :=
  { Rogue.buyer with mintIn := Terms.targetMint, mintOut := Terms.usdcMint }

end RecurringBuy
