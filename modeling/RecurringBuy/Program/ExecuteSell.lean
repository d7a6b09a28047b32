import RecurringBuy.Program.ExecuteBuy
import RecurringBuy.Program.Schedule

set_option autoImplicit false

namespace RecurringBuy

open Checked SplToken ProgramAddress

variable {Pubkey : Type}

structure ExecuteSell (Pubkey : Type) where
  keeper : Pubkey
  config : Pubkey
  user : Pubkey
  sellPlan : Pubkey
  buyAuthority : Pubkey
  transientTarget : Pubkey
  userTargetAta : Pubkey
  destUsdc : Pubkey
  swapProgram : Pubkey
  feeConfig : Pubkey
  feeAta : Pubkey

structure SellExecuted (Pubkey : Type) where
  user : Pubkey
  amountIn : UInt64
  amountOut : UInt64
  fee : UInt64
  venue : Pubkey

def ExecuteSell.leg (accounts : ExecuteSell Pubkey) : Leg Pubkey :=
  { swapProgram := accounts.swapProgram
    buyAuthority := accounts.buyAuthority
    transient := accounts.transientTarget
    destination := accounts.destUsdc
    feeAta := accounts.feeAta }

variable [DecidableEq Pubkey] [ProgramAddress Pubkey]

def World.setSellPlan (world : World Pubkey) (key : Pubkey) (plan : Option (SellPlan Pubkey)) : World Pubkey :=
  { world with sellPlans := fun other => if other = key then plan else world.sellPlans other }

def World.loadSellPlan (world : World Pubkey) (key : Pubkey) : Except Error (SellPlan Pubkey) :=
  okOr (world.sellPlans key) (.anchor .accountNotInitialized)

def SellPlan.checkOwner (plan : SellPlan Pubkey) (key user : Pubkey) : Except Error Unit := do
  require (key = sellPlanPda user ∧ plan.bump = sellPlanBump user) (.anchor .constraintSeeds)
  require (plan.user = user) (.anchor .constraintHasOne)

def executeSell (world : World Pubkey) (ctx : Context Pubkey (ExecuteSell Pubkey)) (minOut : UInt64)
    (swapData : List UInt8) (venue : Venue Pubkey) : Except Error (World Pubkey × SellExecuted Pubkey) := do
  require (ctx.signers.contains ctx.accounts.keeper) (.anchor .accountNotSigner)
  let cfg ← world.loadConfig
  let sellPlan ← world.loadSellPlan ctx.accounts.sellPlan
  let transientTarget ← tokenAccount world.ledger ctx.accounts.transientTarget
  let userTargetAta ← tokenAccount world.ledger ctx.accounts.userTargetAta
  let destUsdc ← tokenAccount world.ledger ctx.accounts.destUsdc
  let feeConfig ← world.loadFeeConfig
  let _ ← tokenAccount world.ledger ctx.accounts.feeAta
  cfg.checkSeeds ctx.accounts.config
  sellPlan.checkOwner ctx.accounts.sellPlan ctx.accounts.user
  require (ctx.accounts.buyAuthority = buyAuthority ctx.accounts.user) (.anchor .constraintSeeds)
  feeConfig.checkSeeds ctx.accounts.feeConfig
  -- The handler.
  require (!cfg.paused) (.buy .paused)
  let now := world.clock
  sellPlan.checkDue now
  require (ctx.accounts.destUsdc = AssociatedAddress.associated ctx.accounts.user cfg.usdcMint)
    (.buy .destinationNotOwner)
  require (ctx.accounts.transientTarget = AssociatedAddress.associated ctx.accounts.buyAuthority cfg.targetMint)
    (.buy .badTransient)
  require (ctx.accounts.userTargetAta = AssociatedAddress.associated ctx.accounts.user cfg.targetMint)
    (.buy .badPotAccount)
  require (0 < transientTarget.amount) (.buy .nothingPulled)
  sellPlan.checkCap userTargetAta.amount transientTarget.amount now
  let whitelisted ← cfg.isWhitelisted ctx.accounts.swapProgram
  require whitelisted (.buy .venueNotWhitelisted)
  let fee ← executionFee transientTarget.amount feeConfig.feeBps
  let netIn ← okOr (U64.checkedSub transientTarget.amount fee) (.buy .overflow)
  require (0 < netIn) (.buy .nothingPulled)
  require (ctx.accounts.feeAta = AssociatedAddress.associated feeConfig.destination cfg.targetMint)
    (.buy .badFeeAccount)
  require (0 < cfg.priceRefMicros) (.buy .floorNotConfigured)
  let floor ← sellFloor netIn cfg.priceRefMicros cfg.targetDecimals cfg.maxSlippageBps
  require (floor ≤ minOut) (.buy .minOutTooLow)
  let (settled, out) ← forwardSwap world.ledger ctx.signers ctx.remainingAccounts ctx.accounts.leg fee
    destUsdc.amount minOut swapData venue
  let advanced ← sellPlan.advance now
  pure ({ world with ledger := settled }.setSellPlan ctx.accounts.sellPlan (some advanced),
    { user := ctx.accounts.user
      amountIn := transientTarget.amount
      amountOut := out
      fee := fee
      venue := ctx.accounts.swapProgram })

structure SellCourse (world : World Pubkey) (ctx : Context Pubkey (ExecuteSell Pubkey)) (minOut : UInt64)
    (swapData : List UInt8) (venue : Venue Pubkey) (world' : World Pubkey) (cfg : Config Pubkey)
    (feeConfig : FeeConfig Pubkey) (sellPlan advanced : SellPlan Pubkey)
    (transientTarget userTargetAta destUsdc : TokenAccount Pubkey) (fee netIn floor out : UInt64)
    (skimmed : Ledger Pubkey) : Prop where
  keeper : ctx.accounts.keeper ∈ ctx.signers
  configLoaded : world.config = some cfg
  configSeeds : ctx.accounts.config = configPda ∧ cfg.bump = configBump Pubkey
  planLoaded : world.sellPlans ctx.accounts.sellPlan = some sellPlan
  planSeeds : ctx.accounts.sellPlan = sellPlanPda ctx.accounts.user ∧
    sellPlan.bump = sellPlanBump ctx.accounts.user
  planOwner : sellPlan.user = ctx.accounts.user
  authoritySeeds : ctx.accounts.buyAuthority = buyAuthority ctx.accounts.user
  transientAccount : world.ledger.accounts ctx.accounts.transientTarget = some transientTarget
  potAccount : world.ledger.accounts ctx.accounts.userTargetAta = some userTargetAta
  destAccount : world.ledger.accounts ctx.accounts.destUsdc = some destUsdc
  feeConfigLoaded : world.feeConfig = some feeConfig
  feeConfigSeeds : ctx.accounts.feeConfig = feeConfigPda ∧ feeConfig.bump = feeConfigBump Pubkey
  feeAccount : (world.ledger.accounts ctx.accounts.feeAta).isSome
  running : cfg.paused = false
  due : sellPlan.checkDue world.clock = .ok ()
  destAddress : ctx.accounts.destUsdc = AssociatedAddress.associated ctx.accounts.user cfg.usdcMint
  transientAddress : ctx.accounts.transientTarget =
    AssociatedAddress.associated ctx.accounts.buyAuthority cfg.targetMint
  potAddress : ctx.accounts.userTargetAta = AssociatedAddress.associated ctx.accounts.user cfg.targetMint
  pulled : 0 < transientTarget.amount.toNat
  capped : sellPlan.checkCap userTargetAta.amount transientTarget.amount world.clock = .ok ()
  whitelisted : cfg.isWhitelisted ctx.accounts.swapProgram = .ok true
  feeValue : executionFee transientTarget.amount feeConfig.feeBps = .ok fee
  net : netIn.toNat + fee.toNat = transientTarget.amount.toNat
  netPositive : 0 < netIn.toNat
  feeAddress : ctx.accounts.feeAta = AssociatedAddress.associated feeConfig.destination cfg.targetMint
  priced : 0 < cfg.priceRefMicros.toNat
  floorValue : sellFloor netIn cfg.priceRefMicros cfg.targetDecimals cfg.maxSlippageBps = .ok floor
  floorMet : floor.toNat ≤ minOut.toNat
  advancedValue : sellPlan.advance world.clock = .ok advanced
  changed : world' = { world with ledger := world'.ledger }.setSellPlan ctx.accounts.sellPlan (some advanced)
  settlement : Settlement world.ledger skimmed world'.ledger ctx.signers ctx.remainingAccounts
    ctx.accounts.leg fee destUsdc.amount minOut out swapData venue

omit [DecidableEq Pubkey] [ProgramAddress Pubkey] in
theorem loadSellPlan_ok (world : World Pubkey) (key : Pubkey) (plan : SellPlan Pubkey) :
    world.loadSellPlan key = .ok plan ↔ world.sellPlans key = some plan := by
  simp [World.loadSellPlan]

theorem checkOwner_ok (plan : SellPlan Pubkey) (key user : Pubkey) (result : Unit) :
    plan.checkOwner key user = .ok result ↔
      (key = sellPlanPda user ∧ plan.bump = sellPlanBump user) ∧ plan.user = user := by
  simp only [SellPlan.checkOwner, bind_ok, require_ok, exists_const, decide_eq_true_eq]

theorem executeSell_ok (world world' : World Pubkey) (ctx : Context Pubkey (ExecuteSell Pubkey))
    (minOut : UInt64) (swapData : List UInt8) (venue : Venue Pubkey) (event : SellExecuted Pubkey) :
    executeSell world ctx minOut swapData venue = .ok (world', event) ↔
      ∃ cfg feeConfig sellPlan advanced transientTarget userTargetAta destUsdc fee netIn floor out skimmed,
        SellCourse world ctx minOut swapData venue world' cfg feeConfig sellPlan advanced transientTarget
          userTargetAta destUsdc fee netIn floor out skimmed ∧
        event = { user := ctx.accounts.user, amountIn := transientTarget.amount, amountOut := out, fee := fee,
                  venue := ctx.accounts.swapProgram } := by
  have zero : (0 : UInt64).toNat = 0 := rfl
  simp only [executeSell, bind_ok, require_ok, exists_const, loadConfig_ok, loadFeeConfig_ok, loadSellPlan_ok,
    configSeeds_ok, checkOwner_ok, feeConfigSeeds_ok, tokenAccount_ok, okOr_ok, decide_eq_true_eq,
    List.contains_iff_mem, Bool.not_eq_true', U64.checkedSub_some,
    UInt64.lt_iff_toNat_lt, UInt64.le_iff_toNat_le, zero, pure_ok, Prod.mk.injEq]
  constructor
  · intro accepted
    rcases accepted with ⟨keeper, cfg, config, sellPlan, planLoaded, transientTarget, transientAccount, userTargetAta,
      potAccount, destUsdc, destAccount, feeConfig, feeConfigLoaded, feeAta, feeAccount, configSeeds,
      ⟨planSeeds, planOwner⟩, authoritySeeds, feeConfigSeeds, running, _, due, destAddress, transientAddress,
      potAddress, pulled, _, capped, _, whitelisted, listed, fee, feeValue, netIn, net, netPositive, feeAddress,
      priced, floor, floorValue, floorMet, ⟨settled, out⟩, swapped, advanced, advancedValue, same, event⟩
    cases listed
    cases same
    obtain ⟨skimmed, settlement⟩ := (forwardSwap_ok _ _ _ _ _ _ _ _ _ _ _).mp swapped
    exact ⟨cfg, feeConfig, sellPlan, advanced, transientTarget, userTargetAta, destUsdc, fee, netIn, floor,
      out, skimmed,
      { keeper := keeper, configLoaded := config, configSeeds := configSeeds, planLoaded := planLoaded
        planSeeds := planSeeds, planOwner := planOwner, authoritySeeds := authoritySeeds
        transientAccount := transientAccount, potAccount := potAccount, destAccount := destAccount
        feeConfigLoaded := feeConfigLoaded, feeConfigSeeds := feeConfigSeeds
        feeAccount := by simp [feeAccount], running := running, due := due, destAddress := destAddress
        transientAddress := transientAddress, potAddress := potAddress, pulled := pulled, capped := capped
        whitelisted := whitelisted, feeValue := feeValue, net := net, netPositive := netPositive
        feeAddress := feeAddress, priced := priced, floorValue := floorValue, floorMet := floorMet
        advancedValue := advancedValue, changed := rfl, settlement := settlement }, event.symm⟩
  · intro conditions
    rcases conditions with ⟨cfg, feeConfig, sellPlan, advanced, transientTarget, userTargetAta, destUsdc, fee, netIn,
      floor, out, skimmed, course, event⟩
    obtain ⟨feeAta, feeAccount⟩ := Option.isSome_iff_exists.mp course.feeAccount
    exact ⟨course.keeper, cfg, course.configLoaded, sellPlan, course.planLoaded, transientTarget,
      course.transientAccount, userTargetAta, course.potAccount, destUsdc, course.destAccount, feeConfig,
      course.feeConfigLoaded, feeAta, feeAccount, course.configSeeds, ⟨course.planSeeds, course.planOwner⟩,
      course.authoritySeeds, course.feeConfigSeeds, course.running, (), course.due,
      course.destAddress, course.transientAddress, course.potAddress, course.pulled, (), course.capped, true,
      course.whitelisted, rfl, fee, course.feeValue, netIn, course.net, course.netPositive, course.feeAddress,
      course.priced, floor, course.floorValue, course.floorMet, (world'.ledger, out),
      (forwardSwap_ok _ _ _ _ _ _ _ _ _ _ _).mpr ⟨skimmed, course.settlement⟩, advanced, course.advancedValue,
      course.changed.symm, event.symm⟩

end RecurringBuy
