import RecurringBuy.Program.ExecuteSell

set_option autoImplicit false

namespace RecurringBuy

open Checked SplToken ProgramAddress

variable {Pubkey : Type}

structure InitConfig (Pubkey : Type) where
  admin : Pubkey
  config : Pubkey
  targetMint : Pubkey
  usdcMint : Pubkey

structure AdminOnly (Pubkey : Type) where
  admin : Pubkey
  config : Pubkey

structure FeeAdmin (Pubkey : Type) where
  admin : Pubkey
  config : Pubkey
  feeConfig : Pubkey

-- `OpenSellPlan` and `CloseSellPlan` list the same accounts.
structure PlanOwner (Pubkey : Type) where
  user : Pubkey
  sellPlan : Pubkey

variable [DecidableEq Pubkey] [ProgramAddress Pubkey]

-- `swap_programs` written over a freshly cleared array.
def venueArray (swapPrograms : List Pubkey) : Vector Pubkey maxSwapPrograms :=
  swapPrograms.zipIdx.foldl (fun array entry => array.setIfInBounds entry.2 entry.1)
    (Vector.replicate maxSwapPrograms (ProgramAddress.default : Pubkey))

def World.setConfig (world : World Pubkey) (cfg : Config Pubkey) : World Pubkey :=
  { world with config := some cfg }

def World.setFeeConfig (world : World Pubkey) (feeConfig : FeeConfig Pubkey) : World Pubkey :=
  { world with feeConfig := some feeConfig }

def mintAccount (ledger : Ledger Pubkey) (key : Pubkey) : Except Error (Mint Pubkey) :=
  okOr (ledger.mints key) (.anchor .accountNotInitialized)

def initConfig (world : World Pubkey) (ctx : Context Pubkey (InitConfig Pubkey)) (swapPrograms : List Pubkey)
    (priceRefMicros : UInt64) (maxSlippageBps : UInt16) : Except Error (World Pubkey) := do
  require (ctx.signers.contains ctx.accounts.admin) (.anchor .accountNotSigner)
  let targetMint ← mintAccount world.ledger ctx.accounts.targetMint
  let usdcMint ← mintAccount world.ledger ctx.accounts.usdcMint
  require (ctx.accounts.config = configPda) (.anchor .constraintSeeds)
  require world.config.isNone (.anchor .accountAlreadyInUse)
  require (swapPrograms.length ≤ maxSwapPrograms) (.buy .tooManyVenues)
  require (maxSlippageBps ≤ 10000) (.buy .badParam)
  require (targetMint.decimals ≤ 12) (.buy .badParam)
  require (usdcMint.decimals = 6) (.buy .badParam)
  pure (world.setConfig
    { admin := ctx.accounts.admin
      targetMint := ctx.accounts.targetMint
      usdcMint := ctx.accounts.usdcMint
      swapPrograms := venueArray swapPrograms
      swapProgramCount := UInt8.ofNat swapPrograms.length
      priceRefMicros := priceRefMicros
      targetDecimals := targetMint.decimals
      maxSlippageBps := maxSlippageBps
      paused := false
      bump := configBump Pubkey })

def Config.checkAdmin (cfg : Config Pubkey) (admin config : Pubkey) : Except Error Unit := do
  cfg.checkSeeds config
  require (cfg.admin = admin) (.anchor .constraintHasOne)

def World.loadAdmin (world : World Pubkey) (signers : List Pubkey) (admin config : Pubkey) :
    Except Error (Config Pubkey) := do
  require (signers.contains admin) (.anchor .accountNotSigner)
  let cfg ← world.loadConfig
  cfg.checkAdmin admin config
  pure cfg

def setPause (world : World Pubkey) (ctx : Context Pubkey (AdminOnly Pubkey)) (paused : Bool) :
    Except Error (World Pubkey) := do
  let cfg ← world.loadAdmin ctx.signers ctx.accounts.admin ctx.accounts.config
  pure (world.setConfig { cfg with paused := paused })

def setParams (world : World Pubkey) (ctx : Context Pubkey (AdminOnly Pubkey)) (priceRefMicros : UInt64)
    (maxSlippageBps : UInt16) : Except Error (World Pubkey) := do
  let cfg ← world.loadAdmin ctx.signers ctx.accounts.admin ctx.accounts.config
  require (maxSlippageBps ≤ 10000) (.buy .badParam)
  pure (world.setConfig { cfg with priceRefMicros := priceRefMicros, maxSlippageBps := maxSlippageBps })

def setWhitelist (world : World Pubkey) (ctx : Context Pubkey (AdminOnly Pubkey)) (swapPrograms : List Pubkey) :
    Except Error (World Pubkey) := do
  let cfg ← world.loadAdmin ctx.signers ctx.accounts.admin ctx.accounts.config
  require (swapPrograms.length ≤ maxSwapPrograms) (.buy .tooManyVenues)
  pure (world.setConfig
    { cfg with
      swapPrograms := venueArray swapPrograms
      swapProgramCount := UInt8.ofNat swapPrograms.length })

def initFeeConfig (world : World Pubkey) (ctx : Context Pubkey (FeeAdmin Pubkey)) (feeBps : UInt16)
    (destination : Pubkey) : Except Error (World Pubkey) := do
  require (ctx.signers.contains ctx.accounts.admin) (.anchor .accountNotSigner)
  let cfg ← world.loadConfig
  -- An account to be created comes before the constraints of the others.
  require (ctx.accounts.feeConfig = feeConfigPda) (.anchor .constraintSeeds)
  require world.feeConfig.isNone (.anchor .accountAlreadyInUse)
  cfg.checkAdmin ctx.accounts.admin ctx.accounts.config
  require (feeBps ≤ maxFeeBps) (.buy .feeTooHigh)
  pure (world.setFeeConfig { feeBps := feeBps, destination := destination, bump := feeConfigBump Pubkey })

def setFee (world : World Pubkey) (ctx : Context Pubkey (FeeAdmin Pubkey)) (feeBps : UInt16)
    (destination : Pubkey) : Except Error (World Pubkey) := do
  require (ctx.signers.contains ctx.accounts.admin) (.anchor .accountNotSigner)
  let cfg ← world.loadConfig
  let feeConfig ← world.loadFeeConfig
  cfg.checkAdmin ctx.accounts.admin ctx.accounts.config
  feeConfig.checkSeeds ctx.accounts.feeConfig
  require (feeBps ≤ maxFeeBps) (.buy .feeTooHigh)
  pure (world.setFeeConfig { feeConfig with feeBps := feeBps, destination := destination })

def openSellPlan (world : World Pubkey) (ctx : Context Pubkey (PlanOwner Pubkey)) (endTs periodSecs : Int64) :
    Except Error (World Pubkey) := do
  require (ctx.signers.contains ctx.accounts.user) (.anchor .accountNotSigner)
  require (ctx.accounts.sellPlan = sellPlanPda ctx.accounts.user) (.anchor .constraintSeeds)
  require (world.sellPlans ctx.accounts.sellPlan).isNone (.anchor .accountAlreadyInUse)
  require (minPeriodSecs ≤ periodSecs ∧ periodSecs ≤ maxPeriodSecs) (.buy .badParam)
  let now := world.clock
  require (I64.saturatingAdd now periodSecs < endTs) (.buy .badParam)
  pure (world.setSellPlan ctx.accounts.sellPlan (some
    { user := ctx.accounts.user
      endTs := endTs
      periodSecs := periodSecs
      nextDueTs := now
      bump := sellPlanBump ctx.accounts.user }))

def closeSellPlan (world : World Pubkey) (ctx : Context Pubkey (PlanOwner Pubkey)) : Except Error (World Pubkey) := do
  require (ctx.signers.contains ctx.accounts.user) (.anchor .accountNotSigner)
  let plan ← world.loadSellPlan ctx.accounts.sellPlan
  plan.checkOwner ctx.accounts.sellPlan ctx.accounts.user
  pure (world.setSellPlan ctx.accounts.sellPlan none)

section Accepted

/-- `admin` signed, and is the admin of the configuration at `config`. -/
structure Authorised (world : World Pubkey) (signers : List Pubkey) (admin config : Pubkey) (cfg : Config Pubkey) :
    Prop where
  signed : admin ∈ signers
  present : world.config = some cfg
  seeds : config = configPda ∧ cfg.bump = configBump Pubkey
  owner : cfg.admin = admin

theorem checkAdmin_ok (cfg : Config Pubkey) (admin config : Pubkey) (result : Unit) :
    cfg.checkAdmin admin config = .ok result ↔
      (config = configPda ∧ cfg.bump = configBump Pubkey) ∧ cfg.admin = admin := by
  simp only [Config.checkAdmin, bind_ok, require_ok, exists_const, configSeeds_ok, decide_eq_true_eq]

omit [DecidableEq Pubkey] in
theorem authorised_iff (world : World Pubkey) (signers : List Pubkey) (admin config : Pubkey) (cfg : Config Pubkey) :
    Authorised world signers admin config cfg ↔ admin ∈ signers ∧ world.config = some cfg ∧
      (config = configPda ∧ cfg.bump = configBump Pubkey) ∧ cfg.admin = admin :=
  ⟨fun authorised => ⟨authorised.signed, authorised.present, authorised.seeds, authorised.owner⟩,
    fun conditions => ⟨conditions.1, conditions.2.1, conditions.2.2.1, conditions.2.2.2⟩⟩

theorem loadAdmin_ok (world : World Pubkey) (signers : List Pubkey) (admin config : Pubkey) (cfg : Config Pubkey) :
    world.loadAdmin signers admin config = .ok cfg ↔ Authorised world signers admin config cfg := by
  simp only [World.loadAdmin, bind_ok, require_ok, exists_const, loadConfig_ok, checkAdmin_ok, pure_ok,
    List.contains_iff_mem, authorised_iff]
  constructor
  next =>
    intro accepted
    rcases accepted with ⟨signed, _, present, conditions, same⟩
    cases same
    exact ⟨signed, present, conditions⟩
  next =>
    intro conditions
    rcases conditions with ⟨signed, present, conditions⟩
    exact ⟨signed, cfg, present, conditions, rfl⟩

theorem initConfig_ok (world world' : World Pubkey) (ctx : Context Pubkey (InitConfig Pubkey))
    (swapPrograms : List Pubkey) (priceRefMicros : UInt64) (maxSlippageBps : UInt16) :
    initConfig world ctx swapPrograms priceRefMicros maxSlippageBps = .ok world' ↔
      ctx.accounts.admin ∈ ctx.signers ∧ ctx.accounts.config = configPda ∧ world.config = none ∧
      ∃ targetMint usdcMint, world.ledger.mints ctx.accounts.targetMint = some targetMint ∧
        world.ledger.mints ctx.accounts.usdcMint = some usdcMint ∧ swapPrograms.length ≤ maxSwapPrograms ∧
        maxSlippageBps.toNat ≤ 10000 ∧ targetMint.decimals.toNat ≤ 12 ∧ usdcMint.decimals = 6 ∧
        world' = world.setConfig
          { admin := ctx.accounts.admin
            targetMint := ctx.accounts.targetMint
            usdcMint := ctx.accounts.usdcMint
            swapPrograms := venueArray swapPrograms
            swapProgramCount := UInt8.ofNat swapPrograms.length
            priceRefMicros := priceRefMicros
            targetDecimals := targetMint.decimals
            maxSlippageBps := maxSlippageBps
            paused := false
            bump := configBump Pubkey } := by
  have slippage : (10000 : UInt16).toNat = 10000 := rfl
  have decimals : (12 : UInt8).toNat = 12 := rfl
  simp only [initConfig, mintAccount, bind_ok, okOr_ok, require_ok, exists_const, pure_ok, decide_eq_true_eq,
    List.contains_iff_mem, Option.isNone_iff_eq_none, UInt16.le_iff_toNat_le, UInt8.le_iff_toNat_le, slippage,
    decimals]
  constructor
  next =>
    intro accepted
    rcases accepted with ⟨signed, targetMint, atTarget, usdcMint, atUsdc, seeds, fresh, few, low, most, six, same⟩
    exact ⟨signed, seeds, fresh, targetMint, usdcMint, atTarget, atUsdc, few, low, most, six, same.symm⟩
  next =>
    intro conditions
    rcases conditions with ⟨signed, seeds, fresh, targetMint, usdcMint, atTarget, atUsdc, few, low, most, six, same⟩
    exact ⟨signed, targetMint, atTarget, usdcMint, atUsdc, seeds, fresh, few, low, most, six, same.symm⟩

theorem setPause_ok (world world' : World Pubkey) (ctx : Context Pubkey (AdminOnly Pubkey)) (paused : Bool) :
    setPause world ctx paused = .ok world' ↔
      ∃ cfg, Authorised world ctx.signers ctx.accounts.admin ctx.accounts.config cfg ∧
        world' = world.setConfig { cfg with paused := paused } := by
  simp only [setPause, bind_ok, loadAdmin_ok, pure_ok, eq_comm (b := world')]

theorem setParams_ok (world world' : World Pubkey) (ctx : Context Pubkey (AdminOnly Pubkey))
    (priceRefMicros : UInt64) (maxSlippageBps : UInt16) :
    setParams world ctx priceRefMicros maxSlippageBps = .ok world' ↔
      ∃ cfg, Authorised world ctx.signers ctx.accounts.admin ctx.accounts.config cfg ∧
        maxSlippageBps.toNat ≤ 10000 ∧
        world' = world.setConfig { cfg with priceRefMicros := priceRefMicros, maxSlippageBps := maxSlippageBps } := by
  have slippage : (10000 : UInt16).toNat = 10000 := rfl
  simp only [setParams, bind_ok, require_ok, exists_const, loadAdmin_ok, pure_ok, decide_eq_true_eq,
    UInt16.le_iff_toNat_le, slippage, eq_comm (b := world')]

theorem setWhitelist_ok (world world' : World Pubkey) (ctx : Context Pubkey (AdminOnly Pubkey))
    (swapPrograms : List Pubkey) :
    setWhitelist world ctx swapPrograms = .ok world' ↔
      ∃ cfg, Authorised world ctx.signers ctx.accounts.admin ctx.accounts.config cfg ∧
        swapPrograms.length ≤ maxSwapPrograms ∧
        world' = world.setConfig
          { cfg with
            swapPrograms := venueArray swapPrograms
            swapProgramCount := UInt8.ofNat swapPrograms.length } := by
  simp only [setWhitelist, bind_ok, require_ok, exists_const, loadAdmin_ok, pure_ok, decide_eq_true_eq,
    eq_comm (b := world')]

theorem initFeeConfig_ok (world world' : World Pubkey) (ctx : Context Pubkey (FeeAdmin Pubkey)) (feeBps : UInt16)
    (destination : Pubkey) :
    initFeeConfig world ctx feeBps destination = .ok world' ↔
      (∃ cfg, Authorised world ctx.signers ctx.accounts.admin ctx.accounts.config cfg) ∧
      ctx.accounts.feeConfig = feeConfigPda ∧ world.feeConfig = none ∧ feeBps.toNat ≤ 100 ∧
      world' = world.setFeeConfig
        { feeBps := feeBps, destination := destination, bump := feeConfigBump Pubkey } := by
  have most : maxFeeBps.toNat = 100 := rfl
  simp only [initFeeConfig, bind_ok, require_ok, exists_const, loadConfig_ok, checkAdmin_ok, pure_ok, decide_eq_true_eq,
    List.contains_iff_mem, Option.isNone_iff_eq_none, UInt16.le_iff_toNat_le, most, authorised_iff]
  constructor
  next =>
    intro accepted
    rcases accepted with ⟨signed, cfg, present, seeds, fresh, conditions, capped, same⟩
    exact ⟨⟨cfg, signed, present, conditions⟩, seeds, fresh, capped, same.symm⟩
  next =>
    intro conditions
    rcases conditions with ⟨⟨cfg, signed, present, conditions⟩, seeds, fresh, capped, same⟩
    exact ⟨signed, cfg, present, seeds, fresh, conditions, capped, same.symm⟩

theorem setFee_ok (world world' : World Pubkey) (ctx : Context Pubkey (FeeAdmin Pubkey)) (feeBps : UInt16)
    (destination : Pubkey) :
    setFee world ctx feeBps destination = .ok world' ↔
      (∃ cfg, Authorised world ctx.signers ctx.accounts.admin ctx.accounts.config cfg) ∧
      ∃ feeConfig, world.feeConfig = some feeConfig ∧
        (ctx.accounts.feeConfig = feeConfigPda ∧ feeConfig.bump = feeConfigBump Pubkey) ∧ feeBps.toNat ≤ 100 ∧
        world' = world.setFeeConfig { feeConfig with feeBps := feeBps, destination := destination } := by
  have most : maxFeeBps.toNat = 100 := rfl
  simp only [setFee, bind_ok, require_ok, exists_const, loadConfig_ok, loadFeeConfig_ok, checkAdmin_ok,
    feeConfigSeeds_ok, pure_ok, decide_eq_true_eq, List.contains_iff_mem, UInt16.le_iff_toNat_le, most, authorised_iff]
  constructor
  next =>
    intro accepted
    rcases accepted with ⟨signed, cfg, present, feeConfig, loaded, conditions, seeds, capped, same⟩
    exact ⟨⟨cfg, signed, present, conditions⟩, feeConfig, loaded, seeds, capped, same.symm⟩
  next =>
    intro conditions
    rcases conditions with ⟨⟨cfg, signed, present, conditions⟩, feeConfig, loaded, seeds, capped, same⟩
    exact ⟨signed, cfg, present, feeConfig, loaded, conditions, seeds, capped, same.symm⟩

theorem openSellPlan_ok (world world' : World Pubkey) (ctx : Context Pubkey (PlanOwner Pubkey))
    (endTs periodSecs : Int64) :
    openSellPlan world ctx endTs periodSecs = .ok world' ↔
      ctx.accounts.user ∈ ctx.signers ∧ ctx.accounts.sellPlan = sellPlanPda ctx.accounts.user ∧
      world.sellPlans ctx.accounts.sellPlan = none ∧
      (60 ≤ periodSecs.toInt ∧ periodSecs.toInt ≤ 366 * 86400) ∧
      world.clock.toInt + periodSecs.toInt < endTs.toInt ∧
      world' = world.setSellPlan ctx.accounts.sellPlan (some
        { user := ctx.accounts.user, endTs := endTs, periodSecs := periodSecs, nextDueTs := world.clock
          bump := sellPlanBump ctx.accounts.user }) := by
  have least : minPeriodSecs.toInt = 60 := rfl
  have most : maxPeriodSecs.toInt = 366 * 86400 := rfl
  -- Where the sum saturates, no `end_ts` exceeds it.
  have horizon (positive : 60 ≤ periodSecs.toInt) :
      (I64.saturatingAdd world.clock periodSecs).toInt < endTs.toInt ↔
        world.clock.toInt + periodSecs.toInt < endTs.toInt := by
    have low := world.clock.le_toInt
    have high := endTs.toInt_lt
    rw [I64.saturatingAdd_toInt]
    omega
  simp only [openSellPlan, bind_ok, require_ok, exists_const, pure_ok, decide_eq_true_eq, List.contains_iff_mem,
    Option.isNone_iff_eq_none, Int64.le_iff_toInt_le, Int64.lt_iff_toInt_lt, least, most]
  constructor
  next =>
    intro accepted
    rcases accepted with ⟨signed, seeds, fresh, cadence, ends, same⟩
    exact ⟨signed, seeds, fresh, cadence, (horizon cadence.1).mp ends, same.symm⟩
  next =>
    intro conditions
    rcases conditions with ⟨signed, seeds, fresh, cadence, ends, same⟩
    exact ⟨signed, seeds, fresh, cadence, (horizon cadence.1).mpr ends, same.symm⟩

theorem closeSellPlan_ok (world world' : World Pubkey) (ctx : Context Pubkey (PlanOwner Pubkey))
    (accepted : closeSellPlan world ctx = .ok world') :
    ctx.accounts.sellPlan = sellPlanPda ctx.accounts.user ∧
      (∃ plan, world.sellPlans ctx.accounts.sellPlan = some plan) ∧
      world' = world.setSellPlan ctx.accounts.sellPlan none := by
  simp only [closeSellPlan, bind_ok, require_ok, exists_const, loadSellPlan_ok, checkOwner_ok, pure_ok] at accepted
  obtain ⟨_, plan, loaded, ⟨seeds, _⟩, same⟩ := accepted
  exact ⟨seeds.1, ⟨plan, loaded⟩, same.symm⟩

end Accepted

end RecurringBuy
