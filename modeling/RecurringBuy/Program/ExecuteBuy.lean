import RecurringBuy.Program.Floors
import RecurringBuy.Program.Swap

set_option autoImplicit false

namespace RecurringBuy

open Checked SplToken ProgramAddress

variable {Pubkey : Type}

def Config.isWhitelisted [DecidableEq Pubkey] (cfg : Config Pubkey) (programId : Pubkey) : Except Error Bool := do
  require (cfg.swapProgramCount.toNat ≤ maxSwapPrograms) .panicked
  pure ((cfg.swapPrograms.toList.take cfg.swapProgramCount.toNat).contains programId)

structure ExecuteBuy (Pubkey : Type) where
  keeper : Pubkey
  config : Pubkey
  user : Pubkey
  buyAuthority : Pubkey
  transientUsdc : Pubkey
  destAta : Pubkey
  swapProgram : Pubkey
  feeConfig : Pubkey
  feeAta : Pubkey

structure BuyExecuted (Pubkey : Type) where
  user : Pubkey
  amountIn : UInt64
  amountOut : UInt64
  fee : UInt64
  venue : Pubkey

def ExecuteBuy.leg (accounts : ExecuteBuy Pubkey) : Leg Pubkey :=
  { swapProgram := accounts.swapProgram
    buyAuthority := accounts.buyAuthority
    transient := accounts.transientUsdc
    destination := accounts.destAta
    feeAta := accounts.feeAta }

variable [DecidableEq Pubkey] [ProgramAddress Pubkey]

def World.loadConfig (world : World Pubkey) : Except Error (Config Pubkey) :=
  okOr world.config (.anchor .accountNotInitialized)

def World.loadFeeConfig (world : World Pubkey) : Except Error (FeeConfig Pubkey) :=
  okOr world.feeConfig (.anchor .accountNotInitialized)

def Config.checkSeeds (cfg : Config Pubkey) (key : Pubkey) : Except Error Unit :=
  require (key = configPda ∧ cfg.bump = configBump Pubkey) (.anchor .constraintSeeds)

def FeeConfig.checkSeeds (feeConfig : FeeConfig Pubkey) (key : Pubkey) : Except Error Unit :=
  require (key = feeConfigPda ∧ feeConfig.bump = feeConfigBump Pubkey) (.anchor .constraintSeeds)

def executeBuy (world : World Pubkey) (ctx : Context Pubkey (ExecuteBuy Pubkey)) (minOut : UInt64)
    (swapData : List UInt8) (venue : Venue Pubkey) : Except Error (World Pubkey × BuyExecuted Pubkey) := do
  -- All the `ExecuteBuy` accounts are read before any of their constraints is checked.
  require (ctx.signers.contains ctx.accounts.keeper) (.anchor .accountNotSigner)
  let cfg ← world.loadConfig
  let transientUsdc ← tokenAccount world.ledger ctx.accounts.transientUsdc
  let destAta ← tokenAccount world.ledger ctx.accounts.destAta
  let feeConfig ← world.loadFeeConfig
  let _ ← tokenAccount world.ledger ctx.accounts.feeAta
  cfg.checkSeeds ctx.accounts.config
  require (ctx.accounts.buyAuthority = buyAuthority ctx.accounts.user) (.anchor .constraintSeeds)
  feeConfig.checkSeeds ctx.accounts.feeConfig
  -- The handler.
  require (!cfg.paused) (.buy .paused)
  require (destAta.mint = cfg.targetMint) (.buy .wrongTargetMint)
  require (ctx.accounts.destAta = AssociatedAddress.associated ctx.accounts.user cfg.targetMint)
    (.buy .destinationNotOwner)
  require (transientUsdc.mint = cfg.usdcMint) (.buy .badTransient)
  require (ctx.accounts.transientUsdc = AssociatedAddress.associated ctx.accounts.buyAuthority cfg.usdcMint)
    (.buy .badTransient)
  require (0 < transientUsdc.amount) (.buy .nothingPulled)
  let whitelisted ← cfg.isWhitelisted ctx.accounts.swapProgram
  require whitelisted (.buy .venueNotWhitelisted)
  let fee ← executionFee transientUsdc.amount feeConfig.feeBps
  let netIn ← okOr (U64.checkedSub transientUsdc.amount fee) (.buy .overflow)
  require (0 < netIn) (.buy .nothingPulled)
  require (ctx.accounts.feeAta = AssociatedAddress.associated feeConfig.destination cfg.usdcMint)
    (.buy .badFeeAccount)
  require (0 < cfg.priceRefMicros) (.buy .floorNotConfigured)
  let floor ← priceFloor netIn cfg.priceRefMicros cfg.targetDecimals cfg.maxSlippageBps
  require (floor ≤ minOut) (.buy .minOutTooLow)
  let (settled, out) ← forwardSwap world.ledger ctx.signers ctx.remainingAccounts ctx.accounts.leg fee
    destAta.amount minOut swapData venue
  pure ({ world with ledger := settled },
    { user := ctx.accounts.user
      amountIn := transientUsdc.amount
      amountOut := out
      fee := fee
      venue := ctx.accounts.swapProgram })

-- The accepted course: what every check found.
structure BuyCourse (world : World Pubkey) (ctx : Context Pubkey (ExecuteBuy Pubkey)) (minOut : UInt64)
    (swapData : List UInt8) (venue : Venue Pubkey) (world' : World Pubkey) (cfg : Config Pubkey)
    (feeConfig : FeeConfig Pubkey) (transientUsdc destAta : TokenAccount Pubkey)
    (fee netIn floor out : UInt64) (skimmed : Ledger Pubkey) : Prop where
  keeper : ctx.accounts.keeper ∈ ctx.signers
  configLoaded : world.config = some cfg
  configSeeds : ctx.accounts.config = configPda ∧ cfg.bump = configBump Pubkey
  authoritySeeds : ctx.accounts.buyAuthority = buyAuthority ctx.accounts.user
  feeConfigLoaded : world.feeConfig = some feeConfig
  feeConfigSeeds : ctx.accounts.feeConfig = feeConfigPda ∧ feeConfig.bump = feeConfigBump Pubkey
  transientAccount : world.ledger.accounts ctx.accounts.transientUsdc = some transientUsdc
  destAccount : world.ledger.accounts ctx.accounts.destAta = some destAta
  feeAccount : (world.ledger.accounts ctx.accounts.feeAta).isSome
  running : cfg.paused = false
  destMint : destAta.mint = cfg.targetMint
  destAddress : ctx.accounts.destAta = AssociatedAddress.associated ctx.accounts.user cfg.targetMint
  transientMint : transientUsdc.mint = cfg.usdcMint
  transientAddress : ctx.accounts.transientUsdc =
    AssociatedAddress.associated ctx.accounts.buyAuthority cfg.usdcMint
  pulled : 0 < transientUsdc.amount.toNat
  whitelisted : cfg.isWhitelisted ctx.accounts.swapProgram = .ok true
  feeValue : executionFee transientUsdc.amount feeConfig.feeBps = .ok fee
  net : netIn.toNat + fee.toNat = transientUsdc.amount.toNat
  netPositive : 0 < netIn.toNat
  feeAddress : ctx.accounts.feeAta = AssociatedAddress.associated feeConfig.destination cfg.usdcMint
  priced : 0 < cfg.priceRefMicros.toNat
  floorValue : priceFloor netIn cfg.priceRefMicros cfg.targetDecimals cfg.maxSlippageBps = .ok floor
  floorMet : floor.toNat ≤ minOut.toNat
  unchanged : world' = { world with ledger := world'.ledger }
  settlement : Settlement world.ledger skimmed world'.ledger ctx.signers ctx.remainingAccounts
    ctx.accounts.leg fee destAta.amount minOut out swapData venue

omit [DecidableEq Pubkey] [ProgramAddress Pubkey] in
theorem loadConfig_ok (world : World Pubkey) (cfg : Config Pubkey) :
    world.loadConfig = .ok cfg ↔ world.config = some cfg := by
  simp [World.loadConfig]

omit [DecidableEq Pubkey] [ProgramAddress Pubkey] in
theorem loadFeeConfig_ok (world : World Pubkey) (feeConfig : FeeConfig Pubkey) :
    world.loadFeeConfig = .ok feeConfig ↔ world.feeConfig = some feeConfig := by
  simp [World.loadFeeConfig]

theorem configSeeds_ok (cfg : Config Pubkey) (key : Pubkey) (result : Unit) :
    cfg.checkSeeds key = .ok result ↔ key = configPda ∧ cfg.bump = configBump Pubkey := by
  simp only [Config.checkSeeds, require_ok, decide_eq_true_eq]

theorem feeConfigSeeds_ok (feeConfig : FeeConfig Pubkey) (key : Pubkey) (result : Unit) :
    feeConfig.checkSeeds key = .ok result ↔ key = feeConfigPda ∧ feeConfig.bump = feeConfigBump Pubkey := by
  simp only [FeeConfig.checkSeeds, require_ok, decide_eq_true_eq]

theorem executeBuy_ok (world world' : World Pubkey) (ctx : Context Pubkey (ExecuteBuy Pubkey))
    (minOut : UInt64) (swapData : List UInt8) (venue : Venue Pubkey) (event : BuyExecuted Pubkey) :
    executeBuy world ctx minOut swapData venue = .ok (world', event) ↔
      ∃ cfg feeConfig transientUsdc destAta fee netIn floor out skimmed,
        BuyCourse world ctx minOut swapData venue world' cfg feeConfig transientUsdc destAta fee netIn floor
          out skimmed ∧
        event = { user := ctx.accounts.user, amountIn := transientUsdc.amount, amountOut := out, fee := fee,
                  venue := ctx.accounts.swapProgram } := by
  have zero : (0 : UInt64).toNat = 0 := rfl
  simp only [executeBuy, bind_ok, require_ok, exists_const, loadConfig_ok, loadFeeConfig_ok, configSeeds_ok,
    feeConfigSeeds_ok, tokenAccount_ok, okOr_ok, decide_eq_true_eq, List.contains_iff_mem,
    Bool.not_eq_true', U64.checkedSub_some,
    UInt64.lt_iff_toNat_lt, UInt64.le_iff_toNat_le, zero, pure_ok, Prod.mk.injEq]
  constructor
  · intro accepted
    rcases accepted with ⟨keeper, cfg, config, transientUsdc, transientAccount, destAta, destAccount, feeConfig,
      feeConfigLoaded, feeAta, feeAccount, configSeeds, authoritySeeds, feeConfigSeeds, running, destMint,
      destAddress, transientMint, transientAddress, pulled, _, whitelisted, listed, fee, feeValue, netIn, net,
      netPositive, feeAddress, priced, floor, floorValue, floorMet, ⟨settled, out⟩, swapped, same, event⟩
    cases listed
    cases same
    obtain ⟨skimmed, settlement⟩ := (forwardSwap_ok _ _ _ _ _ _ _ _ _ _ _).mp swapped
    exact ⟨cfg, feeConfig, transientUsdc, destAta, fee, netIn, floor, out, skimmed,
      { keeper := keeper, configLoaded := config, configSeeds := configSeeds
        authoritySeeds := authoritySeeds, feeConfigLoaded := feeConfigLoaded
        feeConfigSeeds := feeConfigSeeds, transientAccount := transientAccount
        destAccount := destAccount, feeAccount := by simp [feeAccount], running := running
        destMint := destMint, destAddress := destAddress, transientMint := transientMint
        transientAddress := transientAddress, pulled := pulled, whitelisted := whitelisted
        feeValue := feeValue, net := net, netPositive := netPositive, feeAddress := feeAddress
        priced := priced, floorValue := floorValue, floorMet := floorMet, unchanged := rfl
        settlement := settlement }, event.symm⟩
  · intro conditions
    rcases conditions with ⟨cfg, feeConfig, transientUsdc, destAta, fee, netIn, floor, out, skimmed, course, event⟩
    obtain ⟨feeAta, feeAccount⟩ := Option.isSome_iff_exists.mp course.feeAccount
    exact ⟨course.keeper, cfg, course.configLoaded, transientUsdc, course.transientAccount, destAta, course.destAccount,
      feeConfig, course.feeConfigLoaded, feeAta, feeAccount, course.configSeeds, course.authoritySeeds,
      course.feeConfigSeeds, course.running,
      course.destMint, course.destAddress, course.transientMint, course.transientAddress, course.pulled,
      true, course.whitelisted, rfl, fee, course.feeValue, netIn, course.net, course.netPositive,
      course.feeAddress, course.priced, floor, course.floorValue, course.floorMet,
      (world'.ledger, out), (forwardSwap_ok _ _ _ _ _ _ _ _ _ _ _).mpr ⟨skimmed, course.settlement⟩,
      course.unchanged.symm, event.symm⟩

end RecurringBuy
