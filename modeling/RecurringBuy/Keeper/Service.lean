import RecurringBuy.Keeper.Funding

set_option autoImplicit false

namespace RecurringBuy

open Checked Rounding SplToken ProgramAddress

section Service

variable {Pubkey : Type} [DecidableEq Pubkey] [ProgramAddress Pubkey] (daemon : Daemon Pubkey)
  (world : World Pubkey) (cfg : Config Pubkey) (feeConfig : FeeConfig Pubkey)

/-- The deployment the daemon is written for: a target of six decimals at one dollar. -/
structure Daemon.Serves : Prop where
  reachable : world.Reachable
  configLoaded : world.config = some cfg
  feeConfigLoaded : world.feeConfig = some feeConfig
  running : cfg.paused = false
  price : cfg.priceRefMicros = 1000000
  decimals : cfg.targetDecimals = 6
  slippage : daemon.slippageBps = cfg.maxSlippageBps.toNat
  usdcMint : daemon.usdc = cfg.usdcMint
  targetMint : daemon.target = cfg.targetMint
  whitelisted : cfg.isWhitelisted daemon.mockSwap.programId = .ok true

structure Agreement (amountIn fee netIn floor : UInt64) : Prop where
  feeValue : executionFee amountIn feeConfig.feeBps = .ok fee
  net : netIn.toNat + fee.toNat = amountIn.toNat
  netPositive : 0 < netIn.toNat
  buyFloor : priceFloor netIn cfg.priceRefMicros cfg.targetDecimals cfg.maxSlippageBps = .ok floor
  sellFloor : sellFloor netIn cfg.priceRefMicros cfg.targetDecimals cfg.maxSlippageBps = .ok floor
  daemonFee : feeOn amountIn.toNat feeConfig.feeBps.toNat = fee.toNat
  daemonNet : (amountIn.toNat : Int) - feeOn amountIn.toNat feeConfig.feeBps.toNat = netIn.toNat
  daemonFloor : daemon.floorOut netIn.toNat = floor.toNat
  floorBelow : floor.toNat ≤ netIn.toNat

section Amounts

theorem feeOn_nat (amountIn bps : Nat) : feeOn amountIn bps = (amountIn * bps / 10000 : Nat) := by
  rw [feeOn, Int.tdiv_eq_ediv_of_nonneg (by positivity)]
  push_cast
  rfl

omit [DecidableEq Pubkey] in
theorem floorOut_nat (netIn bps : Nat) (slippage : daemon.slippageBps = bps) (most : bps ≤ 10000) :
    daemon.floorOut netIn = (netIn * (10000 - bps) / 10000 : Nat) := by
  have kept : (10000 : Int) - bps = (10000 - bps : Nat) := by omega
  rw [Daemon.floorOut, slippage, kept, Int.tdiv_eq_ediv_of_nonneg (by positivity)]
  push_cast
  rfl

-- At one dollar the two scales cancel.
theorem discounted_dollar (netIn bps : Nat) : discounted (netIn * 10 ^ 6) (10 ^ 6) (10000 - bps) 10000 =
    netIn * (10000 - bps) / 10000 := by
  rw [discounted, Nat.mul_div_cancel _ (by positivity)]

end Amounts

theorem serves_agreement (serves : daemon.Serves world cfg feeConfig) (amountIn : UInt64)
    (positive : 0 < amountIn.toNat) :
    ∃ fee netIn floor, Agreement daemon cfg feeConfig amountIn fee netIn floor := by
  have formed := reachable_wellFormed world serves.reachable
  have cfgFormed := formed.config cfg serves.configLoaded
  have feeFormed := formed.feeConfig feeConfig serves.feeConfigLoaded
  have amount := amountIn.toNat_lt
  obtain ⟨fee, charged, feeValue⟩ := fee_total feeConfig feeFormed amountIn
  have small := feeOf_le feeConfig feeFormed amountIn.toNat
  let netIn := UInt64.ofNat (amountIn.toNat - fee.toNat)
  have netValue : netIn.toNat = amountIn.toNat - fee.toNat := ofNat_toNat _ (by omega)
  let kept := 10000 - cfg.maxSlippageBps.toNat
  let floor := UInt64.ofNat (netIn.toNat * kept / 10000)
  have scaled : netIn.toNat * kept ≤ netIn.toNat * 10000 := Nat.mul_le_mul_left _ (Nat.sub_le _ _)
  have below : netIn.toNat * kept / 10000 ≤ netIn.toNat := by omega
  have floorValue : floor.toNat = netIn.toNat * kept / 10000 := ofNat_toNat _ (by omega)
  have daemonFee : feeOn amountIn.toNat feeConfig.feeBps.toNat = fee.toNat := by
    rw [feeOn_nat, feeValue]
    rfl
  have price : cfg.priceRefMicros.toNat = 10 ^ 6 := by rw [serves.price]; rfl
  have decimals : cfg.targetDecimals.toNat = 6 := by rw [serves.decimals]; rfl
  have exactly : floor.toNat = netIn.toNat * kept / 10000 % 2 ^ 64 := by
    rw [Nat.mod_eq_of_lt (by omega), floorValue]
  refine ⟨fee, netIn, floor, ?_⟩
  constructor
  case feeValue => exact charged
  case net => omega
  case netPositive => omega
  case buyFloor =>
    apply (priceFloor_ok _ _ _ _ _ cfgFormed.decimals cfgFormed.slippage).mpr
    rw [price, decimals, discounted_dollar]
    exact ⟨by decide, exactly⟩
  case sellFloor =>
    apply (sellFloor_ok _ _ _ _ _ cfgFormed.decimals cfgFormed.slippage).mpr
    have fits : netIn.toNat * kept < 2 ^ 128 := by omega
    rw [price, decimals, discounted_dollar, Nat.mul_div_cancel _ (by positivity)]
    exact ⟨fits, exactly⟩
  case daemonFee => exact daemonFee
  case daemonNet =>
    rw [daemonFee]
    omega
  case daemonFloor => rw [floorOut_nat daemon _ _ serves.slippage cfgFormed.slippage, floorValue]
  case floorBelow => rwa [floorValue]

omit [DecidableEq Pubkey] [ProgramAddress Pubkey] in
theorem loadFeeConfig_some (loaded : world.feeConfig = some feeConfig) :
    Daemon.loadFeeConfig world = { bps := feeConfig.feeBps.toNat, destination := some feeConfig.destination } := by
  simp [Daemon.loadFeeConfig, loaded]

end Service

-- The user of `Terms` with the mock venue and half a percent of fee.
namespace Served

open Terms

def terms : Terms := { Terms.dollar with feeBps := 50, endTs := 600 }

def keeper : Address := .key 30
def poolAuthority : Address := .key 31
def tokenProgram : Address := .key 32
def poolUsdc : Address := .key 33
def poolTarget : Address := .key 34
def subscriptionAuthority : Address := .key 35

def daemon : Daemon Address :=
  { keeper := keeper
    mockSwap :=
      { programId := swapProgram
        poolAuthority := poolAuthority
        tokenProgram := tokenProgram
        discriminator := Vector.replicate 8 1
        unassociated := fun _ _ => Address.noConfusion }
    usdc := usdcMint
    target := targetMint
    poolUsdc := poolUsdc
    poolTarget := poolTarget
    slippageBps := 100
    executeBuy := Vector.replicate 8 2
    executeSell := Vector.replicate 8 3
    underived := fun _ => Address.noConfusion
    unassociated := fun _ _ => Address.noConfusion }

def poolIn : Direction → Address
  | .buy => poolUsdc
  | .sell => poolTarget

def poolOut : Direction → Address
  | .buy => poolTarget
  | .sell => poolUsdc

def ledger (direction : Direction) (pot residue liquidity : UInt64) : Ledger Address :=
  let mintIn := direction.mintIn terms.config
  let mintOut := direction.mintOut terms.config
  Ledger.ofList
    [(wallet user mintIn,
        { mint := mintIn, owner := user, amount := pot, delegate := some subscriptionAuthority, delegatedAmount := pot }),
      (transient user mintIn, { mint := mintIn, owner := buyAuthority user, amount := residue }),
      (wallet feeOwner mintIn, { mint := mintIn, owner := feeOwner, amount := 0 }),
      (poolIn direction, { mint := mintIn, owner := poolAuthority, amount := 0 }),
      (poolOut direction, { mint := mintOut, owner := poolAuthority, amount := liquidity })]
    terms.mints

def world (direction : Direction) (pot residue liquidity : UInt64) : World Address :=
  terms.deployed (ledger direction pot residue liquidity).accounts

theorem terms_acceptable : terms.Acceptable := by
  constructor <;> decide

theorem world_ledger (direction : Direction) (pot residue liquidity : UInt64) :
    (world direction pot residue liquidity).ledger = ledger direction pot residue liquidity := by
  rw [world, deployed_eq _ _ terms_acceptable]
  rfl

theorem world_clock (direction : Direction) (pot residue liquidity : UInt64) :
    (world direction pot residue liquidity).clock = 0 := by
  rw [world, deployed_eq _ _ terms_acceptable]
  rfl

theorem world_plan (direction : Direction) (pot residue liquidity : UInt64) :
    (world direction pot residue liquidity).sellPlans (sellPlanPda user) = some terms.plan := by
  rw [world, deployed_eq _ _ terms_acceptable]
  rfl

theorem serves (direction : Direction) (pot residue liquidity : UInt64) :
    daemon.Serves (world direction pot residue liquidity) terms.config terms.feeConfig where
  reachable := deployed_reachable _ _
  configLoaded := deployed_config _ _ terms_acceptable
  feeConfigLoaded := deployed_feeConfig _ _ terms_acceptable
  running := rfl
  price := rfl
  decimals := rfl
  slippage := rfl
  usdcMint := rfl
  targetMint := rfl
  whitelisted := by decide

theorem fundable (direction : Direction) (pot residue liquidity : UInt64)
    (small : pot.toNat + residue.toNat + liquidity.toNat < 2 ^ 64) :
    Fundable daemon user (direction.mintIn terms.config) (direction.mintOut terms.config) feeOwner (poolIn direction)
      (poolOut direction) (world direction pot residue liquidity).ledger := by
  rw [world_ledger]
  constructor
  case supplied =>
    apply ofList_supplied
    simp only [List.map_cons, List.map_nil, List.sum_cons, List.sum_nil, UInt64.toNat_zero]
    omega
  case minted => cases direction <;> exact ⟨rfl, rfl⟩
  case input =>
    intro account present
    cases direction <;> cases present <;> exact ⟨rfl, rfl, (Option.some_ne_none _).symm⟩
  case source => cases direction <;> exact ⟨_, rfl, rfl, rfl⟩
  case dest =>
    intro account present
    cases direction <;> cases present
  case fee => cases direction <;> exact ⟨_, rfl, rfl⟩
  case inPool => cases direction <;> exact ⟨_, rfl, rfl, rfl, (Option.some_ne_none _).symm⟩
  case outPool => cases direction <;> exact ⟨_, rfl, rfl, rfl, (Option.some_ne_none _).symm⟩
  case feeApart => cases direction <;> decide
  case userApart => decide
  case authorityApart => decide

theorem pays (direction : Direction) (pot residue liquidity : UInt64) (del : Delegation Address) (destination : Address)
    (amount : UInt64) (within : amount ≤ del.amountPerPeriod) (enough : amount.toNat ≤ pot.toNat) :
    (delegateRail subscriptionAuthority).Pays del (world direction pot residue liquidity).ledger
      (wallet user (direction.mintIn terms.config)) destination (direction.mintIn terms.config) amount := by
  rw [world_ledger]
  let payer : TokenAccount Address :=
    { mint := direction.mintIn terms.config, owner := user, amount := pot
      delegate := some subscriptionAuthority, delegatedAmount := pot }
  have atSource : (ledger direction pot residue liquidity).accounts (wallet user (direction.mintIn terms.config)) =
      some payer := by cases direction <;> rfl
  exact delegateRail_pays subscriptionAuthority del _ _ destination amount payer atSource rfl within enough enough

end Served

end RecurringBuy
