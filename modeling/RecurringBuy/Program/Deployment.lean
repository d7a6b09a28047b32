import RecurringBuy.Program.Step

set_option autoImplicit false

namespace RecurringBuy

open Checked SplToken ProgramAddress

inductive Address where
  | key (n : Nat)
  | config
  | feeConfig
  | buyAuthority (user : Address)
  | sellPlan (user : Address)
  | associated (wallet mint : Address)
  | nativeMint
deriving DecidableEq

namespace Address

def number : Address → Option Nat
  | key n => some n
  | _ => none

theorem buyAuthority_ne_self (user : Address) : buyAuthority user ≠ user := by
  induction user with
  | buyAuthority user ih =>
    intro same
    exact ih (Address.buyAuthority.inj same)
  | _ => exact Address.noConfusion

instance : ProgramAddress Address where
  associated := associated
  nativeMint := nativeMint
  associated_inj := fun _ _ _ _ => Address.associated.inj
  default := key 0
  keypair n := key (n + 1)
  configPda := config
  configBump := 255
  feeConfigPda := feeConfig
  feeConfigBump := 254
  buyAuthority := buyAuthority
  sellPlanPda := sellPlan
  sellPlanBump := fun _ => 253
  keypair_inj := fun _ _ same => Nat.succ.inj (Address.key.inj same)
  keypair_ne_associated := fun _ _ _ => Address.noConfusion
  keypair_ne_buyAuthority := fun _ _ => Address.noConfusion
  buyAuthority_inj := fun _ _ => Address.buyAuthority.inj
  buyAuthority_ne_self := buyAuthority_ne_self
  buyAuthority_ne_associated := fun _ _ _ => Address.noConfusion
  sellPlanPda_inj := fun _ _ => Address.sellPlan.inj

def context {Accounts : Type} (accounts : Accounts) (signers : List Nat) : Context Address Accounts :=
  { accounts := accounts
    signers := signers.map key
    remainingAccounts := []
    genuine := fun _ member => absurd member List.not_mem_nil
    underived := by simp [ProgramAddress.buyAuthority]
    unassociated := by simp [AssociatedAddress.associated] }

end Address

-- What an administrator and a user choose; the parties have fixed keys.
structure Terms where
  targetDecimals : UInt8
  priceRefMicros : UInt64
  maxSlippageBps : UInt16
  feeBps : UInt16
  endTs : Int64
  periodSecs : Int64

namespace Terms

def admin : Address := .key 20
def targetMint : Address := .key 21
def usdcMint : Address := .key 22
def user : Address := .key 23
def swapProgram : Address := .key 24
def feeOwner : Address := .key 25

def mints (terms : Terms) (key : Address) : Option (Mint Address) :=
  if key = targetMint then some { decimals := terms.targetDecimals, supply := 0, mintAuthority := none }
  else if key = usdcMint then some { decimals := 6, supply := 0, mintAuthority := none }
  else none

def genesis (terms : Terms) (accounts : Address → Option (TokenAccount Address)) : World Address :=
  { config := none
    feeConfig := none
    sellPlans := fun _ => none
    ledger := { accounts := accounts, mints := terms.mints }
    clock := 0 }

def setup (terms : Terms) : List (Event Address) :=
  [.call (.initConfig (Address.context ⟨admin, .config, targetMint, usdcMint⟩ [20]) [swapProgram]
      terms.priceRefMicros terms.maxSlippageBps),
    .call (.initFeeConfig (Address.context ⟨admin, .config, .feeConfig⟩ [20]) terms.feeBps feeOwner),
    .call (.openSellPlan (Address.context ⟨user, .sellPlan user⟩ [23]) terms.endTs terms.periodSecs)]

def deployed (terms : Terms) (accounts : Address → Option (TokenAccount Address)) : World Address :=
  (terms.genesis accounts).run terms.setup

structure Acceptable (terms : Terms) : Prop where
  decimals : terms.targetDecimals ≤ 12
  slippage : terms.maxSlippageBps ≤ 10000
  fee : terms.feeBps ≤ maxFeeBps
  cadence : minPeriodSecs ≤ terms.periodSecs ∧ terms.periodSecs ≤ maxPeriodSecs
  horizon : I64.saturatingAdd 0 terms.periodSecs < terms.endTs

def config (terms : Terms) : Config Address :=
  { admin := admin
    targetMint := targetMint
    usdcMint := usdcMint
    swapPrograms := venueArray [swapProgram]
    swapProgramCount := 1
    priceRefMicros := terms.priceRefMicros
    targetDecimals := terms.targetDecimals
    maxSlippageBps := terms.maxSlippageBps
    paused := false
    bump := 255 }

def feeConfig (terms : Terms) : FeeConfig Address :=
  { feeBps := terms.feeBps, destination := feeOwner, bump := 254 }

def plan (terms : Terms) : SellPlan Address :=
  { user := user, endTs := terms.endTs, periodSecs := terms.periodSecs, nextDueTs := 0, bump := 253 }

theorem deployed_eq (terms : Terms) (accounts : Address → Option (TokenAccount Address))
    (acceptable : terms.Acceptable) :
    terms.deployed accounts =
      (((terms.genesis accounts).setConfig terms.config).setFeeConfig terms.feeConfig).setSellPlan
        (.sellPlan user) (some terms.plan) := by
  obtain ⟨decimals, slippage, fee, cadence, horizon⟩ := acceptable
  have configured : initConfig (terms.genesis accounts)
      (Address.context ⟨admin, .config, targetMint, usdcMint⟩ [20]) [swapProgram] terms.priceRefMicros
      terms.maxSlippageBps = .ok ((terms.genesis accounts).setConfig terms.config) := by
    apply (initConfig_ok _ _ _ _ _ _).mpr
    exact ⟨List.mem_singleton_self _, rfl, rfl, _, _, rfl, rfl, by decide, slippage, decimals, rfl, rfl⟩
  have charged : initFeeConfig ((terms.genesis accounts).setConfig terms.config)
      (Address.context ⟨admin, .config, .feeConfig⟩ [20]) terms.feeBps feeOwner =
      .ok (((terms.genesis accounts).setConfig terms.config).setFeeConfig terms.feeConfig) := by
    apply (initFeeConfig_ok _ _ _ _ _).mpr
    exact ⟨⟨terms.config, List.mem_singleton_self _, rfl, ⟨rfl, rfl⟩, rfl⟩, rfl, rfl, fee, rfl⟩
  have opened : openSellPlan (((terms.genesis accounts).setConfig terms.config).setFeeConfig terms.feeConfig)
      (Address.context ⟨user, .sellPlan user⟩ [23]) terms.endTs terms.periodSecs =
      .ok ((((terms.genesis accounts).setConfig terms.config).setFeeConfig terms.feeConfig).setSellPlan
        (.sellPlan user) (some terms.plan)) := by
    simp only [openSellPlan, bind_ok, require_ok, exists_const, pure_ok, decide_eq_true_eq]
    exact ⟨rfl, rfl, rfl, cadence, horizon, rfl⟩
  simp only [deployed, setup, World.run, List.foldl, World.step, World.execute, configured, charged, opened]

theorem deployed_config (terms : Terms) (accounts : Address → Option (TokenAccount Address))
    (acceptable : terms.Acceptable) : (terms.deployed accounts).config = some terms.config := by
  rw [deployed_eq terms accounts acceptable]
  rfl

theorem deployed_feeConfig (terms : Terms) (accounts : Address → Option (TokenAccount Address))
    (acceptable : terms.Acceptable) : (terms.deployed accounts).feeConfig = some terms.feeConfig := by
  rw [deployed_eq terms accounts acceptable]
  rfl

theorem deployed_reachable (terms : Terms) (accounts : Address → Option (TokenAccount Address)) :
    (terms.deployed accounts).Reachable :=
  ⟨terms.genesis accounts, terms.setup, ⟨rfl, rfl, rfl⟩, rfl⟩

-- One dollar a token, 1 % of slippage, no fee, and the shortest sell plan.
def dollar : Terms :=
  { targetDecimals := 6, priceRefMicros := 1000000, maxSlippageBps := 100, feeBps := 0, endTs := 61
    periodSecs := 60 }

theorem dollar_acceptable : dollar.Acceptable := by
  constructor <;> decide

end Terms

end RecurringBuy
