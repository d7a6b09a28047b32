import RecurringBuy.Program.AccountData
import RecurringBuy.Shared.Codec

set_option autoImplicit false

namespace RecurringBuy

variable {Pubkey : Type}

/-- The bytes of a key, and the discriminators that Anchor derives from the names. -/
structure AnchorFormat (Pubkey : Type) where
  key : Vector UInt8 32 ≃ Pubkey
  config : Vector UInt8 8
  feeConfig : Vector UInt8 8
  sellPlan : Vector UInt8 8
  config_ne_feeConfig : config ≠ feeConfig
  config_ne_sellPlan : config ≠ sellPlan
  feeConfig_ne_sellPlan : feeConfig ≠ sellPlan

inductive StoredAccount (Pubkey : Type) where
  | config (config : Config Pubkey)
  | feeConfig (feeConfig : FeeConfig Pubkey)
  | sellPlan (plan : SellPlan Pubkey)

namespace AnchorFormat

variable (format : AnchorFormat Pubkey)

def keyCodec : Codec Pubkey := (Codec.byte.vector 32).transport format.key

def configFields : Codec (Config Pubkey) :=
  (format.keyCodec.pair (format.keyCodec.pair (format.keyCodec.pair ((format.keyCodec.vector maxSwapPrograms).pair
    (Codec.byte.pair (Codec.u64.pair (Codec.byte.pair (Codec.u16.pair (Codec.bool.pair Codec.byte))))))))).transport
    { toFun := fun (admin, targetMint, usdcMint, swapPrograms, swapProgramCount, priceRefMicros, targetDecimals,
          maxSlippageBps, paused, bump) =>
        { admin := admin, targetMint := targetMint, usdcMint := usdcMint, swapPrograms := swapPrograms
          swapProgramCount := swapProgramCount, priceRefMicros := priceRefMicros, targetDecimals := targetDecimals
          maxSlippageBps := maxSlippageBps, paused := paused, bump := bump }
      invFun := fun cfg => (cfg.admin, cfg.targetMint, cfg.usdcMint, cfg.swapPrograms, cfg.swapProgramCount,
        cfg.priceRefMicros, cfg.targetDecimals, cfg.maxSlippageBps, cfg.paused, cfg.bump)
      left_inv := fun _ => rfl
      right_inv := fun _ => rfl }

def feeConfigFields : Codec (FeeConfig Pubkey) :=
  (Codec.u16.pair (format.keyCodec.pair Codec.byte)).transport
    { toFun := fun (feeBps, destination, bump) => { feeBps := feeBps, destination := destination, bump := bump }
      invFun := fun feeConfig => (feeConfig.feeBps, feeConfig.destination, feeConfig.bump)
      left_inv := fun _ => rfl
      right_inv := fun _ => rfl }

def sellPlanFields : Codec (SellPlan Pubkey) :=
  (format.keyCodec.pair (Codec.i64.pair (Codec.i64.pair (Codec.i64.pair Codec.byte)))).transport
    { toFun := fun (user, endTs, periodSecs, nextDueTs, bump) =>
        { user := user, endTs := endTs, periodSecs := periodSecs, nextDueTs := nextDueTs, bump := bump }
      invFun := fun plan => (plan.user, plan.endTs, plan.periodSecs, plan.nextDueTs, plan.bump)
      left_inv := fun _ => rfl
      right_inv := fun _ => rfl }

def configCodec : Codec (Config Pubkey) := format.configFields.tagged format.config.toList

def feeConfigCodec : Codec (FeeConfig Pubkey) := format.feeConfigFields.tagged format.feeConfig.toList

def sellPlanCodec : Codec (SellPlan Pubkey) := format.sellPlanFields.tagged format.sellPlan.toList

-- `try_serialize` of each account type.
def write : StoredAccount Pubkey → List UInt8
  | .config cfg => format.configCodec.encode cfg
  | .feeConfig feeConfig => format.feeConfigCodec.encode feeConfig
  | .sellPlan plan => format.sellPlanCodec.encode plan

-- `try_deserialize`
def readConfig (data : List UInt8) : Option (Config Pubkey) := (format.configCodec.decode data).map Prod.fst

def readFeeConfig (data : List UInt8) : Option (FeeConfig Pubkey) := (format.feeConfigCodec.decode data).map Prod.fst

def readSellPlan (data : List UInt8) : Option (SellPlan Pubkey) := (format.sellPlanCodec.decode data).map Prod.fst

-- A key is its bytes. The rest is the start of the SHA-256 of `account:Config`, and so on.
def solana : AnchorFormat (Vector UInt8 32) where
  key := Equiv.refl _
  config := #v[155, 12, 170, 224, 30, 250, 204, 130]
  feeConfig := #v[143, 52, 146, 187, 219, 123, 76, 155]
  sellPlan := #v[17, 184, 31, 42, 89, 0, 146, 11]
  config_ne_feeConfig := by decide
  config_ne_sellPlan := by decide
  feeConfig_ne_sellPlan := by decide

end AnchorFormat

end RecurringBuy
