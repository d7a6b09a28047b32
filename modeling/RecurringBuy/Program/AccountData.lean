import RecurringBuy.Program.State
import RecurringBuy.Shared.LittleEndian
import RecurringBuy.Shared.PackedRecord

set_option autoImplicit false

namespace RecurringBuy

variable {Pubkey : Type}

/-- The 32 bytes of a key, and the discriminators that Anchor derives from the names. -/
structure AccountFormat (Pubkey : Type) where
  keyBytes : Pubkey → Vector UInt8 32
  feeConfigDiscriminator : Vector UInt8 8
  sellPlanDiscriminator : Vector UInt8 8

namespace AccountFormat

variable (format : AccountFormat Pubkey)

def feeConfigFields (feeConfig : FeeConfig Pubkey) : List (List UInt8) :=
  [format.feeConfigDiscriminator.toList, LittleEndian.encode 2 feeConfig.feeBps.toNat,
    (format.keyBytes feeConfig.destination).toList, [feeConfig.bump]]

def sellPlanFields (plan : SellPlan Pubkey) : List (List UInt8) :=
  [format.sellPlanDiscriminator.toList, (format.keyBytes plan.user).toList,
    LittleEndian.encodeInt 8 plan.endTs.toInt, LittleEndian.encodeInt 8 plan.periodSecs.toInt,
    LittleEndian.encodeInt 8 plan.nextDueTs.toInt, [plan.bump]]

def feeConfigData (feeConfig : FeeConfig Pubkey) : List UInt8 := (format.feeConfigFields feeConfig).flatten

def sellPlanData (plan : SellPlan Pubkey) : List UInt8 := (format.sellPlanFields plan).flatten

theorem feeConfig_widths (feeConfig : FeeConfig Pubkey) :
    (format.feeConfigFields feeConfig).map List.length = [8, 2, 32, 1] := by
  simp [feeConfigFields]

theorem sellPlan_widths (plan : SellPlan Pubkey) :
    (format.sellPlanFields plan).map List.length = [8, 32, 8, 8, 8, 1] := by
  simp [sellPlanFields]

-- `8 + FeeConfig::INIT_SPACE` bytes.
theorem length_feeConfigData (feeConfig : FeeConfig Pubkey) : (format.feeConfigData feeConfig).length = 43 := by
  rw [feeConfigData, List.length_flatten, feeConfig_widths]
  rfl

-- `8 + SellPlan::INIT_SPACE` bytes.
theorem length_sellPlanData (plan : SellPlan Pubkey) : (format.sellPlanData plan).length = 65 := by
  rw [sellPlanData, List.length_flatten, sellPlan_widths]
  rfl

end AccountFormat

-- The data of the account at an address, or `none` where there is no account.
def World.sellPlanInfo (world : World Pubkey) (format : AccountFormat Pubkey) (pda : Pubkey) : Option (List UInt8) :=
  (world.sellPlans pda).map format.sellPlanData

def World.feeConfigInfo (world : World Pubkey) (format : AccountFormat Pubkey) : Option (List UInt8) :=
  world.feeConfig.map format.feeConfigData

end RecurringBuy
