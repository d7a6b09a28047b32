import RecurringBuy.Keeper.Daemon
import RecurringBuy.Program.AccountData

set_option autoImplicit false

namespace RecurringBuy

open ProgramAddress

variable {Pubkey : Type}

-- Node's `Buffer`. A read past the end throws, and `subarray` is cut there.
namespace Buffer

def readBigInt64LE (data : List UInt8) (offset : Nat) : Option Int :=
  (PackedRecord.slice data offset 8).map LittleEndian.valueInt

def readUInt16LE (data : List UInt8) (offset : Nat) : Option Nat :=
  (PackedRecord.slice data offset 2).map LittleEndian.value

def subarray (data : List UInt8) (start stop : Nat) : List UInt8 := (data.take stop).drop start

theorem readBigInt64LE_slice (data : List UInt8) (offset : Nat) (n : Int64)
    (stored : PackedRecord.slice data offset 8 = some (LittleEndian.encodeInt 8 n.toInt)) :
    readBigInt64LE data offset = some n.toInt := by
  have low := n.le_toInt
  have high := n.toInt_lt
  rw [readBigInt64LE, stored, Option.map_some, LittleEndian.valueInt_encodeInt 8 _ (by omega) (by omega)]

theorem readUInt16LE_slice (data : List UInt8) (offset : Nat) (n : UInt16)
    (stored : PackedRecord.slice data offset 2 = some (LittleEndian.encode 2 n.toNat)) :
    readUInt16LE data offset = some n.toNat := by
  have high := n.toNat_lt
  rw [readUInt16LE, stored, Option.map_some, LittleEndian.value_encode, Nat.mod_eq_of_lt (by omega)]

theorem subarray_slice (data : List UInt8) (start width stop : Nat) (field : List UInt8) (last : start + width = stop)
    (stored : PackedRecord.slice data start width = some field) : subarray data start stop = field := by
  unfold PackedRecord.slice at stored
  split at stored
  next =>
    rw [subarray, ← last, List.drop_take, Nat.add_sub_cancel_left]
    exact Option.some.inj stored
  next => cases stored

end Buffer

structure FetchedPlan (Pubkey : Type) where
  pda : Pubkey
  endTs : Number
  periodSecs : Number
  nextDueTs : Number

-- What the client library returns for an address is `none` where there is no account.
namespace Rpc

open Buffer

-- The inner `none` is the source's `null`, the outer one an exception.
def fetchSellPlan [ProgramAddress Pubkey] (getAccountInfo : Pubkey → Option (List UInt8)) (user : Pubkey) :
    Option (Option (FetchedPlan Pubkey)) :=
  let pda := sellPlanPda user
  match getAccountInfo pda with
  | none => some none
  | some d => do
      let endTs ← readBigInt64LE d 40
      let periodSecs ← readBigInt64LE d 48
      let nextDueTs ← readBigInt64LE d 56
      pure (some
        { pda := pda
          endTs := Number.ofBigInt endTs
          periodSecs := Number.ofBigInt periodSecs
          nextDueTs := Number.ofBigInt nextDueTs })

-- The account is the one at `feeConfigPda`. `base58` is the library's text of some bytes.
def loadFeeConfig {Text : Type} (base58 : List UInt8 → Text) (value : Option (List UInt8)) :
    Option (Daemon.FeeCfg Text) :=
  match value with
  | none => some { bps := 0, destination := none }
  | some d => do
      let destination := base58 (subarray d 10 42)
      let bps ← readUInt16LE d 8
      pure { bps := bps, destination := some destination }

end Rpc

section Layout

variable (format : AccountFormat Pubkey)

theorem readBigInt64LE_plan (plan : SellPlan Pubkey) (index offset : Nat) (n : Int64)
    (field : (format.sellPlanFields plan)[index]? = some (LittleEndian.encodeInt 8 n.toInt))
    (before : (([8, 32, 8, 8, 8, 1] : List Nat).take index).sum = offset)
    (wide : ([8, 32, 8, 8, 8, 1] : List Nat)[index]? = some 8) :
    Buffer.readBigInt64LE (format.sellPlanData plan) offset = some n.toInt :=
  Buffer.readBigInt64LE_slice _ _ _
    (PackedRecord.slice_field _ _ (format.sellPlan_widths plan) index _ field offset 8 before wide)

def FetchedPlan.ofPlan (pda : Pubkey) (plan : SellPlan Pubkey) : FetchedPlan Pubkey :=
  { pda := pda
    endTs := Number.ofBigInt plan.endTs.toInt
    periodSecs := Number.ofBigInt plan.periodSecs.toInt
    nextDueTs := Number.ofBigInt plan.nextDueTs.toInt }

def AccountFormat.addressText {Text : Type} (base58 : List UInt8 → Text) (key : Pubkey) : Text :=
  base58 (format.keyBytes key).toList

theorem fetchSellPlan_data [ProgramAddress Pubkey] (getAccountInfo : Pubkey → Option (List UInt8)) (user : Pubkey)
    (plan : SellPlan Pubkey) (stored : getAccountInfo (sellPlanPda user) = some (format.sellPlanData plan)) :
    Rpc.fetchSellPlan getAccountInfo user = some (some (FetchedPlan.ofPlan (sellPlanPda user) plan)) := by
  have endTs := readBigInt64LE_plan format plan 2 40 plan.endTs rfl rfl rfl
  have periodSecs := readBigInt64LE_plan format plan 3 48 plan.periodSecs rfl rfl rfl
  have nextDueTs := readBigInt64LE_plan format plan 4 56 plan.nextDueTs rfl rfl rfl
  simp only [Rpc.fetchSellPlan, stored, endTs, periodSecs, nextDueTs, Option.bind_eq_bind, Option.bind_some,
    Option.pure_def, FetchedPlan.ofPlan]

theorem loadFeeConfig_data {Text : Type} (base58 : List UInt8 → Text) (feeConfig : FeeConfig Pubkey) :
    Rpc.loadFeeConfig base58 (some (format.feeConfigData feeConfig)) =
      some { bps := feeConfig.feeBps.toNat, destination := some (format.addressText base58 feeConfig.destination) } := by
  have sized := format.feeConfig_widths feeConfig
  have bps : Buffer.readUInt16LE (format.feeConfigData feeConfig) 8 = some feeConfig.feeBps.toNat :=
    Buffer.readUInt16LE_slice _ _ _ (PackedRecord.slice_field _ _ sized 1 _ rfl 8 2 rfl rfl)
  have destination : Buffer.subarray (format.feeConfigData feeConfig) 10 42 =
      (format.keyBytes feeConfig.destination).toList :=
    Buffer.subarray_slice _ 10 32 42 _ rfl (PackedRecord.slice_field _ _ sized 2 _ rfl 10 32 rfl rfl)
  simp only [Rpc.loadFeeConfig, bps, destination, Option.bind_eq_bind, Option.bind_some, Option.pure_def,
    AccountFormat.addressText]

end Layout

section World

variable [ProgramAddress Pubkey] (format : AccountFormat Pubkey) (world : World Pubkey)

theorem fetchSellPlan_world (user : Pubkey) :
    Rpc.fetchSellPlan (world.sellPlanInfo format) user =
      some ((world.sellPlans (sellPlanPda user)).map (FetchedPlan.ofPlan (sellPlanPda user))) := by
  cases present : world.sellPlans (sellPlanPda user) with
  | none => simp [Rpc.fetchSellPlan, World.sellPlanInfo, present]
  | some plan => exact fetchSellPlan_data format _ user plan (by simp [World.sellPlanInfo, present])

def Daemon.FeeCfg.map {Text : Type} (text : Pubkey → Text) (feeCfg : Daemon.FeeCfg Pubkey) : Daemon.FeeCfg Text :=
  { bps := feeCfg.bps, destination := feeCfg.destination.map text }

omit [ProgramAddress Pubkey] in
theorem loadFeeConfig_world {Text : Type} (base58 : List UInt8 → Text) :
    Rpc.loadFeeConfig base58 (world.feeConfigInfo format) =
      some ((Daemon.loadFeeConfig world).map (format.addressText base58)) := by
  cases present : world.feeConfig with
  | none => simp [Rpc.loadFeeConfig, World.feeConfigInfo, Daemon.loadFeeConfig, Daemon.FeeCfg.map, present]
  | some feeConfig =>
    rw [World.feeConfigInfo, present, Option.map_some, loadFeeConfig_data, Daemon.loadFeeConfig, present]
    rfl

variable [DecidableEq Pubkey] (daemon : Daemon Pubkey) (del : Delegation Pubkey) (now : Number)

-- `crankSell` from the decoded plan on.
def Daemon.crankFetched (plan : FetchedPlan Pubkey) : Option (Crank Pubkey (ExecuteSell Pubkey)) := do
  let user := del.delegator
  guard (plan.nextDueTs ≤ plan.endTs ∧ plan.nextDueTs ≤ now)
  let pot : Int := world.ledger.balance (wallet user daemon.target)
  let residue : Int := world.ledger.balance (transient user daemon.target)
  let draw ← Daemon.draw pot plan.endTs plan.periodSecs now residue
  let avail ← available del now
  let pull := if draw > avail then avail else draw
  guard (0 < pull ∨ 0 < residue)
  pure (daemon.composeSell world user pull)

theorem crankSell_fetched :
    daemon.crankSell world del now =
      ((Rpc.fetchSellPlan (world.sellPlanInfo format) del.delegator).join).bind
        (daemon.crankFetched world del now) := by
  rw [fetchSellPlan_world, Option.join_some]
  cases present : world.sellPlans (sellPlanPda del.delegator) with
  | none => simp [Daemon.crankSell, present]
  | some plan => simp [Daemon.crankSell, Daemon.crankFetched, FetchedPlan.ofPlan, present]

end World

end RecurringBuy
