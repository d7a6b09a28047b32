import Mathlib.Data.Nat.Digits.Defs
import RecurringBuy.Keeper.Accounts
import RecurringBuy.Program.Deployment
import RecurringBuy.Program.History
import RecurringBuy.Program.Wire

set_option autoImplicit false

namespace RecurringBuy

open ProgramAddress

section Decoders

variable {Pubkey : Type}

/-- The stored plan as it arrives: a time beyond `2 ^ 53` may have been rounded, a period never is. -/
structure Arrives (pda : Pubkey) (plan : SellPlan Pubkey) (fetched : FetchedPlan Pubkey) : Prop where
  address : fetched.pda = pda
  endTs : Number.Holds plan.endTs.toInt fetched.endTs
  periodSecs : fetched.periodSecs = plan.periodSecs.toInt
  nextDueTs : Number.Holds plan.nextDueTs.toInt fetched.nextDueTs
  exactly : (fetched.endTs = plan.endTs.toInt ∧ fetched.periodSecs = plan.periodSecs.toInt ∧
      fetched.nextDueTs = plan.nextDueTs.toInt) ↔
    Number.Exact plan.endTs.toInt ∧ Number.Exact plan.nextDueTs.toInt

theorem ofPlan_arrives (pda : Pubkey) (plan : SellPlan Pubkey) (formed : plan.WellFormed) :
    Arrives pda plan (FetchedPlan.ofPlan pda plan) := by
  have least := formed.minPeriod
  have most := formed.maxPeriod
  have period : Number.Exact plan.periodSecs.toInt :=
    Number.ofBigInt_small _ (abs_le.mpr ⟨by omega, by omega⟩)
  constructor
  case address => rfl
  case endTs => exact Number.ofBigInt_holds _
  case periodSecs => exact period
  case nextDueTs => exact Number.ofBigInt_holds _
  case exactly =>
    constructor
    next =>
      rintro ⟨endTs, -, nextDueTs⟩
      exact ⟨endTs, nextDueTs⟩
    next =>
      rintro ⟨endTs, nextDueTs⟩
      exact ⟨endTs, period, nextDueTs⟩

variable [DecidableEq Pubkey] [ProgramAddress Pubkey]

theorem accounts_decoded {Text : Type} (format : AccountFormat Pubkey) (base58 : List UInt8 → Text)
    (world : World Pubkey) (reachable : world.Reachable) :
    (∀ key plan, world.sellPlans key = some plan →
      ∃ fetched, Rpc.fetchSellPlan (world.sellPlanInfo format) plan.user = some (some fetched) ∧
        Arrives key plan fetched) ∧
    (∀ feeConfig, world.feeConfig = some feeConfig →
      Rpc.loadFeeConfig base58 (world.feeConfigInfo format) =
        some { bps := feeConfig.feeBps.toNat
               destination := some (format.addressText base58 feeConfig.destination) }) := by
  have formed := reachable_wellFormed world reachable
  constructor
  next =>
    intro key plan present
    obtain ⟨seeds, -⟩ := reachable_seeds world reachable key plan present
    have stored : world.sellPlanInfo format (sellPlanPda plan.user) = some (format.sellPlanData plan) := by
      rw [World.sellPlanInfo, ← seeds, present, Option.map_some]
    refine ⟨FetchedPlan.ofPlan key plan, ?_, ofPlan_arrives key plan (formed.sellPlans key plan present)⟩
    rw [fetchSellPlan_data format _ _ plan stored, ← seeds]
  next =>
    intro feeConfig present
    rw [World.feeConfigInfo, present, Option.map_some, loadFeeConfig_data]

end Decoders

section Sample

open Terms

-- The bitcoin alphabet, with a `1` for each leading zero byte.
def base58 (bytes : List UInt8) : List Char :=
  let alphabet := "123456789ABCDEFGHJKLMNPQRSTUVWXYZabcdefghijkmnopqrstuvwxyz".toList
  let value := bytes.foldl (fun value byte => value * 256 + byte.toNat) 0
  (bytes.takeWhile (· = 0)).map (fun _ => '1') ++ (Nat.digits 58 value).reverse.map (alphabet.getD · '1')

def anchorFormat : AccountFormat Address :=
  { keyBytes := fun key => Vector.replicate 32 (UInt8.ofNat (key.number.getD 0))
    feeConfigDiscriminator := AnchorFormat.solana.feeConfig
    sellPlanDiscriminator := AnchorFormat.solana.sellPlan }

theorem deployed_plan (terms : Terms) (acceptable : terms.Acceptable) :
    (terms.deployed fun _ => none).sellPlans (sellPlanPda user) = some terms.plan := by
  rw [deployed_eq terms _ acceptable]
  rfl

theorem accounts_decoded_dollar :
    (∃ fetched,
      Rpc.fetchSellPlan ((dollar.deployed fun _ => none).sellPlanInfo anchorFormat) user = some (some fetched) ∧
      Arrives (sellPlanPda user) dollar.plan fetched) ∧
    Rpc.loadFeeConfig base58 ((dollar.deployed fun _ => none).feeConfigInfo anchorFormat) =
      some { bps := 0, destination := some (base58 (List.replicate 32 25)) } := by
  have decoded := accounts_decoded anchorFormat base58 (dollar.deployed fun _ => none) (deployed_reachable dollar _)
  have plan := deployed_plan dollar dollar_acceptable
  have feeConfig := deployed_feeConfig dollar (fun _ => none) dollar_acceptable
  exact ⟨decoded.1 _ dollar.plan plan, decoded.2 _ feeConfig⟩

-- A plan that runs to one second past `2 ^ 53` is stored.
def endless : Terms := { dollar with endTs := 9007199254740993 }

theorem endless_acceptable : endless.Acceptable := by
  constructor <;> decide

-- The daemon reads its end a second early.
theorem endTs_rounded :
    (endless.deployed fun _ => none).Reachable ∧
    (endless.deployed fun _ => none).sellPlans (sellPlanPda user) = some endless.plan ∧
    endless.plan.endTs.toInt = 2 ^ 53 + 1 ∧
    ∃ fetched,
      Rpc.fetchSellPlan ((endless.deployed fun _ => none).sellPlanInfo anchorFormat) user = some (some fetched) ∧
      fetched.endTs = 2 ^ 53 ∧ fetched.endTs ≠ endless.plan.endTs.toInt := by
  have stored := deployed_plan endless endless_acceptable
  have endTs : (FetchedPlan.ofPlan (sellPlanPda user) endless.plan).endTs = 2 ^ 53 := by decide +kernel
  have actual : endless.plan.endTs.toInt = 2 ^ 53 + 1 := by decide
  refine ⟨deployed_reachable endless _, stored, actual, FetchedPlan.ofPlan (sellPlanPda user) endless.plan, ?_, endTs,
    ?_⟩
  next => rw [fetchSellPlan_world, stored, Option.map_some]
  next =>
    rw [endTs, actual]
    norm_num

end Sample

end RecurringBuy
