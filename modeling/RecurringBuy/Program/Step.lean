import RecurringBuy.Program.Admin

set_option autoImplicit false

namespace RecurringBuy

open Checked SplToken ProgramAddress

variable {Pubkey : Type} [DecidableEq Pubkey] [ProgramAddress Pubkey]

inductive Call (Pubkey : Type) [ProgramAddress Pubkey] where
  | initConfig (ctx : Context Pubkey (InitConfig Pubkey)) (swapPrograms : List Pubkey)
      (priceRefMicros : UInt64) (maxSlippageBps : UInt16)
  | setPause (ctx : Context Pubkey (AdminOnly Pubkey)) (paused : Bool)
  | setParams (ctx : Context Pubkey (AdminOnly Pubkey)) (priceRefMicros : UInt64) (maxSlippageBps : UInt16)
  | setWhitelist (ctx : Context Pubkey (AdminOnly Pubkey)) (swapPrograms : List Pubkey)
  | initFeeConfig (ctx : Context Pubkey (FeeAdmin Pubkey)) (feeBps : UInt16) (destination : Pubkey)
  | setFee (ctx : Context Pubkey (FeeAdmin Pubkey)) (feeBps : UInt16) (destination : Pubkey)
  | executeBuy (ctx : Context Pubkey (ExecuteBuy Pubkey)) (minOut : UInt64) (swapData : List UInt8)
      (venue : Venue Pubkey)
  | openSellPlan (ctx : Context Pubkey (PlanOwner Pubkey)) (endTs periodSecs : Int64)
  | closeSellPlan (ctx : Context Pubkey (PlanOwner Pubkey))
  | executeSell (ctx : Context Pubkey (ExecuteSell Pubkey)) (minOut : UInt64) (swapData : List UInt8)
      (venue : Venue Pubkey)

inductive Event (Pubkey : Type) [ProgramAddress Pubkey] where
  | call (call : Call Pubkey)
  | tokens (signed : Pubkey → Bool) (underived : ∀ user, signed (buyAuthority user) = false)
      (unassociated : ∀ wallet mint, signed (AssociatedAddress.associated wallet mint) = false)
      (instructions : List (TokenInstruction Pubkey))
  | tick (clock : Int64)

def World.execute (world : World Pubkey) : Call Pubkey → Except Error (World Pubkey)
  | .initConfig ctx swapPrograms priceRefMicros maxSlippageBps =>
      RecurringBuy.initConfig world ctx swapPrograms priceRefMicros maxSlippageBps
  | .setPause ctx paused => RecurringBuy.setPause world ctx paused
  | .setParams ctx priceRefMicros maxSlippageBps =>
      RecurringBuy.setParams world ctx priceRefMicros maxSlippageBps
  | .setWhitelist ctx swapPrograms => RecurringBuy.setWhitelist world ctx swapPrograms
  | .initFeeConfig ctx feeBps destination => RecurringBuy.initFeeConfig world ctx feeBps destination
  | .setFee ctx feeBps destination => RecurringBuy.setFee world ctx feeBps destination
  | .executeBuy ctx minOut swapData venue =>
      (RecurringBuy.executeBuy world ctx minOut swapData venue).map Prod.fst
  | .openSellPlan ctx endTs periodSecs => RecurringBuy.openSellPlan world ctx endTs periodSecs
  | .closeSellPlan ctx => RecurringBuy.closeSellPlan world ctx
  | .executeSell ctx minOut swapData venue =>
      (RecurringBuy.executeSell world ctx minOut swapData venue).map Prod.fst

def World.step (world : World Pubkey) : Event Pubkey → World Pubkey
  | .call call =>
      match world.execute call with
      | .ok world' => world'
      | .error _ => world
  | .tokens signed _ _ instructions =>
      match SplToken.run signed world.ledger instructions with
      | .ok ledger => { world with ledger := ledger }
      | .error _ => world
  | .tick clock => { world with clock := clock }

def World.run (world : World Pubkey) (events : List (Event Pubkey)) : World Pubkey :=
  events.foldl World.step world

-- Before `init_config`, with any token ledger and any clock.
def World.Initial (world : World Pubkey) : Prop :=
  world.config = none ∧ world.feeConfig = none ∧ world.sellPlans = fun _ => none

def World.Reachable (world : World Pubkey) : Prop :=
  ∃ initial events, World.Initial initial ∧ world = initial.run events

theorem reachable_run (world : World Pubkey) (events : List (Event Pubkey)) (reachable : world.Reachable) :
    (world.run events).Reachable := by
  obtain ⟨first, before, fresh, rfl⟩ := reachable
  exact ⟨first, before ++ events, fresh, by rw [World.run, World.run, World.run, List.foldl_append]⟩

section Rules

variable (kept : World Pubkey → Prop)

-- A refused call and a refused token transaction change nothing, so only what is accepted has to keep it.
theorem step_kept (world : World Pubkey) (event : Event Pubkey) (before : kept world)
    (called : ∀ call world', event = .call call → world.execute call = .ok world' → kept world')
    (moved : ∀ signed underived unassociated instructions ledger,
      event = .tokens signed underived unassociated instructions →
      SplToken.run signed world.ledger instructions = .ok ledger → kept { world with ledger := ledger })
    (ticked : ∀ clock, event = .tick clock → kept { world with clock := clock }) : kept (world.step event) := by
  cases event with
  | call call =>
    simp only [World.step]
    split
    next world' accepted => exact called call world' rfl accepted
    next => exact before
  | tokens signed underived unassociated instructions =>
    simp only [World.step]
    split
    next ledger accepted => exact moved signed underived unassociated instructions ledger rfl accepted
    next => exact before
  | tick clock => exact ticked clock rfl

theorem reachable_kept (initial : ∀ world : World Pubkey, world.Initial → kept world)
    (step : ∀ world event, kept world → kept (world.step event)) (world : World Pubkey)
    (reachable : world.Reachable) : kept world := by
  obtain ⟨first, events, fresh, rfl⟩ := reachable
  have start := initial first fresh
  clear fresh
  induction events generalizing first with
  | nil => exact start
  | cons event rest ih => exact ih (first.step event) (step first event start)

end Rules

structure Config.WellFormed (cfg : Config Pubkey) : Prop where
  decimals : cfg.targetDecimals.toNat ≤ 12
  slippage : cfg.maxSlippageBps.toNat ≤ 10000
  count : cfg.swapProgramCount.toNat ≤ maxSwapPrograms
  bump : cfg.bump = configBump Pubkey

structure FeeConfig.WellFormed (feeConfig : FeeConfig Pubkey) : Prop where
  capped : feeConfig.feeBps.toNat ≤ 100
  bump : feeConfig.bump = feeConfigBump Pubkey

structure World.WellFormed (world : World Pubkey) : Prop where
  config : ∀ cfg, world.config = some cfg → cfg.WellFormed
  feeConfig : ∀ feeConfig, world.feeConfig = some feeConfig → feeConfig.WellFormed
  sellPlans : ∀ key plan, world.sellPlans key = some plan → plan.WellFormed

section Invariant

omit [DecidableEq Pubkey] in
theorem wellFormed_setConfig (world : World Pubkey) (cfg : Config Pubkey) (formed : world.WellFormed)
    (kept : cfg.WellFormed) : (world.setConfig cfg).WellFormed where
  config := fun _ present => by cases present; exact kept
  feeConfig := formed.feeConfig
  sellPlans := formed.sellPlans

omit [DecidableEq Pubkey] in
theorem wellFormed_setFeeConfig (world : World Pubkey) (feeConfig : FeeConfig Pubkey)
    (formed : world.WellFormed) (kept : feeConfig.WellFormed) : (world.setFeeConfig feeConfig).WellFormed where
  config := formed.config
  feeConfig := fun _ present => by cases present; exact kept
  sellPlans := formed.sellPlans

theorem wellFormed_setSellPlan (world : World Pubkey) (key : Pubkey) (slot : Option (SellPlan Pubkey))
    (formed : world.WellFormed) (kept : ∀ plan, slot = some plan → plan.WellFormed) :
    (world.setSellPlan key slot).WellFormed where
  config := formed.config
  feeConfig := formed.feeConfig
  sellPlans := by
    intro other plan present
    by_cases same : other = key
    · simp only [World.setSellPlan, same, if_true] at present
      exact kept plan present
    · simp only [World.setSellPlan, same, if_false] at present
      exact formed.sellPlans other plan present

omit [DecidableEq Pubkey] in
theorem wellFormed_ledger (world : World Pubkey) (ledger : Ledger Pubkey) (formed : world.WellFormed) :
    ({ world with ledger := ledger } : World Pubkey).WellFormed :=
  ⟨formed.config, formed.feeConfig, formed.sellPlans⟩

omit [DecidableEq Pubkey] [ProgramAddress Pubkey] in
theorem venueCount (swapPrograms : List Pubkey) (few : swapPrograms.length ≤ maxSwapPrograms) :
    (UInt8.ofNat swapPrograms.length).toNat ≤ maxSwapPrograms := by
  rw [UInt8.toNat_ofNat']
  exact (Nat.mod_le _ _).trans few

theorem execute_wellFormed (world world' : World Pubkey) (call : Call Pubkey) (formed : world.WellFormed)
    (accepted : world.execute call = .ok world') : world'.WellFormed := by
  cases call with
  | initConfig ctx swapPrograms priceRefMicros maxSlippageBps =>
    obtain ⟨-, -, -, _, _, -, -, few, slippage, decimals, -, rfl⟩ := (initConfig_ok _ _ _ _ _ _).mp accepted
    exact wellFormed_setConfig _ _ formed ⟨decimals, slippage, venueCount _ few, rfl⟩
  | setPause ctx paused =>
    obtain ⟨cfg, authorised, rfl⟩ := (setPause_ok _ _ _ _).mp accepted
    obtain ⟨decimals, slippage, count, bump⟩ := formed.config cfg authorised.present
    exact wellFormed_setConfig _ _ formed ⟨decimals, slippage, count, bump⟩
  | setParams ctx priceRefMicros maxSlippageBps =>
    obtain ⟨cfg, authorised, slippage, rfl⟩ := (setParams_ok _ _ _ _ _).mp accepted
    obtain ⟨decimals, -, count, bump⟩ := formed.config cfg authorised.present
    exact wellFormed_setConfig _ _ formed ⟨decimals, slippage, count, bump⟩
  | setWhitelist ctx swapPrograms =>
    obtain ⟨cfg, authorised, few, rfl⟩ := (setWhitelist_ok _ _ _ _).mp accepted
    obtain ⟨decimals, slippage, -, bump⟩ := formed.config cfg authorised.present
    exact wellFormed_setConfig _ _ formed ⟨decimals, slippage, venueCount _ few, bump⟩
  | initFeeConfig ctx feeBps destination =>
    obtain ⟨-, -, -, capped, rfl⟩ := (initFeeConfig_ok _ _ _ _ _).mp accepted
    exact wellFormed_setFeeConfig _ _ formed ⟨capped, rfl⟩
  | setFee ctx feeBps destination =>
    obtain ⟨-, feeConfig, present, -, capped, rfl⟩ := (setFee_ok _ _ _ _ _).mp accepted
    exact wellFormed_setFeeConfig _ _ formed ⟨capped, (formed.feeConfig feeConfig present).bump⟩
  | executeBuy ctx minOut swapData venue =>
    simp only [World.execute, map_ok, Prod.exists, executeBuy_ok] at accepted
    obtain ⟨_, _, ⟨_, _, _, _, _, _, _, _, _, course, -⟩, rfl⟩ := accepted
    rw [course.unchanged]
    exact wellFormed_ledger _ _ formed
  | openSellPlan ctx endTs periodSecs =>
    obtain ⟨-, -, -, ⟨least, most⟩, -, rfl⟩ := (openSellPlan_ok _ _ _ _ _).mp accepted
    exact wellFormed_setSellPlan _ _ _ formed fun plan present => by cases present; exact ⟨least, most⟩
  | closeSellPlan ctx =>
    obtain ⟨-, -, rfl⟩ := closeSellPlan_ok _ _ _ accepted
    exact wellFormed_setSellPlan _ _ _ formed fun plan present => by cases present
  | executeSell ctx minOut swapData venue =>
    simp only [World.execute, map_ok, Prod.exists, executeSell_ok] at accepted
    obtain ⟨_, _, ⟨_, _, plan, advanced, _, _, _, _, _, _, _, _, course, -⟩, rfl⟩ := accepted
    have kept := formed.sellPlans _ _ course.planLoaded
    have due := ((checkDue_ok _ _ _).mp course.due).2
    have advance := (advance_ok plan advanced world.clock due course.advancedValue).1
    rw [course.changed]
    refine wellFormed_setSellPlan _ _ _ (wellFormed_ledger _ _ formed) fun plan' present => ?_
    cases present
    rw [advance]
    exact ⟨kept.minPeriod, kept.maxPeriod⟩

theorem step_wellFormed (world : World Pubkey) (event : Event Pubkey) (formed : world.WellFormed) :
    (world.step event).WellFormed := by
  apply step_kept World.WellFormed world event formed
  case called => exact fun call world' _ accepted => execute_wellFormed _ _ _ formed accepted
  case moved => exact fun _ _ _ _ ledger _ _ => wellFormed_ledger _ ledger formed
  case ticked => exact fun _ _ => ⟨formed.config, formed.feeConfig, formed.sellPlans⟩

theorem reachable_wellFormed (world : World Pubkey) (reachable : world.Reachable) : world.WellFormed := by
  apply reachable_kept World.WellFormed _ step_wellFormed world reachable
  intro initial fresh
  obtain ⟨config, feeConfig, sellPlans⟩ := fresh
  constructor
  · simp [config]
  · simp [feeConfig]
  · simp [sellPlans]

end Invariant

end RecurringBuy
