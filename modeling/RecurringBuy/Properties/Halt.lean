import RecurringBuy.Properties.Configuration
import RecurringBuy.Properties.LastingAuthority
import RecurringBuy.Shared.Simulation

set_option autoImplicit false

namespace RecurringBuy

open Checked SplToken ProgramAddress Simulation

variable {Pubkey : Type} [DecidableEq Pubkey] [ProgramAddress Pubkey]

-- The position of the switch that the call asks for.
def Call.switch : Call Pubkey → Option Bool
  | .setPause _ paused => some paused
  | _ => none

def switches (world : World Pubkey) (events : List (Event Pubkey)) : List Bool :=
  observed Call.switch world events

def Event.isTokens : Event Pubkey → Bool
  | .tokens _ _ _ _ => true
  | _ => false

def swaps (world : World Pubkey) : Event Pubkey → Bool
  | .call (.executeBuy ctx minOut swapData venue) => (executeBuy world ctx minOut swapData venue).isOk
  | .call (.executeSell ctx minOut swapData venue) => (executeSell world ctx minOut swapData venue).isOk
  | _ => false

-- Without a configuration there is no switch.
def World.paused (world : World Pubkey) : Option Bool := world.config.map Config.paused

def Switched (world : World Pubkey) (positions : List Bool) : Prop :=
  world.paused = none ∧ positions = [] ∨ world.paused = some (positions.getLast?.getD false)

section Steps

-- `set_pause` moves the switch, `init_config` turns it off, and nothing else touches it.
inductive SwitchStep (world world' : World Pubkey) (call : Call Pubkey) : Prop where
  | quiet (position : call.switch = none) (same : world'.paused = world.paused)
  | installed (position : call.switch = none) (fresh : world.paused = none) (off : world'.paused = some false)
  | moved (paused : Bool) (cfg : Config Pubkey) (position : call.switch = some paused)
      (present : world.config = some cfg) (signed : cfg.admin ∈ call.signers) (set : world'.paused = some paused)

theorem execute_switch (world world' : World Pubkey) (call : Call Pubkey) (done : world.execute call = .ok world') :
    SwitchStep world world' call := by
  have adjusted (cfg : Config Pubkey) (present : world.config = some cfg) : world.paused = some cfg.paused := by
    rw [World.paused, present, Option.map_some]
  cases call with
  | initConfig ctx swapPrograms priceRefMicros maxSlippageBps =>
    obtain ⟨-, -, fresh, _, _, -, -, -, -, -, -, rfl⟩ := (initConfig_ok _ _ _ _ _ _).mp done
    exact .installed rfl (by rw [World.paused, fresh, Option.map_none]) rfl
  | setPause ctx paused =>
    obtain ⟨cfg, authorised, rfl⟩ := (setPause_ok _ _ _ _).mp done
    exact .moved paused cfg rfl authorised.present (authorised.owner ▸ authorised.signed) rfl
  | setParams ctx priceRefMicros maxSlippageBps =>
    obtain ⟨cfg, authorised, -, rfl⟩ := (setParams_ok _ _ _ _ _).mp done
    exact .quiet rfl (adjusted cfg authorised.present).symm
  | setWhitelist ctx swapPrograms =>
    obtain ⟨cfg, authorised, -, rfl⟩ := (setWhitelist_ok _ _ _ _).mp done
    exact .quiet rfl (adjusted cfg authorised.present).symm
  | initFeeConfig ctx feeBps destination =>
    obtain ⟨-, -, -, -, rfl⟩ := (initFeeConfig_ok _ _ _ _ _).mp done
    exact .quiet rfl rfl
  | setFee ctx feeBps destination =>
    obtain ⟨-, _, -, -, -, rfl⟩ := (setFee_ok _ _ _ _ _).mp done
    exact .quiet rfl rfl
  | openSellPlan ctx endTs periodSecs =>
    obtain ⟨-, -, -, -, -, rfl⟩ := (openSellPlan_ok _ _ _ _ _).mp done
    exact .quiet rfl rfl
  | closeSellPlan ctx =>
    obtain ⟨-, -, rfl⟩ := closeSellPlan_ok _ _ _ done
    exact .quiet rfl rfl
  | executeBuy ctx minOut swapData venue =>
    simp only [World.execute, map_ok, Prod.exists, executeBuy_ok] at done
    obtain ⟨_, _, ⟨_, _, _, _, _, _, _, _, _, course, -⟩, rfl⟩ := done
    rw [course.unchanged]
    exact .quiet rfl rfl
  | executeSell ctx minOut swapData venue =>
    simp only [World.execute, map_ok, Prod.exists, executeSell_ok] at done
    obtain ⟨_, _, ⟨_, _, _, _, _, _, _, _, _, _, _, _, course, -⟩, rfl⟩ := done
    rw [course.changed]
    exact .quiet rfl rfl

theorem accepted_ok {A : Type} (observe : Call Pubkey → Option A) (world world' : World Pubkey) (call : Call Pubkey)
    (done : world.execute call = .ok world') : accepted observe world (.call call) = (observe call).toList := by
  simp [accepted, done, Except.isOk, Except.toBool]

-- Every accepted move of the switch is one that the admin signed.
def AdminSwitch (world : World Pubkey) (event : Event Pubkey) : Prop :=
  accepted Call.switch world event ≠ [] →
    ∃ call cfg, event = .call call ∧ world.config = some cfg ∧ cfg.admin ∈ call.signers

theorem step_switched (world : World Pubkey) (event : Event Pubkey) (positions : List Bool)
    (switched : Switched world positions) :
    Switched (world.step event) (positions ++ accepted Call.switch world event) ∧ AdminSwitch world event := by
  have unmoved (silent : accepted Call.switch world event = []) (same : (world.step event).paused = world.paused) :
      Switched (world.step event) (positions ++ accepted Call.switch world event) ∧ AdminSwitch world event := by
    refine ⟨?_, fun moved => absurd silent moved⟩
    rwa [silent, List.append_nil, Switched, same]
  cases event with
  | tick clock => exact unmoved rfl rfl
  | tokens signed underived unassociated instructions =>
    apply unmoved rfl
    simp only [World.step]
    split <;> rfl
  | call call =>
    cases outcome : world.execute call with
    | error error =>
      apply unmoved
      next => simp [accepted, outcome, Except.isOk, Except.toBool]
      next => rw [step_error world call error outcome]
    | ok world' =>
      have silent (position : call.switch = none) : accepted Call.switch world (.call call) = [] := by
        rw [accepted_ok _ _ _ call outcome, position, Option.toList_none]
      have stepped := step_ok world world' call outcome
      cases execute_switch world world' call outcome with
      | quiet position same => exact unmoved (silent position) (by rw [stepped, same])
      | installed position fresh off =>
        refine ⟨?_, fun moved => absurd (silent position) moved⟩
        rcases switched with ⟨-, rfl⟩ | set
        next =>
          rw [silent position, stepped]
          exact .inr off
        next =>
          rw [fresh] at set
          cases set
      | moved paused cfg position present signed set =>
        refine ⟨.inr ?_, fun _ => ⟨call, cfg, rfl, present, signed⟩⟩
        rw [stepped, accepted_ok _ _ _ call outcome, position, Option.toList_some, List.getLast?_append, set]
        rfl

theorem run_switched (world : World Pubkey) (events : List (Event Pubkey)) (positions : List Bool)
    (switched : Switched world positions) :
    Switched (world.run events) (positions ++ switches world events) ∧ Always World.step AdminSwitch world events := by
  induction events generalizing world positions with
  | nil =>
    rw [switches, observed, List.append_nil]
    exact ⟨switched, trivial⟩
  | cons event rest ih =>
    obtain ⟨here, own⟩ := step_switched world event positions switched
    obtain ⟨later, all⟩ := ih (world.step event) _ here
    rw [List.append_assoc] at later
    exact ⟨later, own, all⟩

end Steps

section Paused

-- The configuration of a swap that goes through is not paused.
theorem swaps_running (world : World Pubkey) (event : Event Pubkey) (paused : world.paused = some true) :
    swaps world event = false := by
  have off (cfg : Config Pubkey) (present : world.config = some cfg) : cfg.paused ≠ false := by
    rw [World.paused, present, Option.map_some] at paused
    simp [Option.some.inj paused]
  by_contra swapped
  rw [Bool.not_eq_false] at swapped
  unfold swaps at swapped
  split at swapped
  next =>
    obtain ⟨_, bought⟩ := (isOk_iff _).mp swapped
    obtain ⟨cfg, _, _, _, _, _, _, _, _, course, -⟩ := (executeBuy_ok _ _ _ _ _ _ _).mp bought
    exact off cfg course.configLoaded course.running
  next =>
    obtain ⟨_, sold⟩ := (isOk_iff _).mp swapped
    obtain ⟨cfg, _, _, _, _, _, _, _, _, _, _, _, course, -⟩ := (executeSell_ok _ _ _ _ _ _ _).mp sold
    exact off cfg course.configLoaded course.running
  next => cases swapped

theorem unswapped_ledger (world : World Pubkey) (event : Event Pubkey) (unswapped : swaps world event = false)
    (own : event.isTokens = false) : (world.step event).ledger = world.ledger := by
  apply step_kept (fun after => after.ledger = world.ledger) world event rfl
  case ticked => exact fun _ _ => rfl
  case moved =>
    rintro signed underived unassociated instructions ledger rfl -
    cases own
  case called =>
    rintro call world' rfl done
    rcases ledger_cases world world' call done with same | ⟨ctx, minOut, swapData, venue, event, rfl, bought⟩ |
      ⟨ctx, minOut, swapData, venue, event, rfl, sold⟩
    next => exact same
    next => simp [swaps, bought, Except.isOk, Except.toBool] at unswapped
    next => simp [swaps, sold, Except.isOk, Except.toBool] at unswapped

theorem step_paused (world : World Pubkey) (event : Event Pubkey) (paused : world.paused = some true)
    (unresumed : false ∉ accepted Call.switch world event) : (world.step event).paused = some true := by
  have switched : Switched world [true] := .inr paused
  rcases (step_switched world event [true] switched).1 with ⟨-, empty⟩ | set
  next => cases empty
  next =>
    rw [set, List.getLast?_append]
    cases last : (accepted Call.switch world event).getLast? with
    | none => rfl
    | some position =>
      cases position with
      | true => rfl
      | false => exact absurd (List.mem_of_getLast? last) unresumed

theorem tokens_local (world other : World Pubkey) (event : Event Pubkey) (tokens : event.isTokens = true)
    (same : world.ledger = other.ledger) : (world.step event).ledger = (other.step event).ledger := by
  cases event with
  | tokens signed underived unassociated instructions =>
    simp only [World.step, same]
    split
    next => rfl
    next => exact same
  | call call => cases tokens
  | tick clock => cases tokens

theorem switches_always (position : Bool) (world : World Pubkey) (events : List (Event Pubkey))
    (never : position ∉ switches world events) :
    Always World.step (fun world event => position ∉ accepted Call.switch world event) world events := by
  induction events generalizing world with
  | nil => trivial
  | cons event rest ih =>
    rw [switches, observed, List.mem_append, not_or] at never
    exact ⟨never.1, ih (world.step event) never.2⟩

end Paused

/-- The switch stands where the admin last put it, and while it is on the program leaves the ledger to the others. -/
theorem paused_still (initial : World Pubkey) (events : List (Event Pubkey)) (fresh : initial.Initial)
    (cfg : Config Pubkey) (present : (initial.run events).config = some cfg) :
    cfg.paused = (switches initial events).getLast?.getD false ∧ Always World.step AdminSwitch initial events ∧
      (cfg.paused = true → ∀ more, false ∉ switches (initial.run events) more →
        Always World.step (fun world event => swaps world event = false) (initial.run events) more ∧
        ((initial.run events).run more).ledger = ((initial.run events).run (more.filter Event.isTokens)).ledger) := by
  have start : Switched initial [] := .inl ⟨by rw [World.paused, fresh.1, Option.map_none], rfl⟩
  obtain ⟨switched, own⟩ := run_switched initial events [] start
  have position : (initial.run events).paused = some cfg.paused := by rw [World.paused, present, Option.map_some]
  refine ⟨?_, own, ?_⟩
  next =>
    rw [Switched, position] at switched
    rcases switched with ⟨missing, -⟩ | set
    next => cases missing
    next => exact Option.some.inj set
  next =>
    intro paused more never
    rw [paused] at position
    have unresumed := switches_always false (initial.run events) more never
    constructor
    next =>
      apply always_kept World.step (fun world => world.paused = some true) _ _ _ _ _ unresumed position
      exact fun world event halted kept => ⟨swaps_running world event halted, step_paused world event halted kept⟩
    next =>
      apply run_filter World.step World.ledger Event.isTokens (fun world => world.paused = some true) _ step_paused _
        tokens_local _ _ rfl position more unresumed
      exact fun world event halted _ own => unswapped_ledger world event (swaps_running world event halted) own

section Sample

open Handover

def halting : List (Event Address) :=
  launch ++ [.call (.setPause (Address.context ⟨Terms.admin, .config⟩ [20]) true)]

-- A buy that would go through, a resumption that the admin did not sign, and more payments.
def attempts : List (Event Address) :=
  [buyCall exchange, .call (.setPause (Address.context ⟨Terms.admin, .config⟩ [23]) false), .tick 5, pull, buyCall grant]

theorem paused_still_attempts :
    ((genesis.run halting).run attempts).ledger = ((genesis.run halting).run [pull]).ledger ∧
      launched.ledger.balance purse < ((genesis.run halting).run attempts).ledger.balance purse := by
  have still := paused_still genesis halting ⟨rfl, rfl, rfl⟩ { Terms.dollar.config with paused := true } (by decide)
  have kept := (still.2.2 rfl attempts (by decide +kernel)).2
  exact ⟨kept, by rw [kept]; decide +kernel⟩

end Sample

end RecurringBuy
