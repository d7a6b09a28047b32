import RecurringBuy.Program.History
import RecurringBuy.Properties.RogueCall

set_option autoImplicit false

namespace RecurringBuy

open Checked SplToken ProgramAddress Rounding

variable {Pubkey : Type}

section Arithmetic

theorem bandFloor_fails (amountIn multiplier divisor : Nat) (maxSlippageBps : UInt16)
    (bps : maxSlippageBps.toNat ≤ 10000) :
    FailsOnly (fun error => error = .buy .overflow) (bandFloor amountIn multiplier divisor maxSlippageBps) := by
  unfold bandFloor
  refine failsOnly_bind _ _ _ (failsOnly_okOr _ _ _ fun _ => rfl) fun _ _ => ?_
  refine failsOnly_bind _ _ _ (failsOnly_okOr _ _ _ fun _ => rfl) fun _ _ => ?_
  refine failsOnly_bind _ _ _ (failsOnly_require _ _ _ ?inBand) fun _ _ => ?_
  case inBand =>
    intro beyond
    exact absurd (UInt16.le_iff_toNat_le.mpr bps) (of_decide_eq_false beyond)
  refine failsOnly_bind _ _ _ (failsOnly_okOr _ _ _ fun _ => rfl) fun _ _ => ?_
  exact failsOnly_bind _ _ _ (failsOnly_okOr _ _ _ fun _ => rfl) fun _ _ => failsOnly_pure _ _

theorem positive_ok (amount : UInt64) (error : Error) (result : Unit) :
    require (decide (0 < amount)) error = .ok result ↔ 0 < amount.toNat := by
  have zero : (0 : UInt64).toNat = 0 := rfl
  rw [require_ok, decide_eq_true_eq, UInt64.lt_iff_toNat_lt, zero]

theorem positive_fails (errors : Error → Prop) (amount : UInt64) (error : Error)
    (empty : amount.toNat = 0 → errors error) : FailsOnly errors (require (decide (0 < amount)) error) := by
  have zero : (0 : UInt64).toNat = 0 := rfl
  refine failsOnly_require _ _ _ fun nothing => empty ?_
  have none := of_decide_eq_false nothing
  rw [UInt64.lt_iff_toNat_lt, zero] at none
  omega

theorem checkedSub_fails (errors : Error → Prop) (left right : UInt64) (error : Error)
    (covered : right.toNat ≤ left.toNat) : FailsOnly errors (okOr (U64.checkedSub left right) error) := by
  apply failsOnly_okOr
  intro none
  have short := (U64.checkedSub_none _ _).mp none
  omega

theorem checkDue_fails (plan : SellPlan Pubkey) (now : Int64) :
    FailsOnly (fun error => error = .buy .planCompleted ∨ error = .buy .notDue) (plan.checkDue now) := by
  unfold SellPlan.checkDue
  apply failsOnly_bind
  next => exact failsOnly_require _ _ _ fun _ => .inl rfl
  next =>
    intro _ _
    exact failsOnly_require _ _ _ fun _ => .inr rfl

theorem checkCap_fails (plan : SellPlan Pubkey) (userTargetAta amountIn : UInt64) (now : Int64)
    (formed : plan.WellFormed) :
    FailsOnly (fun error => error = .buy .overdrawSchedule) (plan.checkCap userTargetAta amountIn now) := by
  obtain ⟨periods, left, positive⟩ := remainingPeriods_exists plan now (wellFormed_positive plan formed)
  have pot := userTargetAta.toNat_lt
  have input := amountIn.toNat_lt
  have total : U128.checkedAdd userTargetAta.toNat amountIn.toNat = some (userTargetAta.toNat + amountIn.toNat) :=
    (U128.checkedAdd_some _ _ _).mpr ⟨by omega, rfl⟩
  have share : U128.checkedDiv (userTargetAta.toNat + amountIn.toNat) periods.toInt.toNat =
      some ((userTargetAta.toNat + amountIn.toNat) / periods.toInt.toNat) :=
    (U128.checkedDiv_some _ _ _).mpr ⟨by omega, rfl⟩
  unfold SellPlan.checkCap
  rw [total, left]
  simp only [okOr, bind, Except.bind, share]
  exact failsOnly_require _ _ _ fun _ => rfl

theorem advance_fails (plan : SellPlan Pubkey) (now : Int64) (formed : plan.WellFormed)
    (start : 0 ≤ plan.nextDueTs.toInt) (due : plan.nextDueTs.toInt ≤ now.toInt) :
    FailsOnly (fun error => error = .buy .overflow ∧ 2 ^ 63 ≤ now.toInt + plan.periodSecs.toInt)
      (plan.advance now) := by
  have least := formed.minPeriod
  have most := formed.maxPeriod
  have high := now.toInt_lt
  have one : (1 : Int64).toInt = 1 := rfl
  let elapsed := now.toInt - plan.nextDueTs.toInt
  have whole : elapsed / plan.periodSecs.toInt * plan.periodSecs.toInt ≤ elapsed := Int.ediv_mul_le _ (by omega)
  have nonneg : 0 ≤ elapsed / plan.periodSecs.toInt := Int.ediv_nonneg (by omega) (by omega)
  have few : elapsed / plan.periodSecs.toInt * 60 ≤ elapsed / plan.periodSecs.toInt * plan.periodSecs.toInt :=
    Int.mul_le_mul_of_nonneg_left least nonneg
  have jump : (elapsed / plan.periodSecs.toInt + 1) * plan.periodSecs.toInt =
      elapsed / plan.periodSecs.toInt * plan.periodSecs.toInt + plan.periodSecs.toInt := by ring
  unfold SellPlan.advance
  refine failsOnly_bind _ _ _ (failsOnly_okOr _ _ _ ?fitsLate) fun late lateValue => ?_
  case fitsLate =>
    intro none
    rcases (i64_none _).mp none with below | above <;> omega
  rw [okOr_ok, I64.checkedSub_some] at lateValue
  have divided : late.toInt.tdiv plan.periodSecs.toInt = elapsed / plan.periodSecs.toInt := by
    rw [lateValue, Int.tdiv_eq_ediv_of_nonneg (by omega)]
  refine failsOnly_bind _ _ _ (failsOnly_okOr _ _ _ ?fitsMissed) fun missed missedValue => ?_
  case fitsMissed =>
    intro none
    simp only [I64.checkedDiv, if_neg (show plan.periodSecs.toInt ≠ 0 by omega), divided] at none
    rcases (i64_none _).mp none with below | above <;> omega
  rw [okOr_ok, I64.checkedDiv_some, divided] at missedValue
  refine failsOnly_bind _ _ _ (failsOnly_okOr _ _ _ ?fitsNext) fun k kValue => ?_
  case fitsNext =>
    intro none
    rw [I64.checkedAdd, one, missedValue.2] at none
    rcases (i64_none _).mp none with below | above <;> omega
  rw [okOr_ok, I64.checkedAdd_some, one, missedValue.2] at kValue
  -- Only the last two sums can leave the range, and then `now + period_secs` does.
  refine failsOnly_bind _ _ _ (failsOnly_okOr _ _ _ ?jumps) fun skipped skippedValue => ?_
  case jumps =>
    intro none
    rw [I64.checkedMul, kValue, jump] at none
    rcases (i64_none _).mp none with below | above
    next => omega
    next => exact ⟨rfl, by omega⟩
  rw [okOr_ok, I64.checkedMul_some, kValue, jump] at skippedValue
  refine failsOnly_bind _ _ _ (failsOnly_okOr _ _ _ ?lands) fun _ _ => failsOnly_pure _ _
  case lands =>
    intro none
    rw [I64.checkedAdd, skippedValue] at none
    rcases (i64_none _).mp none with below | above
    next => omega
    next => exact ⟨rfl, by omega⟩

variable [DecidableEq Pubkey] [ProgramAddress Pubkey]

omit [ProgramAddress Pubkey] in
theorem isWhitelisted_total (cfg : Config Pubkey) (programId : Pubkey)
    (count : cfg.swapProgramCount.toNat ≤ maxSwapPrograms) :
    ∃ whitelisted, cfg.isWhitelisted programId = .ok whitelisted := by
  refine ⟨(cfg.swapPrograms.toList.take cfg.swapProgramCount.toNat).contains programId, ?_⟩
  simp only [Config.isWhitelisted, bind_ok, require_ok, exists_const, pure_ok, count, decide_true, and_self]

omit [DecidableEq Pubkey] in
theorem priceFloor_total (cfg : Config Pubkey) (netIn : UInt64) (formed : cfg.WellFormed)
    (priced : cfg.priceRefMicros.toNat ≠ 0) :
    ∃ floor, priceFloor netIn cfg.priceRefMicros cfg.targetDecimals cfg.maxSlippageBps = .ok floor := by
  refine ⟨UInt64.ofNat (cfg.exactBuyFloor netIn.toNat), ?_⟩
  apply (priceFloor_ok _ _ _ _ _ formed.decimals formed.slippage).mpr
  exact ⟨priced, UInt64.toNat_ofNat'⟩

omit [DecidableEq Pubkey] in
theorem sellFloor_fails (cfg : Config Pubkey) (netIn : UInt64) (formed : cfg.WellFormed) :
    FailsOnly (fun error => error = .buy .overflow ∧ 2 ^ 64 ≤ cfg.exactSellFloor netIn.toNat)
      (sellFloor netIn cfg.priceRefMicros cfg.targetDecimals cfg.maxSlippageBps) := by
  by_cases fits : netIn.toNat * cfg.priceRefMicros.toNat / 10 ^ cfg.targetDecimals.toNat *
      (10000 - cfg.maxSlippageBps.toNat) < 2 ^ 128
  case pos =>
    have accepted := (sellFloor_ok netIn cfg.priceRefMicros _ _ (UInt64.ofNat (cfg.exactSellFloor netIn.toNat))
      formed.decimals formed.slippage).mpr ⟨fits, UInt64.toNat_ofNat'⟩
    exact failsOnly_ok _ _ _ accepted
  case neg =>
    have huge : 2 ^ 64 ≤ cfg.exactSellFloor netIn.toNat := by
      unfold Config.exactSellFloor discounted
      omega
    unfold sellFloor
    refine failsOnly_bind _ _ _ (failsOnly_okOr _ _ _ fun _ => ⟨rfl, huge⟩) fun _ _ => ?_
    exact failsOnly_mono _ _ _ (bandFloor_fails _ _ _ _ formed.slippage) fun _ overflow => ⟨overflow, huge⟩

end Arithmetic

section Forwarding

variable [DecidableEq Pubkey] [ProgramAddress Pubkey]

/-- The venue leaves less at the destination than there was before the call. -/
def VenueShorts (ledger : Ledger Pubkey) (signers : List Pubkey) (remainingAccounts : List (AccountInfo Pubkey))
    (leg : Leg Pubkey) (fee : UInt64) (swapData : List UInt8) (venue : Venue Pubkey) : Prop :=
  ∃ skimmed settled, skimFee ledger leg fee = .ok skimmed ∧
    invokeSigned signers leg.buyAuthority venue skimmed
      { programId := leg.swapProgram
        accounts := forwardedMetas remainingAccounts leg.buyAuthority
        data := swapData } = .ok settled ∧
    settled.balance leg.destination < ledger.balance leg.destination

def ForwardFailure (shorts : Prop) : Error → Prop
  | .panicked => False
  | .buy .nothingPulled => False
  | .buy .overflow => shorts
  | _ => True

omit [ProgramAddress Pubkey] in
theorem tokenCall_fails {A : Type} (shorts : Prop) (result : Except TokenError A) :
    FailsOnly (ForwardFailure shorts) (tokenCall result) := by
  cases result with
  | ok value => exact failsOnly_ok _ _ value rfl
  | error error =>
    intro error' failed
    cases failed
    trivial

omit [DecidableEq Pubkey] [ProgramAddress Pubkey] in
theorem forwardFailure_among (errors : Error → Prop) (shorts : Prop) (overflow : shorts → errors (.buy .overflow))
    (others : ∀ error, error ≠ .panicked → error ≠ .buy .nothingPulled → error ≠ .buy .overflow → errors error)
    (error : Error) (fails : ForwardFailure shorts error) : errors error := by
  unfold ForwardFailure at fails
  split at fails
  next => exact absurd fails id
  next => exact absurd fails id
  next => exact overflow fails
  next notPanicked notNothing notOverflow => exact others error notPanicked notNothing notOverflow

theorem forwardSwap_fails (ledger : Ledger Pubkey) (signers : List Pubkey)
    (remainingAccounts : List (AccountInfo Pubkey)) (leg : Leg Pubkey) (fee minOut : UInt64) (swapData : List UInt8)
    (venue : Venue Pubkey) (dest : TokenAccount Pubkey) (present : ledger.accounts leg.destination = some dest) :
    FailsOnly (ForwardFailure (VenueShorts ledger signers remainingAccounts leg fee swapData venue))
      (forwardSwap ledger signers remainingAccounts leg fee dest.amount minOut swapData venue) := by
  unfold forwardSwap
  refine failsOnly_bind _ _ _ ?skims fun skimmed skim => ?_
  case skims =>
    unfold skimFee
    split
    next => exact tokenCall_fails _ _
    next => exact failsOnly_ok _ _ _ rfl
  refine failsOnly_bind _ _ _ ?invokes fun settled invoked => ?_
  case invokes =>
    unfold invokeSigned
    refine failsOnly_bind _ _ _ (failsOnly_require _ _ _ fun _ => trivial) fun _ _ => ?_
    exact failsOnly_bind _ _ _ (failsOnly_okOr _ _ _ fun _ => trivial) fun _ _ => tokenCall_fails _ _
  refine failsOnly_bind _ _ _ ?verifies fun _ _ => failsOnly_pure _ _
  unfold verifyOutcome
  refine failsOnly_bind _ _ _ (failsOnly_okOr _ _ _ fun _ => trivial) fun source _ => ?_
  refine failsOnly_bind _ _ _ (failsOnly_okOr _ _ _ fun _ => trivial) fun after atDest => ?_
  refine failsOnly_bind _ _ _ (failsOnly_require _ _ _ fun _ => trivial) fun _ _ => ?_
  refine failsOnly_bind _ _ _ (failsOnly_okOr _ _ _ ?shorted) fun _ _ => ?_
  case shorted =>
    intro none
    refine ⟨skimmed, settled, skim, invoked, ?_⟩
    rw [Ledger.balance_some _ _ _ ((reload_ok _ _ _).mp atDest), Ledger.balance_some _ _ _ present]
    exact (U64.checkedSub_none _ _).mp none
  exact failsOnly_bind _ _ _ (failsOnly_require _ _ _ fun _ => trivial) fun _ _ => failsOnly_pure _ _

end Forwarding

section Epoch

variable [DecidableEq Pubkey] [ProgramAddress Pubkey]

def Event.AfterEpoch : Event Pubkey → Prop
  | .tick clock => 0 ≤ clock.toInt
  | _ => True

/-- Reachable on a chain whose clock was never negative. -/
def World.ReachableAfterEpoch (world : World Pubkey) : Prop :=
  ∃ initial events, World.Initial initial ∧ 0 ≤ initial.clock.toInt ∧
    Throughout (fun _ event => event.AfterEpoch) initial events ∧ world = initial.run events

structure World.Timed (world : World Pubkey) : Prop where
  clock : 0 ≤ world.clock.toInt
  plans : ∀ key plan, world.sellPlans key = some plan → plan.WellFormed ∧ 0 ≤ plan.nextDueTs.toInt

theorem step_timed (world : World Pubkey) (event : Event Pubkey) (timed : world.Timed)
    (later : event.AfterEpoch) : (world.step event).Timed := by
  constructor
  case clock =>
    apply step_kept (fun after => 0 ≤ after.clock.toInt) world event timed.clock
    case moved => exact fun _ _ _ _ _ _ _ => timed.clock
    case ticked =>
      rintro clock rfl
      exact later
    case called =>
      rintro call world' rfl outcome
      rw [execute_clock world world' call outcome]
      exact timed.clock
  case plans =>
    apply step_plans (fun _ plan => plan.WellFormed ∧ 0 ≤ plan.nextDueTs.toInt) world event
    case opens =>
      intro user endTs periodSecs cadence
      exact ⟨⟨cadence.1, cadence.2⟩, timed.clock⟩
    case moves =>
      intro key plan advanced due advancedValue before
      obtain ⟨formed, start⟩ := before
      obtain ⟨same, moved⟩ := advance_ok plan advanced world.clock due advancedValue
      have least := formed.minPeriod
      have elapsed : 0 ≤ (world.clock.toInt - plan.nextDueTs.toInt) / plan.periodSecs.toInt :=
        Int.ediv_nonneg (by omega) (by omega)
      have jump : 0 ≤ ((world.clock.toInt - plan.nextDueTs.toInt) / plan.periodSecs.toInt + 1) *
          plan.periodSecs.toInt := Int.mul_nonneg (by omega) (by omega)
      refine ⟨?_, by omega⟩
      rw [same]
      exact ⟨formed.minPeriod, formed.maxPeriod⟩
    case before => exact timed.plans

theorem reachable_timed (world : World Pubkey) (reachable : world.ReachableAfterEpoch) :
    world.Timed ∧ world.WellFormed := by
  obtain ⟨initial, events, fresh, start, throughout, rfl⟩ := reachable
  refine ⟨?_, reachable_wellFormed _ ⟨initial, events, fresh, rfl⟩⟩
  apply run_invariant _ World.Timed step_timed initial events throughout
  constructor
  case clock => exact start
  case plans => simp [fresh.2.2]

end Epoch

section Swaps

variable [DecidableEq Pubkey] [ProgramAddress Pubkey]

-- The program's accounts of `world`, amid any ledger and at any time.
def World.amid (world : World Pubkey) (ledger : Ledger Pubkey) (clock : Int64) : World Pubkey :=
  { world with ledger := ledger, clock := clock }

def World.fee (world : World Pubkey) (source : Pubkey) : Nat :=
  match world.feeConfig with
  | some feeConfig => feeConfig.feeOf (world.ledger.balance source)
  | none => 0

omit [DecidableEq Pubkey] [ProgramAddress Pubkey] in
theorem charged_fee (world : World Pubkey) (feeConfig : FeeConfig Pubkey) (loaded : world.feeConfig = some feeConfig)
    (source : Pubkey) (account : TokenAccount Pubkey) (present : world.ledger.accounts source = some account)
    (fee : UInt64) (charged : executionFee account.amount feeConfig.feeBps = .ok fee) :
    fee = UInt64.ofNat (world.fee source) := by
  have value : world.fee source = feeConfig.feeOf account.amount.toNat := by
    simp only [World.fee, loaded, Ledger.balance_some _ _ _ present]
  rw [value]
  exact executionFee_value _ _ _ charged

def BuyFailure (world : World Pubkey) (ctx : Context Pubkey (ExecuteBuy Pubkey)) (swapData : List UInt8)
    (venue : Venue Pubkey) : Error → Prop
  | .panicked => False
  | .buy .nothingPulled => world.ledger.balance ctx.accounts.transientUsdc = 0
  | .buy .overflow => VenueShorts world.ledger ctx.signers ctx.remainingAccounts ctx.accounts.leg
      (UInt64.ofNat (world.fee ctx.accounts.transientUsdc)) swapData venue
  | _ => True

def SellFailure (world : World Pubkey) (ctx : Context Pubkey (ExecuteSell Pubkey)) (swapData : List UInt8)
    (venue : Venue Pubkey) : Error → Prop
  | .panicked => False
  | .buy .nothingPulled => world.ledger.balance ctx.accounts.transientTarget = 0
  | .buy .overflow =>
      VenueShorts world.ledger ctx.signers ctx.remainingAccounts ctx.accounts.leg
        (UInt64.ofNat (world.fee ctx.accounts.transientTarget)) swapData venue ∨
      (∃ cfg, world.config = some cfg ∧ 2 ^ 64 ≤ cfg.exactSellFloor
        (world.ledger.balance ctx.accounts.transientTarget - world.fee ctx.accounts.transientTarget)) ∨
      ∃ plan, world.sellPlans ctx.accounts.sellPlan = some plan ∧
        2 ^ 63 ≤ world.clock.toInt + plan.periodSecs.toInt
  | _ => True

end Swaps

section Swaps

variable [DecidableEq Pubkey] [ProgramAddress Pubkey] (world : World Pubkey) (timed : world.Timed)
  (formed : world.WellFormed)

omit [DecidableEq Pubkey] in
theorem fee_value (feeConfig : FeeConfig Pubkey) (loaded : world.feeConfig = some feeConfig)
    (feeFormed : feeConfig.WellFormed) (source : Pubkey) (account : TokenAccount Pubkey)
    (present : world.ledger.accounts source = some account) :
    executionFee account.amount feeConfig.feeBps = .ok (UInt64.ofNat (world.fee source)) ∧
      (UInt64.ofNat (world.fee source)).toNat = world.fee source ∧
      world.fee source ≤ account.amount.toNat / 100 := by
  have value : world.fee source = feeConfig.feeOf account.amount.toNat := by
    simp only [World.fee, loaded, Ledger.balance_some _ _ _ present]
  obtain ⟨fee, charged, amount⟩ := fee_total feeConfig feeFormed account.amount
  rw [← value] at amount
  have same : UInt64.ofNat (world.fee source) = fee := by rw [← amount, UInt64.ofNat_toNat]
  rw [same]
  refine ⟨charged, amount, ?_⟩
  rw [value]
  exact feeOf_le feeConfig feeFormed _

include formed

theorem executeBuy_fails (ctx : Context Pubkey (ExecuteBuy Pubkey)) (minOut : UInt64) (swapData : List UInt8)
    (venue : Venue Pubkey) :
    FailsOnly (BuyFailure world ctx swapData venue) (executeBuy world ctx minOut swapData venue) := by
  unfold executeBuy
  refine failsOnly_bind _ _ _ (failsOnly_require _ _ _ fun _ => trivial) fun _ _ => ?_
  refine failsOnly_bind _ _ _ (failsOnly_okOr _ _ _ fun _ => trivial) fun cfg loaded => ?_
  refine failsOnly_bind _ _ _ (failsOnly_okOr _ _ _ fun _ => trivial) fun source atSource => ?_
  refine failsOnly_bind _ _ _ (failsOnly_okOr _ _ _ fun _ => trivial) fun dest atDest => ?_
  refine failsOnly_bind _ _ _ (failsOnly_okOr _ _ _ fun _ => trivial) fun feeConfig feeLoaded => ?_
  refine failsOnly_bind _ _ _ (failsOnly_okOr _ _ _ fun _ => trivial) fun _ _ => ?_
  iterate 8
    refine failsOnly_bind _ _ _ (failsOnly_require _ _ _ fun _ => trivial) fun _ _ => ?_
  have cfgFormed := formed.config cfg ((loadConfig_ok _ _).mp loaded)
  have feePresent := (loadFeeConfig_ok _ _).mp feeLoaded
  have present := (tokenAccount_ok _ _ _).mp atSource
  obtain ⟨charged, feeValue, small⟩ := fee_value world feeConfig feePresent (formed.feeConfig feeConfig feePresent)
    _ source present
  refine failsOnly_bind _ _ _ (positive_fails _ _ _ ?pulled) fun _ positive => ?_
  case pulled =>
    intro empty
    exact (Ledger.balance_some _ _ _ present).trans empty
  rw [positive_ok] at positive
  obtain ⟨whitelisted, listed⟩ := isWhitelisted_total cfg ctx.accounts.swapProgram cfgFormed.count
  refine failsOnly_bind _ _ _ (failsOnly_ok _ _ _ listed) fun _ _ => ?_
  refine failsOnly_bind _ _ _ (failsOnly_require _ _ _ fun _ => trivial) fun _ _ => ?_
  refine failsOnly_bind _ _ _ (failsOnly_ok _ _ _ charged) fun fee paid => ?_
  obtain rfl : UInt64.ofNat (world.fee ctx.accounts.transientUsdc) = fee := Except.ok.inj (charged.symm.trans paid)
  refine failsOnly_bind _ _ _ (checkedSub_fails _ _ _ _ (by omega)) fun netIn net => ?_
  rw [okOr_ok, U64.checkedSub_some, feeValue] at net
  refine failsOnly_bind _ _ _ (positive_fails _ _ _ ?remains) fun _ _ => ?_
  case remains =>
    -- The fee is at most a hundredth of what was pulled.
    intro empty
    omega
  refine failsOnly_bind _ _ _ (failsOnly_require _ _ _ fun _ => trivial) fun _ _ => ?_
  refine failsOnly_bind _ _ _ (failsOnly_require _ _ _ fun _ => trivial) fun _ priced => ?_
  rw [positive_ok] at priced
  obtain ⟨floor, floorValue⟩ := priceFloor_total cfg netIn cfgFormed priced.ne'
  refine failsOnly_bind _ _ _ (failsOnly_ok _ _ _ floorValue) fun _ _ => ?_
  refine failsOnly_bind _ _ _ (failsOnly_require _ _ _ fun _ => trivial) fun _ _ => ?_
  refine failsOnly_bind _ _ _ ?forwards fun _ _ => failsOnly_pure _ _
  have swapped := forwardSwap_fails world.ledger ctx.signers ctx.remainingAccounts ctx.accounts.leg
    (UInt64.ofNat (world.fee ctx.accounts.transientUsdc)) minOut swapData venue dest
    ((tokenAccount_ok _ _ _).mp atDest)
  refine failsOnly_mono _ _ _ swapped (forwardFailure_among _ _ id ?_)
  intro error notPanicked notNothing notOverflow
  unfold BuyFailure
  split
  next => exact notPanicked rfl
  next => exact absurd rfl notNothing
  next => exact absurd rfl notOverflow
  next => trivial

include timed

theorem executeSell_fails (ctx : Context Pubkey (ExecuteSell Pubkey)) (minOut : UInt64) (swapData : List UInt8)
    (venue : Venue Pubkey) :
    FailsOnly (SellFailure world ctx swapData venue) (executeSell world ctx minOut swapData venue) := by
  unfold executeSell
  refine failsOnly_bind _ _ _ (failsOnly_require _ _ _ fun _ => trivial) fun _ _ => ?_
  refine failsOnly_bind _ _ _ (failsOnly_okOr _ _ _ fun _ => trivial) fun cfg loaded => ?_
  refine failsOnly_bind _ _ _ (failsOnly_okOr _ _ _ fun _ => trivial) fun plan planLoaded => ?_
  refine failsOnly_bind _ _ _ (failsOnly_okOr _ _ _ fun _ => trivial) fun source atSource => ?_
  refine failsOnly_bind _ _ _ (failsOnly_okOr _ _ _ fun _ => trivial) fun pot _ => ?_
  refine failsOnly_bind _ _ _ (failsOnly_okOr _ _ _ fun _ => trivial) fun dest atDest => ?_
  refine failsOnly_bind _ _ _ (failsOnly_okOr _ _ _ fun _ => trivial) fun feeConfig feeLoaded => ?_
  refine failsOnly_bind _ _ _ (failsOnly_okOr _ _ _ fun _ => trivial) fun _ _ => ?_
  refine failsOnly_bind _ _ _ (failsOnly_require _ _ _ fun _ => trivial) fun _ _ => ?_
  refine failsOnly_bind _ _ _ ?owned fun _ _ => ?_
  case owned =>
    refine failsOnly_bind _ _ _ (failsOnly_require _ _ _ fun _ => trivial) fun _ _ => ?_
    exact failsOnly_require _ _ _ fun _ => trivial
  refine failsOnly_bind _ _ _ (failsOnly_require _ _ _ fun _ => trivial) fun _ _ => ?_
  refine failsOnly_bind _ _ _ (failsOnly_require _ _ _ fun _ => trivial) fun _ _ => ?_
  refine failsOnly_bind _ _ _ (failsOnly_require _ _ _ fun _ => trivial) fun _ _ => ?_
  refine failsOnly_bind _ _ _ ?due fun _ due => ?_
  case due =>
    refine failsOnly_mono _ _ _ (checkDue_fails plan world.clock) fun error untimely => ?_
    rcases untimely with rfl | rfl
    next => trivial
    next => trivial
  refine failsOnly_bind _ _ _ (failsOnly_require _ _ _ fun _ => trivial) fun _ _ => ?_
  refine failsOnly_bind _ _ _ (failsOnly_require _ _ _ fun _ => trivial) fun _ _ => ?_
  refine failsOnly_bind _ _ _ (failsOnly_require _ _ _ fun _ => trivial) fun _ _ => ?_
  have config := (loadConfig_ok _ _).mp loaded
  have cfgFormed := formed.config cfg config
  have planPresent := (loadSellPlan_ok _ _ _).mp planLoaded
  obtain ⟨planFormed, start⟩ := timed.plans _ _ planPresent
  have feePresent := (loadFeeConfig_ok _ _).mp feeLoaded
  have present := (tokenAccount_ok _ _ _).mp atSource
  obtain ⟨charged, feeValue, small⟩ := fee_value world feeConfig feePresent (formed.feeConfig feeConfig feePresent)
    _ source present
  refine failsOnly_bind _ _ _ (positive_fails _ _ _ ?pulled) fun _ positive => ?_
  case pulled =>
    intro empty
    exact (Ledger.balance_some _ _ _ present).trans empty
  rw [positive_ok] at positive
  refine failsOnly_bind _ _ _ ?capped fun _ _ => ?_
  case capped =>
    refine failsOnly_mono _ _ _ (checkCap_fails plan pot.amount source.amount world.clock planFormed)
      fun error overdrawn => ?_
    subst overdrawn
    trivial
  obtain ⟨whitelisted, listed⟩ := isWhitelisted_total cfg ctx.accounts.swapProgram cfgFormed.count
  refine failsOnly_bind _ _ _ (failsOnly_ok _ _ _ listed) fun _ _ => ?_
  refine failsOnly_bind _ _ _ (failsOnly_require _ _ _ fun _ => trivial) fun _ _ => ?_
  refine failsOnly_bind _ _ _ (failsOnly_ok _ _ _ charged) fun fee paid => ?_
  obtain rfl : UInt64.ofNat (world.fee ctx.accounts.transientTarget) = fee := Except.ok.inj (charged.symm.trans paid)
  refine failsOnly_bind _ _ _ (checkedSub_fails _ _ _ _ (by omega)) fun netIn net => ?_
  rw [okOr_ok, U64.checkedSub_some, feeValue] at net
  refine failsOnly_bind _ _ _ (positive_fails _ _ _ ?remains) fun _ _ => ?_
  case remains =>
    -- The fee is at most a hundredth of what was pulled.
    intro empty
    omega
  refine failsOnly_bind _ _ _ (failsOnly_require _ _ _ fun _ => trivial) fun _ _ => ?_
  refine failsOnly_bind _ _ _ (failsOnly_require _ _ _ fun _ => trivial) fun _ _ => ?_
  refine failsOnly_bind _ _ _ ?floors fun _ _ => ?_
  case floors =>
    refine failsOnly_mono _ _ _ (sellFloor_fails cfg netIn cfgFormed) fun error overflow => ?_
    obtain ⟨rfl, huge⟩ := overflow
    refine .inr (.inl ⟨cfg, config, ?_⟩)
    rw [Ledger.balance_some _ _ _ present, ← net, Nat.add_sub_cancel]
    exact huge
  refine failsOnly_bind _ _ _ (failsOnly_require _ _ _ fun _ => trivial) fun _ _ => ?_
  refine failsOnly_bind _ _ _ ?forwards fun _ _ => ?_
  case forwards =>
    have swapped := forwardSwap_fails world.ledger ctx.signers ctx.remainingAccounts ctx.accounts.leg
      (UInt64.ofNat (world.fee ctx.accounts.transientTarget)) minOut swapData venue dest
      ((tokenAccount_ok _ _ _).mp atDest)
    refine failsOnly_mono _ _ _ swapped (forwardFailure_among _ _ .inl ?_)
    intro error notPanicked notNothing notOverflow
    unfold SellFailure
    split
    next => exact notPanicked rfl
    next => exact absurd rfl notNothing
    next => exact absurd rfl notOverflow
    next => trivial
  refine failsOnly_bind _ _ _ ?advances fun _ _ => failsOnly_pure _ _
  have gated := ((checkDue_ok _ _ _).mp due).2
  refine failsOnly_mono _ _ _ (advance_fails plan world.clock planFormed start gated) fun error overflow => ?_
  obtain ⟨rfl, beyond⟩ := overflow
  exact .inr (.inr ⟨plan, planPresent, beyond⟩)

end Swaps

section Reachable

variable [DecidableEq Pubkey] [ProgramAddress Pubkey]

/-- Around the accounts of any reachable world: any ledger, any time since the epoch, any call. -/
theorem swap_failures (world : World Pubkey) (reachable : world.ReachableAfterEpoch) (ledger : Ledger Pubkey)
    (clock : Int64) (now : 0 ≤ clock.toInt) :
    (∀ ctx minOut swapData venue, FailsOnly (BuyFailure (world.amid ledger clock) ctx swapData venue)
      (executeBuy (world.amid ledger clock) ctx minOut swapData venue)) ∧
    (∀ ctx minOut swapData venue, FailsOnly (SellFailure (world.amid ledger clock) ctx swapData venue)
      (executeSell (world.amid ledger clock) ctx minOut swapData venue)) ∧
    (∀ cfg, world.config = some cfg → cfg.priceRefMicros ≠ 0 → ∀ netIn,
      priceFloor netIn cfg.priceRefMicros cfg.targetDecimals cfg.maxSlippageBps ≠ .error (.buy .overflow)) ∧
    ∀ key plan, world.sellPlans key = some plan →
      ∃ periods, plan.remainingPeriods clock = .ok periods ∧ 1 ≤ periods.toInt := by
  obtain ⟨timed, formed⟩ := reachable_timed world reachable
  have amidTimed : (world.amid ledger clock).Timed := ⟨now, timed.plans⟩
  have amidFormed : (world.amid ledger clock).WellFormed := ⟨formed.config, formed.feeConfig, formed.sellPlans⟩
  refine ⟨?_, ?_, ?_, ?_⟩
  next => exact executeBuy_fails (world.amid ledger clock) amidFormed
  next => exact executeSell_fails (world.amid ledger clock) amidTimed amidFormed
  next =>
    intro cfg loaded priced netIn overflow
    have positive : cfg.priceRefMicros.toNat ≠ 0 := fun zero => priced (UInt64.toNat_inj.mp zero)
    obtain ⟨floor, accepted⟩ := priceFloor_total cfg netIn (formed.config cfg loaded) positive
    cases accepted.symm.trans overflow
  next =>
    intro key plan present
    exact remainingPeriods_exists plan clock (wellFormed_positive plan (timed.plans key plan present).1)

end Reachable

section Sample

theorem deployed_afterEpoch (terms : Terms) (accounts : Address → Option (TokenAccount Address)) :
    (terms.deployed accounts).ReachableAfterEpoch :=
  ⟨terms.genesis accounts, terms.setup, ⟨rfl, rfl, rfl⟩, (by decide : (0 : Int) ≤ (0 : Int64).toInt),
    ⟨trivial, trivial, trivial, trivial⟩, rfl⟩

-- The subscriber is an address of the venue, which takes five target units of its own out of the destination.
def shorting : Venue Address :=
  { controls := fun key => decide (key = Terms.user)
    unassociated := fun _ _ => rfl
    behaviour := fun _ _ => some
      [.transfer (transient Terms.user Terms.usdcMint) Rogue.buyer.sink (buyAuthority Terms.user) 1000,
        .transfer (wallet Terms.user Terms.targetMint) Rogue.buyer.reserve Terms.user 5] }

def endowed : Ledger Address :=
  (Rogue.buyer.ledger Ledger.empty 1000 0).setAccount (wallet Terms.user Terms.targetMint)
    (some { mint := Terms.targetMint, owner := Terms.user, amount := 5 })

theorem swap_failures_shorted :
    executeBuy ((Terms.dollar.deployed fun _ => none).amid endowed 1000000)
        (Rogue.buyer.context (Rogue.buyer.buyAccounts Terms.swapProgram)) 1000 [] shorting = .error (.buy .overflow) ∧
      VenueShorts endowed [Rogue.buyer.keeper] Rogue.buyer.route (Rogue.buyer.leg Terms.swapProgram) 0 [] shorting ∧
      ∃ periods, Terms.dollar.plan.remainingPeriods 1000000 = .ok periods ∧ 1 ≤ periods.toInt := by
  have opened : (Terms.dollar.deployed fun _ => none).sellPlans (.sellPlan Terms.user) = some Terms.dollar.plan := by
    rw [Terms.deployed_eq _ _ Terms.dollar_acceptable]
    exact setSellPlan_same _ _ _
  obtain ⟨buys, -, -, periods⟩ := swap_failures (Terms.dollar.deployed fun _ => none) (deployed_afterEpoch _ _) endowed
    1000000 (by decide)
  have verdict : (executeBuy ((Terms.dollar.deployed fun _ => none).amid endowed 1000000)
      (Rogue.buyer.context (Rogue.buyer.buyAccounts Terms.swapProgram)) 1000 [] shorting).map
      (fun result => result.2.amountOut) = .error (.buy .overflow) := by decide +kernel
  have refused := (map_error _ _ _).mp verdict
  exact ⟨refused, buys _ _ _ _ _ refused, periods _ _ opened⟩

def unpriced : Terms := { Terms.dollar with priceRefMicros := 0 }

theorem unpriced_acceptable : unpriced.Acceptable := by
  constructor <;> decide

-- `init_config` accepts a reference price of zero.
theorem priceFloor_unpriced :
    ¬ ∀ (world : World Address) (cfg : Config Address), world.ReachableAfterEpoch → world.config = some cfg →
      ∀ netIn, priceFloor netIn cfg.priceRefMicros cfg.targetDecimals cfg.maxSlippageBps ≠
        .error (.buy .overflow) := by
  intro always
  apply always (unpriced.deployed fun _ => none) unpriced.config (deployed_afterEpoch _ _)
    (Terms.deployed_config _ _ unpriced_acceptable) 1
  decide

end Sample

end RecurringBuy
