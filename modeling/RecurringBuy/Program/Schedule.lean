import RecurringBuy.Program.State
import RecurringBuy.Shared.Rounding

set_option autoImplicit false

namespace RecurringBuy

open Checked

variable {Pubkey : Type}

/-- Aborts on a zero period, or on `i64::MIN / -1`. -/
def SellPlan.remainingPeriods (plan : SellPlan Pubkey) (now : Int64) : Except Error Int64 := do
  let periods ← okOr (I64.checkedDiv (I64.saturatingSub plan.endTs now) plan.periodSecs) .panicked
  pure (if periods < 1 then 1 else periods)

-- The terminal check stands before the clock gate.
def SellPlan.checkDue (plan : SellPlan Pubkey) (now : Int64) : Except Error Unit := do
  require (plan.nextDueTs ≤ plan.endTs) (.buy .planCompleted)
  require (plan.nextDueTs ≤ now) (.buy .notDue)

def SellPlan.checkCap (plan : SellPlan Pubkey) (userTargetAta amountIn : UInt64) (now : Int64) :
    Except Error Unit := do
  let totalPot ← okOr (U128.checkedAdd userTargetAta.toNat amountIn.toNat) (.buy .overflow)
  let periods ← plan.remainingPeriods now
  let cap ← okOr (U128.checkedDiv totalPot periods.toInt.toNat) (.buy .overflow)
  require (amountIn.toNat ≤ cap) (.buy .overdrawSchedule)

def SellPlan.advance (plan : SellPlan Pubkey) (now : Int64) : Except Error (SellPlan Pubkey) := do
  let late ← okOr (I64.checkedSub now plan.nextDueTs) (.buy .overflow)
  let missed ← okOr (I64.checkedDiv late plan.periodSecs) (.buy .overflow)
  let k ← okOr (I64.checkedAdd missed 1) (.buy .overflow)
  let jump ← okOr (I64.checkedMul k plan.periodSecs) (.buy .overflow)
  let nextDueTs ← okOr (I64.checkedAdd plan.nextDueTs jump) (.buy .overflow)
  pure { plan with nextDueTs := nextDueTs }

/-- What `open_sell_plan` leaves in every plan, and nothing later changes. -/
structure SellPlan.WellFormed (plan : SellPlan Pubkey) : Prop where
  minPeriod : 60 ≤ plan.periodSecs.toInt
  maxPeriod : plan.periodSecs.toInt ≤ 366 * 86400

theorem checkDue_ok (plan : SellPlan Pubkey) (now : Int64) (result : Unit) :
    plan.checkDue now = .ok result ↔
      plan.nextDueTs.toInt ≤ plan.endTs.toInt ∧ plan.nextDueTs.toInt ≤ now.toInt := by
  simp only [SellPlan.checkDue, bind_ok, require_ok, exists_const, decide_eq_true_eq,
    Int64.le_iff_toInt_le]

theorem remainingPeriods_of_pos (plan : SellPlan Pubkey) (now periods : Int64)
    (positive : 0 < plan.periodSecs.toInt) :
    plan.remainingPeriods now = .ok periods ↔
      periods.toInt = max (min (plan.endTs.toInt - now.toInt) (2 ^ 63 - 1) / plan.periodSecs.toInt) 1 := by
  have one : (1 : Int64).toInt = 1 := rfl
  let left := (I64.saturatingSub plan.endTs now).toInt
  have whole : max (left.tdiv plan.periodSecs.toInt) 1 =
      max (min (plan.endTs.toInt - now.toInt) (2 ^ 63 - 1) / plan.periodSecs.toInt) 1 := by
    rw [Rounding.max_tdiv _ _ 1 positive (by decide)]
    simp only [left, I64.saturatingSub_toInt]
    exact Rounding.max_ediv_clamped _ _ _ positive (by decide)
  -- The quotient always fits, so the division never overflows.
  obtain ⟨quotient, fits⟩ : ∃ quotient : Int64, quotient.toInt = left.tdiv plan.periodSecs.toInt := by
    have range := Rounding.tdiv_between left plan.periodSecs.toInt positive
    have low := (I64.saturatingSub plan.endTs now).le_toInt
    have high := (I64.saturatingSub plan.endTs now).toInt_lt
    exact ⟨Int64.ofInt _, Int64.toInt_ofInt_of_le (by omega) (by omega)⟩
  have floored : (if quotient < 1 then 1 else quotient : Int64).toInt = max quotient.toInt 1 := by
    split
    next low =>
      rw [Int64.lt_iff_toInt_lt, one] at low
      omega
    next high =>
      rw [Int64.lt_iff_toInt_lt, one] at high
      omega
  have divided : I64.checkedDiv (I64.saturatingSub plan.endTs now) plan.periodSecs = some quotient :=
    (I64.checkedDiv_some _ _ _).mpr ⟨by omega, fits⟩
  simp only [SellPlan.remainingPeriods, divided, bind_ok, okOr_ok, pure_ok, Option.some.injEq,
    exists_eq_left']
  rw [← Int64.toInt_inj, floored, fits, whole, eq_comm]

theorem remainingPeriods_exists (plan : SellPlan Pubkey) (now : Int64) (positive : 0 < plan.periodSecs.toInt) :
    ∃ periods, plan.remainingPeriods now = .ok periods ∧ 1 ≤ periods.toInt := by
  have low := plan.endTs.le_toInt
  have high := now.toInt_lt
  have early := now.le_toInt
  let left := min (plan.endTs.toInt - now.toInt) (2 ^ 63 - 1)
  have small : left / plan.periodSecs.toInt ≤ max left 0 := by
    by_cases nonneg : 0 ≤ left
    next => exact (Int.ediv_le_self _ nonneg).trans (le_max_left _ _)
    next => exact (Int.ediv_neg_of_neg_of_pos (by omega) (by omega)).le.trans (le_max_right _ _)
  let periods := Int64.ofInt (max (left / plan.periodSecs.toInt) 1)
  have value : periods.toInt = max (left / plan.periodSecs.toInt) 1 := by
    apply Int64.toInt_ofInt_of_le <;> omega
  exact ⟨periods, (remainingPeriods_of_pos plan now periods positive).mpr value, by omega⟩

theorem checkCap_of_pos (plan : SellPlan Pubkey) (userTargetAta amountIn : UInt64) (now : Int64)
    (positive : 0 < plan.periodSecs.toInt) (result : Unit) :
    plan.checkCap userTargetAta amountIn now = .ok result ↔ ∃ periods, plan.remainingPeriods now = .ok periods ∧
      amountIn.toNat ≤ (userTargetAta.toNat + amountIn.toNat) / periods.toInt.toNat := by
  have pot : userTargetAta.toNat + amountIn.toNat < 2 ^ 128 := by
    have := userTargetAta.toNat_lt
    have := amountIn.toNat_lt
    omega
  simp only [SellPlan.checkCap, bind_ok, okOr_ok, require_ok, U128.checkedAdd_some, U128.checkedDiv_some,
    decide_eq_true_eq, pot, true_and, exists_eq_left]
  constructor
  · intro accepted
    rcases accepted with ⟨periods, left, cap, ⟨-, rfl⟩, within⟩
    exact ⟨periods, left, within⟩
  · intro conditions
    rcases conditions with ⟨periods, left, within⟩
    have value := (remainingPeriods_of_pos plan now periods positive).mp left
    exact ⟨periods, left, _, ⟨by omega, rfl⟩, within⟩

theorem wellFormed_positive (plan : SellPlan Pubkey) (formed : plan.WellFormed) : 0 < plan.periodSecs.toInt := by
  have least := formed.minPeriod
  omega

theorem remainingPeriods_ok (plan : SellPlan Pubkey) (now periods : Int64) (formed : plan.WellFormed) :
    plan.remainingPeriods now = .ok periods ↔
      periods.toInt = max (min (plan.endTs.toInt - now.toInt) (2 ^ 63 - 1) / plan.periodSecs.toInt) 1 :=
  remainingPeriods_of_pos plan now periods (wellFormed_positive plan formed)

theorem checkCap_ok (plan : SellPlan Pubkey) (userTargetAta amountIn : UInt64) (now : Int64)
    (formed : plan.WellFormed) (result : Unit) :
    plan.checkCap userTargetAta amountIn now = .ok result ↔ ∃ periods, plan.remainingPeriods now = .ok periods ∧
      amountIn.toNat ≤ (userTargetAta.toNat + amountIn.toNat) / periods.toInt.toNat :=
  checkCap_of_pos plan userTargetAta amountIn now (wellFormed_positive plan formed) result

theorem int64_exists (value : Int) : (∃ result : Int64, result.toInt = value) ↔ -2 ^ 63 ≤ value ∧ value < 2 ^ 63 := by
  constructor
  · intro fits
    rcases fits with ⟨result, rfl⟩
    exact ⟨result.le_toInt, result.toInt_lt⟩
  · intro range
    exact ⟨Int64.ofInt value, Int64.toInt_ofInt_of_le range.1 (by omega)⟩

-- The next slot after `now`, and the way to it, are within the range of the clock.
def SellPlan.NextFits (plan : SellPlan Pubkey) (now : Int64) : Prop :=
  let late := now.toInt - plan.nextDueTs.toInt
  let jump := (late / plan.periodSecs.toInt + 1) * plan.periodSecs.toInt
  late < 2 ^ 63 ∧ jump < 2 ^ 63 ∧ plan.nextDueTs.toInt + jump < 2 ^ 63

theorem advance_exists (plan : SellPlan Pubkey) (now : Int64) (positive : 0 < plan.periodSecs.toInt)
    (due : plan.nextDueTs.toInt ≤ now.toInt) :
    (∃ advanced, plan.advance now = .ok advanced) ↔ plan.NextFits now := by
  have one : (1 : Int64).toInt = 1 := rfl
  have start := plan.nextDueTs.le_toInt
  let late := now.toInt - plan.nextDueTs.toInt
  let missed := late / plan.periodSecs.toInt
  have nonneg : 0 ≤ missed := Int.ediv_nonneg (by omega) positive.le
  have whole : missed * plan.periodSecs.toInt ≤ late := Int.ediv_mul_le _ positive.ne'
  have few : missed + 1 ≤ (missed + 1) * plan.periodSecs.toInt := by nlinarith
  have quotient : late.tdiv plan.periodSecs.toInt = missed := Int.tdiv_eq_ediv_of_nonneg (by omega)
  simp only [SellPlan.advance, bind_ok, okOr_ok, pure_ok, I64.checkedSub_some, I64.checkedDiv_some,
    I64.checkedAdd_some, I64.checkedMul_some, one]
  constructor
  · intro accepted
    rcases accepted with ⟨_, late', lateValue, missed', ⟨-, missedValue⟩, k, kValue, jump, jumpValue, next, nextValue, -⟩
    rw [lateValue, quotient] at missedValue
    rw [kValue, missedValue] at jumpValue
    have lateHigh := late'.toInt_lt
    have jumpHigh := jump.toInt_lt
    have nextHigh := next.toInt_lt
    rw [lateValue] at lateHigh
    rw [jumpValue] at jumpHigh
    rw [nextValue, jumpValue] at nextHigh
    exact ⟨lateHigh, jumpHigh, nextHigh⟩
  · intro fits
    rcases fits with ⟨lateHigh, jumpFits, nextHigh⟩
    have jumpHigh : (missed + 1) * plan.periodSecs.toInt < 2 ^ 63 := jumpFits
    obtain ⟨late', lateValue⟩ := (int64_exists late).mpr ⟨by omega, lateHigh⟩
    obtain ⟨missed', missedValue⟩ := (int64_exists missed).mpr ⟨by omega, by omega⟩
    obtain ⟨k, kValue⟩ := (int64_exists (missed + 1)).mpr ⟨by omega, by omega⟩
    obtain ⟨jump, jumpValue⟩ := (int64_exists ((missed + 1) * plan.periodSecs.toInt)).mpr ⟨by omega, jumpHigh⟩
    obtain ⟨next, nextValue⟩ := (int64_exists (plan.nextDueTs.toInt + jump.toInt)).mpr
      ⟨by omega, by rw [jumpValue]; exact nextHigh⟩
    exact ⟨_, late', lateValue, missed', ⟨positive.ne', by rw [lateValue, quotient, missedValue]⟩, k,
      by rw [kValue, missedValue], jump, by rw [jumpValue, kValue], next, nextValue, rfl⟩

theorem advance_ok (plan plan' : SellPlan Pubkey) (now : Int64) (due : plan.nextDueTs.toInt ≤ now.toInt)
    (advanced : plan.advance now = .ok plan') :
    plan' = { plan with nextDueTs := plan'.nextDueTs } ∧
      plan'.nextDueTs.toInt = plan.nextDueTs.toInt +
        ((now.toInt - plan.nextDueTs.toInt) / plan.periodSecs.toInt + 1) * plan.periodSecs.toInt := by
  simp only [SellPlan.advance, bind_ok, okOr_ok, pure_ok, I64.checkedSub_some, I64.checkedDiv_some,
    I64.checkedAdd_some, I64.checkedMul_some] at advanced
  obtain ⟨late, lateValue, missed, ⟨-, missedValue⟩, k, kValue, jump, jumpValue, next, nextValue, rfl⟩ := advanced
  have one : (1 : Int64).toInt = 1 := rfl
  rw [Int.tdiv_eq_ediv_of_nonneg (by omega), lateValue] at missedValue
  refine ⟨rfl, ?_⟩
  rw [nextValue, jumpValue, kValue, missedValue, one]

end RecurringBuy
