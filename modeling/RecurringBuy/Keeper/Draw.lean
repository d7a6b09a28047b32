import RecurringBuy.Keeper.AmortizedDraw
import RecurringBuy.Shared.Binary64

set_option autoImplicit false

namespace RecurringBuy

open Checked

-- A finite JavaScript `number`.
abbrev Number := ℚ

namespace Number

-- `Number(n)`
def ofBigInt (n : Int) : Number := Binary64.round n

def sub (x y : Number) : Number := Binary64.round (x - y)

-- A quotient by zero is infinite or `NaN`. No plan has a zero period.
def div (x y : Number) : Option Number := if y = 0 then none else some (Binary64.round (x / y))

-- `Math.floor`
def floor (x : Number) : Number := ⌊x⌋

-- `BigInt(x)` throws on a fraction.
def toBigInt (x : Number) : Option Int := if x.den = 1 then some x.num else none

def Exact (n : Int) : Prop := ofBigInt n = n

instance (n : Int) : Decidable (Exact n) := inferInstanceAs (Decidable (ofBigInt n = n))

/-- `x` is all of `n` up to `2 ^ 53`, and beyond that the nearest multiple of a power of two. -/
structure Holds (n : Int) (x : Number) : Prop where
  value : x = ofBigInt n
  small : |n| ≤ 2 ^ 53 → x = n
  large : 2 ^ 53 ≤ |n| →
    ∃ (k : Int) (bits : Nat), x = k * 2 ^ (bits + 1) ∧ |x - n| ≤ 2 ^ bits ∧ 2 ^ (bits + 53) ≤ |n| ∧
      |n| < 2 ^ (bits + 54)

theorem ofBigInt_small (n : Int) (small : |n| ≤ 2 ^ 53) : Exact n := by
  obtain ⟨low, high⟩ := abs_le.mp small
  exact Binary64.round_int n low high

theorem ofBigInt_holds (n : Int) : Holds n (ofBigInt n) :=
  ⟨rfl, ofBigInt_small n, Binary64.round_large_int n⟩

end Number

def bigIntDiv (a b : Int) : Option Int := if b = 0 then none else some (a.tdiv b)

namespace Keeper

def amortizedDraw (walletBalance : Int) (endTs periodSecs nowTs : Number) (transientResidue : Int) :
    Option Int := do
  let remaining := max (Number.sub endTs nowTs) 0
  let quotient ← Number.div remaining periodSecs
  let periods ← Number.toBigInt (max (Number.floor quotient) 1)
  let cap ← bigIntDiv (walletBalance + transientResidue) periods
  pure (if cap > transientResidue then cap - transientResidue else 0)

end Keeper

namespace Daemon

-- `crankSell` does not clamp the difference.
def periods (endTs periodSecs now : Number) : Option Int := do
  let quotient ← Number.div (Number.sub endTs now) periodSecs
  Number.toBigInt (max (Number.floor quotient) 1)

def draw (pot : Int) (endTs periodSecs now : Number) (residue : Int) : Option Int := do
  let periods ← periods endTs periodSecs now
  let cap ← bigIntDiv (pot + residue) periods
  pure (if cap > residue then cap - residue else 0)

end Daemon

section Periods

theorem toBigInt_int (n : Int) : Number.toBigInt n = some n := by
  simp [Number.toBigInt]

theorem floor_clamped (x : Number) : Number.toBigInt (max (Number.floor x) 1) = some (max ⌊x⌋ 1) := by
  have whole : max (Number.floor x) 1 = ((max ⌊x⌋ 1 : Int) : Number) := by
    simp [Number.floor]
  rw [whole, toBigInt_int]

-- A quotient that is not positive counts for one period.
theorem floor_nonpos (x : Number) (nonpos : x ≤ 0) : max ⌊Binary64.round x⌋ 1 = 1 := by
  have rounded := Binary64.round_nonpos x nonpos
  have floor : ⌊Binary64.round x⌋ ≤ 0 := by
    have below := Int.floor_le_floor rounded
    simpa using below
  omega

theorem daemon_periods (endTs periodSecs now : Number) (positive : 0 < periodSecs) :
    Daemon.periods endTs periodSecs now =
      some (max ⌊Binary64.round (Number.sub endTs now / periodSecs)⌋ 1) := by
  simp only [Daemon.periods, Number.div, if_neg positive.ne', Option.bind_eq_bind, Option.bind_some, floor_clamped]

theorem keeper_draw (pot : Int) (endTs periodSecs now : Number) (residue : Int) (positive : 0 < periodSecs) :
    Keeper.amortizedDraw pot endTs periodSecs now residue = Daemon.draw pot endTs periodSecs now residue := by
  have same : max ⌊Binary64.round (max (Number.sub endTs now) 0 / periodSecs)⌋ 1 =
      max ⌊Binary64.round (Number.sub endTs now / periodSecs)⌋ 1 := by
    by_cases ahead : 0 ≤ Number.sub endTs now
    next => rw [max_eq_left ahead]
    next =>
      have past : Number.sub endTs now ≤ 0 := by linarith
      rw [max_eq_right past, zero_div, floor_nonpos 0 le_rfl,
        floor_nonpos _ (div_nonpos_of_nonpos_of_nonneg past positive.le)]
  simp only [Daemon.draw, daemon_periods _ _ _ positive, Keeper.amortizedDraw, Number.div, if_neg positive.ne',
    Option.bind_eq_bind, Option.bind_some, floor_clamped, same]

-- Up to `2 ^ 53` seconds before the end, neither rounding changes the number of periods.
theorem daemon_periods_near (endTs periodSecs now : Int) (positive : 0 < periodSecs)
    (near : endTs - now ≤ 2 ^ 53) :
    Daemon.periods endTs periodSecs now = some (max ((endTs - now) / periodSecs) 1) := by
  have divisor : (0 : Number) < periodSecs := by exact_mod_cast positive
  have difference : Number.sub endTs now = Binary64.round ((endTs - now : Int) : ℚ) := by
    push_cast
    rfl
  rw [daemon_periods _ _ _ divisor, difference, Option.some.injEq]
  by_cases ahead : 0 ≤ endTs - now
  next =>
    obtain ⟨left, leftValue⟩ := Int.eq_ofNat_of_zero_le ahead
    obtain ⟨period, periodValue⟩ := Int.eq_ofNat_of_zero_le positive.le
    have exactly := Binary64.floor_round_div left period (by omega) (by omega)
    rw [Binary64.round_int _ (by omega) near, leftValue, periodValue]
    push_cast at exactly ⊢
    rw [exactly]
  next =>
    have past : Binary64.round ((endTs - now : Int) : ℚ) ≤ 0 := by
      apply Binary64.round_nonpos
      exact_mod_cast (not_le.mp ahead).le
    have spent : (endTs - now) / periodSecs < 0 := Int.ediv_neg_of_neg_of_pos (by omega) positive
    rw [floor_nonpos _ (div_nonpos_of_nonpos_of_nonneg past divisor.le)]
    omega

theorem daemon_draw (pot residue : Nat) (endTs periodSecs now : Number) (periods : Int) (positive : 0 < periods)
    (left : Daemon.periods endTs periodSecs now = some periods) :
    Daemon.draw pot endTs periodSecs now residue = some (((pot + residue) / periods.toNat - residue : Nat) : Int) := by
  obtain ⟨count, value⟩ := Int.eq_ofNat_of_zero_le positive.le
  have divided : bigIntDiv ((pot : Int) + residue) periods = some (((pot + residue) / periods.toNat : Nat) : Int) := by
    rw [bigIntDiv, if_neg positive.ne', value, Int.tdiv_eq_ediv_of_nonneg (by omega)]
    simp
  simp only [Daemon.draw, left, Option.bind_eq_bind, Option.bind_some, divided, Option.pure_def, Option.some.injEq]
  split <;> omega

/-- On the times of `SafeNumber` this is the `amortizedDraw` of exact arithmetic. -/
theorem keeper_draw_safe (wallet residue : Nat) (endTs periodSecs now : SafeNumber) (positive : 0 < periodSecs.val) :
    Keeper.amortizedDraw wallet (endTs.val : Int) (periodSecs.val : Int) (now.val : Int) residue =
      (amortizedDraw wallet endTs periodSecs now residue).map Int.ofNat := by
  have small := endTs.property
  have period : (0 : Int) < periodSecs.val := by exact_mod_cast positive
  have left := daemon_periods_near endTs.val periodSecs.val now.val period (by omega)
  have clamped : max (max ((endTs.val : Int) - now.val) 0 / periodSecs.val) 1 =
      max (((endTs.val : Int) - now.val) / periodSecs.val) 1 := by
    rw [max_comm _ (0 : Int)]
    exact Rounding.max_ediv_clamped _ _ 0 period le_rfl
  rw [keeper_draw _ _ _ _ _ (by exact_mod_cast period), daemon_draw _ _ _ _ _ _ (by omega) left]
  simp only [amortizedDraw, if_neg positive.ne', clamped, Option.map_some, Option.some.injEq]
  split
  next => rfl
  next small =>
    rw [Nat.sub_eq_zero_of_le (not_lt.mp small)]
    rfl

end Periods

variable {Pubkey : Type}

/-- The draw of both keepers is the largest pull that the cap of `execute_sell` lets through, now or later. -/
structure LargestDraw (plan : SellPlan Pubkey) (now : Int64) (wallet residue : UInt64) (periods : Int64)
    (draw : Int) : Prop where
  left : plan.remainingPeriods now = .ok periods
  daemonPeriods : Daemon.periods (.ofBigInt plan.endTs.toInt) (.ofBigInt plan.periodSecs.toInt) (.ofBigInt now.toInt) =
    some periods.toInt
  asked : Keeper.amortizedDraw wallet.toNat (.ofBigInt plan.endTs.toInt) (.ofBigInt plan.periodSecs.toInt)
    (.ofBigInt now.toInt) residue.toNat = some draw
  daemonAsked : Daemon.draw wallet.toNat (.ofBigInt plan.endTs.toInt) (.ofBigInt plan.periodSecs.toInt)
    (.ofBigInt now.toInt) residue.toNat = some draw
  affordable : 0 ≤ draw ∧ draw ≤ wallet.toNat
  largest : ∀ (pull : Nat) (left amount : UInt64), left.toNat + pull = wallet.toNat →
    amount.toNat = residue.toNat + pull →
    (plan.checkCap left amount now = .ok () ↔
      residue.toNat ≤ (wallet.toNat + residue.toNat) / periods.toInt.toNat ∧ (pull : Int) ≤ draw)
  lasting : ∀ left amount : UInt64, plan.checkCap left amount now = .ok () →
    ∀ (later : Int64) (more : UInt64), now ≤ later → left ≤ more → plan.checkCap more amount later = .ok ()

-- Time only takes periods away.
theorem remainingPeriods_antitone (plan : SellPlan Pubkey) (positive : 0 < plan.periodSecs.toInt)
    (now later periods fewer : Int64) (after : now ≤ later) (left : plan.remainingPeriods now = .ok periods)
    (left' : plan.remainingPeriods later = .ok fewer) : 1 ≤ fewer.toInt ∧ fewer.toInt ≤ periods.toInt := by
  have value := (remainingPeriods_of_pos plan now periods positive).mp left
  have value' := (remainingPeriods_of_pos plan later fewer positive).mp left'
  rw [Int64.le_iff_toInt_le] at after
  have share : min (plan.endTs.toInt - later.toInt) (2 ^ 63 - 1) / plan.periodSecs.toInt ≤
      min (plan.endTs.toInt - now.toInt) (2 ^ 63 - 1) / plan.periodSecs.toInt :=
    Int.ediv_le_ediv positive (by omega)
  omega

theorem checkCap_lasting (plan : SellPlan Pubkey) (positive : 0 < plan.periodSecs.toInt) (now later : Int64)
    (left more amount : UInt64) (after : now ≤ later) (richer : left ≤ more)
    (accepted : plan.checkCap left amount now = .ok ()) : plan.checkCap more amount later = .ok () := by
  obtain ⟨periods, remaining, within⟩ := (checkCap_of_pos plan left amount now positive ()).mp accepted
  obtain ⟨fewer, remaining', -⟩ := remainingPeriods_exists plan later positive
  obtain ⟨least, most⟩ := remainingPeriods_antitone plan positive now later periods fewer after remaining remaining'
  rw [UInt64.le_iff_toNat_le] at richer
  apply (checkCap_of_pos plan more amount later positive ()).mpr
  refine ⟨fewer, remaining', ?_⟩
  calc amount.toNat ≤ (left.toNat + amount.toNat) / periods.toInt.toNat := within
    _ ≤ (more.toNat + amount.toNat) / periods.toInt.toNat := Nat.div_le_div_right (by omega)
    _ ≤ (more.toNat + amount.toNat) / fewer.toInt.toNat := Nat.div_le_div_left (by omega) (by omega)

-- `near`: the time left is a number on which the keeper's rounding is exact.
theorem draw_largest (plan : SellPlan Pubkey) (least : 60 ≤ plan.periodSecs.toInt) (now : Int64)
    (endExact : Number.Exact plan.endTs.toInt) (periodExact : Number.Exact plan.periodSecs.toInt)
    (nowExact : Number.Exact now.toInt) (near : plan.endTs.toInt - now.toInt ≤ 2 ^ 53) (wallet residue : UInt64) :
    ∃ periods draw, LargestDraw plan now wallet residue periods draw := by
  have positive : 0 < plan.periodSecs.toInt := by omega
  obtain ⟨periods, remaining, one⟩ := remainingPeriods_exists plan now positive
  have value := (remainingPeriods_of_pos plan now periods positive).mp remaining
  rw [min_eq_left (by omega)] at value
  have counted := daemon_periods_near plan.endTs.toInt plan.periodSecs.toInt now.toInt positive near
  rw [← value] at counted
  have asked := daemon_draw wallet.toNat residue.toNat _ _ _ _ (by omega) counted
  refine ⟨periods, ((wallet.toNat + residue.toNat) / periods.toInt.toNat - residue.toNat : Nat), ?_⟩
  constructor
  case left => exact remaining
  case daemonPeriods => rw [endExact, periodExact, nowExact, counted]
  case asked =>
    rw [endExact, periodExact, nowExact, keeper_draw _ _ _ _ _ (by exact_mod_cast positive)]
    exact asked
  case daemonAsked =>
    rw [endExact, periodExact, nowExact]
    exact asked
  case affordable =>
    have share : (wallet.toNat + residue.toNat) / periods.toInt.toNat ≤ wallet.toNat + residue.toNat :=
      Nat.div_le_self _ _
    omega
  case largest =>
    intro pull left amount rest pulled
    have pot : left.toNat + amount.toNat = wallet.toNat + residue.toNat := by omega
    rw [checkCap_of_pos plan left amount now positive, pot]
    constructor
    next =>
      intro accepted
      obtain ⟨periods', remaining', within⟩ := accepted
      obtain rfl : periods = periods' := Except.ok.inj (remaining.symm.trans remaining')
      omega
    next =>
      intro conditions
      exact ⟨periods, remaining, by omega⟩
  case lasting =>
    intro left amount accepted later more after richer
    exact checkCap_lasting plan positive now later left more amount after richer accepted

section Sample

def horizon (endTs : Int64) : SellPlan Address := { Terms.dollar.plan with endTs := endTs }

theorem draw_largest_hour : ∃ periods, LargestDraw (horizon 3600) 0 1000 10 periods 6 := by
  obtain ⟨periods, draw, largest⟩ := draw_largest (horizon 3600) (by decide) 0 (by decide +kernel) (by decide +kernel)
    (by decide +kernel) (by decide) 1000 10
  have asked : Keeper.amortizedDraw 1000 (.ofBigInt 3600) (.ofBigInt 60) (.ofBigInt 0) 10 = some 6 := by decide +kernel
  obtain rfl : draw = 6 := Option.some.inj (largest.asked.symm.trans asked)
  exact ⟨periods, largest⟩

-- One unit is a period's share, and the keeper asks for none.
theorem not_largest (plan : SellPlan Address) (now : Int64)
    (asked : Keeper.amortizedDraw 150119987579016 (.ofBigInt plan.endTs.toInt) (.ofBigInt plan.periodSecs.toInt)
      (.ofBigInt now.toInt) 0 = some 0)
    (accepted : plan.checkCap 150119987579015 1 now = .ok ()) :
    ¬ ∃ periods draw, LargestDraw plan now 150119987579016 0 periods draw := by
  intro exists'
  obtain ⟨periods, draw, largest⟩ := exists'
  obtain rfl : draw = 0 := Option.some.inj (largest.asked.symm.trans asked)
  have most := ((largest.largest 1 150119987579015 1 (by decide) (by decide)).mp accepted).2
  exact absurd most (by decide)

/-- More than `2 ^ 53` seconds before the end, a difference one second short of a full period is rounded up to it,
and the keeper counts a period too many. -/
theorem draw_rounded_away :
    (Number.Exact (2 ^ 53 - 1) ∧ Number.Exact 60 ∧ Number.Exact (-28) ∧
      ¬ ∃ periods draw, LargestDraw (horizon 9007199254740991) (-28) 150119987579016 0 periods draw) ∧
    Number.Exact 9007199254741020 ∧ Number.Exact 1 ∧
      ¬ ∃ periods draw, LargestDraw (horizon 9007199254741020) 1 150119987579016 0 periods draw := by
  refine ⟨⟨by decide +kernel, by decide +kernel, by decide +kernel, ?_⟩, by decide +kernel, by decide +kernel, ?_⟩
  next => exact not_largest _ _ (by decide +kernel) (by decide)
  next => exact not_largest _ _ (by decide +kernel) (by decide)

end Sample

end RecurringBuy
