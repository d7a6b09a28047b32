import RecurringBuy.Shared.Simulation
import Mathlib.Algebra.BigOperators.Group.List.Basic
import Mathlib.Algebra.Order.Ring.Nat
import Mathlib.Tactic.Linarith
import Mathlib.Tactic.Ring

set_option autoImplicit false

namespace Runoff

open Simulation

structure Visit where
  now : Int
  allowance : Nat
deriving DecidableEq

structure State where
  holding : Nat
  due : Int

section Machine

variable (horizon period : Int)

def periodsLeft (now : Int) : Nat := (max ((horizon - now) / period) 1).toNat

def draw (state : State) (visit : Visit) : Nat :=
  if state.due ≤ horizon ∧ state.due ≤ visit.now then
    min visit.allowance (state.holding / periodsLeft horizon period visit.now)
  else 0

def step (state : State) (visit : Visit) : State :=
  if draw horizon period state visit = 0 then state
  else
    { holding := state.holding - draw horizon period state visit
      due := state.due + ((visit.now - state.due) / period + 1) * period }

def draws (state : State) (visits : List Visit) : List Nat :=
  collect (step horizon period) (fun state visit => [draw horizon period state visit]) state visits

section Holding

variable (state : State)

theorem draws_append (first later : List Visit) :
    draws horizon period state (first ++ later) =
      draws horizon period state first ++ draws horizon period (first.foldl (step horizon period) state) later :=
  collect_append _ _ state first later

theorem draw_le (visit : Visit) : draw horizon period state visit ≤ state.holding := by
  unfold draw
  split
  next => exact (Nat.min_le_right _ _).trans (Nat.div_le_self _ _)
  next => exact Nat.zero_le _

theorem draw_due (visit : Visit) (something : draw horizon period state visit ≠ 0) :
    state.due ≤ horizon ∧ state.due ≤ visit.now := by
  by_contra closed
  exact something (if_neg closed)

theorem step_conserved (visit : Visit) :
    (step horizon period state visit).holding + draw horizon period state visit = state.holding := by
  have within := draw_le horizon period state visit
  unfold step
  split
  next nothing => rw [nothing, Nat.add_zero]
  next => exact Nat.sub_add_cancel within

theorem run_conserved (visits : List Visit) :
    (visits.foldl (step horizon period) state).holding + (draws horizon period state visits).sum = state.holding := by
  induction visits generalizing state with
  | nil => rfl
  | cons visit rest ih =>
    have later := ih (step horizon period state visit)
    have here := step_conserved horizon period state visit
    simp only [draws] at later
    rw [List.foldl_cons, draws, collect, List.sum_append, List.sum_singleton]
    omega

end Holding

section Dates

variable (start : Int)

/-- The last date of the grid that is within the horizon. -/
def lastDate : Int := start + (horizon - start) / period * period

-- The next date is on the grid, and the holding is not kept beyond the last one.
structure Punctual (state : State) : Prop where
  grid : ∃ cell : Int, state.due = start + cell * period
  settled : state.due ≤ lastDate horizon period start ∨ state.holding = 0

variable (positive : 0 < period)

include positive

theorem lastDate_le : lastDate horizon period start ≤ horizon := by
  have whole := Int.ediv_mul_le (horizon - start) positive.ne'
  unfold lastDate
  omega

theorem date_le (cell bound : Int) (before : start + cell * period < bound + period)
    (grid : ∃ other, bound = start + other * period) : start + cell * period ≤ bound := by
  obtain ⟨other, rfl⟩ := grid
  have fewer : cell * period < (other + 1) * period := by linarith
  have cells := lt_of_mul_lt_mul_right fewer positive.le
  have scaled := mul_le_mul_of_nonneg_right (show cell ≤ other by omega) positive.le
  omega

theorem lastDate_ge (cell : Int) (within : start + cell * period ≤ horizon) :
    start + cell * period ≤ lastDate horizon period start := by
  have cells := (Int.le_ediv_iff_mul_le positive).mpr (show cell * period ≤ horizon - start by omega)
  have scaled := mul_le_mul_of_nonneg_right cells positive.le
  unfold lastDate
  omega

theorem periodsLeft_last (now : Int) (late : lastDate horizon period start ≤ now) : periodsLeft horizon period now = 1 := by
  have beyond := Int.lt_ediv_add_one_mul_self (horizon - start) positive
  rw [add_mul, one_mul] at beyond
  unfold lastDate at late
  have quotient : (horizon - now) / period < 1 := Int.ediv_lt_of_lt_mul positive (by omega)
  rw [periodsLeft, max_eq_right (by omega)]
  rfl

variable (state : State) (visit : Visit)

-- A visit from the last date on pays all there is.
theorem draw_last (punctual : Punctual horizon period start state) (late : lastDate horizon period start ≤ visit.now)
    (ample : state.holding ≤ visit.allowance) : draw horizon period state visit = state.holding := by
  rcases punctual.settled with early | empty
  next =>
    have within := lastDate_le horizon period start positive
    rw [draw, if_pos ⟨by omega, by omega⟩, periodsLeft_last horizon period start positive visit.now late, Nat.div_one,
      Nat.min_eq_right ample]
  next =>
    have small := draw_le horizon period state visit
    omega

theorem step_last (punctual : Punctual horizon period start state) (late : lastDate horizon period start ≤ visit.now)
    (ample : state.holding ≤ visit.allowance) : (step horizon period state visit).holding = 0 := by
  have conserved := step_conserved horizon period state visit
  rw [draw_last horizon period start positive state visit punctual late ample] at conserved
  omega

theorem step_punctual (punctual : Punctual horizon period start state)
    (ample : lastDate horizon period start ≤ visit.now → state.holding ≤ visit.allowance) :
    Punctual horizon period start (step horizon period state visit) := by
  obtain ⟨cell, grid⟩ := punctual.grid
  constructor
  case grid =>
    unfold step
    split
    next => exact ⟨cell, grid⟩
    next => exact ⟨cell + ((visit.now - state.due) / period + 1), by rw [grid]; ring⟩
  case settled =>
    by_cases late : lastDate horizon period start ≤ visit.now
    next => exact .inr (step_last horizon period start positive state visit punctual late (ample late))
    next =>
      unfold step
      split
      next => exact punctual.settled
      next =>
        -- The next date is at most one period after the visit, and the visit is before the last date.
        left
        have elapsed := Int.ediv_mul_le (visit.now - state.due) positive.ne'
        have moved : state.due + ((visit.now - state.due) / period + 1) * period =
            start + (cell + ((visit.now - state.due) / period + 1)) * period := by
          rw [grid]
          ring
        have soon : state.due + ((visit.now - state.due) / period + 1) * period ≤ visit.now + period := by linarith
        rw [moved] at soon ⊢
        exact date_le period start positive _ _ (by omega) ⟨_, rfl⟩

/-- However irregular the visits are, one of them from the last date on leaves nothing. -/
theorem run_spent (visits : List Visit) (opening : Nat) (punctual : Punctual horizon period start state)
    (opened : state.holding ≤ opening)
    (ample : ∀ visit ∈ visits, lastDate horizon period start ≤ visit.now → opening ≤ visit.allowance)
    (visited : state.holding = 0 ∨ ∃ visit ∈ visits, lastDate horizon period start ≤ visit.now) :
    (visits.foldl (step horizon period) state).holding = 0 := by
  induction visits generalizing state with
  | nil =>
    rcases visited with empty | ⟨_, member, -⟩
    next => exact empty
    next => cases member
  | cons visit rest ih =>
    have enough (late : lastDate horizon period start ≤ visit.now) : state.holding ≤ visit.allowance :=
      opened.trans (ample visit List.mem_cons_self late)
    have conserved := step_conserved horizon period state visit
    apply ih (step horizon period state visit) (step_punctual horizon period start positive state visit punctual enough)
    next => omega
    next => exact fun other member => ample other (List.mem_cons_of_mem _ member)
    next =>
      rcases visited with empty | ⟨other, member, late⟩
      next =>
        left
        omega
      next =>
        rcases List.mem_cons.mp member with rfl | later
        next => exact .inl (step_last horizon period start positive state _ punctual late (enough late))
        next => exact .inr ⟨other, later, late⟩

end Dates

end Machine

end Runoff
