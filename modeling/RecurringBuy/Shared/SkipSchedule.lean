import Mathlib.Data.List.Basic
import Mathlib.Tactic.Linarith
import Mathlib.Tactic.Ring

set_option autoImplicit false

namespace SkipSchedule

def next : List Nat → Nat
  | [] => 0
  | cell :: _ => cell + 1

inductive Served (last : Nat) : List Nat → Prop where
  | start : Served last []
  | serve (cell : Nat) (history : List Nat) (earlier : Served last history)
      (within : next history ≤ last) (due : next history ≤ cell) : Served last (cell :: history)

theorem served_lt_next (last : Nat) (history : List Nat) (served : Served last history) :
    ∀ cell ∈ history, cell < next history := by
  induction served with
  | start => exact fun _ member => absurd member List.not_mem_nil
  | serve newest history _ _ due ih =>
    intro cell member
    rcases List.mem_cons.mp member with rfl | older
    next => exact Nat.lt_succ_self _
    next => exact (ih cell older).trans_le (due.trans (Nat.le_succ _))

theorem next_le_iff (last bound : Nat) (history : List Nat) (served : Served last history) :
    next history ≤ bound ↔ ∀ cell ∈ history, cell < bound := by
  constructor
  next =>
    intro low cell member
    exact (served_lt_next last history served cell member).trans_le low
  next =>
    intro all
    cases history with
    | nil => exact Nat.zero_le _
    | cons newest older => exact all newest List.mem_cons_self

theorem open_iff (last cell : Nat) (history : List Nat) (served : Served last history) :
    next history ≤ last ∧ next history ≤ cell ↔ ∀ earlier ∈ history, earlier < min cell last := by
  rw [← next_le_iff last _ history served]
  omega

theorem served_descending (last : Nat) (history : List Nat) (served : Served last history) :
    history.Pairwise (· > ·) := by
  induction served with
  | start => exact List.Pairwise.nil
  | serve newest history earlier _ due ih =>
    apply List.Pairwise.cons _ ih
    intro cell member
    exact (served_lt_next last history earlier cell member).trans_le due

-- Only the newest cell may lie at `last` or beyond it.
theorem older_lt_last (last newest : Nat) (history : List Nat) (served : Served last (newest :: history)) :
    ∀ cell ∈ history, cell < last := by
  cases served with
  | serve _ _ earlier within =>
    intro cell member
    exact (served_lt_next last history earlier cell member).trans_le within

theorem descending_length (bound : Nat) (history : List Nat) (descending : history.Pairwise (· > ·))
    (small : ∀ cell ∈ history, cell < bound) : history.length ≤ bound := by
  induction history generalizing bound with
  | nil => exact Nat.zero_le _
  | cons newest older ih =>
    have counted := ih newest descending.of_cons fun _ => List.rel_of_pairwise_cons descending
    exact counted.trans_lt (small newest List.mem_cons_self)

theorem served_length (last : Nat) (history : List Nat) (served : Served last history) :
    history.length ≤ last + 1 := by
  cases history with
  | nil => exact Nat.zero_le _
  | cons newest older =>
    have descending := (served_descending last _ served).of_cons
    have counted := descending_length last older descending (older_lt_last last newest older served)
    exact Nat.succ_le_succ counted

section Grid

variable (start period : Int)

/-- The cell of a point in time at or after `start`. -/
def cellOf (time : Int) : Nat := ((time - start) / period).toNat

theorem cellOf_iff (positive : 0 < period) (time : Int) (cell : Nat) (after : start ≤ time) :
    cellOf start period time = cell ↔ start + cell * period ≤ time ∧ time < start + (cell + 1) * period := by
  have nonneg : 0 ≤ (time - start) / period := Int.ediv_nonneg (by omega) positive.le
  have quotient : cellOf start period time = cell ↔ (time - start) / period = cell := by
    unfold cellOf
    omega
  rw [quotient]
  constructor
  next =>
    intro same
    have low := Int.ediv_mul_le (time - start) positive.ne'
    have high := Int.lt_ediv_add_one_mul_self (time - start) positive
    rw [same] at low high
    constructor <;> linarith
  next =>
    intro inside
    rcases inside with ⟨low, high⟩
    apply le_antisymm
    next =>
      apply Int.lt_add_one_iff.mp
      apply Int.ediv_lt_of_lt_mul positive
      linarith
    next =>
      apply (Int.le_ediv_iff_mul_le positive).mpr
      linarith

theorem le_cellOf_iff (positive : 0 < period) (time : Int) (cell : Nat) (after : start ≤ time) :
    cell ≤ cellOf start period time ↔ start + cell * period ≤ time := by
  have nonneg : 0 ≤ (time - start) / period := Int.ediv_nonneg (by omega) positive.le
  have quotient : cell ≤ cellOf start period time ↔ (cell : Int) ≤ (time - start) / period := by
    unfold cellOf
    omega
  rw [quotient, Int.le_ediv_iff_mul_le positive]
  constructor <;> intro <;> linarith

-- From a grid point, the jump past `time` lands on the first grid point after it.
theorem jump_past (positive : 0 < period) (time : Int) (due : Nat) (passed : start + due * period ≤ time) :
    start + due * period + ((time - (start + due * period)) / period + 1) * period =
      start + ((cellOf start period time + 1 : Nat) : Int) * period := by
  have shift : (time - (start + due * period)) / period = (time - start) / period - due := by
    rw [show time - (start + due * period) = (time - start) + -(due : Int) * period by ring,
      Int.add_mul_ediv_right _ _ positive.ne']
    ring
  have after : start ≤ time := by
    have := Int.mul_nonneg (Int.natCast_nonneg due) positive.le
    omega
  have nonneg : 0 ≤ (time - start) / period := Int.ediv_nonneg (by omega) positive.le
  have cell : ((cellOf start period time : Nat) : Int) = (time - start) / period := by
    unfold cellOf
    omega
  rw [shift, Nat.cast_add, cell]
  push_cast
  ring

end Grid

end SkipSchedule
