import RecurringBuy.Program.Deployment
import RecurringBuy.Program.Schedule
import RecurringBuy.Shared.Amortization

set_option autoImplicit false

namespace RecurringBuy

open Checked Amortization

/-- A JavaScript `number` that holds a time or a duration: a natural number below `2 ^ 53`, on which
subtraction and `Math.floor` of a quotient are exact. -/
abbrev SafeNumber := { value : Nat // value < 2 ^ 53 }

-- `none` where `BigInt` throws, on a zero period.
def amortizedDraw (walletBalance : Nat) (endTs periodSecs nowTs : SafeNumber) (transientResidue : Nat) :
    Option Nat :=
  if periodSecs.val = 0 then none
  else
    let remaining := max ((endTs.val : Int) - nowTs.val) 0
    let periods := (max (remaining / periodSecs.val) 1).toNat
    let cap := (walletBalance + transientResidue) / periods
    some (if cap > transientResidue then cap - transientResidue else 0)

-- A pull of the native rail at `now`, which leaves `left` in the wallet.
structure Pull where
  now : SafeNumber
  draw : UInt64
  left : UInt64

def SafeNumber.clock (now : SafeNumber) : Int64 := Int64.ofInt now.val

def pulls (endTs periodSecs : SafeNumber) : UInt64 → List SafeNumber → Option (List Pull)
  | _, [] => some []
  | wallet, now :: rest => do
      let draw ← (amortizedDraw wallet.toNat endTs periodSecs now 0).bind u64
      let left ← U64.checkedSub wallet draw
      let later ← pulls endTs periodSecs left rest
      pure (⟨now, draw, left⟩ :: later)

variable {Pubkey : Type}

end RecurringBuy
