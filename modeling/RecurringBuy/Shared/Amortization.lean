import Mathlib.Algebra.BigOperators.Group.List.Basic
import Mathlib.Tactic.Linarith
import Mathlib.Tactic.Ring

set_option autoImplicit false

namespace Amortization

-- A draw of at most `1 / left` of the holding leaves `(left - 1) / whole` of `opening` where `left / whole` of it
-- was there.
theorem drain_step (opening holding remaining left whole draw : Int) (opened : 0 ≤ opening) (rest : 0 ≤ remaining)
    (nonneg : 0 ≤ whole) (share : 0 < left → draw * left ≤ holding) (kept : holding - draw ≤ remaining)
    (before : opening * left ≤ holding * whole) : opening * (left - 1) ≤ remaining * whole := by
  by_cases positive : 0 < left
  case neg =>
    have nothing : opening * (left - 1) ≤ 0 := Int.mul_nonpos_of_nonneg_of_nonpos opened (by omega)
    exact nothing.trans (Int.mul_nonneg rest nonneg)
  have scaled : (left - 1) * holding ≤ left * remaining := by
    have part := share positive
    have whole' := Int.mul_le_mul_of_nonneg_left kept positive.le
    linarith
  apply Int.le_of_mul_le_mul_left _ positive
  calc left * (opening * (left - 1)) = (left - 1) * (opening * left) := by ring
    _ ≤ (left - 1) * (holding * whole) := Int.mul_le_mul_of_nonneg_left before (by omega)
    _ = (left - 1) * holding * whole := by ring
    _ ≤ left * remaining * whole := Int.mul_le_mul_of_nonneg_right scaled nonneg
    _ = left * (remaining * whole) := by ring

end Amortization
