import Mathlib.Algebra.BigOperators.Group.List.Basic
import Mathlib.Algebra.Order.Ring.Nat

set_option autoImplicit false

namespace PackedRecord

variable {α : Type}

-- `width` items from `start`, or `none` where they are not all there.
def slice (data : List α) (start width : Nat) : Option (List α) :=
  if start + width ≤ data.length then some ((data.drop start).take width) else none

theorem slice_append (front data : List α) (start width : Nat) :
    slice (front ++ data) (front.length + start) width = slice data start width := by
  have bound : front.length + start + width ≤ (front ++ data).length ↔ start + width ≤ data.length := by
    rw [List.length_append]
    omega
  simp only [slice, bound, List.drop_length_add_append]

theorem slice_head (field rest : List α) : slice (field ++ rest) 0 field.length = some field := by
  simp [slice]

-- What follows does not matter.
theorem slice_prefix (data rest : List α) (start width : Nat) (field : List α)
    (found : slice data start width = some field) : slice (data ++ rest) start width = some field := by
  unfold slice at found ⊢
  split at found
  next inside =>
    rw [if_pos (by rw [List.length_append]; omega), List.drop_append_of_le_length (by omega),
      List.take_append_of_le_length (by rw [List.length_drop]; omega)]
    exact found
  next => cases found

theorem slice_flatten (fields : List (List α)) (index : Nat) (field : List α) (found : fields[index]? = some field) :
    slice fields.flatten ((fields.map List.length).take index).sum field.length = some field := by
  induction fields generalizing index with
  | nil => simp at found
  | cons first rest ih =>
    cases index with
    | zero =>
      cases found
      exact slice_head field rest.flatten
    | succ index =>
      rw [List.flatten_cons, List.map_cons, List.take_succ_cons, List.sum_cons, slice_append]
      exact ih index found

theorem slice_field (fields : List (List α)) (widths : List Nat) (sized : fields.map List.length = widths)
    (index : Nat) (field : List α) (found : fields[index]? = some field) (start width : Nat)
    (before : (widths.take index).sum = start) (exactly : widths[index]? = some width) :
    slice fields.flatten start width = some field := by
  have length : field.length = width := by
    rw [← sized, List.getElem?_map, found] at exactly
    exact Option.some.inj exactly
  rw [← before, ← length, ← sized]
  exact slice_flatten fields index field found

end PackedRecord
