import Mathlib.Data.Int.Basic
import Mathlib.Tactic.Linarith

set_option autoImplicit false

namespace Checked

section Fallible

variable {E A B : Type}

def require (condition : Bool) (error : E) : Except E Unit :=
  if condition then .ok () else .error error

def okOr (value : Option A) (error : E) : Except E A :=
  match value with
  | some result => .ok result
  | none => .error error

theorem bind_ok (value : Except E A) (next : A → Except E B) (result : B) :
    value >>= next = .ok result ↔ ∃ input, value = .ok input ∧ next input = .ok result := by
  cases value <;> simp [bind, Except.bind]

theorem pure_ok (value result : A) : (pure value : Except E A) = .ok result ↔ value = result := by
  simp [pure, Except.pure]

theorem map_ok (value : Except E A) (f : A → B) (result : B) :
    value.map f = .ok result ↔ ∃ input, value = .ok input ∧ f input = result := by
  cases value <;> simp [Except.map]

theorem map_error (value : Except E A) (f : A → B) (error : E) : value.map f = .error error ↔ value = .error error := by
  cases value <;> simp [Except.map]

@[simp] theorem require_ok (condition : Bool) (error : E) (result : Unit) :
    require condition error = .ok result ↔ condition = true := by
  cases condition <;> simp [require]

theorem require_congr (condition : Bool) (error : E) (next next' : Unit → Except E B)
    (same : condition = true → next () = next' ()) :
    require condition error >>= next = require condition error >>= next' := by
  cases condition with
  | false => rfl
  | true => exact same rfl

@[simp] theorem okOr_ok (value : Option A) (error : E) (result : A) :
    okOr value error = .ok result ↔ value = some result := by
  cases value <;> simp [okOr]

end Fallible

section Failures

variable {E A B : Type} (errors : E → Prop)

/-- Whatever error the step ends in is one of `errors`. -/
def FailsOnly (result : Except E A) : Prop := ∀ error, result = .error error → errors error

theorem failsOnly_ok (result : Except E A) (value : A) (accepted : result = .ok value) :
    FailsOnly errors result := by
  intro error failed
  cases accepted.symm.trans failed

theorem failsOnly_bind (value : Except E A) (next : A → Except E B) (first : FailsOnly errors value)
    (later : ∀ input, value = .ok input → FailsOnly errors (next input)) :
    FailsOnly errors (value >>= next) := by
  cases value with
  | error error =>
    intro error' failed
    cases failed
    exact first error rfl
  | ok input => exact later input rfl

theorem failsOnly_require (condition : Bool) (error : E) (failed : condition = false → errors error) :
    FailsOnly errors (require condition error) := by
  cases condition with
  | true => exact failsOnly_ok errors _ () rfl
  | false =>
    intro error' same
    cases same
    exact failed rfl

theorem failsOnly_okOr (value : Option A) (error : E) (failed : value = none → errors error) :
    FailsOnly errors (okOr value error) := by
  cases value with
  | some result => exact failsOnly_ok errors _ result rfl
  | none =>
    intro error' same
    cases same
    exact failed rfl

theorem failsOnly_pure (value : A) : FailsOnly errors (pure value : Except E A) :=
  failsOnly_ok errors _ value rfl

theorem failsOnly_mono (errors' : E → Prop) (result : Except E A) (fails : FailsOnly errors' result)
    (among : ∀ error, errors' error → errors error) : FailsOnly errors result :=
  fun error failed => among error (fails error failed)

end Failures

abbrev U128 := Nat

def u64 (value : Nat) : Option UInt64 :=
  if value < 2 ^ 64 then some (UInt64.ofNat value) else none

def u128 (value : Nat) : Option U128 :=
  if value < 2 ^ 128 then some value else none

def i64 (value : Int) : Option Int64 :=
  if -2 ^ 63 ≤ value ∧ value < 2 ^ 63 then some (Int64.ofInt value) else none

theorem u64_some (value : Nat) (result : UInt64) : u64 value = some result ↔ result.toNat = value := by
  unfold u64
  constructor
  · intro h
    split at h
    next range =>
      cases h
      rw [UInt64.toNat_ofNat', Nat.mod_eq_of_lt range]
    next => cases h
  · rintro rfl
    simp only [result.toNat_lt, if_true, UInt64.ofNat_toNat]

theorem u128_some (value result : Nat) :
    u128 value = some result ↔ value < 2 ^ 128 ∧ result = value := by
  simp [u128, eq_comm]

theorem i64_some (value : Int) (result : Int64) : i64 value = some result ↔ result.toInt = value := by
  unfold i64
  constructor
  · intro h
    split at h
    next range =>
      cases h
      exact Int64.toInt_ofInt_of_le range.1 range.2
    next => cases h
  · rintro rfl
    simp only [Int64.le_toInt, Int64.toInt_lt, and_self, if_true, Int64.ofInt_toInt]

theorem i64_none (value : Int) : i64 value = none ↔ value < -2 ^ 63 ∨ 2 ^ 63 ≤ value := by
  simp only [i64, ite_eq_right_iff, reduceCtorEq, imp_false, not_and_or, not_le, not_lt]

-- `as u64`: the low 64 bits.
def U128.asU64 (value : U128) : UInt64 := UInt64.ofNat value

theorem U128.asU64_toNat (value : Nat) : (U128.asU64 value).toNat = value % 2 ^ 64 := by
  simp [U128.asU64]

def U128.checkedAdd (left right : U128) : Option U128 := u128 (left + right)

def U128.checkedMul (left right : U128) : Option U128 := u128 (left * right)

def U128.checkedPow (base : U128) (exponent : Nat) : Option U128 := u128 (base ^ exponent)

def U128.checkedDiv (left right : U128) : Option U128 :=
  if right = 0 then none else some (left / right)

theorem U128.checkedAdd_some (left right result : Nat) :
    U128.checkedAdd left right = some result ↔ left + right < 2 ^ 128 ∧ result = left + right :=
  u128_some _ _

theorem U128.checkedMul_some (left right result : Nat) :
    U128.checkedMul left right = some result ↔ left * right < 2 ^ 128 ∧ result = left * right :=
  u128_some _ _

theorem U128.checkedPow_some (base exponent result : Nat) :
    U128.checkedPow base exponent = some result ↔ base ^ exponent < 2 ^ 128 ∧ result = base ^ exponent :=
  u128_some _ _

theorem U128.checkedDiv_some (left right result : Nat) :
    U128.checkedDiv left right = some result ↔ right ≠ 0 ∧ result = left / right := by
  by_cases zero : right = 0 <;> simp [U128.checkedDiv, zero, eq_comm]

def U64.checkedAdd (left right : UInt64) : Option UInt64 := u64 (left.toNat + right.toNat)

def U64.checkedSub (left right : UInt64) : Option UInt64 :=
  if right ≤ left then u64 (left.toNat - right.toNat) else none

theorem U64.checkedAdd_some (left right result : UInt64) :
    U64.checkedAdd left right = some result ↔ result.toNat = left.toNat + right.toNat :=
  u64_some _ _

theorem U64.checkedSub_some (left right result : UInt64) :
    U64.checkedSub left right = some result ↔ result.toNat + right.toNat = left.toNat := by
  unfold U64.checkedSub
  split
  next le =>
    rw [UInt64.le_iff_toNat_le] at le
    rw [u64_some]
    omega
  next gt =>
    rw [UInt64.le_iff_toNat_le] at gt
    simp only [reduceCtorEq, false_iff]
    omega

theorem U64.checkedSub_none (left right : UInt64) :
    U64.checkedSub left right = none ↔ left.toNat < right.toNat := by
  rw [← not_iff_not, ← ne_eq, Option.ne_none_iff_exists', Nat.not_lt]
  simp only [U64.checkedSub_some]
  constructor
  next =>
    intro present
    obtain ⟨result, sum⟩ := present
    omega
  next =>
    intro within
    have small := left.toNat_lt
    refine ⟨UInt64.ofNat (left.toNat - right.toNat), ?_⟩
    rw [UInt64.toNat_ofNat', Nat.mod_eq_of_lt (by omega)]
    omega

def I64.checkedAdd (left right : Int64) : Option Int64 := i64 (left.toInt + right.toInt)

def I64.checkedSub (left right : Int64) : Option Int64 := i64 (left.toInt - right.toInt)

def I64.checkedMul (left right : Int64) : Option Int64 := i64 (left.toInt * right.toInt)

-- Rust division truncates towards zero; the one overflow is `i64::MIN / -1`.
def I64.checkedDiv (left right : Int64) : Option Int64 :=
  if right.toInt = 0 then none else i64 (left.toInt.tdiv right.toInt)

theorem I64.checkedAdd_some (left right result : Int64) :
    I64.checkedAdd left right = some result ↔ result.toInt = left.toInt + right.toInt :=
  i64_some _ _

theorem I64.checkedSub_some (left right result : Int64) :
    I64.checkedSub left right = some result ↔ result.toInt = left.toInt - right.toInt :=
  i64_some _ _

theorem I64.checkedMul_some (left right result : Int64) :
    I64.checkedMul left right = some result ↔ result.toInt = left.toInt * right.toInt :=
  i64_some _ _

theorem I64.checkedDiv_some (left right result : Int64) :
    I64.checkedDiv left right = some result ↔
      right.toInt ≠ 0 ∧ result.toInt = left.toInt.tdiv right.toInt := by
  by_cases zero : right.toInt = 0 <;> simp [I64.checkedDiv, zero, i64_some]

def I64.saturate (value : Int) : Int64 := Int64.ofInt (max (-2 ^ 63) (min value (2 ^ 63 - 1)))

def I64.saturatingAdd (left right : Int64) : Int64 := I64.saturate (left.toInt + right.toInt)

def I64.saturatingSub (left right : Int64) : Int64 := I64.saturate (left.toInt - right.toInt)

theorem I64.saturate_toInt (value : Int) :
    (I64.saturate value).toInt = max (-2 ^ 63) (min value (2 ^ 63 - 1)) := by
  unfold I64.saturate
  rw [Int64.toInt_ofInt_of_le] <;> omega

theorem I64.saturatingAdd_toInt (left right : Int64) :
    (I64.saturatingAdd left right).toInt = max (-2 ^ 63) (min (left.toInt + right.toInt) (2 ^ 63 - 1)) :=
  I64.saturate_toInt _

theorem I64.saturatingSub_toInt (left right : Int64) :
    (I64.saturatingSub left right).toInt = max (-2 ^ 63) (min (left.toInt - right.toInt) (2 ^ 63 - 1)) :=
  I64.saturate_toInt _

end Checked
