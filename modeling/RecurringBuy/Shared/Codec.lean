import RecurringBuy.Shared.LittleEndian
import Mathlib.Logic.Equiv.Defs

set_option autoImplicit false

structure Codec (α : Type) where
  encode : α → List UInt8
  decode : List UInt8 → Option (α × List UInt8)
  exact : ∀ data value rest, decode data = some (value, rest) ↔ data = encode value ++ rest

namespace Codec

variable {α β : Type}

theorem decode_encode (codec : Codec α) (value : α) (rest : List UInt8) :
    codec.decode (codec.encode value ++ rest) = some (value, rest) := (codec.exact _ _ _).mpr rfl

theorem encode_inj (codec : Codec α) (value value' : α) (rest rest' : List UInt8)
    (same : codec.encode value ++ rest = codec.encode value' ++ rest') : value = value' ∧ rest = rest' := by
  have first := codec.decode_encode value rest
  rw [same, codec.decode_encode] at first
  cases first
  exact ⟨rfl, rfl⟩

def byte : Codec UInt8 where
  encode value := [value]
  decode
    | [] => none
    | value :: rest => some (value, rest)
  exact data value rest := by cases data <;> simp

def pair (first : Codec α) (second : Codec β) : Codec (α × β) where
  encode value := first.encode value.1 ++ second.encode value.2
  decode data := do
    let (a, rest) ← first.decode data
    let (b, rest) ← second.decode rest
    pure ((a, b), rest)
  exact data value rest := by
    obtain ⟨a, b⟩ := value
    simp only [Option.bind_eq_bind, Option.bind_eq_some_iff, Option.pure_def, Option.some.injEq, Prod.mk.injEq,
      Prod.exists, first.exact, second.exact, List.append_assoc]
    constructor
    next =>
      rintro ⟨a', middle, rfl, b', rest', rfl, ⟨rfl, rfl⟩, rfl⟩
      rfl
    next =>
      rintro rfl
      exact ⟨a, _, rfl, b, rest, rfl, ⟨rfl, rfl⟩, rfl⟩

-- Only what is `print`ed is accepted.
def narrow (codec : Codec α) (parse : α → Option β) (print : β → α)
    (exact : ∀ a b, parse a = some b ↔ a = print b) : Codec β where
  encode value := codec.encode (print value)
  decode data := do
    let (a, rest) ← codec.decode data
    let b ← parse a
    pure (b, rest)
  exact data value rest := by
    simp only [Option.bind_eq_bind, Option.bind_eq_some_iff, Option.pure_def, Option.some.injEq, Prod.mk.injEq,
      Prod.exists, codec.exact, exact]
    constructor
    next =>
      rintro ⟨a, middle, rfl, b, rfl, rfl, rfl⟩
      rfl
    next =>
      rintro rfl
      exact ⟨_, _, rfl, value, rfl, rfl, rfl⟩

def transport (codec : Codec α) (equiv : α ≃ β) : Codec β :=
  codec.narrow (fun a => some (equiv a)) equiv.symm fun a b => by
    rw [Option.some.injEq, Equiv.eq_symm_apply]

def tagged (tag : List UInt8) (codec : Codec α) : Codec α where
  encode value := tag ++ codec.encode value
  decode data := if data.take tag.length = tag then codec.decode (data.drop tag.length) else none
  exact data value rest := by
    rw [List.append_assoc]
    constructor
    next =>
      intro decoded
      split at decoded
      next here =>
        rw [codec.exact] at decoded
        conv => lhs; rw [← List.take_append_drop tag.length data, here, decoded]
      next => cases decoded
    next =>
      rintro rfl
      rw [List.take_left, if_pos rfl, List.drop_left]
      exact codec.decode_encode value rest

section Integers

def word (width : Nat) : Codec (Fin (256 ^ width)) where
  encode value := LittleEndian.encode width value
  decode data :=
    if enough : width ≤ data.length then
      some (⟨LittleEndian.value (data.take width), by
        have less := LittleEndian.value_lt (data.take width)
        rwa [List.length_take_of_le enough] at less⟩, data.drop width)
    else none
  exact data value rest := by
    constructor
    next =>
      intro decoded
      split at decoded
      next enough =>
        simp only [Option.some.injEq, Prod.mk.injEq] at decoded
        obtain ⟨rfl, rfl⟩ := decoded
        have whole := LittleEndian.encode_value (data.take width)
        rw [List.length_take_of_le enough] at whole
        rw [whole, List.take_append_drop]
      next => cases decoded
    next =>
      rintro rfl
      have length := LittleEndian.length_encode width value
      rw [dif_pos (by rw [List.length_append, length]; omega)]
      simp only [List.take_left' length, List.drop_left' length, LittleEndian.value_encode, Nat.mod_eq_of_lt value.isLt,
        Fin.eta]

def u16 : Codec UInt16 := (word 2).transport
  { toFun := fun n => UInt16.ofNat n
    invFun := fun value => ⟨value.toNat, value.toNat_lt⟩
    left_inv := fun n => Fin.ext (UInt16.toNat_ofNat_of_lt' n.isLt)
    right_inv := fun _ => UInt16.ofNat_toNat }

def u64 : Codec UInt64 := (word 8).transport
  { toFun := fun n => UInt64.ofNat n
    invFun := fun value => ⟨value.toNat, value.toNat_lt⟩
    left_inv := fun n => Fin.ext (UInt64.toNat_ofNat_of_lt' n.isLt)
    right_inv := fun _ => UInt64.ofNat_toNat }

def i64 : Codec Int64 := u64.transport
  { toFun := UInt64.toInt64
    invFun := Int64.toUInt64
    left_inv := fun _ => rfl
    right_inv := fun _ => rfl }

theorem encode_i64 (value : Int64) : i64.encode value = LittleEndian.encodeInt 8 value.toInt := by
  have stored : ((256 ^ 8 : Nat) : Int) = (2 ^ 64 : Nat) := by norm_num
  have residue : (value.toInt % (256 ^ 8 : Nat)).toNat = value.toUInt64.toNat := by
    rw [stored, Int64.toInt, BitVec.toInt_eq_toNat_bmod, Int.bmod_emod]
    have small := value.toUInt64.toNat_lt
    have same : value.toBitVec.toNat = value.toUInt64.toNat := rfl
    omega
  rw [LittleEndian.encodeInt, residue]
  rfl

def bool : Codec Bool := byte.narrow
  (fun value => if value = 0 then some false else if value = 1 then some true else none)
  (fun value => if value then 1 else 0)
  (fun value flag => by
    by_cases zero : value = 0
    next => cases flag <;> simp [zero]
    next => cases flag <;> simp [zero])

end Integers

section Vectors

def list (codec : Codec α) : Nat → List UInt8 → Option (List α × List UInt8)
  | 0, data => some ([], data)
  | count + 1, data => do
    let (value, rest) ← codec.decode data
    let (values, rest) ← codec.list count rest
    pure (value :: values, rest)

theorem list_exact (codec : Codec α) (count : Nat) (data : List UInt8) (values : List α) (rest : List UInt8) :
    codec.list count data = some (values, rest) ↔
      values.length = count ∧ data = values.flatMap codec.encode ++ rest := by
  induction count generalizing data values rest with
  | zero =>
    rw [list, Option.some.injEq, Prod.mk.injEq, List.length_eq_zero_iff]
    constructor
    next =>
      rintro ⟨rfl, rfl⟩
      exact ⟨rfl, rfl⟩
    next =>
      rintro ⟨rfl, rfl⟩
      exact ⟨rfl, rfl⟩
  | succ count ih =>
    simp only [list, Option.bind_eq_bind, Option.bind_eq_some_iff, Option.pure_def, Option.some.injEq, Prod.mk.injEq,
      Prod.exists, codec.exact, ih]
    constructor
    next =>
      rintro ⟨value, middle, rfl, values', rest', ⟨rfl, rfl⟩, rfl, rfl⟩
      exact ⟨rfl, by rw [List.flatMap_cons, List.append_assoc]⟩
    next =>
      rintro ⟨length, rfl⟩
      cases values with
      | nil => cases length
      | cons value values =>
        exact ⟨value, _, by rw [List.flatMap_cons, List.append_assoc], values, rest,
          ⟨Nat.succ.inj length, rfl⟩, rfl, rfl⟩

def vector (codec : Codec α) (count : Nat) : Codec (Vector α count) where
  encode values := values.toList.flatMap codec.encode
  decode data :=
    match found : codec.list count data with
    | some (values, rest) => some (⟨values.toArray, ((codec.list_exact _ _ _ _).mp found).1⟩, rest)
    | none => none
  exact data values rest := by
    constructor
    next =>
      intro decoded
      split at decoded
      next values' rest' found =>
        cases decoded
        exact ((codec.list_exact _ _ _ _).mp found).2
      next => cases decoded
    next =>
      rintro rfl
      have found := (codec.list_exact count (values.toList.flatMap codec.encode ++ rest) values.toList rest).mpr
        ⟨Vector.length_toList, rfl⟩
      split
      next values' rest' found' =>
        rw [found] at found'
        cases found'
        rfl
      next missing =>
        rw [found] at missing
        cases missing

end Vectors

end Codec
