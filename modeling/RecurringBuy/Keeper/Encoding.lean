import RecurringBuy.Keeper.Daemon
import Mathlib.Data.Int.Bitwise

set_option autoImplicit false

namespace RecurringBuy

open LittleEndian

section Operators

-- On a Number the bitwise operators first cut to 32 bits, and only `>>>` leaves the sign out.
def toInt32 (x : Int) : Int := x.bmod (2 ^ 32)

def toUint32 (x : Int) : Int := x % 2 ^ 32

theorem land_byte (x : Int) : Int.land x 0xff = x % 256 := by
  have mask : (255 : Nat) = 2 ^ 8 - 1 := by norm_num
  cases x with
  | ofNat n =>
    show ((n &&& 255 : Nat) : Int) = (n : Int) % 256
    rw [mask, Nat.and_two_pow_sub_one_eq_mod]
    rfl
  | negSucc n =>
    show ((Nat.ldiff 255 n : Nat) : Int) = Int.negSucc n % 256
    have low : Nat.ldiff 255 n = 2 ^ 8 - (n % 2 ^ 8 + 1) := by
      apply Nat.eq_of_testBit_eq
      intro i
      rw [Nat.testBit_ldiff, mask, Nat.testBit_two_pow_sub_one, Nat.testBit_two_pow_sub_succ (Nat.mod_lt _ (by norm_num)),
        Nat.testBit_mod_two_pow]
      by_cases inside : i < 8 <;> simp [inside]
    rw [low]
    omega

end Operators

-- `b[i] = digit x; x = shift x` for each `i`.
def fill (digit shift : Int → Int) (width : Nat) (v : Int) : List UInt8 :=
  ((List.range width).foldl (fun state i => (state.1.set i (UInt8.ofNat (digit state.2).toNat), shift state.2))
    (List.replicate width 0, v)).1

-- On a BigInt.
def u64 (v : Int) : List UInt8 := fill (fun x => Int.land x 0xff) (fun x => x >>> (8 : Nat)) 8 v

-- On a Number.
def u32 (v : Int) : List UInt8 := fill (fun x => Int.land (toInt32 x) 0xff) (fun x => toInt32 x >>> (8 : Nat)) 4 (toUint32 v)

-- `Uint8Array.prototype.set`, which throws past the end.
def setAt (array : List UInt8) (source : List UInt8) (offset : Nat) : Option (List UInt8) :=
  if offset + source.length ≤ array.length then
    some (array.take offset ++ source ++ array.drop (offset + source.length))
  else none

-- `o.set(x, k); k += x.length`
def copy (state : List UInt8 × Nat) (x : List UInt8) : Option (List UInt8 × Nat) :=
  (setAt state.1 x state.2).map fun o => (o, state.2 + x.length)

def cat (a : List (List UInt8)) : Option (List UInt8) :=
  let n := a.foldl (fun s x => s + x.length) 0
  (a.foldlM copy (List.replicate n 0, 0)).map Prod.fst

section Loops

def digits (digit shift : Int → Int) : Nat → Int → List UInt8
  | 0, _ => []
  | width + 1, v => UInt8.ofNat (digit v).toNat :: digits digit shift width (shift v)

-- The turns so far have written `front`.
theorem fill_from (digit shift : Int → Int) (width : Nat) (front : List UInt8) (v : Int) :
    ((List.range' front.length width).foldl
      (fun state i => (state.1.set i (UInt8.ofNat (digit state.2).toNat), shift state.2))
      (front ++ List.replicate width 0, v)).1 = front ++ digits digit shift width v := by
  induction width generalizing front v with
  | zero => rfl
  | succ width ih =>
    have next := ih (front ++ [UInt8.ofNat (digit v).toNat]) (shift v)
    rw [List.length_append, List.length_singleton] at next
    rw [List.range'_succ, List.foldl_cons, List.set_append_right _ _ (Nat.le_refl _), Nat.sub_self, List.replicate_succ,
      List.set_cons_zero, digits]
    simpa only [List.append_assoc, List.singleton_append] using next

theorem fill_digits (digit shift : Int → Int) (width : Nat) (v : Int) :
    fill digit shift width v = digits digit shift width v := by
  rw [fill, List.range_eq_range']
  exact fill_from digit shift width [] v

theorem shift_byte (x : Int) : x >>> (8 : Nat) = x / 256 := by
  rw [Int.shiftRight_eq_div_pow]
  rfl

theorem digits_big (width : Nat) (v : Int) :
    digits (fun x => Int.land x 0xff) (fun x => x >>> (8 : Nat)) width v = encodeInt width v := by
  induction width generalizing v with
  | zero => rfl
  | succ width ih => rw [digits, ih, land_byte, shift_byte, encodeInt_succ]

theorem u64_encode (v : Int) : u64 v = encodeInt 8 v := by rw [u64, fill_digits, digits_big]

theorem toInt32_bounds (x : Int) : -2 ^ 31 ≤ toInt32 x ∧ toInt32 x < 2 ^ 31 := by
  unfold toInt32
  have low := Int.le_bmod (x := x) (m := 2 ^ 32) (by norm_num)
  have high := Int.bmod_lt (x := x) (m := 2 ^ 32) (by norm_num)
  omega

theorem toInt32_small (x : Int) (low : -2 ^ 31 ≤ x) (high : x < 2 ^ 31) : toInt32 x = x := by
  unfold toInt32
  exact Int.bmod_eq_of_le_mul_two (by omega) (by omega)

-- The signed shift brings in copies of the sign, but only above the bytes that are still to be written.
theorem digits_int32 (width : Nat) (x : Int) :
    digits (fun x => Int.land (toInt32 x) 0xff) (fun x => toInt32 x >>> (8 : Nat)) width x =
      encodeInt width (toInt32 x) := by
  induction width generalizing x with
  | zero => rfl
  | succ width ih =>
    have bounds := toInt32_bounds x
    rw [digits, ih, land_byte, shift_byte, encodeInt_succ, toInt32_small (toInt32 x / 256) (by omega)
      (by omega)]

theorem u32_encode (v : Int) : u32 v = encodeInt 4 v := by
  rw [u32, fill_digits, digits_int32]
  apply encodeInt_congr
  rw [toInt32, toUint32, show ((256 ^ 4 : Nat) : Int) = (2 ^ 32 : Nat) by norm_num, Int.bmod_emod]
  exact Int.emod_emod_of_dvd v (Int.dvd_refl _)

-- The bytes of the composed transactions.
theorem u64_bytes (v : Int) : u64 v = u64Bytes v := by
  have width : ((256 ^ 8 : Nat) : Int) = 2 ^ 64 := by norm_num
  rw [u64_encode, encodeInt, width, u64Bytes]

theorem u32_bytes (v : Nat) : u32 v = u32Bytes v := by rw [u32_encode, encodeInt_nat, u32Bytes]

end Loops

section Cat

theorem setAt_append (front source rest : List UInt8) :
    setAt (front ++ List.replicate (source.length + rest.length) 0) source front.length =
      some (front ++ source ++ List.replicate rest.length 0) := by
  have room : front.length + source.length ≤ (front ++ List.replicate (source.length + rest.length) (0 : UInt8)).length := by
    rw [List.length_append, List.length_replicate]
    omega
  have after : List.drop (front.length + source.length)
      (front ++ List.replicate (source.length + rest.length) (0 : UInt8)) = List.replicate rest.length 0 := by
    rw [List.drop_length_add_append, List.drop_replicate, Nat.add_sub_cancel_left]
  rw [setAt, if_pos room, List.take_left, after]

-- The copies so far fill `front`, and there is room for the rest.
theorem copies_from (a : List (List UInt8)) (front : List UInt8) :
    a.foldlM copy (front ++ List.replicate a.flatten.length 0, front.length) =
      some (front ++ a.flatten, (front ++ a.flatten).length) := by
  induction a generalizing front with
  | nil => simp
  | cons x rest ih =>
    have next := ih (front ++ x)
    have copied : copy (front ++ List.replicate (x.length + rest.flatten.length) 0, front.length) x =
        some (front ++ x ++ List.replicate rest.flatten.length 0, (front ++ x).length) := by
      rw [copy, setAt_append, Option.map_some, List.length_append]
    rw [List.foldlM_cons, List.flatten_cons, List.length_append, copied, Option.bind_eq_bind, Option.bind_some, next,
      List.append_assoc]

theorem cat_flatten (a : List (List UInt8)) : cat a = some a.flatten := by
  have total (n : Nat) : a.foldl (fun s x => s + x.length) n = n + a.flatten.length := by
    induction a generalizing n with
    | nil => rfl
    | cons x rest ih => rw [List.foldl_cons, ih, List.flatten_cons, List.length_append, Nat.add_assoc]
  have copied := copies_from a []
  rw [List.nil_append, List.nil_append, List.length_nil] at copied
  rw [cat, total, Nat.zero_add, copied, Option.map_some]

end Cat

end RecurringBuy
