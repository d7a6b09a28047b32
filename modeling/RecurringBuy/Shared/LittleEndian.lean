import Mathlib.Tactic.Linarith
import Mathlib.Tactic.Positivity
import Mathlib.Tactic.Ring

set_option autoImplicit false

namespace LittleEndian

-- What does not fit is dropped.
def encode : Nat → Nat → List UInt8
  | 0, _ => []
  | width + 1, value => UInt8.ofNat (value % 256) :: encode width (value / 256)

def value : List UInt8 → Nat
  | [] => 0
  | byte :: rest => byte.toNat + 256 * value rest

-- The first `width` bytes and the bytes after them.
def decode (width : Nat) (bytes : List UInt8) : Option (Nat × List UInt8) :=
  if width ≤ bytes.length then some (value (bytes.take width), bytes.drop width) else none

@[simp] theorem length_encode (width n : Nat) : (encode width n).length = width := by
  induction width generalizing n with
  | zero => rfl
  | succ width ih => simp [encode, ih]

theorem value_encode (width n : Nat) : value (encode width n) = n % 256 ^ width := by
  induction width generalizing n with
  | zero => simp [encode, value, Nat.mod_one]
  | succ width ih =>
    have low : (UInt8.ofNat (n % 256)).toNat = n % 256 := by
      rw [UInt8.toNat_ofNat']
      omega
    rw [encode, value, ih, low, Nat.pow_succ', Nat.mod_mul]

theorem decode_encode (width n : Nat) (rest : List UInt8) (fits : n < 256 ^ width) :
    decode width (encode width n ++ rest) = some (n, rest) := by
  have exactly := length_encode width n
  have enough : width ≤ (encode width n ++ rest).length := by
    rw [List.length_append, exactly]
    omega
  rw [decode, if_pos enough, List.take_left' exactly, List.drop_left' exactly, value_encode, Nat.mod_eq_of_lt fits]

theorem value_lt (bytes : List UInt8) : value bytes < 256 ^ bytes.length := by
  induction bytes with
  | nil => simp [value]
  | cons byte rest ih =>
    have low := byte.toNat_lt
    rw [value, List.length_cons, Nat.pow_succ]
    omega

theorem encode_value (bytes : List UInt8) : encode bytes.length (value bytes) = bytes := by
  induction bytes with
  | nil => rfl
  | cons byte rest ih =>
    have low := byte.toNat_lt
    have head : (byte.toNat + 256 * value rest) % 256 = byte.toNat := by omega
    have tail : (byte.toNat + 256 * value rest) / 256 = value rest := by omega
    rw [List.length_cons, value, encode, head, tail, ih, UInt8.ofNat_toNat]

section Signed

-- Two's complement.
def encodeInt (width : Nat) (n : Int) : List UInt8 := encode width (n % (256 ^ width : Nat)).toNat

theorem encodeInt_succ (width : Nat) (n : Int) :
    encodeInt (width + 1) n = UInt8.ofNat (n % 256).toNat :: encodeInt width (n / 256) := by
  have positive : (0 : Int) < (256 ^ width : Nat) := by positivity
  have whole : (0 : Int) < (256 ^ (width + 1) : Nat) := by positivity
  have wider : ((256 ^ (width + 1) : Nat) : Int) = 256 * (256 ^ width : Nat) := by
    push_cast
    ring
  have high := Int.emod_nonneg (n / 256) positive.ne'
  have less := Int.emod_lt_of_pos (n / 256) positive
  have rest := Int.mul_ediv_add_emod (n / 256) (256 ^ width : Nat)
  have residue : n % (256 ^ (width + 1) : Nat) = n % 256 + 256 * (n / 256 % (256 ^ width : Nat)) := by
    apply ((Int.ediv_emod_unique (q := n / 256 / (256 ^ width : Nat)) whole).mpr _).2
    rw [wider]
    refine ⟨?_, by omega, by omega⟩
    rw [mul_assoc]
    omega
  have low : (n % 256 + 256 * (n / 256 % (256 ^ width : Nat))).toNat % 256 = (n % 256).toNat := by omega
  have tail : (n % 256 + 256 * (n / 256 % (256 ^ width : Nat))).toNat / 256 = (n / 256 % (256 ^ width : Nat)).toNat := by
    omega
  rw [encodeInt, encode, residue, low, tail]
  rfl

theorem encodeInt_nat (width n : Nat) : encodeInt width n = encode width n := by
  induction width generalizing n with
  | zero => rfl
  | succ width ih =>
    have low : ((n : Int) % 256).toNat = n % 256 := by omega
    rw [encodeInt_succ, encode, low, show (n : Int) / 256 = (n / 256 : Nat) by omega, ih]

theorem encodeInt_congr (width : Nat) (n m : Int) (same : n % (256 ^ width : Nat) = m % (256 ^ width : Nat)) :
    encodeInt width n = encodeInt width m := by
  rw [encodeInt, encodeInt, same]

def valueInt (bytes : List UInt8) : Int := (value bytes : Int).bmod (256 ^ bytes.length)

@[simp] theorem length_encodeInt (width : Nat) (n : Int) : (encodeInt width n).length = width :=
  length_encode width _

theorem valueInt_encodeInt (width : Nat) (n : Int) (low : -(256 ^ width : Nat) ≤ n * 2)
    (high : n * 2 < (256 ^ width : Nat)) : valueInt (encodeInt width n) = n := by
  have positive : (0 : Int) < (256 ^ width : Nat) := by positivity
  have residue := Int.emod_nonneg n positive.ne'
  have less := Int.emod_lt_of_pos n positive
  have stored : ((value (encodeInt width n) : Nat) : Int) = n % (256 ^ width : Nat) := by
    rw [encodeInt, value_encode, Nat.mod_eq_of_lt (by omega), Int.toNat_of_nonneg residue]
  rw [valueInt, length_encodeInt, stored, Int.emod_bmod]
  exact Int.bmod_eq_of_le_mul_two low high

example : encodeInt 8 (-2) = [254, 255, 255, 255, 255, 255, 255, 255] := by decide +kernel

end Signed

end LittleEndian
