import Mathlib.Algebra.Ring.Nat
import Mathlib.Tactic.Common

/-! Fixed-width little-endian numbers. -/
namespace LittleEndian

def encode : Nat → Nat → List UInt8
  | 0, _ => []
  | width + 1, value => UInt8.ofNat (value % 256) :: encode width (value / 256)

def decode : List UInt8 → Nat
  | [] => 0
  | byte :: bytes => byte.toNat + 256 * decode bytes

@[simp] theorem length_encode (width value : Nat) : (encode width value).length = width := by
  induction width generalizing value with
  | zero => rfl
  | succ width ih => simp [encode, ih]

theorem decode_encode_mod (width value : Nat) :
    decode (encode width value) = value % 256 ^ width := by
  induction width generalizing value with
  | zero => simp [encode, decode, Nat.mod_one]
  | succ width ih =>
    simp only [encode, decode, ih, UInt8.toNat_ofNat', Nat.reducePow, Nat.mod_mod]
    rw [Nat.pow_succ', Nat.mod_mul]

theorem decode_encode {width value : Nat} (h : value < 256 ^ width) :
    decode (encode width value) = value := by
  rw [decode_encode_mod, Nat.mod_eq_of_lt h]

theorem encode_decode (bytes : List UInt8) : encode bytes.length (decode bytes) = bytes := by
  induction bytes with
  | nil => rfl
  | cons byte bytes ih =>
    have hbyte := byte.toNat_lt
    have hlow : (byte.toNat + 256 * decode bytes) % 256 = byte.toNat := by omega
    have hhigh : (byte.toNat + 256 * decode bytes) / 256 = decode bytes := by omega
    simp only [decode, List.length_cons, encode, hlow, hhigh, ih, UInt8.ofNat_toNat]

theorem decode_lt (bytes : List UInt8) : decode bytes < 256 ^ bytes.length := by
  induction bytes with
  | nil => simp [decode]
  | cons byte bytes ih =>
    have hbyte := byte.toNat_lt
    simp only [decode, List.length_cons, Nat.pow_succ']
    omega

end LittleEndian
