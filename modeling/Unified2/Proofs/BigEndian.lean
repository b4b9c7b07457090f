import Mathlib.Algebra.GroupWithZero.Nat
import Mathlib.Data.List.Induction
import Unified2.Bytes

/-! Big-endian numbers read back as far as their width holds them. -/

namespace Unified2.BigEndian

/-- Reading back an encoding gives the number, as far as the width holds it. -/
theorem decode_encode (width value : Nat) : decode (encode width value) = value % 256 ^ width := by
  -- The last digit is the remainder, and the ones before it encode the quotient.
  induction width generalizing value with
  | zero => simp [encode, decode, Nat.mod_one]
  | succ width ih =>
    have digit : (UInt8.ofNat value).toNat = value % 256 := UInt8.toNat_ofNat'
    rw [encode, decode_snoc, ih, digit, Nat.pow_succ, Nat.mul_comm (256 ^ width) 256, Nat.mod_mul]
    omega

/-- Reading on from a number keeps it below its bound times the base for every byte read. -/
theorem foldl_lt (bytes : Bytes) (value bound : Nat) (below : value < bound) :
    bytes.foldl (fun value byte => value * 256 + byte.toNat) value <
      bound * 256 ^ bytes.length := by
  -- One more digit multiplies both the number and its bound by the base.
  induction bytes generalizing value bound with
  | nil => simpa using below
  | cons byte rest ih =>
    have digit := byte.toNat_lt
    have step := ih (value * 256 + byte.toNat) (bound * 256) (by omega)
    rw [List.foldl_cons, List.length_cons, Nat.pow_succ, Nat.mul_comm (256 ^ rest.length),
      ← Nat.mul_assoc]
    exact step

/-- A decoded number fits the width of its bytes. -/
theorem decode_lt (bytes : Bytes) : decode bytes < 256 ^ bytes.length := by
  -- The fold starts at zero, below one.
  simpa [decode] using foldl_lt bytes 0 1 (by omega)

/-- Writing the number that bytes decode to gives these bytes back. -/
theorem encode_decode (bytes : Bytes) : encode bytes.length (decode bytes) = bytes := by
  -- The last byte is the remainder of the number, and the ones before it make up the quotient.
  induction bytes using List.reverseRecOn with
  | nil => rfl
  | append_singleton bytes byte ih =>
    have digit := byte.toNat_lt
    have quotient : (decode bytes * 256 + byte.toNat) / 256 = decode bytes := by omega
    have last : UInt8.ofNat (decode bytes * 256 + byte.toNat) = byte := by
      apply UInt8.toNat_inj.mp
      rw [UInt8.toNat_ofNat']
      omega
    rw [decode_snoc, List.length_append, List.length_singleton, encode, quotient, ih, last]

end Unified2.BigEndian
