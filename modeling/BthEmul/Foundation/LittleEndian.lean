import Mathlib.Data.List.Basic
import Mathlib.Algebra.Group.Nat.Defs

/-!
# Little-endian encodings

A fixed-width little-endian encoding of natural numbers as bytes, with its
inverse. Encoding drops what does not fit the width, so the round trip is
stated modulo the width and is exact below it.
-/

namespace Foundation
namespace LittleEndian

/-- The `width` low-order bytes of a value, least significant first. -/
def encode : Nat → Nat → List UInt8
  | 0, _ => []
  | width + 1, value => UInt8.ofNat value :: encode width (value / 256)

/-- The value of a list of bytes, least significant first. -/
def decode : List UInt8 → Nat
  | [] => 0
  | byte :: rest => byte.toNat + 256 * decode rest

@[simp] theorem encode_zero (value : Nat) : encode 0 value = [] := rfl

@[simp] theorem encode_succ (width value : Nat) :
    encode (width + 1) value =
      UInt8.ofNat value :: encode width (value / 256) := rfl

@[simp] theorem decode_nil : decode [] = 0 := rfl

@[simp] theorem decode_cons (byte : UInt8) (rest : List UInt8) :
    decode (byte :: rest) = byte.toNat + 256 * decode rest := rfl

/-- The encoding has exactly the requested width. -/
@[simp] theorem length_encode (width value : Nat) :
    (encode width value).length = width := by
  induction width generalizing value with
  | zero => rfl
  | succ width inductionHypothesis =>
      simp only [encode_succ, List.length_cons, inductionHypothesis]

/-- Decoding recovers the part of the value that fits the width. -/
theorem decode_encode (width value : Nat) :
    decode (encode width value) = value % 256 ^ width := by
  induction width generalizing value with
  | zero => simp [Nat.mod_one]
  | succ width inductionHypothesis =>
      rw [encode_succ, decode_cons, inductionHypothesis, pow_succ,
        Nat.mul_comm (256 ^ width) 256, Nat.mod_mul]
      simp only [UInt8.toNat_ofNat', Nat.reducePow]

/-- Decoding is exact on values below `256 ^ width`. -/
theorem decode_encode_of_lt
    {width value : Nat}
    (fits : value < 256 ^ width) :
    decode (encode width value) = value := by
  rw [decode_encode, Nat.mod_eq_of_lt fits]

/-- The value of some bytes fits their number. -/
theorem decode_lt
    {bytes : List UInt8}
    {width : Nat}
    (length : bytes.length = width) :
    decode bytes < 256 ^ width := by
  subst length
  induction bytes with
  | nil => exact Nat.one_pos
  | cons byte rest inductionHypothesis =>
      have low := byte.toNat_lt
      rw [decode_cons, List.length_cons, pow_succ]
      omega

end LittleEndian
end Foundation
