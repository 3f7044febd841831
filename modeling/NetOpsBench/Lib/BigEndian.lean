import Mathlib.Algebra.Order.Ring.Nat
import Mathlib.Data.List.Induction
import Mathlib.Data.Nat.Basic

/-!
# Big-endian byte strings

`encode bytes n` is the value `n` in so many bytes, most significant first, and `decode`
reads a byte string back; a value that fits its width survives the round trip.
-/

namespace BigEndian

def encode : Nat → Nat → List UInt8
  | 0, _ => []
  | bytes + 1, n => encode bytes (n / 256) ++ [UInt8.ofNat n]

def decode (data : List UInt8) : Nat := data.foldl (fun n b => 256 * n + b.toNat) 0

@[simp] theorem length_encode (bytes n : Nat) : (encode bytes n).length = bytes := by
  induction bytes generalizing n with
  | zero => rfl
  | succ bytes ih => simp [encode, ih]

theorem decode_append_singleton (data : List UInt8) (b : UInt8) :
    decode (data ++ [b]) = 256 * decode data + b.toNat := by
  simp [decode]

theorem decode_lt (data : List UInt8) : decode data < 256 ^ data.length := by
  induction data using List.reverseRecOn with
  | nil => exact Nat.one_pos
  | append_singleton data b ih =>
      rw [decode_append_singleton, List.length_append, List.length_singleton, Nat.pow_succ]
      have byte := b.toNat_lt
      omega

/-- A value below `256 ^ bytes` survives the round trip. -/
theorem decode_encode {bytes n : Nat} (fits : n < 256 ^ bytes) : decode (encode bytes n) = n := by
  induction bytes generalizing n with
  | zero =>
      have : n = 0 := by simpa using fits
      simp [encode, decode, this]
  | succ bytes ih =>
      have high : n / 256 < 256 ^ bytes :=
        Nat.div_lt_of_lt_mul (by rwa [Nat.pow_succ, Nat.mul_comm] at fits)
      rw [encode, decode_append_singleton, ih high, UInt8.toNat_ofNat']
      exact Nat.div_add_mod n 256

end BigEndian
