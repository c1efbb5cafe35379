import Mathlib
import MetricRouter.Wire.Bytes

/-!
# What fits in a number of bytes

* `number_lt` — the bound of a number that was read from bytes;
* `number_bigEndian` — a number that was written is read back up to what its bytes can hold.
-/

namespace MetricRouter.Wire

theorem littleNumber_littleEndian (width n : Nat) :
    littleNumber (littleEndian width n) = n % 256 ^ width := by
  induction width generalizing n with
  | zero => simp [littleEndian, littleNumber, Nat.mod_one]
  | succ width ih =>
    rw [littleEndian, littleNumber, ih, Nat.pow_succ, Nat.mul_comm (256 ^ width), Nat.mod_mul]
    simp only [UInt8.toNat_ofNat']

theorem littleNumber_lt (bytes : List UInt8) : littleNumber bytes < 256 ^ bytes.length := by
  induction bytes with
  | nil => simp [littleNumber]
  | cons b rest ih =>
    have hb := b.toNat_lt
    rw [littleNumber, List.length_cons, Nat.pow_succ]
    omega

theorem number_bigEndian (width n : Nat) : number (bigEndian width n) = n % 256 ^ width := by
  rw [number, bigEndian, List.reverse_reverse, littleNumber_littleEndian]

theorem number_singleton (b : UInt8) : number [b] = b.toNat := by
  simp [number, littleNumber]

theorem number_lt (bytes : List UInt8) : number bytes < 256 ^ bytes.length := by
  rw [number, ← List.length_reverse]
  exact littleNumber_lt bytes.reverse

end MetricRouter.Wire
