/-!
# Numbers as bytes

Numbers on the wire have a fixed number of bytes, the most significant one first.

* `bigEndian` — the bytes of a number; what does not fit in them is lost;
* `number` — the number that bytes stand for;
* `bigEndian_number` — a number written in as many bytes as it was read from gives these bytes again.
-/

namespace MetricRouter.Wire

/-- The lowest `width` bytes of a number, the least significant one first. -/
def littleEndian : Nat → Nat → List UInt8
  | 0, _ => []
  | width + 1, n => UInt8.ofNat n :: littleEndian width (n / 256)

/-- The number that bytes stand for, the least significant one first. -/
def littleNumber : List UInt8 → Nat
  | [] => 0
  | b :: rest => b.toNat + 256 * littleNumber rest

/-- The lowest `width` bytes of a number, the most significant one first. -/
def bigEndian (width n : Nat) : List UInt8 := (littleEndian width n).reverse

/-- The number that bytes stand for, the most significant one first. -/
def number (bytes : List UInt8) : Nat := littleNumber bytes.reverse

/-! ## Laws -/

theorem length_littleEndian (width n : Nat) : (littleEndian width n).length = width := by
  induction width generalizing n with
  | zero => rfl
  | succ width ih => simp [littleEndian, ih]

theorem littleEndian_littleNumber (bytes : List UInt8) :
    littleEndian bytes.length (littleNumber bytes) = bytes := by
  induction bytes with
  | nil => rfl
  | cons b rest ih =>
    have hb := b.toNat_lt
    have hd : (b.toNat + 256 * littleNumber rest) / 256 = littleNumber rest := by omega
    have hm : UInt8.ofNat (b.toNat + 256 * littleNumber rest) = b := by
      apply UInt8.toNat_inj.mp
      simp only [UInt8.toNat_ofNat']
      omega
    rw [List.length_cons, littleEndian, littleNumber, hd, ih, hm]

@[simp] theorem length_bigEndian (width n : Nat) : (bigEndian width n).length = width := by
  rw [bigEndian, List.length_reverse, length_littleEndian]

theorem bigEndian_number (bytes : List UInt8) : bigEndian bytes.length (number bytes) = bytes := by
  have h := littleEndian_littleNumber bytes.reverse
  rw [List.length_reverse] at h
  rw [bigEndian, number, h, List.reverse_reverse]

end MetricRouter.Wire
