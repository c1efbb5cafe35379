import Mathlib
import MetricRouter.Proofs.Wire.Bytes
import MetricRouter.Wire.Reading

/-!
# Readers and what they read

A reader of the wire format succeeds exactly on the bytes that the writer of its field gives, whatever
follows them, and leaves what follows. Such a law holds of each field, and where fields stand one after
another the laws are joined by `bind_eq_ok`.

* `take_eq_ok_iff`, `readNumber_eq_ok_iff`, `readLong_eq_ok_iff` — bytes and numbers of a fixed width;
* `readOpcode_eq_ok_iff` — opcodes;
* `readBlock_eq_ok_iff`, `readText_eq_ok_iff` — bytes and texts after their length, which has to fit in four
  bytes.
-/

namespace MetricRouter.Wire

section Steps

variable {ε α β : Type}

theorem bind_eq_ok {x : Except ε α} {f : α → Except ε β} {b : β} :
    x >>= f = .ok b ↔ ∃ a, x = .ok a ∧ f a = .ok b := by
  cases x with
  | error e => simp [bind, Except.bind]
  | ok a => simp [bind, Except.bind]

theorem pure_eq_ok {a b : α} : (pure a : Except ε α) = .ok b ↔ a = b := by
  simp [pure, Except.pure]

end Steps

theorem Opcode.ofByte?_eq_some_iff {b : UInt8} {o : Opcode} : ofByte? b = some o ↔ b = o.byte := by
  unfold ofByte?
  constructor
  · intro h
    obtain ⟨hb, ho⟩ := List.getElem?_eq_some_iff.mp h
    have hb' : b.toNat < 6 := hb
    apply UInt8.toNat_inj.mp
    interval_cases hk : b.toNat <;> rw [← ho] <;> rfl
  · rintro rfl
    exact ofByte?_byte o

section Fields

variable {field : Field} {bytes rest : List UInt8}

theorem take_eq_ok_iff {n : Nat} {raw : List UInt8} :
    take field n bytes = .ok (raw, rest) ↔ raw.length = n ∧ bytes = raw ++ rest := by
  unfold take
  constructor
  · intro h
    split at h
    · rename_i hlength
      obtain ⟨rfl, rfl⟩ := Prod.mk.inj (Except.ok.inj h)
      exact ⟨hlength, (List.take_append_drop n bytes).symm⟩
    · exact absurd h (by simp)
  · rintro ⟨rfl, rfl⟩
    rw [List.take_left, List.drop_left, if_pos rfl]

theorem readNumber_eq_ok_iff {width n : Nat} :
    readNumber field width bytes = .ok (n, rest) ↔ n < 256 ^ width ∧ bytes = bigEndian width n ++ rest := by
  unfold readNumber
  simp only [bind_eq_ok, Prod.exists, take_eq_ok_iff, pure_eq_ok, Prod.mk.injEq]
  constructor
  · rintro ⟨raw, rest', ⟨rfl, rfl⟩, rfl, rfl⟩
    exact ⟨number_lt raw, by rw [bigEndian_number]⟩
  · rintro ⟨hn, rfl⟩
    refine ⟨bigEndian width n, rest, ⟨length_bigEndian width n, rfl⟩, ?_, rfl⟩
    rw [number_bigEndian, Nat.mod_eq_of_lt hn]

theorem length_writeLong (v : Int64) : (writeLong v).length = 8 := length_bigEndian 8 _

theorem writeLong_ofNat {n : Nat} (hn : n < 2 ^ 64) : writeLong (UInt64.ofNat n).toInt64 = bigEndian 8 n := by
  rw [writeLong, UInt64.toUInt64_toInt64, UInt64.toNat_ofNat', Nat.mod_eq_of_lt hn]

theorem toInt64_number_writeLong (v : Int64) : (UInt64.ofNat (number (writeLong v))).toInt64 = v := by
  have hv : v.toUInt64.toNat < 256 ^ 8 := v.toUInt64.toNat_lt
  rw [writeLong, number_bigEndian, Nat.mod_eq_of_lt hv, UInt64.ofNat_toNat, Int64.toInt64_toUInt64]

theorem readLong_eq_ok_iff {v : Int64} :
    readLong field bytes = .ok (v, rest) ↔ bytes = writeLong v ++ rest := by
  unfold readLong
  simp only [bind_eq_ok, Prod.exists, readNumber_eq_ok_iff, pure_eq_ok, Prod.mk.injEq]
  constructor
  · rintro ⟨n, rest', ⟨hn, rfl⟩, rfl, rfl⟩
    rw [writeLong_ofNat hn]
  · rintro rfl
    have hv := number_lt (writeLong v)
    rw [length_writeLong] at hv
    refine ⟨number (writeLong v), rest, ⟨hv, ?_⟩, toInt64_number_writeLong v, rfl⟩
    rw [← writeLong_ofNat hv, toInt64_number_writeLong]

theorem readOpcode_eq_ok_iff {opcode : Opcode} :
    readOpcode bytes = .ok (opcode, rest) ↔ bytes = opcode.byte :: rest := by
  simp only [readOpcode, readNumber, bind_eq_ok, Prod.exists, take_eq_ok_iff, pure_eq_ok, Prod.mk.injEq]
  constructor
  · rintro ⟨n, rest', ⟨raw, rest'', ⟨hlength, rfl⟩, rfl, rfl⟩, h⟩
    obtain ⟨b, rfl⟩ := List.length_eq_one_iff.mp hlength
    rw [number_singleton, UInt8.ofNat_toNat] at h
    split at h
    · exact absurd h (by simp)
    · rename_i o ho
      obtain ⟨rfl, rfl⟩ := Prod.mk.inj (Except.ok.inj h)
      rw [Opcode.ofByte?_eq_some_iff.mp ho]
      rfl
  · rintro rfl
    refine ⟨number [opcode.byte], rest, ⟨[opcode.byte], rest, ⟨rfl, rfl⟩, rfl, rfl⟩, ?_⟩
    rw [number_singleton, UInt8.ofNat_toNat, Opcode.ofByte?_byte]

theorem readBlock_eq_ok_iff {raw : List UInt8} :
    readBlock field bytes = .ok (raw, rest) ↔
      raw.length < UInt32.size ∧ bytes = writeBlock raw ++ rest := by
  unfold readBlock writeBlock
  simp only [bind_eq_ok, Prod.exists, readNumber_eq_ok_iff, take_eq_ok_iff]
  constructor
  · rintro ⟨n, rest', ⟨hn, rfl⟩, rfl, rfl⟩
    exact ⟨hn, (List.append_assoc _ _ _).symm⟩
  · rintro ⟨hn, rfl⟩
    exact ⟨raw.length, raw ++ rest, ⟨hn, List.append_assoc _ _ _⟩, rfl, rfl⟩

theorem readText_eq_ok_iff {s : String} :
    readText field bytes = .ok (s, rest) ↔
      (Text.utf8 s).length < UInt32.size ∧ bytes = writeText s ++ rest := by
  unfold readText writeText
  simp only [bind_eq_ok, Prod.exists, readBlock_eq_ok_iff]
  constructor
  · rintro ⟨raw, rest', ⟨hlength, rfl⟩, h⟩
    split at h
    · exact absurd h (by simp)
    · rename_i s' hs
      obtain ⟨rfl, rfl⟩ := Prod.mk.inj (Except.ok.inj h)
      obtain rfl := Text.ofUtf8_eq_ok_iff.mp hs
      exact ⟨hlength, rfl⟩
  · rintro ⟨hlength, rfl⟩
    refine ⟨Text.utf8 s, rest, ⟨hlength, rfl⟩, ?_⟩
    rw [Text.ofUtf8_utf8]

end Fields

end MetricRouter.Wire
