/-!
# UTF-8

* `utf8` — the bytes of a text;
* `ofUtf8` — the text of some bytes, or where they stop being one;
* `ofUtf8_eq_ok_iff` — reading accepts the bytes of a text and nothing else.
-/

namespace MetricRouter.Text

/-- The bytes of a text. -/
def utf8 (s : String) : List UInt8 := s.toUTF8.data.toList

/-- Where bytes stop being a text. -/
inductive Utf8Fault where
  /-- The bytes from `index` on start no character; the first `length` of them are at fault. -/
  | invalid (length index : Nat)
  /-- The bytes end within the character that starts at `index`. -/
  | incomplete (index : Nat)
  deriving DecidableEq, Repr

/-- The fault in words. -/
def Utf8Fault.message : Utf8Fault → String
  | invalid length index =>
    "invalid utf-8 sequence of " ++ toString length ++ " bytes from index " ++ toString index
  | incomplete index => "incomplete utf-8 byte sequence from index " ++ toString index

/-! ## The first fault -/

/-- A character of several bytes on its way: how many were seen, how many are to come, and the bounds of
the next one. -/
structure Lead where
  seen : Nat
  left : Nat
  low : UInt8
  high : UInt8

/-- What a byte announces that starts a character of several bytes. The bounds of the second byte shut
out overlong forms, surrogates and what lies past the last code point. -/
def Lead.ofByte? (b : UInt8) : Option Lead :=
  if 0xC2 ≤ b ∧ b ≤ 0xDF then some ⟨1, 1, 0x80, 0xBF⟩
  else if b = 0xE0 then some ⟨1, 2, 0xA0, 0xBF⟩
  else if b = 0xED then some ⟨1, 2, 0x80, 0x9F⟩
  else if 0xE1 ≤ b ∧ b ≤ 0xEF then some ⟨1, 2, 0x80, 0xBF⟩
  else if b = 0xF0 then some ⟨1, 3, 0x90, 0xBF⟩
  else if 0xF1 ≤ b ∧ b ≤ 0xF3 then some ⟨1, 3, 0x80, 0xBF⟩
  else if b = 0xF4 then some ⟨1, 3, 0x80, 0x8F⟩
  else none

/-- What is expected after one more byte; nothing after the last one. -/
def Lead.next (l : Lead) : Option Lead :=
  if l.left ≤ 1 then none else some ⟨l.seen + 1, l.left - 1, 0x80, 0xBF⟩

/-- The first fault of the bytes from `index` on, given the character that is on its way. -/
def findFault (index : Nat) : Option Lead → List UInt8 → Option Utf8Fault
  | none, [] => none
  | some l, [] => some (.incomplete (index - l.seen))
  | none, b :: rest =>
    if b < 0x80 then findFault (index + 1) none rest
    else
      match Lead.ofByte? b with
      | none => some (.invalid 1 index)
      | some l => findFault (index + 1) (some l) rest
  | some l, b :: rest =>
    if l.low ≤ b ∧ b ≤ l.high then findFault (index + 1) l.next rest
    else some (.invalid l.seen (index - l.seen))

/-! ## Reading -/

/-- The text of some bytes. -/
def ofUtf8 (bytes : List UInt8) : Except Utf8Fault String :=
  if h : bytes.toByteArray.IsValidUTF8 then .ok (String.ofByteArray bytes.toByteArray h)
  else .error ((findFault 0 none bytes).getD (.incomplete bytes.length))

theorem utf8_ofByteArray {b : ByteArray} {h : b.IsValidUTF8} :
    utf8 (String.ofByteArray b h) = b.data.toList := rfl

theorem toByteArray_utf8 (s : String) : (utf8 s).toByteArray = s.toByteArray :=
  ByteArray.ext (by simp [utf8, List.data_toByteArray])

theorem ofUtf8_eq_ok_iff {bytes : List UInt8} {s : String} :
    ofUtf8 bytes = .ok s ↔ bytes = utf8 s := by
  constructor
  · intro h
    unfold ofUtf8 at h
    split at h
    · injection h with h
      rw [← h, utf8_ofByteArray, List.data_toByteArray]
    · injection h
  · rintro rfl
    unfold ofUtf8
    have hb := toByteArray_utf8 s
    have hv : (utf8 s).toByteArray.IsValidUTF8 := hb ▸ s.isValidUTF8
    rw [dif_pos hv]
    congr 1
    exact String.toByteArray_inj.mp hb

theorem ofUtf8_utf8 (s : String) : ofUtf8 (utf8 s) = .ok s := ofUtf8_eq_ok_iff.mpr rfl

end MetricRouter.Text
