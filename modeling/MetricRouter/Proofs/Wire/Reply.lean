import MetricRouter.Proofs.Wire.Reading
import MetricRouter.Wire.Reply

/-!
# Replies and their frames

An agent reads a reply from the bytes that it is written in and from no others. What follows them is ignored, and
without the last of them there is no reply.

* `Fits` — the replies whose text has a length that fits in four bytes;
* `decode_eq_ok_iff`, `decode_encode_append` — the law of a frame, and how it is used;
* `exists_fault_of_cut` — a frame that is cut short;
* `decode_iff_encode_append` — the main statement.
-/

namespace MetricRouter.Wire.Reply

/-- Does the length of the reply's text fit in four bytes, if it has a text? -/
def Fits : Reply → Prop
  | tokenAssign fqn _ => (Text.utf8 fqn).length < UInt32.size
  | confirm key => (Text.utf8 key).length < UInt32.size
  | reset => True

section Replies

variable {frame cut : List UInt8} {r : Reply}

theorem decode_eq_ok_iff : decode frame = .ok r ↔ r.Fits ∧ ∃ rest, frame = r.encode ++ rest := by
  simp only [decode, bind_eq_ok, Prod.exists, readOpcode_eq_ok_iff]
  constructor
  · rintro ⟨opcode, rest, rfl, h⟩
    cases opcode with
    | tokenAssign =>
      simp only [bind_eq_ok, Prod.exists, readText_eq_ok_iff, readLong_eq_ok_iff, pure_eq_ok] at h
      obtain ⟨fqn, _, ⟨hfits, rfl⟩, token, rest, rfl, rfl⟩ := h
      refine ⟨hfits, rest, ?_⟩
      rw [encode, List.cons_append, List.append_assoc]
    | confirm =>
      simp only [bind_eq_ok, Prod.exists, readText_eq_ok_iff, pure_eq_ok] at h
      obtain ⟨key, rest, ⟨hfits, rfl⟩, rfl⟩ := h
      exact ⟨hfits, rest, rfl⟩
    | reset =>
      obtain rfl := pure_eq_ok.mp h
      exact ⟨trivial, rest, rfl⟩
    | sendMetric | sendMetricDirect | resetConfirm => exact absurd h (by simp)
  · rintro ⟨hfits, rest, rfl⟩
    cases r with
    | tokenAssign fqn token =>
      refine ⟨.tokenAssign, _, rfl, bind_eq_ok.mpr ⟨(fqn, writeLong token ++ rest), ?_, ?_⟩⟩
      · exact readText_eq_ok_iff.mpr ⟨hfits, List.append_assoc _ _ _⟩
      · exact bind_eq_ok.mpr ⟨(token, rest), readLong_eq_ok_iff.mpr rfl, rfl⟩
    | confirm key =>
      exact ⟨.confirm, _, rfl, bind_eq_ok.mpr ⟨(key, rest), readText_eq_ok_iff.mpr ⟨hfits, rfl⟩, rfl⟩⟩
    | reset => exact ⟨.reset, rest, rfl, rfl⟩

theorem decode_encode_append (h : r.Fits) (rest : List UInt8) : decode (r.encode ++ rest) = .ok r :=
  decode_eq_ok_iff.mpr ⟨h, rest, rfl⟩

/-- A frame that is cut short gives no reply: bytes that do would be the whole frame. -/
theorem exists_fault_of_cut (h : r.Fits) (hcut : cut <+: r.encode) (hne : cut ≠ r.encode) :
    ∃ fault, decode cut = .error fault := by
  cases hdecode : decode cut with
  | error fault => exact ⟨fault, rfl⟩
  | ok r' =>
    obtain ⟨hfits, rest, rfl⟩ := decode_eq_ok_iff.mp hdecode
    obtain ⟨lost, hlost⟩ := hcut
    have hsame : r' = r := by
      have hread := decode_encode_append hfits (rest ++ lost)
      rw [← List.append_assoc, hlost, ← List.append_nil r.encode, decode_encode_append h] at hread
      exact (Except.ok.inj hread).symm
    rw [hsame, List.append_assoc, List.append_right_eq_self, List.append_eq_nil_iff] at hlost
    rw [hsame, hlost.1, List.append_nil] at hne
    exact absurd rfl hne

end Replies

/-- **Replies are read from their frames.** Some bytes are read as a reply exactly if its text, if it has one, is
shorter than 2^32 bytes and its frame stands in front of them. So a reply is read back from its own frame, a reply that
was read is written in the bytes that it was read from, and no part of a frame will do for the whole. -/
theorem decode_iff_encode_append (frame : List UInt8) (r : Reply) :
    (decode frame = .ok r ↔ r.Fits ∧ ∃ rest, frame = r.encode ++ rest) ∧
    (r.Fits → decode r.encode = .ok r) ∧
    (decode frame = .ok r → frame.take r.encode.length = r.encode) ∧
    (r.Fits → ∀ cut, cut <+: r.encode → cut ≠ r.encode → ∃ fault, decode cut = .error fault) := by
  refine ⟨decode_eq_ok_iff, fun h => ?_, fun h => ?_, fun h cut => exists_fault_of_cut h⟩
  · have hread := decode_encode_append h []
    rwa [List.append_nil] at hread
  · obtain ⟨-, rest, rfl⟩ := decode_eq_ok_iff.mp h
    exact List.take_left

/-- A token behind the name that it stands for: opcode, length, name, token. -/
example : decode [2, 0, 0, 0, 1, 104, 0, 0, 0, 0, 0, 0, 0, 5, 9] = .ok (.tokenAssign "h" 5) := by decide +kernel

end MetricRouter.Wire.Reply
