/-!
# Texts as numbers

`code` writes a text as one number: its characters are the digits of a numeral behind a leading one.
`code_inj` says that different texts have different numbers, so a number can stand for a text as a key.
-/

namespace MetricRouter.Text

/-- The number of the characters that a numeral has for digits. -/
def codeBase : Nat := 0x110000

/-- The numeral with one more digit. -/
def pushDigit (n : Nat) (c : Char) : Nat := n * codeBase + c.toNat

/-- The number of some characters. -/
def codeOfChars (cs : List Char) : Nat := cs.foldl pushDigit 1

/-- The number of a text. -/
def code (s : String) : Nat := codeOfChars s.toList

/-! ## Laws -/

theorem toNat_lt_codeBase (c : Char) : c.toNat < codeBase := by
  have h := c.valid
  simp only [UInt32.isValidChar, Nat.isValidChar] at h
  simp only [Char.toNat, codeBase]
  omega

theorem pushDigit_inj {m n : Nat} {c d : Char} (h : pushDigit m c = pushDigit n d) : m = n ∧ c = d := by
  have hc := toNat_lt_codeBase c
  have hd := toNat_lt_codeBase d
  simp only [pushDigit, codeBase] at h hc hd
  exact ⟨by omega, Char.toNat_inj.mp (by omega)⟩

theorem codeOfChars_append (cs : List Char) (c : Char) :
    codeOfChars (cs ++ [c]) = pushDigit (codeOfChars cs) c := by
  simp [codeOfChars]

theorem codeOfChars_pos (cs : List Char) : 0 < codeOfChars cs := by
  suffices h : ∀ n, 0 < n → 0 < cs.foldl pushDigit n from h 1 Nat.one_pos
  induction cs with
  | nil => exact fun n h => h
  | cons c r ih => exact fun n h => ih _ (by simp only [pushDigit, codeBase]; omega)

/-- A digit more makes the number greater than one. -/
theorem codeOfChars_append_ne_one (cs : List Char) (c : Char) : codeOfChars (cs ++ [c]) ≠ 1 := by
  have h := codeOfChars_pos cs
  simp only [codeOfChars_append, pushDigit, codeBase]
  omega

theorem codeOfChars_inj {cs ds : List Char} (h : codeOfChars cs = codeOfChars ds) : cs = ds := by
  induction hn : cs.length generalizing cs ds with
  | zero =>
    obtain rfl := List.eq_nil_of_length_eq_zero hn
    rcases List.eq_nil_or_concat ds with rfl | ⟨ds, d, rfl⟩
    · rfl
    · rw [List.concat_eq_append] at h
      exact absurd h.symm (codeOfChars_append_ne_one ds d)
  | succ n ih =>
    rcases List.eq_nil_or_concat cs with rfl | ⟨cs, c, rfl⟩
    · simp at hn
    · rcases List.eq_nil_or_concat ds with rfl | ⟨ds, d, rfl⟩
      · rw [List.concat_eq_append] at h
        exact absurd h (codeOfChars_append_ne_one cs c)
      · simp only [List.concat_eq_append, codeOfChars_append] at h ⊢
        obtain ⟨hm, rfl⟩ := pushDigit_inj h
        rw [ih hm (by simpa using hn)]

/-- Different texts have different numbers. -/
theorem code_inj {s t : String} (h : code s = code t) : s = t :=
  String.toList_inj.mp (codeOfChars_inj h)

end MetricRouter.Text
