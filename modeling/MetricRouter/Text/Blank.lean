/-!
# Blank characters and trimming

* `isBlank` — the characters with the Unicode property `White_Space`;
* `trimBlank` — a list of characters without the blank ones at either end;
* `trimBlank_eq_nil_iff`, `trimBlank_trimBlank` — what trimming empties, and that it is idempotent.
-/

namespace MetricRouter.Text

/-- A character with the Unicode property `White_Space`. -/
def isBlank (c : Char) : Bool :=
  let n := c.toNat
  (0x09 ≤ n && n ≤ 0x0D) || n == 0x20 || n == 0x85 || n == 0xA0 || n == 0x1680 ||
    (0x2000 ≤ n && n ≤ 0x200A) || n == 0x2028 || n == 0x2029 || n == 0x202F || n == 0x205F ||
    n == 0x3000

/-- The characters without the blank ones at the start and at the end. -/
def trimBlank (cs : List Char) : List Char :=
  ((cs.dropWhile isBlank).reverse.dropWhile isBlank).reverse

/-- The text without blank characters at either end. -/
def trim (s : String) : String := String.ofList (trimBlank s.toList)

/-! ## Laws of trimming -/

theorem dropWhile_of_head {p : Char → Bool} {cs : List Char}
    (h : ∀ c ∈ cs.head?, p c = false) : cs.dropWhile p = cs := by
  cases cs with
  | nil => rfl
  | cons c r => simp [h c (by simp)]

theorem head_dropWhile {p : Char → Bool} {cs : List Char} :
    ∀ c ∈ (cs.dropWhile p).head?, p c = false := by
  induction cs with
  | nil => simp
  | cons c r ih =>
    cases h : p c with
    | true => simpa [List.dropWhile_cons, h] using ih
    | false => simp [h]

theorem dropWhile_eq_nil_iff {p : Char → Bool} {cs : List Char} :
    cs.dropWhile p = [] ↔ ∀ c ∈ cs, p c = true := by
  induction cs with
  | nil => simp
  | cons c r ih => cases h : p c <;> simp [h, ih]

theorem trimBlank_eq_nil_iff {cs : List Char} :
    trimBlank cs = [] ↔ ∀ c ∈ cs, isBlank c = true := by
  rw [trimBlank, List.reverse_eq_nil_iff, dropWhile_eq_nil_iff]
  simp only [List.mem_reverse]
  constructor
  · intro h
    by_cases hn : cs.dropWhile isBlank = []
    · exact dropWhile_eq_nil_iff.mp hn
    · -- the first character kept is not blank, yet all kept ones are
      obtain ⟨c, r, hc⟩ := List.exists_cons_of_ne_nil hn
      have hf : isBlank c = false := @head_dropWhile isBlank cs c (by simp [hc])
      have ht := h c (by simp [hc])
      simp [hf] at ht
  · intro h c hc
    exact h c ((List.dropWhile_suffix isBlank).subset hc)

/-- A text that neither starts nor ends with a blank character is its own trimmed form. -/
theorem trimBlank_of_ends {cs : List Char} (hh : ∀ c ∈ cs.head?, isBlank c = false)
    (hl : ∀ c ∈ cs.getLast?, isBlank c = false) : trimBlank cs = cs := by
  rw [trimBlank, dropWhile_of_head hh, dropWhile_of_head (by simpa using hl), List.reverse_reverse]

theorem getLast_trimBlank {cs : List Char} : ∀ c ∈ (trimBlank cs).getLast?, isBlank c = false := by
  intro c hc
  rw [trimBlank, List.getLast?_reverse] at hc
  exact head_dropWhile c hc

theorem head_trimBlank {cs : List Char} : ∀ c ∈ (trimBlank cs).head?, isBlank c = false := by
  intro c hc
  rw [trimBlank, List.head?_reverse] at hc
  -- the last character of the second cut is the last one of the first cut's reverse
  have hs := @List.dropWhile_suffix _ (cs.dropWhile isBlank).reverse isBlank
  have hne : (cs.dropWhile isBlank).reverse.dropWhile isBlank ≠ [] := by
    intro h; simp [h] at hc
  have hl : ((cs.dropWhile isBlank).reverse).getLast? = some c := by
    obtain ⟨t, ht⟩ := hs
    rw [← ht, List.getLast?_append]
    simp [Option.mem_def.mp hc]
  rw [List.getLast?_reverse] at hl
  exact head_dropWhile c hl

theorem trimBlank_trimBlank (cs : List Char) : trimBlank (trimBlank cs) = trimBlank cs :=
  trimBlank_of_ends head_trimBlank getLast_trimBlank

theorem mem_of_mem_trimBlank {cs : List Char} {c : Char} (h : c ∈ trimBlank cs) : c ∈ cs := by
  rw [trimBlank, List.mem_reverse] at h
  have h1 := (List.dropWhile_suffix isBlank).subset h
  rw [List.mem_reverse] at h1
  exact (List.dropWhile_suffix isBlank).subset h1

end MetricRouter.Text
