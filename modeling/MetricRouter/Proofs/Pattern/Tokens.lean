import MetricRouter.Pattern.Scan

/-!
# Tokens of a text that goes on

A token of a pattern is read the same when the pattern stands in front of what closes its anchors. There is one
exception: where blanks are ignored, a comment at the end of the pattern swallows the closing.

* `closing`, `Goes` — what stands behind an anchored pattern, and how the text goes on with it;
* `goes_skip`, `skip_append`, `Goes.skip_cons` — blanks and comments;
* `Onward`, `Steady` — what is read of a text is read again when the text goes on, and what is left goes on, too;
* `steady_readHex`, `steady_readCount`, `steady_readProperty`, `steady_readBoundary`, `steady_readEscape`,
  `steady_readGroupStart` — the tokens.
-/

namespace MetricRouter.Pattern

open Text (isBlank)

/-! ## Blanks and comments -/

/-- What stands behind a pattern that is anchored. -/
def closing : List Char := [')', '$']

/-- **The text goes on** with the closing, or there is nothing left, and a comment has swallowed the closing. -/
def Goes (cs cs' : List Char) : Prop := cs' = cs ++ closing ∨ (cs = [] ∧ cs' = [])

section Blanks

variable {blanks : Bool} {c : Char} {cs cs' rest : List Char}

theorem Goes.append (cs : List Char) : Goes cs (cs ++ closing) := Or.inl rfl

theorem Goes.of_cons (h : Goes (c :: rest) cs') : cs' = c :: (rest ++ closing) := by
  rcases h with h | ⟨h, -⟩
  · exact h
  · exact absurd h (by simp)

theorem Goes.ne_cons (h : Goes cs cs') (hc : c ≠ ')') (hne : ∀ tl, cs ≠ c :: tl) : ∀ tl, cs' ≠ c :: tl := by
  intro tl heq
  rcases h with rfl | ⟨-, rfl⟩
  · cases cs with
    | nil => exact hc (List.cons.inj heq).1.symm
    | cons d ds => exact hne ds ((List.cons.inj heq).1 ▸ rfl)
  · cases heq

theorem Goes.length_le (h : Goes cs cs') : cs.length ≤ cs'.length := by
  rcases h with rfl | ⟨rfl, rfl⟩
  · exact List.length_append ▸ Nat.le_add_right _ _
  · exact Nat.le_refl _

theorem goes_skipBlanks (inComment : Bool) (cs : List Char) :
    Goes (skipBlanks inComment cs) (skipBlanks inComment (cs ++ closing)) := by
  induction cs generalizing inComment with
  | nil =>
    cases inComment with
    | true => exact Or.inr ⟨rfl, rfl⟩
    | false => exact Or.inl rfl
  | cons c rest ih =>
    rw [List.cons_append, skipBlanks, skipBlanks]
    split
    · exact ih _
    · split
      · exact ih _
      · split
        · exact ih _
        · exact .append _

theorem length_skipBlanks_le (inComment : Bool) (cs : List Char) : (skipBlanks inComment cs).length ≤ cs.length := by
  induction cs generalizing inComment with
  | nil => exact Nat.le_refl _
  | cons c rest ih =>
    have hrest := fun b => Nat.le_succ_of_le (ih b)
    rw [skipBlanks]
    split
    · exact hrest _
    · split
      · exact hrest _
      · split
        · exact hrest _
        · exact Nat.le_refl _

theorem goes_skip (blanks : Bool) (cs : List Char) : Goes (skip blanks cs) (skip blanks (cs ++ closing)) := by
  unfold skip
  split
  · exact goes_skipBlanks false cs
  · exact .append cs

theorem length_skip_le (blanks : Bool) (cs : List Char) : (skip blanks cs).length ≤ cs.length := by
  unfold skip
  split
  · exact length_skipBlanks_le false cs
  · exact Nat.le_refl _

/-- **Where there is a token, the text goes on behind it.** -/
theorem skip_append (h : skip blanks cs = c :: rest) : skip blanks (cs ++ closing) = c :: (rest ++ closing) :=
  (h ▸ goes_skip blanks cs).of_cons

theorem length_lt_of_skip (h : skip blanks cs = c :: rest) : rest.length < cs.length := by
  have hle := length_skip_le blanks cs
  rwa [h] at hle

theorem Goes.skip_cons (h : Goes cs cs') (hs : skip blanks cs = c :: rest) :
    skip blanks cs' = c :: (rest ++ closing) := by
  rcases h with rfl | ⟨rfl, -⟩
  · exact skip_append hs
  · have hlt := length_lt_of_skip hs
    exact absurd hlt (Nat.not_lt_zero _)

theorem Goes.skip (h : Goes cs cs') (blanks : Bool) : Goes (skip blanks cs) (skip blanks cs') := by
  rcases h with rfl | ⟨rfl, rfl⟩
  · exact goes_skip blanks cs
  · exact Or.inr (by cases blanks <;> exact ⟨rfl, rfl⟩)

theorem dropWhile_isBlank_append (cs : List Char) :
    (cs ++ closing).dropWhile isBlank = cs.dropWhile isBlank ++ closing := by
  rw [List.dropWhile_append]
  split
  · rename_i hempty
    rw [List.isEmpty_iff.mp hempty]
    rfl
  · rfl

theorem goes_dropWhile_isBlank (h : Goes cs cs') : Goes (cs.dropWhile isBlank) (cs'.dropWhile isBlank) := by
  rcases h with rfl | ⟨rfl, rfl⟩
  · exact Or.inl (dropWhile_isBlank_append cs)
  · exact Or.inr ⟨rfl, rfl⟩

theorem length_dropWhile_isBlank_le (cs : List Char) : (cs.dropWhile isBlank).length ≤ cs.length :=
  (List.dropWhile_suffix isBlank).length_le

end Blanks

/-! ## Reading on -/

section Onward

variable {α β : Type} {m n : Nat} {x y : Except SyntaxFault (α × List Char)} {cs cs' rest rest' : List Char}

theorem exists_of_map_eq_ok {ε α β : Type} {x : Except ε α} {f : α → β} {b : β} (h : x.map f = .ok b) :
    ∃ a, x = .ok a ∧ f a = b := by
  cases x with
  | error e => cases h
  | ok a => exact ⟨a, rfl, Except.ok.inj h⟩

/-- **What is read is read again**, and what is left, at most so many characters, goes on. -/
structure Onward (n : Nat) (x y : Except SyntaxFault (α × List Char)) : Prop where
  again : ∀ {v rest}, x = .ok (v, rest) → rest.length ≤ n ∧ ∃ rest', y = .ok (v, rest') ∧ Goes rest rest'

/-- **Whatever is read is read again when the text goes on.** -/
def Steady (read : List Char → Except SyntaxFault (α × List Char)) : Prop :=
  ∀ cs, Onward cs.length (read cs) (read (cs ++ closing))

theorem Onward.error {e : SyntaxFault} : Onward n (.error e) y := ⟨fun h => absurd h (by simp)⟩

theorem Onward.of_eq {e : SyntaxFault} (h : x = .error e) : Onward n x y := h ▸ .error

theorem Onward.ok {v : α} (hn : rest.length ≤ n) (h : Goes rest rest') : Onward n (.ok (v, rest)) (.ok (v, rest')) := by
  refine ⟨fun heq => ?_⟩
  obtain ⟨rfl, rfl⟩ := Prod.mk.inj (Except.ok.inj heq)
  exact ⟨hn, rest', rfl, h⟩

theorem Onward.mono (h : Onward m x y) (hmn : m ≤ n) : Onward n x y :=
  ⟨fun hx => ⟨Nat.le_trans (h.again hx).1 hmn, (h.again hx).2⟩⟩

theorem Onward.map (h : Onward n x y) (f : α → β) :
    Onward n (x.map fun p => (f p.1, p.2)) (y.map fun p => (f p.1, p.2)) := by
  cases hx : x with
  | error e => exact .error
  | ok p =>
    obtain ⟨v, rest⟩ := p
    obtain ⟨hn, rest', rfl, hgoes⟩ := h.again hx
    exact .ok hn hgoes

/-- What is read in two parts, taken as one. -/
def paired {γ : Type} (x : Except SyntaxFault (α × β × γ)) : Except SyntaxFault ((α × β) × γ) :=
  x.map fun p => ((p.1, p.2.1), p.2.2)

theorem paired_map {γ : Type} (x : Except SyntaxFault (β × γ)) (a : α) :
    paired (x.map fun p => (a, p.1, p.2)) = x.map fun p => ((a, p.1), p.2) := by
  cases x <;> rfl

theorem Onward.unpaired {x y : Except SyntaxFault (α × β × List Char)} {a : α} {b : β}
    (h : Onward n (paired x) (paired y)) (hx : x = .ok (a, b, rest)) :
    rest.length ≤ n ∧ ∃ rest', y = .ok (a, b, rest') ∧ Goes rest rest' := by
  obtain ⟨hn, rest', hy, hgoes⟩ := h.again (congrArg paired hx)
  obtain ⟨⟨c, d, left⟩, rfl, heq⟩ := exists_of_map_eq_ok hy
  obtain ⟨⟨rfl, rfl⟩, rfl⟩ : (c = a ∧ d = b) ∧ left = rest' := by simpa using heq
  exact ⟨hn, left, rfl, hgoes⟩

theorem Steady.onward {read : List Char → Except SyntaxFault (α × List Char)} (h : Steady read)
    (hn : cs.length ≤ n) (hcs : Goes cs cs') : Onward n (read cs) (read cs') := by
  rcases hcs with rfl | ⟨rfl, rfl⟩
  · exact (h cs).mono hn
  · -- nothing is left, in both texts
    refine ⟨fun {v rest} hread => ?_⟩
    have hnil : rest = [] := List.length_eq_zero_iff.mp (Nat.le_zero.mp ((h []).again hread).1)
    exact ⟨hnil ▸ Nat.zero_le n, rest, hread, Or.inr ⟨hnil, hnil⟩⟩

end Onward

/-! ## Numbers -/

section Numbers

variable {blanks : Bool} {c : Char} {cs tl rest : List Char}

theorem steady_readHexDigits (blanks : Bool) (n value : Nat) : Steady (readHexDigits blanks n value) := by
  induction n generalizing value with
  | zero => exact fun cs => .ok (Nat.le_refl _) (.append cs)
  | succ n ih =>
    intro cs
    cases cs with
    | nil => exact .error
    | cons c tl =>
      rw [List.cons_append, readHexDigits, readHexDigits]
      cases hexValue? c with
      | none => exact .error
      | some d => exact (ih _).onward (Nat.le_succ_of_le (length_skip_le blanks tl)) (goes_skip blanks tl)

theorem onward_readBracedHex (blanks inComment : Bool) (count value : Nat) (cs : List Char) :
    Onward cs.length (paired (readBracedHex blanks inComment count value cs))
      (paired (readBracedHex blanks inComment count value (cs ++ closing))) := by
  induction cs generalizing inComment count value with
  | nil => exact .error
  | cons c tl ih =>
    have hih := fun b k l => (ih b k l).mono (Nat.le_succ tl.length)
    rw [List.cons_append, readBracedHex, readBracedHex]
    split
    · exact hih _ _ _
    · split
      · exact hih _ _ _
      · split
        · exact hih _ _ _
        · split
          · exact .ok (Nat.le_succ_of_le (length_skip_le blanks tl)) (goes_skip blanks tl)
          · cases hexValue? c with
            | none => exact .error
            | some d => exact hih _ _ _

theorem readHex_of_brace {digits : Nat} (h : skip blanks cs = '{' :: tl) : readHex blanks digits cs =
    match readBracedHex blanks false 0 0 tl with
    | .error e => .error e
    | .ok (0, _, _) => .error .hexInvalid
    | .ok (_, value, rest) =>
      match charOfNat? value with
      | none => .error .hexInvalid
      | some c => .ok (⟨c, false⟩, rest) := by
  unfold readHex
  rw [h]
  rfl

theorem readHex_of_ne {digits : Nat} (h : skip blanks cs = c :: tl) (hc : c ≠ '{') : readHex blanks digits cs =
    match readHexDigits blanks digits 0 (c :: tl) with
    | .error e => .error e
    | .ok (value, rest) =>
      match charOfNat? value with
      | none => .error .hexInvalid
      | some c => .ok (⟨c, digits == 2⟩, rest) := by
  unfold readHex
  rw [h]
  split
  · rename_i hnil
    exact absurd hnil (by simp)
  · rename_i hbrace
    exact absurd (List.cons.inj hbrace).1 hc
  · rfl

theorem steady_readHex (blanks : Bool) (digits : Nat) : Steady (readHex blanks digits) := by
  intro cs
  cases hs : skip blanks cs with
  | nil =>
    exact .of_eq (by rw [readHex, hs])
  | cons c tl =>
    have hlength := length_lt_of_skip hs
    by_cases hc : c = '{'
    · subst hc
      rw [readHex_of_brace hs, readHex_of_brace (skip_append hs)]
      cases hread : readBracedHex blanks false 0 0 tl with
      | error e => exact .error
      | ok p =>
        obtain ⟨n, value, more⟩ := p
        obtain ⟨hle, more', hread', hgoes⟩ := (onward_readBracedHex blanks false 0 0 tl).unpaired hread
        rw [hread']
        cases n with
        | zero => exact .error
        | succ n =>
          simp only
          cases charOfNat? value with
          | none => exact .error
          | some c => exact .ok (Nat.le_of_lt (Nat.lt_of_le_of_lt hle hlength)) hgoes
    · rw [readHex_of_ne hs hc, readHex_of_ne (skip_append hs) hc]
      cases hread : readHexDigits blanks digits 0 (c :: tl) with
      | error e => exact .error
      | ok p =>
        obtain ⟨value, more⟩ := p
        obtain ⟨hle, more', hread', hgoes⟩ := (steady_readHexDigits blanks digits 0 (c :: tl)).again hread
        rw [← List.cons_append, hread']
        simp only
        cases charOfNat? value with
        | none => exact .error
        | some d => exact .ok (Nat.le_trans hle hlength) hgoes

theorem onward_readDigits (blanks inComment : Bool) (digits cs : List Char) :
    Onward cs.length (.ok (readDigits blanks inComment digits cs))
      (.ok (readDigits blanks inComment digits (cs ++ closing))) := by
  induction cs generalizing inComment digits with
  | nil =>
    cases inComment with
    | true => exact .ok (Nat.le_refl _) (Or.inr ⟨rfl, rfl⟩)
    | false =>
      have hclosing : readDigits blanks false digits closing = (digits, closing) := by cases blanks <;> rfl
      rw [List.nil_append, hclosing]
      exact .ok (Nat.le_refl _) (.append [])
  | cons c tl ih =>
    have hih := fun b ds => (ih b ds).mono (Nat.le_succ tl.length)
    rw [List.cons_append, readDigits, readDigits]
    split
    · exact hih _ _
    · split
      · exact hih _ _
      · split
        · exact hih _ _
        · split
          · exact hih _ _
          · exact .ok (Nat.le_refl _) (.append (c :: tl))

theorem onward_readDecimal (blanks : Bool) (cs : List Char) :
    Onward cs.length (.ok (readDecimal blanks cs)) (.ok (readDecimal blanks (cs ++ closing))) := by
  obtain ⟨hle, rest', hread, hgoes⟩ := (onward_readDigits blanks false [] (cs.dropWhile isBlank)).again rfl
  have hlength : _ ≤ cs.length :=
    Nat.le_trans (length_dropWhile_isBlank_le _) (Nat.le_trans hle (length_dropWhile_isBlank_le cs))
  have hrest := goes_dropWhile_isBlank hgoes
  have hread' := Except.ok.inj hread
  simp only [readDecimal, dropWhile_isBlank_append, hread']
  split
  · exact .ok hlength hrest
  · split
    · exact .ok hlength hrest
    · exact .ok hlength hrest

theorem readDecimal_append {v : Except SyntaxFault Nat} (h : readDecimal blanks cs = (v, c :: rest)) :
    rest.length < cs.length ∧ readDecimal blanks (cs ++ closing) = (v, c :: (rest ++ closing)) := by
  obtain ⟨hle, rest', hread, hgoes⟩ := (onward_readDecimal blanks cs).again (congrArg _ h)
  exact ⟨hle, hgoes.of_cons ▸ Except.ok.inj hread⟩

/-- **The three forms of a count**: one bound, a lower bound, and two bounds. -/
theorem readCount_cases {least : Nat} {most : Option Nat}
    (h : readCount blanks cs = .ok ((least, most), rest)) : ∃ c tl, skip blanks cs = c :: tl ∧
      ((∃ more, readDecimal blanks (c :: tl) = (.ok least, '}' :: more) ∧ most = some least ∧
          rest = skip blanks more) ∨
        (∃ upper more, readDecimal blanks (c :: tl) = (.ok least, ',' :: upper) ∧ skip blanks upper = '}' :: more ∧
          most = none ∧ rest = skip blanks more) ∨
        (∃ upper d ds n more, readDecimal blanks (c :: tl) = (.ok least, ',' :: upper) ∧
          skip blanks upper = d :: ds ∧ d ≠ '}' ∧ readDecimal blanks (d :: ds) = (.ok n, '}' :: more) ∧
          least ≤ n ∧ most = some n ∧ rest = skip blanks more)) := by
  cases hs : skip blanks cs with
  | nil => simp [readCount, hs] at h
  | cons c tl =>
    refine ⟨c, tl, rfl, ?_⟩
    rw [readCount, hs] at h
    simp only at h
    split at h
    · cases h
    · split at h
      · cases h
      · split at h
        · cases h
        · simp only [Except.ok.injEq, Prod.mk.injEq] at h
          obtain ⟨⟨rfl, rfl⟩, rfl⟩ := h
          exact Or.inr (Or.inl ⟨_, _, ‹_›, ‹_›, rfl, rfl⟩)
      · rename_i upper _ _ hnil hbrace
        split at h
        · cases h
        · split at h
          · cases h
          · split at h
            · simp only [Except.ok.injEq, Prod.mk.injEq] at h
              obtain ⟨⟨rfl, rfl⟩, rfl⟩ := h
              cases hu : skip blanks upper with
              | nil => exact absurd hu hnil
              | cons d ds =>
                have hd : d ≠ '}' := fun heq => hbrace ds (heq ▸ hu)
                exact Or.inr (Or.inr ⟨upper, d, ds, _, _, ‹_›, hu, hd, hu ▸ ‹_›, ‹_›, rfl, rfl⟩)
            · cases h
          · cases h
    · split at h
      · cases h
      · simp only [Except.ok.injEq, Prod.mk.injEq] at h
        obtain ⟨⟨rfl, rfl⟩, rfl⟩ := h
        exact Or.inl ⟨_, ‹_›, rfl, rfl⟩
    · cases h
    · cases h

theorem steady_readCount (blanks : Bool) : Steady (readCount blanks) := by
  intro cs
  refine ⟨fun {v rest} h => ?_⟩
  obtain ⟨least, most⟩ := v
  obtain ⟨c, tl, hs, hforms⟩ := readCount_cases h
  have hlength := length_lt_of_skip hs
  have hs' := skip_append hs
  rcases hforms with ⟨more, hread, rfl, rfl⟩ | ⟨upper, more, hread, hupper, rfl, rfl⟩ |
    ⟨upper, d, ds, n, more, hread, hupper, hd, hlast, hle, rfl, rfl⟩
  · obtain ⟨hmore, hread'⟩ := readDecimal_append hread
    have hskip := length_skip_le blanks more
    rw [List.length_cons] at hmore
    refine ⟨by omega, _, ?_, goes_skip blanks more⟩
    rw [List.cons_append] at hread'
    simp [readCount, hs', hread']
  · obtain ⟨hmore, hread'⟩ := readDecimal_append hread
    have hupper' := length_lt_of_skip hupper
    have hskip := length_skip_le blanks more
    rw [List.length_cons] at hmore
    refine ⟨by omega, _, ?_, goes_skip blanks more⟩
    rw [List.cons_append] at hread'
    simp [readCount, hs', hread', skip_append hupper]
  · obtain ⟨hmore, hread'⟩ := readDecimal_append hread
    obtain ⟨hend, hlast'⟩ := readDecimal_append hlast
    have hupper' := length_lt_of_skip hupper
    have hskip := length_skip_le blanks more
    rw [List.length_cons] at hmore hend
    refine ⟨by omega, _, ?_, goes_skip blanks more⟩
    rw [List.cons_append] at hread' hlast'
    simp [readCount, hs', hread', skip_append hupper, hd, hlast', hle]

theorem readCount_ordered {least : Nat} {most : Option Nat} (h : readCount blanks cs = .ok ((least, most), rest)) :
    ∀ k, most = some k → least ≤ k := by
  obtain ⟨c, tl, -, hforms⟩ := readCount_cases h
  rcases hforms with ⟨more, -, rfl, -⟩ | ⟨upper, more, -, -, rfl, -⟩ | ⟨upper, d, ds, n, more, -, -, -, -, hle, rfl, -⟩
  · exact fun k hk => Nat.le_of_eq (Option.some.inj hk)
  · exact fun k hk => absurd hk (by simp)
  · exact fun k hk => Option.some.inj hk ▸ hle

end Numbers

/-! ## Escapes -/

theorem steady_readBraced (blanks inComment : Bool) (name : List Char) : Steady (readBraced blanks inComment name) := by
  intro cs
  induction cs generalizing inComment name with
  | nil => exact .error
  | cons c tl ih =>
    have hih := fun b ds => (ih b ds).mono (Nat.le_succ tl.length)
    rw [List.cons_append, readBraced, readBraced]
    split
    · exact hih _ _
    · split
      · exact hih _ _
      · split
        · exact hih _ _
        · split
          · exact .ok (Nat.le_succ _) (.append tl)
          · exact hih _ _

theorem steady_readProperty (blanks : Bool) : Steady (readProperty blanks) := by
  intro cs
  cases hs : skip blanks cs with
  | nil =>
    exact .of_eq (by rw [readProperty, hs])
  | cons c tl =>
    have hs' := skip_append hs
    have hlength := length_lt_of_skip hs
    by_cases hbrace : c = '{'
    · subst hbrace
      have hread {cs tl} (h : skip blanks cs = '{' :: tl) :
          readProperty blanks cs = (readBraced blanks false [] tl).map (fun p => (PropertyQuery.ofName p.1, p.2)) := by
        simp only [readProperty, h]
        cases readBraced blanks false [] tl <;> rfl
      rw [hread hs, hread hs']
      exact ((steady_readBraced blanks false [] tl).mono (Nat.le_of_lt hlength)).map _
    · by_cases hslash : c = '\\'
      · subst hslash
        have herror : readProperty blanks cs = .error .propertyUnfinished := by simp only [readProperty, hs]
        exact .of_eq herror
      · have hskip := length_skip_le blanks tl
        simp only [readProperty, hs, hs']
        exact .ok (by omega) (goes_skip blanks tl)

theorem steady_readBoundaryName (blanks inComment : Bool) (name : List Char) :
    Steady (readBoundaryName blanks inComment name) := by
  intro cs
  induction cs generalizing inComment name with
  | nil => exact .error
  | cons c tl ih =>
    have hih := fun b ds => (ih b ds).mono (Nat.le_succ tl.length)
    rw [List.cons_append, readBoundaryName, readBoundaryName]
    split
    · exact hih _ _
    · split
      · exact hih _ _
      · split
        · exact hih _ _
        · split
          · exact hih _ _
          · split
            · exact .ok (Nat.le_succ _) (.append tl)
            · exact .error

theorem steady_readBoundary (blanks : Bool) : Steady (readBoundary blanks) := by
  intro cs
  by_cases hbrace : ∃ tl, cs = '{' :: tl
  · obtain ⟨tl, rfl⟩ := hbrace
    cases hs : skip blanks tl with
    | nil =>
      exact .of_eq (by rw [readBoundary, hs])
    | cons c more =>
      have hlength := length_lt_of_skip hs
      simp only [List.cons_append, readBoundary, hs, skip_append hs]
      split
      · cases hread : readBoundaryName blanks false [] (c :: more) with
        | error e => exact .error
        | ok p =>
          obtain ⟨name, rest⟩ := p
          obtain ⟨hle, rest', hread', hgoes⟩ := (steady_readBoundaryName blanks false [] (c :: more)).again hread
          rw [List.length_cons] at hle
          rw [List.cons_append] at hread'
          simp only [hread']
          split
          all_goals first | exact .ok (by simp only [List.length_cons]; omega) hgoes | exact .error
      · exact .ok (Nat.le_refl _) (.append ('{' :: tl))
  · have hread {cs : List Char} (h : ∀ tl, cs ≠ '{' :: tl) : readBoundary blanks cs = .ok (.wordBoundary, cs) := by
      unfold readBoundary
      split
      · exact absurd rfl (h _)
      · rfl
    have hne : ∀ tl, cs ≠ '{' :: tl := fun tl h => hbrace ⟨tl, h⟩
    rw [hread hne, hread ((Goes.append cs).ne_cons (by decide) hne)]
    exact .ok (Nat.le_refl _) (.append cs)

theorem steady_readEscape (blanks : Bool) : Steady (readEscape blanks) := by
  intro cs
  cases cs with
  | nil => exact .error
  | cons c rest =>
    have hrest {a : Atom} : Onward (c :: rest).length (.ok (a, rest)) (.ok (a, rest ++ closing)) :=
      .ok (Nat.le_succ _) (.append rest)
    have hhex := fun digits => (steady_readHex blanks digits rest).mono (Nat.le_succ _)
    have hproperty := (steady_readProperty blanks rest).mono (Nat.le_succ _)
    simp only [List.cons_append, readEscape]
    split
    · exact .error
    · split
      case h_1 | h_2 | h_3 => exact (hhex _).map Atom.literal
      case h_4 | h_5 => exact hproperty.map fun p => Atom.unicodeClass p.1 (p.2 != _)
      case h_20 => exact ((steady_readBoundary blanks rest).mono (Nat.le_succ _)).map Atom.assertion
      case h_24 =>
        split
        · exact hrest
        · exact .error
      all_goals exact hrest

/-! ## Groups -/

section Groups
variable {blanks : Bool} {c : Char} {cs tl rest : List Char}

theorem onward_readFlags (negated dangling : Bool) (change : FlagChange) (cs : List Char) :
    Onward cs.length (paired (readFlags negated dangling change cs))
      (paired (readFlags negated dangling change (cs ++ closing))) := by
  induction cs generalizing negated dangling change with
  | nil => exact .error
  | cons c tl ih =>
    have hih := fun n d f => (ih n d f).mono (Nat.le_succ tl.length)
    rw [List.cons_append, readFlags, readFlags]
    split
    · split
      · exact .error
      · exact .ok (Nat.le_succ _) (.append tl)
    · split
      · split
        · exact .error
        · exact hih _ _ _
      · cases Flag.ofChar? c with
        | none => exact .error
        | some f =>
          simp only
          split
          · exact .error
          · exact hih _ _ _

theorem steady_readGroupName (name : List Char) : Steady (readGroupName name) := by
  intro cs
  induction cs generalizing name with
  | nil => exact .error
  | cons c tl ih =>
    rw [List.cons_append, readGroupName, readGroupName]
    split
    · split
      · exact .error
      · exact .ok (Nat.le_succ _) (.append tl)
    · split
      · exact (ih _).mono (Nat.le_succ _)
      · exact .error

theorem head_of_readFlags {p : FlagChange × Char × List Char} (h : readFlags false false [] cs = .ok p) :
    ∃ d ds, cs = d :: ds ∧ d ≠ '=' ∧ d ≠ '!' ∧ d ≠ '<' ∧ d ≠ 'P' := by
  cases cs with
  | nil => simp [readFlags] at h
  | cons d ds =>
    refine ⟨d, ds, rfl, ?_, ?_, ?_, ?_⟩
    all_goals
      rintro rfl
      simp [readFlags, Flag.ofChar?] at h

theorem readGroupStart_of_flags {change : FlagChange} (hs : skip blanks cs = '?' :: tl)
    (hflags : readFlags false false [] tl = .ok (change, c, rest)) : readGroupStart blanks cs =
      if c = ')' then
        if change.isEmpty then .error .repetitionMissing else .ok (.flags change, rest)
      else .ok (.group change false none, rest) := by
  obtain ⟨d, ds, rfl, h1, h2, h3, h4⟩ := head_of_readFlags hflags
  by_cases hc : c = ')' <;> simp [readGroupStart, hs, h1, h2, h3, h4, hflags, hc]

theorem readGroupStart_of_ne (h : ∀ tl, skip blanks cs ≠ '?' :: tl) :
    readGroupStart blanks cs = .ok (.group [] true none, skip blanks cs) := by
  unfold readGroupStart
  split
  case h_8 => rfl
  all_goals exact absurd ‹skip blanks cs = _› (h _)

theorem steady_readGroupStart (blanks : Bool) : Steady (readGroupStart blanks) := by
  intro cs
  refine ⟨fun {v rest} h => ?_⟩
  have hskip := length_skip_le blanks cs
  have hnamed {more : List Char} (hmore : more.length ≤ cs.length) :=
    ((steady_readGroupName [] more).mono hmore).map fun name => GroupStart.group [] true (some name)
  have hstart := h
  unfold readGroupStart at h
  split at h
  case h_1 | h_2 | h_3 | h_4 => cases h
  case h_5 more hs =>
    rw [hs] at hskip
    simp only [readGroupStart, skip_append hs, List.cons_append]
    exact (hnamed (Nat.le_of_lt (by simp at hskip; omega))).again h
  case h_6 more hne hbang hs =>
    cases more with
    | nil => simp [readGroupName, Except.map] at h
    | cons d ds =>
      rw [hs] at hskip
      have hd : d ≠ '=' := fun heq => hne ds (heq ▸ rfl)
      have hd' : d ≠ '!' := fun heq => hbang ds (heq ▸ rfl)
      have hread : readGroupStart blanks (cs ++ closing) = (readGroupName [] (d :: ds ++ closing)).map
          fun p => (.group [] true (some p.1), p.2) := by simp [readGroupStart, skip_append hs, hd, hd']
      rw [hread]
      exact (hnamed (Nat.le_of_lt (by simp at hskip ⊢; omega))).again h
  case h_7 more _ _ _ _ _ _ hs =>
    cases hflags : readFlags false false [] more with
    | error e => simp [hflags] at h
    | ok p =>
      obtain ⟨change, c, left⟩ := p
      obtain ⟨hle, left', hflags', hgoes⟩ := (onward_readFlags false false [] more).unpaired hflags
      have hlength := length_lt_of_skip hs
      have honward : Onward cs.length (readGroupStart blanks cs) (readGroupStart blanks (cs ++ closing)) := by
        rw [readGroupStart_of_flags hs hflags, readGroupStart_of_flags (skip_append hs) hflags']
        split
        · split
          · exact .error
          · exact .ok (by omega) hgoes
        · exact .ok (by omega) hgoes
      exact honward.again hstart
  case h_8 _ _ _ _ _ _ hne =>
    have hne' := (goes_skip blanks cs).ne_cons (by decide) hne
    have honward : Onward cs.length (readGroupStart blanks cs) (readGroupStart blanks (cs ++ closing)) := by
      rw [readGroupStart_of_ne hne, readGroupStart_of_ne hne']
      exact .ok hskip (goes_skip blanks cs)
    exact honward.again hstart

end Groups

end MetricRouter.Pattern

