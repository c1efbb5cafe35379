import Mathlib
import MetricRouter.Pattern.Matching

/-!
# What the search finds

The search for matches goes from a set of places to the set of all places that a match can lead to. It finds exactly the
places that the meaning of the expression allows.

* `Regex.Ordered` — the bounds of every repetition are in order;
* `testBit_maskOf`, `getElem?_neighbours` — the places of a character and of a condition;
* `Inside`, `Follows` — sets of places of a text, and functions that find the ends of matches;
* `exists_runs_succ`, `testBit_repeatExactly`, `testBit_repeatUpTo` — repetitions up to a bound;
* `missing`, `closed_repeatUpTo`, `testBit_saturated` — repetitions without a bound: after as many rounds as there are
  places, no place is found any more;
* `follows_plan` — the main statement; `isMatch_iff`, `matchesWhole_iff` — the same for whole texts.
-/

namespace MetricRouter.Pattern

/-- The bounds of every repetition are in order. -/
def Regex.Ordered : Regex → Prop
  | .empty => True
  | .chars _ _ => True
  | .look _ => True
  | .concat a b => a.Ordered ∧ b.Ordered
  | .alternate a b => a.Ordered ∧ b.Ordered
  | .group _ r => r.Ordered
  | .iterate r least most _ => r.Ordered ∧ ∀ k, most = some k → least ≤ k

/-! ## Places -/

theorem testBit_maskOf {α : Type} (p : α → Bool) (xs : List α) (i : Nat) :
    (maskOf p xs).testBit i = xs[i]?.any p := by
  induction xs generalizing i with
  | nil => simp [maskOf]
  | cons x rest ih =>
    have hbit : (if p x then 1 else 0) ≤ 1 := by split <;> omega
    rw [maskOf]
    cases i with
    | zero => cases hx : p x <;> simp [Nat.testBit_zero, hx, Nat.add_mod]
    | succ i =>
      rw [Nat.testBit_succ, List.getElem?_cons_succ, ← ih, show (2 * maskOf p rest + _) / 2 = maskOf p rest by omega]

theorem getElem?_neighbours (before : Option Char) (w : List Char) (i : Nat) : (neighbours before w)[i]? =
    if i ≤ w.length then some (if i = 0 then before else w[i - 1]?, w[i]?) else none := by
  induction w generalizing before i with
  | nil => cases i <;> simp [neighbours]
  | cons c rest ih =>
    rw [neighbours]
    cases i with
    | zero => simp
    | succ i =>
      rw [List.getElem?_cons_succ, ih]
      cases i <;> simp

theorem testBit_look (l : Look) (w : List Char) (i : Nat) :
    (maskOf (fun p => l.holds p.1 p.2) (neighbours none w)).testBit i = true ↔
      i ≤ w.length ∧ l.holds (charBefore w i) w[i]? = true := by
  rw [testBit_maskOf, getElem?_neighbours, charBefore]
  split <;> rename_i h <;> simp [h]

/-! ## Runs -/

section Runs

variable {w : List Char} {r : Regex} {i j k m n : Nat}

theorem runs_zero_iff : Runs w r 0 i j ↔ i = j ∧ i ≤ w.length := by
  constructor
  · intro h
    cases h with
    | none inside => exact ⟨rfl, inside⟩
  · rintro ⟨rfl, inside⟩
    exact .none inside

theorem runs_succ_iff : Runs w r (n + 1) i k ↔ ∃ j, Spans w r i j ∧ Runs w r n j k := by
  constructor
  · intro h
    cases h with
    | more first rest => exact ⟨_, first, rest⟩
  · rintro ⟨j, first, rest⟩
    exact .more first rest

theorem inside_of_spans (h : Spans w r i j) : i ≤ w.length ∧ j ≤ w.length := by
  induction r generalizing i j with
  | empty =>
    cases h with
    | empty inside => exact ⟨inside, inside⟩
  | chars set ascii =>
    cases h with
    | chars at_place =>
      have hlt := (List.getElem?_eq_some_iff.mp at_place).1
      exact ⟨Nat.le_of_lt hlt, hlt⟩
  | look l =>
    cases h with
    | look inside => exact ⟨inside, inside⟩
  | concat a b iha ihb =>
    cases h with
    | concat first second => exact ⟨(iha first).1, (ihb second).2⟩
  | alternate a b iha ihb =>
    cases h with
    | left h => exact iha h
    | right h => exact ihb h
  | group captures r ih =>
    cases h with
    | group h => exact ih h
  | iterate r least most greedy ih =>
    cases h with
    | @iterate _ _ _ _ n _ _ _ _ run =>
      clear * - run ih
      induction n generalizing i with
      | zero =>
        obtain ⟨rfl, inside⟩ := runs_zero_iff.mp run
        exact ⟨inside, inside⟩
      | succ n ihn =>
        obtain ⟨k, first, rest⟩ := runs_succ_iff.mp run
        exact ⟨(ih first).1, (ihn rest).2⟩

theorem inside_of_runs (h : Runs w r n i j) : i ≤ w.length ∧ j ≤ w.length := by
  have hspans : Spans w (.iterate r n (some n) true) i j :=
    .iterate (Nat.le_refl n) (fun _ hk => Nat.le_of_eq (Option.some.inj hk)) h
  exact inside_of_spans hspans

theorem runs_add_iff : Runs w r (m + n) i k ↔ ∃ j, Runs w r m i j ∧ Runs w r n j k := by
  induction m generalizing i with
  | zero =>
    rw [Nat.zero_add]
    constructor
    · intro h
      exact ⟨i, .none (inside_of_runs h).1, h⟩
    · rintro ⟨j, hzero, h⟩
      rwa [(runs_zero_iff.mp hzero).1]
  | succ m ih =>
    rw [Nat.succ_add, runs_succ_iff]
    constructor
    · rintro ⟨j, first, rest⟩
      obtain ⟨l, hm, hn⟩ := ih.mp rest
      exact ⟨l, .more first hm, hn⟩
    · rintro ⟨l, hm, hn⟩
      obtain ⟨j, first, rest⟩ := runs_succ_iff.mp hm
      exact ⟨j, first, ih.mpr ⟨l, rest, hn⟩⟩

end Runs

/-! ## Sets of places -/

/-- The places are those of a text of this length. -/
def Inside (length s : Nat) : Prop := ∀ j, s.testBit j = true → j ≤ length

/-- **A function finds the ends of the matches** that start at one of some places. -/
def Follows (w : List Char) (r : Regex) (f : Nat → Nat) : Prop :=
  ∀ s, Inside w.length s → ∀ j, (f s).testBit j = true ↔ ∃ i, s.testBit i = true ∧ Spans w r i j

section Follows

variable {w : List Char} {r : Regex} {f : Nat → Nat} {s : Nat} {i j n : Nat}

theorem Follows.inside (h : Follows w r f) (hs : Inside w.length s) : Inside w.length (f s) := fun j hj => by
  obtain ⟨i, -, hspans⟩ := (h s hs j).mp hj
  exact (inside_of_spans hspans).2

theorem Inside.lor {t : Nat} (hs : Inside n s) (ht : Inside n t) : Inside n (s ||| t) := fun j hj => by
  rw [Nat.testBit_or, Bool.or_eq_true] at hj
  exact hj.elim (hs j) (ht j)

/-- **One round first**: to run once more is to run from where the first round ends. -/
theorem exists_runs_succ (h : Follows w r f) (hs : Inside w.length s) :
    (∃ i, s.testBit i = true ∧ Runs w r (n + 1) i j) ↔ ∃ i, (f s).testBit i = true ∧ Runs w r n i j := by
  constructor
  · rintro ⟨i, hi, hruns⟩
    obtain ⟨k, first, rest⟩ := runs_succ_iff.mp hruns
    exact ⟨k, (h s hs k).mpr ⟨i, hi, first⟩, rest⟩
  · rintro ⟨k, hk, rest⟩
    obtain ⟨i, hi, first⟩ := (h s hs k).mp hk
    exact ⟨i, hi, .more first rest⟩

theorem exists_runs_zero (hs : Inside w.length s) :
    (∃ i, s.testBit i = true ∧ Runs w r 0 i j) ↔ s.testBit j = true := by
  constructor
  · rintro ⟨i, hi, hruns⟩
    exact (runs_zero_iff.mp hruns).1 ▸ hi
  · exact fun hj => ⟨j, hj, .none (hs j hj)⟩

/-- Where a round leads nowhere else, no number of rounds does. -/
theorem exists_runs_of_fixed (h : Follows w r f) (hs : Inside w.length s) (hfixed : f s = s) (n : Nat) :
    (∃ i, s.testBit i = true ∧ Runs w r n i j) ↔ s.testBit j = true := by
  induction n with
  | zero => exact exists_runs_zero hs
  | succ n ih => rw [exists_runs_succ h hs, hfixed, ih]

/-- **So many rounds.** -/
theorem testBit_repeatExactly (h : Follows w r f) (hs : Inside w.length s) (n : Nat) :
    (repeatExactly f n s).testBit j = true ↔ ∃ i, s.testBit i = true ∧ Runs w r n i j := by
  induction n generalizing s with
  | zero => exact (exists_runs_zero hs).symm
  | succ n ih =>
    rw [repeatExactly]
    split
    · rename_i hfixed
      exact (exists_runs_of_fixed h hs hfixed (n + 1)).symm
    · rw [ih (h.inside hs), exists_runs_succ h hs]

/-- No round leads out of the places. -/
def Closed (w : List Char) (r : Regex) (s : Nat) : Prop :=
  ∀ i j, s.testBit i = true → Spans w r i j → s.testBit j = true

theorem Closed.runs (h : Closed w r s) (hi : s.testBit i = true) (hruns : Runs w r n i j) : s.testBit j = true := by
  induction n generalizing i with
  | zero => exact (runs_zero_iff.mp hruns).1 ▸ hi
  | succ n ih =>
    obtain ⟨k, first, rest⟩ := runs_succ_iff.mp hruns
    exact ih (h i k hi first) rest

theorem closed_of_fixed (h : Follows w r f) (hs : Inside w.length s) (hfixed : s ||| f s = s) : Closed w r s := by
  intro i j hi hspans
  rw [← hfixed, Nat.testBit_or, (h s hs j).mpr ⟨i, hi, hspans⟩, Bool.or_true]

/-- **Up to so many rounds.** -/
theorem testBit_repeatUpTo (h : Follows w r f) (hs : Inside w.length s) (n : Nat) :
    (repeatUpTo f n s).testBit j = true ↔ ∃ k ≤ n, ∃ i, s.testBit i = true ∧ Runs w r k i j := by
  induction n generalizing s with
  | zero =>
    rw [repeatUpTo, ← exists_runs_zero (r := r) hs]
    exact ⟨fun hj => ⟨0, Nat.le_refl 0, hj⟩, fun ⟨k, hk, hj⟩ => Nat.le_zero.mp hk ▸ hj⟩
  | succ n ih =>
    rw [repeatUpTo]
    split
    · rename_i hfixed
      constructor
      · exact fun hj => ⟨0, Nat.zero_le _, (exists_runs_zero hs).mpr hj⟩
      · rintro ⟨k, -, i, hi, hruns⟩
        exact (closed_of_fixed h hs hfixed).runs hi hruns
    · rw [ih (hs.lor (h.inside hs))]
      constructor
      · rintro ⟨k, hk, i, hi, hruns⟩
        rw [Nat.testBit_or, Bool.or_eq_true] at hi
        rcases hi with hi | hi
        · exact ⟨k, Nat.le_succ_of_le hk, i, hi, hruns⟩
        · exact ⟨k + 1, Nat.succ_le_succ hk, (exists_runs_succ h hs).mpr ⟨i, hi, hruns⟩⟩
      · rintro ⟨k, hk, i, hi, hruns⟩
        cases k with
        | zero => exact ⟨0, Nat.zero_le n, i, by simp [Nat.testBit_or, hi], hruns⟩
        | succ k =>
          obtain ⟨l, hl, hrest⟩ := (exists_runs_succ h hs).mp ⟨i, hi, hruns⟩
          exact ⟨k, Nat.le_of_succ_le_succ hk, l, by simp [Nat.testBit_or, hl], hrest⟩

/-! ## Rounds without a bound -/

/-- The places of a text that are not in the set. -/
def missing (length s : Nat) : Finset Nat := (Finset.range (length + 1)).filter (fun j => s.testBit j = false)

/-- **Places run out**: once there are as many rounds as places that are missing, no round leads to another one. -/
theorem closed_repeatUpTo (h : Follows w r f) (hs : Inside w.length s) {n : Nat}
    (hn : (missing w.length s).card ≤ n) : Closed w r (repeatUpTo f n s) := by
  induction n generalizing s with
  | zero =>
    -- all places are there
    intro i j _ hspans
    have hnone : j ∉ missing w.length s := by simp [Finset.card_eq_zero.mp (Nat.le_zero.mp hn)]
    have hlt : j < w.length + 1 := Nat.lt_succ_of_le (inside_of_spans hspans).2
    rw [repeatUpTo]
    simpa [missing, hlt] using hnone
  | succ n ih =>
    rw [repeatUpTo]
    split
    · rename_i hfixed
      exact closed_of_fixed h hs hfixed
    · rename_i hmore
      have hnext := hs.lor (h.inside hs)
      refine ih hnext (Nat.le_of_lt_succ (Nat.lt_of_lt_of_le (Finset.card_lt_card ?_) hn))
      -- the round found a place that was missing
      obtain ⟨j, hj⟩ := Nat.exists_testBit_ne_of_ne hmore
      have hfound : s.testBit j = false ∧ (s ||| f s).testBit j = true := by
        rw [Nat.testBit_or] at hj ⊢
        cases hb : s.testBit j <;> simp_all
      refine Finset.ssubset_iff_of_subset (fun k hk => ?_) |>.mpr ⟨j, ?_, ?_⟩
      · simp only [missing, Finset.mem_filter, Nat.testBit_or, Bool.or_eq_false_iff] at hk ⊢
        exact ⟨hk.1, hk.2.1⟩
      · simp only [missing, Finset.mem_filter, Finset.mem_range]
        exact ⟨Nat.lt_succ_of_le (hnext j hfound.2), hfound.1⟩
      · rw [missing, Finset.mem_filter, hfound.2]
        simp

/-- **Any number of rounds.** -/
theorem testBit_saturated (h : Follows w r f) (hs : Inside w.length s) :
    (repeatUpTo f (w.length + 1) s).testBit j = true ↔ ∃ k i, s.testBit i = true ∧ Runs w r k i j := by
  constructor
  · intro hj
    obtain ⟨k, -, hk⟩ := (testBit_repeatUpTo h hs _).mp hj
    exact ⟨k, hk⟩
  · rintro ⟨k, i, hi, hruns⟩
    have hcard : (missing w.length s).card ≤ w.length + 1 :=
      (Finset.card_filter_le _ _).trans_eq (Finset.card_range _)
    have hstart : (repeatUpTo f (w.length + 1) s).testBit i = true :=
      (testBit_repeatUpTo h hs _).mpr ⟨0, Nat.zero_le _, (exists_runs_zero hs).mpr hi⟩
    exact (closed_repeatUpTo h hs hcard).runs hstart hruns

end Follows

/-! ## The search -/

/-- **The search finds exactly what the meaning allows.** -/
theorem follows_plan (w : List Char) {r : Regex} (h : r.Ordered) : Follows w r ((r.plan w).ends w.length) := by
  induction r with
  | empty =>
    intro s hs j
    constructor
    · exact fun hj => ⟨j, hj, .empty (hs j hj)⟩
    · rintro ⟨i, hi, hspans⟩
      cases hspans with
      | empty => exact hi
  | chars set ascii =>
    intro s hs j
    rw [Regex.plan, Plan.ends, Nat.testBit_shiftLeft]
    constructor
    · intro hj
      obtain ⟨hpos, hplace⟩ := Bool.and_eq_true_iff.mp hj
      rw [Nat.testBit_and, Bool.and_eq_true, testBit_maskOf] at hplace
      obtain ⟨hi, hchar⟩ := hplace
      have hplus : j - 1 + 1 = j := Nat.sub_add_cancel (of_decide_eq_true hpos)
      cases hc : w[j - 1]? with
      | none => simp [hc] at hchar
      | some c =>
        have hspans : Spans w (.chars set ascii) (j - 1) (j - 1 + 1) := .chars hc (by simpa [hc] using hchar)
        exact ⟨j - 1, hi, hplus ▸ hspans⟩
    · rintro ⟨i, hi, hspans⟩
      cases hspans with
      | chars at_place member => simp [Nat.testBit_and, hi, testBit_maskOf, at_place, member]
  | look l =>
    intro s hs j
    rw [Regex.plan, Plan.ends, Nat.testBit_and, Bool.and_eq_true, testBit_look]
    constructor
    · rintro ⟨hj, inside, holds⟩
      exact ⟨j, hj, .look inside holds⟩
    · rintro ⟨i, hi, hspans⟩
      cases hspans with
      | look inside holds => exact ⟨hi, inside, holds⟩
  | concat a b iha ihb =>
    intro s hs j
    rw [Regex.plan, Plan.ends, ihb h.2 _ ((iha h.1).inside hs)]
    constructor
    · rintro ⟨k, hk, second⟩
      obtain ⟨i, hi, first⟩ := (iha h.1 s hs k).mp hk
      exact ⟨i, hi, .concat first second⟩
    · rintro ⟨i, hi, hspans⟩
      cases hspans with
      | concat first second => exact ⟨_, (iha h.1 s hs _).mpr ⟨i, hi, first⟩, second⟩
  | alternate a b iha ihb =>
    intro s hs j
    rw [Regex.plan, Plan.ends, Nat.testBit_or, Bool.or_eq_true, iha h.1 s hs, ihb h.2 s hs]
    constructor
    · rintro (⟨i, hi, hspans⟩ | ⟨i, hi, hspans⟩)
      · exact ⟨i, hi, .left hspans⟩
      · exact ⟨i, hi, .right hspans⟩
    · rintro ⟨i, hi, hspans⟩
      cases hspans with
      | left hspans => exact Or.inl ⟨i, hi, hspans⟩
      | right hspans => exact Or.inr ⟨i, hi, hspans⟩
  | group captures r ih =>
    intro s hs j
    rw [Regex.plan, ih h s hs]
    constructor
    · rintro ⟨i, hi, hspans⟩
      exact ⟨i, hi, .group hspans⟩
    · rintro ⟨i, hi, hspans⟩
      cases hspans with
      | group hspans => exact ⟨i, hi, hspans⟩
  | iterate r least most greedy ih =>
    intro s hs j
    have hbody := ih h.1
    have hstart : ∀ i, (repeatExactly ((r.plan w).ends w.length) least s).testBit i = true ↔ _ :=
      fun i => testBit_repeatExactly hbody hs least
    have hinside : Inside w.length (repeatExactly ((r.plan w).ends w.length) least s) := fun i hi => by
      obtain ⟨k, -, hruns⟩ := (hstart i).mp hi
      exact (inside_of_runs hruns).2
    cases most with
    | none =>
      simp only [Regex.plan, Plan.ends]
      rw [testBit_saturated hbody hinside]
      constructor
      · rintro ⟨n, k, hk, hrest⟩
        obtain ⟨i, hi, hfirst⟩ := (hstart k).mp hk
        exact ⟨i, hi, .iterate (Nat.le_add_right least n) (fun _ hnone => absurd hnone (by simp))
          (runs_add_iff.mpr ⟨k, hfirst, hrest⟩)⟩
      · rintro ⟨i, hi, hspans⟩
        cases hspans with
        | @iterate _ _ _ _ n _ _ enough _ run =>
          rw [← Nat.add_sub_of_le enough] at run
          obtain ⟨k, hfirst, hrest⟩ := runs_add_iff.mp run
          exact ⟨n - least, k, (hstart k).mpr ⟨i, hi, hfirst⟩, hrest⟩
    | some most =>
      simp only [Regex.plan, Plan.ends]
      rw [testBit_repeatUpTo hbody hinside]
      have hordered : least ≤ most := h.2 most rfl
      constructor
      · rintro ⟨n, hn, k, hk, hrest⟩
        obtain ⟨i, hi, hfirst⟩ := (hstart k).mp hk
        refine ⟨i, hi, .iterate (Nat.le_add_right least n) (fun l hl => ?_) (runs_add_iff.mpr ⟨k, hfirst, hrest⟩)⟩
        rw [← Option.some.inj hl]
        omega
      · rintro ⟨i, hi, hspans⟩
        cases hspans with
        | @iterate _ _ _ _ n _ _ enough bounded run =>
          rw [← Nat.add_sub_of_le enough] at run
          obtain ⟨k, hfirst, hrest⟩ := runs_add_iff.mp run
          exact ⟨n - least, Nat.sub_le_sub_right (bounded most rfl) least, k, (hstart k).mpr ⟨i, hi, hfirst⟩, hrest⟩

/-- **An expression matches in a text if it matches between some places.** -/
theorem isMatch_iff {r : Regex} (h : r.Ordered) (text : String) :
    r.isMatch text = true ↔ ∃ i j, Spans text.toList r i j := by
  have hall : ∀ i, ((1 <<< (text.toList.length + 1)) - 1).testBit i = true ↔ i ≤ text.toList.length := fun i => by
    rw [Nat.one_shiftLeft, Nat.testBit_two_pow_sub_one, decide_eq_true_iff, Nat.lt_succ_iff]
  have hends := follows_plan text.toList h _ fun i hi => (hall i).mp hi
  rw [Regex.isMatch, bne_iff_ne, Regex.ends]
  constructor
  · intro hne
    obtain ⟨j, hj⟩ := Nat.exists_testBit_of_ne_zero hne
    obtain ⟨i, -, hspans⟩ := (hends j).mp hj
    exact ⟨i, j, hspans⟩
  · rintro ⟨i, j, hspans⟩ hzero
    have hj := (hends j).mpr ⟨i, (hall i).mpr (inside_of_spans hspans).1, hspans⟩
    rw [hzero, Nat.zero_testBit] at hj
    exact absurd hj (by simp)

/-- **An expression matches the whole of a text if it matches from the first place to the last.** -/
theorem matchesWhole_iff {r : Regex} (h : r.Ordered) (text : String) :
    r.matchesWhole text = true ↔ Spans text.toList r 0 text.toList.length := by
  have hone : ∀ i, (1 : Nat).testBit i = true ↔ i = 0 := fun i => by cases i <;> simp [Nat.testBit_succ]
  have hstart : Inside text.toList.length 1 := fun i hi => (hone i).mp hi ▸ Nat.zero_le _
  rw [Regex.matchesWhole, Regex.ends, follows_plan text.toList h 1 hstart]
  constructor
  · rintro ⟨i, hi, hspans⟩
    exact (hone i).mp hi ▸ hspans
  · exact fun hspans => ⟨0, rfl, hspans⟩

end MetricRouter.Pattern
