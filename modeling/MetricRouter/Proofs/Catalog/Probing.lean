import MetricRouter.Proofs.Catalog.Counter

/-!
# How long a token is searched for

The search for a token has no bound of its own: it probes one number after another and ends at the first that is free.
That it ends is a matter of counting, since the numbers that it probes are distinct for a whole turn around the range.

* `Probes`, `Probes.unique` — the search as a loop without a bound, which ends in one way only;
* `ahead`, `add_ahead`, `ahead_add` — how far a number is ahead of the counter, around the range of 64 bits;
* `exists_least_free` — the free number that comes first, and how near it is;
* `probes_of_least`, `firstFree_of_least` — the loop ends there, and so does the bounded search;
* `tokenize_probes` — the main statement.
-/

namespace MetricRouter.Catalog

/-! ## The search as a loop -/

/-- **The search for a free number as a loop without a bound.** `Probes index counter n t counter'`: started at
`counter`, the loop ends after `n` probes, with the number `t`, and leaves the counter at `counter'`. The counter moves
on with every probe. -/
inductive Probes (index : Table Int64 Identity) : Int64 → Nat → Int64 → Int64 → Prop where
  /-- The number is free, and the loop ends. -/
  | vacant {counter : Int64} (h : index.contains counter = false) : Probes index counter 1 counter (counter + 1)
  /-- The number is taken, and the loop goes on. -/
  | occupied {counter counter' t : Int64} {n : Nat} (h : index.contains counter = true)
      (rest : Probes index (counter + 1) n t counter') : Probes index counter (n + 1) t counter'

/-- The loop ends in one way only. -/
theorem Probes.unique {index : Table Int64 Identity} {counter c c' t t' : Int64} {n n' : Nat}
    (h : Probes index counter n t c) (h' : Probes index counter n' t' c') : n = n' ∧ t = t' ∧ c = c' := by
  induction h generalizing n' with
  | vacant hfree =>
    cases h' with
    | vacant => exact ⟨rfl, rfl, rfl⟩
    | occupied htaken => exact absurd (hfree.symm.trans htaken) (by simp)
  | occupied htaken _ ih =>
    cases h' with
    | vacant hfree => exact absurd (hfree.symm.trans htaken) (by simp)
    | occupied _ hrest' =>
      obtain ⟨rfl, rfl, rfl⟩ := ih hrest'
      exact ⟨rfl, rfl, rfl⟩

/-! ## Around the range -/

/-- How many steps lead from the counter to a number, around the range of 64 bits. -/
def ahead (counter t : Int64) : Nat := (t - counter).toUInt64.toNat

theorem add_ahead (counter t : Int64) : counter + Int64.ofNat (ahead counter t) = t := by
  have hsteps : Int64.ofNat (ahead counter t) = t - counter := by
    apply Int64.toBitVec_inj.mp
    apply BitVec.eq_of_toNat_eq
    have hlt := (t - counter).toBitVec.isLt
    simp only [Int64.toBitVec_ofNat', BitVec.toNat_ofNat]
    exact Nat.mod_eq_of_lt hlt
  rw [hsteps, Int64.add_comm, Int64.sub_add_cancel]

theorem ahead_add (counter : Int64) {k : Nat} (hk : k < 2 ^ 64) : ahead counter (counter + Int64.ofNat k) = k := by
  have hsteps : counter + Int64.ofNat k - counter = Int64.ofNat k := by
    rw [Int64.add_comm, Int64.add_sub_cancel]
  rw [ahead, hsteps]
  show (Int64.ofNat k).toBitVec.toNat = k
  rw [Int64.toBitVec_ofNat', BitVec.toNat_ofNat, Nat.mod_eq_of_lt hk]

/-! ## The number that is found -/

section Least

variable {index : Table Int64 Identity}

/-- The free number that comes first is no further off than there are taken numbers. -/
theorem exists_least_free (hsize : index.size < 2 ^ 64) (start : Int64) :
    ∃ k ≤ index.size, index.contains (start + Int64.ofNat k) = false ∧
      ∀ j < k, index.contains (start + Int64.ofNat j) = true := by
  obtain ⟨k, hk, hfree⟩ := exists_free hsize start
  have hex : ∃ k, index.contains (start + Int64.ofNat k) = false := ⟨k, hfree⟩
  refine ⟨Nat.find hex, Nat.le_trans (Nat.find_min' hex hfree) hk, Nat.find_spec hex, ?_⟩
  intro j hj
  simpa using Nat.find_min hex hj

theorem add_succ (start : Int64) (k : Nat) : start + Int64.ofNat (k + 1) = start + 1 + Int64.ofNat k := by
  rw [Int64.ofNat_add, Int64.add_comm (Int64.ofNat k), ← Int64.add_assoc]
  rfl

theorem taken_of_succ {start : Int64} {k : Nat} (h : ∀ j < k + 1, index.contains (start + Int64.ofNat j) = true) :
    index.contains start = true ∧ ∀ j < k, index.contains (start + 1 + Int64.ofNat j) = true := by
  constructor
  · simpa using h 0 (Nat.succ_pos k)
  · intro j hj
    have hnext := h (j + 1) (Nat.succ_lt_succ hj)
    rwa [add_succ] at hnext

theorem probes_of_least {start : Int64} {k : Nat} (hfree : index.contains (start + Int64.ofNat k) = false)
    (htaken : ∀ j < k, index.contains (start + Int64.ofNat j) = true) :
    Probes index start (k + 1) (start + Int64.ofNat k) (start + Int64.ofNat k + 1) := by
  induction k generalizing start with
  | zero =>
    have hstart : start + Int64.ofNat 0 = start := Int64.add_zero start
    rw [hstart] at hfree ⊢
    exact .vacant hfree
  | succ k ih =>
    obtain ⟨hstart, hrest⟩ := taken_of_succ htaken
    rw [add_succ] at hfree ⊢
    exact .occupied hstart (ih hfree hrest)

/-- The bounded search ends where the loop does, if the bound is not too small. -/
theorem firstFree_of_least {start : Int64} {k steps : Nat} (hk : k ≤ steps)
    (hfree : index.contains (start + Int64.ofNat k) = false)
    (htaken : ∀ j < k, index.contains (start + Int64.ofNat j) = true) :
    firstFree index steps start = start + Int64.ofNat k := by
  induction k generalizing start steps with
  | zero =>
    have hstart : start + Int64.ofNat 0 = start := Int64.add_zero start
    rw [hstart] at hfree ⊢
    cases steps with
    | zero => rfl
    | succ steps => rw [firstFree, hfree, if_neg (by simp)]
  | succ k ih =>
    obtain ⟨hstart, hrest⟩ := taken_of_succ htaken
    rw [add_succ] at hfree ⊢
    cases steps with
    | zero => exact absurd hk (Nat.not_succ_le_zero k)
    | succ steps =>
      rw [firstFree, if_pos hstart]
      exact ih (Nat.le_of_succ_le_succ hk) hfree hrest

end Least

/-- **A token is found after at most one probe more than there are tokens.** In any catalog whose index has fewer than
`2 ^ 64` tokens, for any identity without a token, the search ends, in one way only; it answers the free number that
comes first from the counter on, around the range of 64 bits; the counter is left one past it; and the index has this
number for the identity and keeps all that it had. -/
theorem tokenize_probes (c : Catalog) (i : Identity) (hsize : c.index.size < 2 ^ 64) (hi : c.token i = noToken) :
    let t := (c.tokenize i).1
    let c' := (c.tokenize i).2
    (∃ n ≤ c.index.size + 1, Probes c.index c.nextToken n t c'.nextToken ∧
      ∀ n' t' next, Probes c.index c.nextToken n' t' next → n' = n ∧ t' = t ∧ next = c'.nextToken) ∧
    c.index.get? t = none ∧
    (∀ u, c.index.get? u = none → ahead c.nextToken t ≤ ahead c.nextToken u) ∧
    c'.nextToken = t + 1 ∧
    c'.index.get? t = some i ∧ ∀ u j, c.index.get? u = some j → c'.index.get? u = some j := by
  intro t c'
  have htokenize := tokenize_of_untokenized hi
  obtain ⟨k, hk, hfree, htaken⟩ := exists_least_free hsize c.nextToken
  have ht : t = c.nextToken + Int64.ofNat k := by
    show (c.tokenize i).1 = _
    rw [htokenize]
    exact firstFree_of_least hk hfree htaken
  have hnext : c'.nextToken = t + 1 := by
    show (c.tokenize i).2.nextToken = (c.tokenize i).1 + 1
    rw [htokenize]
    rfl
  have hindex : ∀ u, c'.index.get? u = if t = u then some i else c.index.get? u := by
    intro u
    show (c.tokenize i).2.index.get? u = if (c.tokenize i).1 = u then _ else _
    rw [htokenize, index_give]
  have hvacant : c.index.get? t = none := by
    rw [ht]
    simpa [Table.contains] using hfree
  have hprobes : Probes c.index c.nextToken (k + 1) t c'.nextToken := by
    rw [hnext, ht]
    exact probes_of_least hfree htaken
  refine ⟨⟨k + 1, Nat.succ_le_succ hk, hprobes, fun n' t' next h => h.unique hprobes⟩, hvacant, ?_, hnext, ?_, ?_⟩
  · intro u hu
    rw [ht, ahead_add c.nextToken (Nat.lt_of_le_of_lt hk hsize)]
    by_contra hlt
    have htaken' := htaken _ (Nat.lt_of_not_le hlt)
    rw [add_ahead, Table.contains, hu] at htaken'
    exact absurd htaken' (by simp)
  · rw [hindex, if_pos rfl]
  · intro u j hu
    have hne : t ≠ u := by
      rintro rfl
      exact absurd (hvacant.symm.trans hu) (by simp)
    rw [hindex, if_neg hne, hu]

/-- The numbers on both sides of the end of the range are taken, and the counter stands on the greatest one. -/
theorem tokenize_probes_of_end_taken :
    let held : Identity := ⟨0, "h", "a", [], "x", .gauge, "h/a:x"⟩
    let other : Identity := ⟨1, "h", "a", [], "y", .gauge, "h/a:y"⟩
    let c : Catalog :=
      { fresh .byName with
        index := (Table.empty.insert Int64.maxValue held).insert Int64.minValue held, nextToken := Int64.maxValue }
    c.index.size < 2 ^ 64 ∧ c.token other = noToken ∧ (c.tokenize other).1 = Int64.minValue + 1 ∧
      Probes c.index c.nextToken 3 (Int64.minValue + 1) (Int64.minValue + 2) ∧
      ∀ u, c.index.get? u = none → ahead c.nextToken (Int64.minValue + 1) ≤ ahead c.nextToken u := by
  intro held other c
  have hsize : c.index.size < 2 ^ 64 := by decide +kernel
  have hother : c.token other = noToken := by decide +kernel
  have htoken : (c.tokenize other).1 = Int64.minValue + 1 := by decide +kernel
  have hfirst : c.index.contains Int64.maxValue = true := by decide +kernel
  have hsecond : c.index.contains (Int64.maxValue + 1) = true := by decide +kernel
  have hthird : c.index.contains (Int64.maxValue + 1 + 1) = false := by decide +kernel
  have hloop := Probes.occupied hfirst (.occupied hsecond (.vacant hthird))
  have hend : Int64.maxValue + 1 + 1 = Int64.minValue + 1 := by decide
  have hpast : Int64.minValue + 1 + 1 = Int64.minValue + 2 := by decide
  rw [hend, hpast] at hloop
  obtain ⟨-, -, hleast, -⟩ := tokenize_probes c other hsize hother
  rw [htoken] at hleast
  exact ⟨hsize, hother, htoken, hloop, hleast⟩

end MetricRouter.Catalog
