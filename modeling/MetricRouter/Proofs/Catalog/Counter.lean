import MetricRouter.Proofs.Catalog.Changes

/-!
# The token counter

A token is drawn by trying one number after another, around the range of 64 bits, until one is free.

* `tries`, `draws`, `drawn` — the numbers that are tried by a search, a call and a run;
* `exists_free`, `get?_firstFree` — a free number is near, and the search finds it.
-/

namespace MetricRouter.Catalog

/-! ## Numbers of 64 bits -/

theorem toInt_succ {t : Int64} (h : t.toInt < 2 ^ 63 - 1) : (t + 1).toInt = t.toInt + 1 := by
  have hle := t.le_toInt
  rw [Int64.toInt_add, Int64.toInt_one, Int.bmod_eq_of_le (by omega) (by omega)]

theorem toInt_max (a b : Int64) : (max a b).toInt = max a.toInt b.toInt := by
  show (if a ≤ b then b else a).toInt = _
  split <;> rename_i h <;> rw [Int64.le_iff_toInt_le] at h <;> omega

/-! ## What is tried -/

/-- The numbers that are tried from `start` on, up to the first free one. -/
def tries (index : Table Int64 Identity) : Nat → Int64 → List Int64
  | 0, start => [start]
  | steps + 1, start => start :: if index.contains start then tries index steps (start + 1) else []

/-- The numbers that are drawn from the counter when the token of an identity is asked for. -/
def draws (c : Catalog) (i : Identity) : List Int64 :=
  if c.token i = noToken then tries c.index c.index.size c.nextToken else []

/-- The numbers that a call draws from the counter. -/
def Call.draws (c : Catalog) : Call → List Int64
  | tokenize i => if c.Holds i then c.draws i else []
  | assign n type => (c.sight n type).2.draws (c.sight n type).1
  | _ => []

/-- The numbers that calls draw from the counter, in order. -/
def drawn (c : Catalog) : List Call → List Int64
  | [] => []
  | k :: rest => k.draws c ++ drawn (c.call k).2 rest

theorem drawn_append (c : Catalog) (calls more : List Call) :
    c.drawn (calls ++ more) = c.drawn calls ++ (c.after calls).drawn more := by
  induction calls generalizing c with
  | nil => rfl
  | cons k calls ih =>
    rw [List.cons_append, drawn, drawn, ih, List.append_assoc]
    rfl

theorem firstFree_mem_tries (index : Table Int64 Identity) (steps : Nat) (start : Int64) :
    firstFree index steps start ∈ tries index steps start := by
  induction steps generalizing start with
  | zero => exact List.mem_singleton_self start
  | succ steps ih =>
    unfold firstFree tries
    split
    · exact List.mem_cons_of_mem _ (ih (start + 1))
    · exact List.mem_cons_self

/-! ## The search finds a free number -/

section Search

variable {index : Table Int64 Identity}

theorem contains_of_contains_firstFree {steps : Nat} {start : Int64}
    (h : index.contains (firstFree index steps start) = true) {k : Nat} (hk : k ≤ steps) :
    index.contains (start + Int64.ofNat k) = true := by
  induction steps generalizing start k with
  | zero =>
    obtain rfl : k = 0 := Nat.le_zero.mp hk
    simpa [firstFree] using h
  | succ steps ih =>
    rw [firstFree] at h
    split at h
    · rename_i hstart
      cases k with
      | zero => simpa using hstart
      | succ k =>
        have hnext := ih h (Nat.le_of_succ_le_succ hk)
        rw [Int64.add_assoc, Int64.add_comm 1] at hnext
        rw [Int64.ofNat_add]
        exact hnext
    · rename_i hstart
      exact absurd h hstart

theorem mem_keys_of_contains {t : Int64} (h : index.contains t = true) : t ∈ index.keys := by
  by_contra hno
  rw [Table.contains, Table.get?_eq_none_iff.mpr hno] at h
  exact absurd h (by simp)

theorem size_lt_of_get?_eq_none {t : Int64} (h : index.get? t = none) : index.size < 2 ^ 64 := by
  have hnodup : (t :: index.keys).Nodup := List.nodup_cons.mpr ⟨Table.get?_eq_none_iff.mp h, index.nodup⟩
  have hinj : Function.Injective (fun t : Int64 => t.toBitVec.toNat) :=
    fun a b e => Int64.toBitVec_inj.mp (BitVec.toNat_inj.mp e)
  have hrange : (t :: index.keys).map (fun t => t.toBitVec.toNat) ⊆ List.range (2 ^ 64) := by
    intro n hn
    obtain ⟨u, -, rfl⟩ := List.mem_map.mp hn
    exact List.mem_range.mpr u.toBitVec.isLt
  have hlength := (hnodup.map hinj).length_le_of_subset hrange
  simp only [List.length_map, List.length_cons, List.length_range, Table.keys] at hlength
  exact hlength

theorem nodup_successive (start : Int64) {n : Nat} (hn : n ≤ 2 ^ 64) :
    ((List.range n).map (fun k => start + Int64.ofNat k)).Nodup := by
  refine List.Nodup.map_on (fun a ha b hb e => ?_) List.nodup_range
  have ha' : a < 2 ^ 64 := Nat.lt_of_lt_of_le (List.mem_range.mp ha) hn
  have hb' : b < 2 ^ 64 := Nat.lt_of_lt_of_le (List.mem_range.mp hb) hn
  have hbits := congrArg (fun t : Int64 => t.toBitVec.toNat) ((Int64.add_right_inj start).mp e)
  have hmod : a % 2 ^ 64 = b % 2 ^ 64 := by simpa using hbits
  rwa [Nat.mod_eq_of_lt ha', Nat.mod_eq_of_lt hb'] at hmod

/-- **A free number is near.** Of one more successive numbers than there are taken ones, one is not among them. -/
theorem exists_free (hsize : index.size < 2 ^ 64) (start : Int64) :
    ∃ k ≤ index.size, index.contains (start + Int64.ofNat k) = false := by
  by_contra hall
  have htaken : ∀ k ≤ index.size, index.contains (start + Int64.ofNat k) = true := by
    intro k hk
    by_contra hfree
    exact hall ⟨k, hk, by simpa using hfree⟩
  have hsubset : (List.range (index.size + 1)).map (fun k => start + Int64.ofNat k) ⊆ index.keys := by
    intro u hu
    obtain ⟨k, hk, rfl⟩ := List.mem_map.mp hu
    exact mem_keys_of_contains (htaken k (Nat.le_of_lt_succ (List.mem_range.mp hk)))
  have hlength := (nodup_successive start hsize).length_le_of_subset hsubset
  simp only [List.length_map, List.length_range, Table.keys] at hlength
  exact absurd hlength (Nat.not_succ_le_self _)

/-- **The search finds a free number if there is one**, in as many steps as there are taken numbers. -/
theorem get?_firstFree {t : Int64} (h : index.get? t = none) (start : Int64) :
    index.get? (firstFree index index.size start) = none := by
  by_contra htaken
  have hcontains : index.contains (firstFree index index.size start) = true :=
    Option.ne_none_iff_isSome.mp htaken
  obtain ⟨k, hk, hfree⟩ := exists_free (size_lt_of_get?_eq_none h) start
  rw [contains_of_contains_firstFree hcontains hk] at hfree
  exact absurd hfree (by simp)

end Search

end MetricRouter.Catalog
