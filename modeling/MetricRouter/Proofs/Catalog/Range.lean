import MetricRouter.Proofs.Catalog.Moves

/-!
# The range of generated tokens

The counter starts at one and goes around the range of 64 bits. A caller can move it to the end of the positive
numbers with one chosen token, so tokens stay positive only as long as what callers choose leaves enough room. The
mark of an identity without a token is far off all the same, since all negative numbers come before it.

* `Gapless`, `Wound` — where the counter is negative, all lesser numbers are taken;
* `noToken_not_mem_drawn` — the mark of an identity without a token is out of reach;
* `Positive`, `given_pos_iff_minValue` — tokens are positive as long as the counter does not go around;
* `Ahead`, `minValue_not_mem_drawn` — a counter that is ahead of all tokens has room for more;
* `given_pos_iff` — the main statement;
* `given_of_chosen_end` — a chosen token at the end of the range leaves room for one more.
-/

namespace MetricRouter.Catalog

/-! ## Where the counter is negative -/

/-- **The number is positive, or it is negative and all lesser ones are taken.** -/
def Gapless (index : Table Int64 Identity) (t : Int64) : Prop :=
  0 < t.toInt ∨ (t.toInt < 0 ∧ ∀ u : Int64, u.toInt < t.toInt → index.contains u = true)

section Gapless

variable {index : Table Int64 Identity} {t u : Int64}

theorem Gapless.insert (h : Gapless index t) (u : Int64) (i : Identity) : Gapless (index.insert u i) t := by
  rcases h with hpos | ⟨hneg, hall⟩
  · exact Or.inl hpos
  · exact Or.inr ⟨hneg, fun v hv => Table.contains_insert.mpr (Or.inr (hall v hv))⟩

theorem toInt_noToken : noToken.toInt = -1 := rfl

/-- Next to a taken number comes one of the same kind, up to the mark of an identity without a token. -/
theorem Gapless.succ (h : Gapless index t) (htaken : index.contains t = true) (ht : t ≠ noToken) :
    Gapless index (t + 1) := by
  have hlt := t.toInt_lt
  by_cases hmax : t.toInt = 2 ^ 63 - 1
  · -- after the greatest number comes the least one
    obtain rfl : t = Int64.maxValue := Int64.toInt_inj.mp hmax
    refine Or.inr ⟨by decide, fun u hu => ?_⟩
    have hle := u.le_toInt
    exact absurd hu (not_lt.mpr hle)
  have hsucc : (t + 1).toInt = t.toInt + 1 := toInt_succ (by omega)
  rcases h with hpos | ⟨hneg, hall⟩
  · exact Or.inl (by omega)
  · have hne : t.toInt ≠ -1 := fun e => ht (Int64.toInt_inj.mp e)
    refine Or.inr ⟨by omega, fun u hu => ?_⟩
    by_cases hu' : u.toInt < t.toInt
    · exact hall u hu'
    · obtain rfl : u = t := Int64.toInt_inj.mp (by omega)
      exact htaken

theorem gapless_tries (hfree : ¬ Gapless index noToken) {steps : Nat} {start : Int64}
    (h : Gapless index start) : ∀ u ∈ tries index steps start, Gapless index u := by
  induction steps generalizing start with
  | zero =>
    intro u hu
    obtain rfl := List.mem_singleton.mp hu
    exact h
  | succ steps ih =>
    intro u hu
    rcases List.mem_cons.mp hu with rfl | hu
    · exact h
    split at hu
    · rename_i htaken
      have hne : start ≠ noToken := fun e => hfree (e ▸ h)
      exact ih (h.succ htaken hne) u hu
    · exact absurd hu List.not_mem_nil

theorem eq_firstFree_of_mem_tries {steps : Nat} {start : Int64} (hu : u ∈ tries index steps start)
    (hfree : index.contains u = false) : u = firstFree index steps start := by
  induction steps generalizing start with
  | zero => exact List.mem_singleton.mp hu
  | succ steps ih =>
    rw [firstFree]
    rcases List.mem_cons.mp hu with rfl | hu
    · rw [hfree]
      rfl
    · split at hu
      · rename_i htaken
        rw [if_pos htaken]
        exact ih hu
      · exact absurd hu List.not_mem_nil

end Gapless

/-- The number of negative numbers that are taken. -/
def negatives (c : Catalog) : Nat := c.index.keys.countP (fun t => t.toInt < 0)

theorem le_negatives_of_gapless {c : Catalog} (h : Gapless c.index noToken) : 2 ^ 63 - 1 ≤ c.negatives := by
  obtain hpos | ⟨-, hall⟩ := h
  · exact absurd hpos (by decide)
  have hsubset : (List.range (2 ^ 63 - 1)).map (fun k => Int64.minValue + Int64.ofNat k) ⊆
      c.index.keys.filter (fun t => t.toInt < 0) := by
    intro u hu
    obtain ⟨k, hk, rfl⟩ := List.mem_map.mp hu
    have hk' := List.mem_range.mp hk
    have hvalue : (Int64.minValue + Int64.ofNat k).toInt = -2 ^ 63 + k := by
      rw [Int64.toInt_add, Int64.toInt_minValue, Int64.toInt_ofNat_of_lt (by omega)]
      exact Int.bmod_eq_of_le (by omega) (by omega)
    refine List.mem_filter.mpr ⟨mem_keys_of_contains (hall _ ?_), ?_⟩
    · rw [hvalue, toInt_noToken]
      omega
    · rw [decide_eq_true_eq, hvalue]
      omega
  have hlength := (nodup_successive Int64.minValue (by norm_num)).length_le_of_subset hsubset
  rw [List.length_map, List.length_range] at hlength
  rwa [negatives, List.countP_eq_length_filter]

/-! ## One call -/

/-- **The counter goes around in order**: the index is right, and where the counter is negative it leaves no gap. -/
structure Wound (c : Catalog) : Prop where
  indexed : c.Indexed
  counter : Gapless c.index c.nextToken

theorem wound_fresh (s : KeyStrategy) : Wound (fresh s) where
  indexed := indexed_fresh s fun _ _ => rfl
  counter := Or.inl (show 0 < firstToken.toInt by decide)

section Step

variable {c : Catalog} {k : Call}

namespace Wound

theorem noToken_not_mem_draws (h : c.Wound) (hfree : k.asks = true → ¬ Gapless c.index noToken) :
    noToken ∉ k.draws c := by
  intro hmem
  obtain ⟨hasks, hdraws, -⟩ := searched_of_mem_draws h.indexed hmem
  rw [hdraws] at hmem
  exact hfree hasks (gapless_tries (hfree hasks) h.counter _ hmem)

theorem gapless_freeToken (h : c.Wound) (hfree : ¬ Gapless c.index noToken) : Gapless c.index c.freeToken :=
  gapless_tries hfree h.counter _ (firstFree_mem_tries _ _ _)

/-- **A call leaves no gap behind the counter**, unless it may draw the mark of an identity without a token. -/
theorem call (h : c.Wound) (hfree : k.asks = true → ¬ Gapless c.index noToken) : (c.call k).2.Wound where
  indexed := indexed_of_change h.indexed (change_call c k) (h.noToken_not_mem_draws hfree)
  counter := by
    rcases moves_call h.indexed k with
      ⟨hindex, hnext, -, -⟩ | ⟨i, hindex, hnext, hasks, -, -⟩ | ⟨i, t, n, type, -, hc, hindex, hnext⟩ | ⟨-, hindex, hnext⟩
    · rw [hindex, hnext]
      exact h.counter
    · rw [hindex, hnext]
      have hgapless := h.gapless_freeToken (hfree hasks)
      have hne : c.freeToken ≠ noToken := fun e => hfree hasks (e ▸ hgapless)
      exact (hgapless.insert _ i).succ (Table.contains_insert.mpr (Or.inl rfl)) hne
    · obtain ⟨hpos, hle⟩ := (isChoosable_iff t).mp hc
      have hsucc : (t + 1).toInt = t.toInt + 1 := toInt_succ (by omega)
      refine Or.inl ?_
      rw [hnext, toInt_max]
      omega
    · rw [hnext]
      exact Or.inl (by decide)

end Wound

theorem negatives_insert_le (c : Catalog) (t : Int64) (i : Identity) :
    ((c.index.insert t i).keys.countP fun u => u.toInt < 0) ≤ c.negatives + if t.toInt < 0 then 1 else 0 := by
  rw [Table.keys_insert, negatives]
  split
  · omega
  · simp [List.countP_append, List.countP_singleton]

theorem negatives_call_le (h : c.Wound) (k : Call) :
    (c.call k).2.negatives ≤ c.negatives + [k].countP Call.asks := by
  rcases moves_call h.indexed k with
    ⟨hindex, -, -, -⟩ | ⟨i, hindex, -, hasks, -, -⟩ | ⟨i, t, n, type, -, hc, hindex, -⟩ | ⟨-, hindex, -⟩
  · rw [negatives, hindex]
    exact Nat.le_add_right _ _
  · have hle := negatives_insert_le c c.freeToken i
    rw [negatives, hindex]
    simp only [List.countP_singleton, hasks, if_true]
    split at hle <;> omega
  · have hpos := ((isChoosable_iff t).mp hc).1
    have hle := negatives_insert_le c t i
    rw [if_neg (by omega)] at hle
    rw [negatives, hindex]
    exact Nat.le_add_right_of_le hle
  · rw [negatives, hindex]
    exact Nat.zero_le _

end Step

/-! ## Runs -/

section Run

variable {c : Catalog} {calls : List Call}

/-- **The mark of an identity without a token is out of reach**: the negative numbers before it have to be taken
first, each by a call of its own. -/
theorem noToken_not_mem_drawn (h : c.Wound) (hasks : c.negatives + calls.countP Call.asks < 2 ^ 63) :
    noToken ∉ c.drawn calls := by
  induction calls generalizing c with
  | nil => exact List.not_mem_nil
  | cons k rest ih =>
    rw [show k :: rest = [k] ++ rest from rfl, List.countP_append] at hasks
    have hfree : k.asks = true → ¬ Gapless c.index noToken := by
      intro hk hgapless
      have hle := le_negatives_of_gapless hgapless
      rw [List.countP_singleton, hk, if_pos rfl] at hasks
      omega
    have hle := negatives_call_le h k
    rw [drawn, List.mem_append, not_or]
    exact ⟨h.noToken_not_mem_draws hfree, ih (h.call hfree) (by omega)⟩

theorem noToken_not_mem_given (h : c.Indexed) (hd : noToken ∉ c.drawn calls) : noToken ∉ c.given calls := by
  induction calls generalizing c with
  | nil => exact List.not_mem_nil
  | cons k rest ih =>
    rw [drawn, List.mem_append, not_or] at hd
    rw [given_cons, List.mem_append, not_or]
    refine ⟨fun hmem => ?_, ih (indexed_of_change h (change_call c k) hd.1) hd.2⟩
    rcases given_cases h (Option.mem_toList.mp hmem) with hindex | ⟨-, hdraw⟩
    · obtain ⟨i, hi⟩ := Table.contains_iff.mp hindex
      exact (h.sound hi).2.2 rfl
    · exact hd.1 hdraw

/-! ## Positive tokens -/

/-- All tokens are positive. -/
def Positive (c : Catalog) : Prop := ∀ u : Int64, c.index.contains u = true → 0 < u.toInt

theorem Positive.not_gapless (hc : c.Positive) {t : Int64} (ht : t.toInt < 0) (hmin : t ≠ Int64.minValue) :
    ¬ Gapless c.index t := by
  rintro (hpos | ⟨-, hall⟩)
  · omega
  have hlt : Int64.minValue.toInt < t.toInt := by
    have hle := t.minValue_le_toInt
    have hne : t.toInt ≠ Int64.minValue.toInt := fun e => hmin (Int64.toInt_inj.mp e)
    omega
  exact absurd (hc _ (hall _ hlt)) (by decide)

theorem Positive.of_gapless (hc : c.Positive) {t : Int64} (h : Gapless c.index t) (hmin : t ≠ Int64.minValue) :
    0 < t.toInt := by
  rcases h with hpos | ⟨hneg, hall⟩
  · exact hpos
  · exact absurd (Or.inr ⟨hneg, hall⟩) (hc.not_gapless hneg hmin)

section Step

variable {k : Call}

theorem Positive.free (hc : c.Positive) : ¬ Gapless c.index noToken := hc.not_gapless (by decide) (by decide)

theorem Positive.call (hc : c.Positive) (h : c.Wound) (hmin : Int64.minValue ∉ k.draws c) :
    (c.call k).2.Positive := by
  intro u hu
  rcases moves_call h.indexed k with
    ⟨hindex, -, -, -⟩ | ⟨i, hindex, -, -, hdraws, -⟩ | ⟨i, t, n, type, -, hchoosable, hindex, -⟩ | ⟨-, hindex, -⟩
  · exact hc u (hindex ▸ hu)
  · rw [hindex, Table.contains_insert] at hu
    rcases hu with rfl | hu
    · refine hc.of_gapless (h.gapless_freeToken hc.free) fun e => hmin ?_
      rw [hdraws, ← e]
      exact firstFree_mem_tries _ _ _
    · exact hc u hu
  · rw [hindex, Table.contains_insert] at hu
    rcases hu with rfl | hu
    · have hpos := ((isChoosable_iff t).mp hchoosable).1
      omega
    · exact hc u hu
  · rw [hindex] at hu
    exact absurd hu (by simp [Table.contains])

theorem Positive.given (hc : c.Positive) (h : c.Wound) (hmin : Int64.minValue ∉ k.draws c) {t : Int64}
    (ht : k.given c = some t) : 0 < t.toInt := by
  rcases given_cases h.indexed ht with hindex | ⟨rfl, hdraw⟩
  · exact hc t hindex
  · exact hc.of_gapless (h.gapless_freeToken hc.free) (fun e => hmin (e ▸ hdraw))

theorem Positive.given_minValue (hc : c.Positive) (h : c.Indexed) (hmin : Int64.minValue ∈ k.draws c) :
    k.given c = some Int64.minValue := by
  have hfree : c.index.contains Int64.minValue = false := by
    by_contra htaken
    exact absurd (hc _ (by simpa using htaken)) (by decide)
  obtain ⟨-, hdraws, hgiven⟩ := searched_of_mem_draws h hmin
  rw [hdraws] at hmin
  rw [hgiven, freeToken, ← eq_firstFree_of_mem_tries hmin hfree]

end Step

/-- **Tokens are positive as long as the counter does not go around.** -/
theorem given_pos_iff_minValue (h : c.Wound) (hc : c.Positive) :
    (∀ t ∈ c.given calls, 0 < t.toInt) ↔ Int64.minValue ∉ c.drawn calls := by
  induction calls generalizing c with
  | nil => simp [given, drawn]
  | cons k rest ih =>
    rw [given_cons, drawn, List.mem_append, not_or]
    by_cases hmin : Int64.minValue ∈ k.draws c
    · refine iff_of_false (fun hall => ?_) (fun hno => hno.1 hmin)
      have hgiven := hc.given_minValue h.indexed hmin
      exact absurd (hall _ (List.mem_append_left _ (Option.mem_toList.mpr hgiven))) (by decide)
    · rw [List.forall_mem_append, ih (h.call fun _ => hc.free) (hc.call h hmin)]
      refine and_congr_left fun _ => iff_of_true (fun t ht => ?_) hmin
      exact hc.given h hmin (Option.mem_toList.mp ht)

/-! ## Room for tokens -/

theorem drawn_of_no_asks (h : calls.countP Call.asks = 0) : c.drawn calls = [] := by
  induction calls generalizing c with
  | nil => rfl
  | cons k rest ih =>
    have hnone := List.countP_eq_zero.mp h
    rw [drawn, draws_of_not_asks c (by simpa using hnone k List.mem_cons_self),
      ih (List.countP_eq_zero.mpr fun l hl => hnone l (List.mem_cons_of_mem _ hl))]
    rfl

/-- All tokens are below the counter, which is positive. -/
structure Ahead (c : Catalog) : Prop where
  indexed : c.Indexed
  counter : 0 < c.nextToken.toInt
  below : ∀ u : Int64, c.index.contains u = true → u.toInt < c.nextToken.toInt

theorem Ahead.tries_eq (h : c.Ahead) : tries c.index c.index.size c.nextToken = [c.nextToken] := by
  have hfree : ¬ c.index.contains c.nextToken = true := fun htaken => absurd (h.below _ htaken) (lt_irrefl _)
  cases c.index.size with
  | zero => rfl
  | succ steps => rw [tries, if_neg hfree]

theorem Ahead.freeToken_eq (h : c.Ahead) : c.freeToken = c.nextToken := by
  have hmem := firstFree_mem_tries c.index c.index.size c.nextToken
  rw [h.tries_eq] at hmem
  exact List.mem_singleton.mp hmem

section Step

variable {k : Call}

theorem Ahead.pos_of_mem_draws (h : c.Ahead) {t : Int64} (ht : t ∈ k.draws c) : 0 < t.toInt := by
  obtain ⟨-, hdraws, -⟩ := searched_of_mem_draws h.indexed ht
  rw [hdraws, h.tries_eq, List.mem_singleton] at ht
  exact ht ▸ h.counter

theorem Ahead.call (h : c.Ahead) (hlast : k.asks = true → c.nextToken.toInt < 2 ^ 63 - 1) :
    (c.call k).2.Ahead := by
  have hindexed := indexed_of_change h.indexed (change_call c k)
    fun hmem => absurd (h.pos_of_mem_draws hmem) (by decide)
  have hpos := h.counter
  rcases moves_call h.indexed k with
    ⟨hindex, hnext, -, -⟩ | ⟨i, hindex, hnext, hasks, -, -⟩ | ⟨i, t, n, type, -, hc, hindex, hnext⟩ | ⟨-, hindex, hnext⟩
  · exact ⟨hindexed, by rw [hnext]; exact hpos, by rw [hindex, hnext]; exact h.below⟩
  · rw [h.freeToken_eq] at hindex hnext
    have hsucc := toInt_succ (hlast hasks)
    refine ⟨hindexed, by rw [hnext]; omega, fun u hu => ?_⟩
    rw [hindex, Table.contains_insert] at hu
    rw [hnext, hsucc]
    rcases hu with rfl | hu
    · omega
    · exact (h.below u hu).trans (by omega)
  · obtain ⟨hone, hle⟩ := (isChoosable_iff t).mp hc
    have hsucc : (t + 1).toInt = t.toInt + 1 := toInt_succ (by omega)
    refine ⟨hindexed, by rw [hnext, toInt_max]; omega, fun u hu => ?_⟩
    rw [hindex, Table.contains_insert] at hu
    rw [hnext, toInt_max, hsucc]
    rcases hu with rfl | hu
    · omega
    · exact (h.below u hu).trans_le (le_max_left _ _)
  · refine ⟨hindexed, by rw [hnext]; decide, fun u hu => ?_⟩
    rw [hindex] at hu
    exact absurd hu (by simp [Table.contains])

theorem Ahead.nextToken_le (h : c.Ahead) (hlast : k.asks = true → c.nextToken.toInt < 2 ^ 63 - 1) {bound : Int}
    (hroom : c.nextToken.toInt + [k].countP Call.asks ≤ bound)
    (hchosen : ∀ t n type, k = .assignWith t n type → isChoosable t = true → t.toInt + 1 ≤ bound) :
    (c.call k).2.nextToken.toInt ≤ bound := by
  have hpos := h.counter
  rcases moves_call h.indexed k with
    ⟨-, hnext, -, -⟩ | ⟨i, -, hnext, hasks, -, -⟩ | ⟨i, t, n, type, hk, hc, -, hnext⟩ | ⟨-, -, hnext⟩
  · rw [hnext]
    omega
  · rw [List.countP_singleton, if_pos hasks] at hroom
    rw [hnext, h.freeToken_eq, toInt_succ (hlast hasks)]
    exact hroom
  · have hle := hchosen t n type hk hc
    have hsucc : (t + 1).toInt = t.toInt + 1 :=
      toInt_succ (by have := ((isChoosable_iff t).mp hc).2; omega)
    rw [hnext, toInt_max, hsucc]
    exact max_le (by omega) hle
  · rw [hnext]
    show (1 : Int) ≤ bound
    omega

end Step

/-- **The counter does not go around while there is room for the tokens that are asked for**, behind it and behind
every token that callers choose. -/
theorem minValue_not_mem_drawn (h : c.Ahead) (hroom : c.nextToken.toInt + calls.countP Call.asks ≤ 2 ^ 63)
    (hchosen : ∀ t n type, Call.assignWith t n type ∈ calls → isChoosable t = true →
      t.toInt + 1 + calls.countP Call.asks ≤ 2 ^ 63) : Int64.minValue ∉ c.drawn calls := by
  induction calls generalizing c with
  | nil => exact List.not_mem_nil
  | cons k rest ih =>
    have hcount : (k :: rest).countP Call.asks = [k].countP Call.asks + rest.countP Call.asks := by
      rw [← List.countP_append]
      rfl
    rw [hcount] at hroom hchosen
    have hpos := h.counter
    have hnow : Int64.minValue ∉ k.draws c := fun hmem => absurd (h.pos_of_mem_draws hmem) (by decide)
    rw [drawn, List.mem_append, not_or]
    refine ⟨hnow, ?_⟩
    by_cases hrest : rest.countP Call.asks = 0
    · rw [drawn_of_no_asks hrest]
      exact List.not_mem_nil
    have hlast : k.asks = true → c.nextToken.toInt < 2 ^ 63 - 1 := by
      intro hasks
      rw [List.countP_singleton, if_pos hasks] at hroom
      omega
    refine ih (h.call hlast) ?_ ?_
    · have hle : (c.call k).2.nextToken.toInt ≤ 2 ^ 63 - rest.countP Call.asks := by
        refine h.nextToken_le hlast (by omega) ?_
        intro t n type hk hc
        have := hchosen t n type (hk ▸ List.mem_cons_self) hc
        omega
      omega
    · intro t n type hmem hc
      have := hchosen t n type (List.mem_cons_of_mem _ hmem) hc
      omega

end Run

/-- **How far generated tokens stay positive.** The tokens that calls are answered which ask for one are positive
exactly as long as the counter does not draw the least number. So they are while there is room: every token that
callers choose and the number of tokens that are asked for add up to less than `2 ^ 63`. Whatever callers choose,
none is the mark of an identity without a token before `2 ^ 63` tokens were asked for. -/
theorem given_pos_iff (s : KeyStrategy) (calls : List Call) :
    let c := fresh s
    ((∀ t ∈ c.given calls, 0 < t) ↔ Int64.minValue ∉ c.drawn calls) ∧
    (calls.countP Call.asks < 2 ^ 63 →
      (∀ t n type, Call.assignWith t n type ∈ calls → isChoosable t = true →
        t.toInt + calls.countP Call.asks < 2 ^ 63) →
      ∀ t ∈ c.given calls, 0 < t) ∧
    (calls.countP Call.asks < 2 ^ 63 → noToken ∉ c.given calls) := by
  intro c
  have hindexed : c.Indexed := indexed_fresh s fun _ _ => rfl
  have hpositive : c.Positive := fun u hu => absurd hu (by simp [c, fresh, Table.contains])
  have hpos : (∀ t ∈ c.given calls, 0 < t) ↔ Int64.minValue ∉ c.drawn calls := by
    simp only [Int64.lt_iff_toInt_lt]
    exact given_pos_iff_minValue (wound_fresh s) hpositive
  refine ⟨hpos, ?_, ?_⟩
  · intro hasks hchosen
    have hahead : c.Ahead :=
      ⟨hindexed, show 0 < firstToken.toInt by decide, fun u hu => absurd hu (by simp [c, fresh, Table.contains])⟩
    refine hpos.mpr (minValue_not_mem_drawn hahead ?_ ?_)
    · show (1 : Int) + _ ≤ _
      omega
    · intro t n type hmem hc
      have := hchosen t n type hmem hc
      omega
  · intro hasks
    refine noToken_not_mem_given hindexed (noToken_not_mem_drawn (wound_fresh s) ?_)
    show 0 + _ < _
    omega

/-- One token at the end of the range is chosen, and two are asked for: the second of these is negative. -/
theorem given_of_chosen_end :
    let calls : List Call :=
      [.assignWith 9223372036854775806 ⟨"h", "a", [], "x"⟩ .gauge, .assign ⟨"h", "a", [], "y"⟩ .gauge,
        .assign ⟨"h", "a", [], "z"⟩ .gauge]
    (fresh .coded).given calls = [Int64.maxValue, Int64.minValue] ∧
      ¬ ∀ t ∈ (fresh .coded).given calls, 0 < t := by
  intro calls
  have hgiven : (fresh .coded).given calls = [Int64.maxValue, Int64.minValue] := by decide +kernel
  refine ⟨hgiven, fun hall => ?_⟩
  rw [hgiven] at hall
  exact absurd (hall Int64.minValue (by simp)) (by decide)

end MetricRouter.Catalog
