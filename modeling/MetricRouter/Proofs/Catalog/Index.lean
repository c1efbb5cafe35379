import MetricRouter.Proofs.Catalog.Counter
import MetricRouter.Proofs.Catalog.Sightings

/-!
# The index of tokens

Tokens come from two sources, the counter and the callers, and both write the index. As long as the counter
has not reached the mark of an identity without a token, the index and the tokens of the identities are
inverse to each other.

* `Indexed` — the invariant: the index has the identities that hold tokens, under their tokens;
* `indexed_sight`, `indexed_give` — sightings keep it, and so does a free token given to an identity that
  has none;
* `indexed_after` — it holds in every catalog that calls lead to;
* `token_after`, `get?_index_after` — a token and its place in the index stay;
* `lookupByToken_iff_token` — the main statement.
-/

namespace MetricRouter.Catalog

open Wire (FullName)

/-- **The index and the tokens of the identities are inverse to each other.** -/
structure Indexed (c : Catalog) : Prop where
  filed : c.Filed
  numbered : c.Numbered
  /-- What the index has under a token is held and has this token. -/
  sound : ∀ {t i}, c.index.get? t = some i → c.Holds i ∧ c.token i = t ∧ t ≠ noToken
  /-- The index has every identity that has a token. -/
  complete : ∀ {i}, c.Holds i → c.token i ≠ noToken → c.index.get? (c.token i) = some i
  /-- Numbers that are not given out yet have no token. -/
  unused : ∀ n, c.tokens.created ≤ n → c.tokens.held.get? n = none

namespace Indexed

variable {c : Catalog}

theorem get?_noToken (h : c.Indexed) : c.index.get? noToken = none := by
  by_contra hsome
  obtain ⟨i, hi⟩ := Option.ne_none_iff_exists'.mp hsome
  exact (h.sound hi).2.2 rfl

theorem lookup_iff (h : c.Indexed) {t : Int64} {i : Identity} :
    c.index.get? t = some i ↔ c.Holds i ∧ c.token i = t ∧ t ≠ noToken := by
  constructor
  · exact h.sound
  · rintro ⟨hi, rfl, ht⟩
    exact h.complete hi ht

theorem eq_of_token_eq (h : c.Indexed) {i j : Identity} (hi : c.Holds i) (hj : c.Holds j)
    (htoken : c.token i = c.token j) (ht : c.token i ≠ noToken) : i = j := by
  have hi' := h.complete hi ht
  have hj' := h.complete hj (htoken ▸ ht)
  rw [htoken, hj'] at hi'
  exact (Option.some.inj hi').symm

theorem get?_freeToken (h : c.Indexed) : c.index.get? c.freeToken = none :=
  get?_firstFree h.get?_noToken c.nextToken

end Indexed

theorem indexed_fresh (s : KeyStrategy) {ts : Tokens}
    (hts : ∀ n, ts.created ≤ n → ts.held.get? n = none) : (fresh s ts).Indexed where
  filed := filed_fresh s ts
  numbered := numbered_fresh s ts
  sound := fun h => by simp [fresh] at h
  complete := fun h => absurd h (not_holds_fresh s ts _)
  unused := hts

/-! ## One change -/

section Step

variable {c c' : Catalog} {k : Call} {n : FullName} {type : MetricType} {i j : Identity}

theorem holds_sight_of_holds (hc : c.Filed) (hj : c.Holds j) : (c.sight n type).2.Holds j := by
  have hfound := (holds_iff_find? hc).mp hj
  refine (holds_iff_find? (filed_sight hc)).mpr ?_
  rw [find?_sight_eq hc, hfound, Option.some_or]

theorem holds_sight (hc : c.Filed) : (c.sight n type).2.Holds (c.sight n type).1 :=
  holds_of_find? (filed_sight hc) (find?_sight hc)

theorem held_sight (hc : c.Filed) : (c.sight n type).2.tokens.held = c.tokens.held ∧
    (c.sight n type).2.index = c.index := by
  rcases sight_cases hc n type with ⟨i, -, h⟩ | ⟨-, c', h, hext⟩
  · rw [h]
    exact ⟨rfl, rfl⟩
  · rw [h, hext.created]
    exact ⟨rfl, hext.index⟩

theorem token_sight (hc : c.Filed) (j : Identity) : (c.sight n type).2.token j = c.token j := by
  unfold token Tokens.token
  rw [(held_sight hc).1]

theorem token_newcomer (h : c.Indexed) : c.token (c.newcomer n type) = noToken := by
  unfold token Tokens.token
  rw [serial_newcomer, h.unused _ (Nat.le_refl _)]
  rfl

theorem indexed_sight (h : c.Indexed) (n : FullName) (type : MetricType) :
    (c.sight n type).2.Indexed where
  filed := filed_sight h.filed
  numbered := numbered_sight h.filed h.numbered n type
  sound := by
    intro t i hi
    rw [(held_sight h.filed).2] at hi
    obtain ⟨hheld, htoken, ht⟩ := h.sound hi
    exact ⟨holds_sight_of_holds h.filed hheld, (token_sight h.filed i).trans htoken, ht⟩
  complete := by
    intro i hi ht
    rw [token_sight h.filed] at ht ⊢
    rw [(held_sight h.filed).2]
    rcases holds_sight_cases h.filed hi with hi | ⟨rfl, -⟩
    · exact h.complete hi ht
    · exact absurd (token_newcomer h) ht
  unused := by
    intro m hm
    rw [(held_sight h.filed).1]
    exact h.unused m ((created_le_sight h.filed n type).trans hm)

/-- **A free token that is given to an identity without one keeps the invariant.** -/
theorem indexed_give (h : c.Indexed) (hi : c.Holds i) (hnone : c.token i = noToken) {t : Int64}
    (hfree : c.index.get? t = none) (ht : t ≠ noToken) (next : Int64) : (c.give i t next).Indexed where
  filed := ⟨h.filed.primary, h.filed.overflow⟩
  numbered := ⟨h.numbered.lt, h.numbered.inj⟩
  sound := by
    intro u j hj
    rw [index_give] at hj
    rw [token_give]
    by_cases htu : t = u
    · subst htu
      obtain rfl : i = j := by simpa using hj
      exact ⟨hi, if_pos rfl, ht⟩
    · obtain ⟨hheld, htoken, hu⟩ := h.sound (by simpa [htu] using hj)
      -- an identity with the same serial number would be `i`, which has no token
      have hserial : i.serial ≠ j.serial := by
        intro e
        rw [← h.numbered.inj hi hheld e, hnone] at htoken
        exact hu htoken.symm
      exact ⟨hheld, by rw [if_neg hserial, htoken], hu⟩
  complete := by
    intro j hj hj'
    rw [index_give]
    rw [token_give] at hj' ⊢
    by_cases hserial : i.serial = j.serial
    · obtain rfl := h.numbered.inj hi hj hserial
      simp
    · rw [if_neg hserial] at hj' ⊢
      have hindex := h.complete hj hj'
      have hne : t ≠ c.token j := by
        rintro rfl
        rw [hfree] at hindex
        exact absurd hindex (by simp)
      simpa [hne] using hindex
  unused := by
    intro m hm
    have hne : i.serial ≠ m := Nat.ne_of_lt (Nat.lt_of_lt_of_le (h.numbered.lt hi) hm)
    show (c.tokens.held.insert i.serial t).get? m = none
    rw [Table.get?_insert, if_neg hne]
    exact h.unused m hm

theorem freeToken_mem_draws (hnone : c.token i = noToken) : c.freeToken ∈ c.draws i := by
  rw [draws, if_pos hnone]
  exact firstFree_mem_tries _ _ _

theorem freeToken_ne_noToken (hnone : c.token i = noToken) (hd : noToken ∉ c.draws i) :
    c.freeToken ≠ noToken := by
  intro e
  exact hd (e ▸ freeToken_mem_draws hnone)

theorem draws_tokenize (hi : c.Holds i) : (Call.tokenize i).draws c = c.draws i := if_pos hi

/-- **Every change keeps the index right**, unless the mark of an identity without a token is drawn. -/
theorem indexed_of_change (h : c.Indexed) (hchange : Change c k c') (hd : noToken ∉ k.draws c) :
    c'.Indexed := by
  cases hchange with
  | kept => exact h
  | sighted n type => exact indexed_sight h n type
  | tokenized i hk hi hnone =>
    subst hk
    rw [draws_tokenize hi] at hd
    exact indexed_give h hi hnone h.get?_freeToken (freeToken_ne_noToken hnone hd) _
  | assigned n type hk hnone =>
    subst hk
    have hs := indexed_sight h n type
    exact indexed_give hs (holds_sight h.filed) hnone hs.get?_freeToken (freeToken_ne_noToken hnone hd) _
  | chosen t n type _ hchoosable hfree hnone =>
    exact indexed_give (indexed_sight h n type) (holds_sight h.filed) hnone hfree
      (ne_noToken_of_isChoosable hchoosable) _
  | read value n =>
    exact { h with filed := ⟨h.filed.primary, h.filed.overflow⟩, numbered := ⟨h.numbered.lt, h.numbered.inj⟩ }
  | forgotten => exact indexed_fresh c.strategy h.unused

theorem token_of_change (hc : c.Filed) (hchange : Change c k c') (hj : c.token j ≠ noToken) :
    c'.token j = c.token j := by
  -- the identity that gets a token had none, so it is another one
  have hgive {d : Catalog} {i : Identity} {t next : Int64} (hd : d.token i = noToken)
      (hj : d.token j ≠ noToken) : (d.give i t next).token j = d.token j := by
    rw [token_give, if_neg]
    intro e
    have hsame : d.token i = d.token j := by
      unfold token Tokens.token
      rw [e]
    exact hj (hsame ▸ hd)
  cases hchange with
  | kept => rfl
  | sighted n type => exact token_sight hc j
  | tokenized i _ _ hnone => exact hgive hnone hj
  | assigned n type _ hnone => rw [hgive hnone (by rwa [token_sight hc]), token_sight hc]
  | chosen t n type _ _ _ hnone => rw [hgive hnone (by rwa [token_sight hc]), token_sight hc]
  | read value n => rfl
  | forgotten => rfl

theorem get?_index_of_change (h : c.Indexed) (hchange : Change c k c') (hk : k ≠ .reset) {t : Int64}
    (hj : c.index.get? t = some j) : c'.index.get? t = some j := by
  have hgive {d : Catalog} {i : Identity} {u next : Int64} (hfree : d.index.get? u = none)
      (hj : d.index.get? t = some j) : (d.give i u next).index.get? t = some j := by
    have hne : u ≠ t := by
      rintro rfl
      rw [hfree] at hj
      exact absurd hj (by simp)
    rw [index_give]
    simpa [hne] using hj
  cases hchange with
  | kept => exact hj
  | sighted n type => rwa [(held_sight h.filed).2]
  | tokenized i => exact hgive h.get?_freeToken hj
  | assigned n type =>
    exact hgive (indexed_sight h n type).get?_freeToken (by rwa [(held_sight h.filed).2])
  | chosen t n type _ _ hfree => exact hgive hfree (by rwa [(held_sight h.filed).2])
  | read value n => exact hj
  | forgotten he => exact absurd he hk

end Step

/-! ## Runs -/

section Run

variable {c : Catalog} {calls : List Call}

theorem indexed_after (h : c.Indexed) (hd : noToken ∉ c.drawn calls) : (c.after calls).Indexed := by
  induction calls generalizing c with
  | nil => exact h
  | cons k calls ih =>
    rw [drawn, List.mem_append, not_or] at hd
    exact ih (indexed_of_change h (change_call c k) hd.1) hd.2

/-- **A token that an identity has stays for good.** -/
theorem token_after (hc : c.Filed) {j : Identity} (hj : c.token j ≠ noToken) :
    (c.after calls).token j = c.token j := by
  refine (after_of_change (P := fun d => d.Filed ∧ d.token j = c.token j) ?_ ⟨hc, rfl⟩).2
  rintro k - d d' hchange ⟨hd, htoken⟩
  exact ⟨filed_of_change hchange hd, (token_of_change hd hchange (htoken ▸ hj)).trans htoken⟩

/-- **What the index has under a token stays** until the next reset. -/
theorem get?_index_after (h : c.Indexed) (hd : noToken ∉ c.drawn calls) (hr : Call.reset ∉ calls)
    {t : Int64} {j : Identity} (hj : c.index.get? t = some j) :
    (c.after calls).index.get? t = some j := by
  induction calls generalizing c with
  | nil => exact hj
  | cons k calls ih =>
    rw [drawn, List.mem_append, not_or] at hd
    rw [List.mem_cons, not_or] at hr
    exact ih (indexed_of_change h (change_call c k) hd.1) hd.2 hr.2
      (get?_index_of_change h (change_call c k) (Ne.symm hr.1) hj)

end Run

/-- **The index and the tokens are inverse to each other, and what is in them stays.** A token leads to an
identity exactly when the catalog holds this identity and the identity has this token, so no two identities
share a token. However the run goes on, a token that an identity has stays, and so does its place in the
index. All this as long as the mark of an identity without a token has not been drawn from the counter. -/
theorem lookupByToken_iff_token (s : KeyStrategy) (calls more : List Call) (hr : Call.reset ∉ more)
    (hd : noToken ∉ (fresh s).drawn (calls ++ more)) :
    let c := (fresh s).after calls
    (∀ t i, c.lookupByToken t = some i ↔ c.Holds i ∧ c.token i = t ∧ t ≠ noToken) ∧
    (∀ i j, c.Holds i → c.Holds j → c.token i = c.token j → c.token i ≠ noToken → i = j) ∧
    (∀ i, c.token i ≠ noToken → (c.after more).token i = c.token i) ∧
    (∀ t i, c.lookupByToken t = some i → (c.after more).lookupByToken t = some i) := by
  intro c
  rw [drawn_append, List.mem_append, not_or] at hd
  have h : c.Indexed := indexed_after (indexed_fresh s fun _ _ => rfl) hd.1
  refine ⟨?_, ?_, ?_, ?_⟩
  · intro t i
    exact h.lookup_iff
  · intro i j hi hj htoken ht
    exact h.eq_of_token_eq hi hj htoken ht
  · intro i ht
    exact token_after h.filed ht
  · intro t i hi
    exact get?_index_after h hd.2 hr hi

/-- Chosen and drawn tokens side by side, in a catalog whose names all have the same key. -/
theorem lookupByToken_iff_token_of_one_key :
    let s : KeyStrategy := .hashed fun _ => 0
    let calls : List Call := [.assignWith 5 ⟨"h", "a", [], "x"⟩ .gauge, .assign ⟨"h", "a", [], "y"⟩ .delta]
    let more : List Call := [.assignWith 9 ⟨"h", "a", [], "x"⟩ .gauge, .assign ⟨" h", "a", ["n"], ""⟩ .text]
    let c := (fresh s).after calls
    Call.reset ∉ more ∧ noToken ∉ (fresh s).drawn (calls ++ more) ∧
    (∀ t i, c.lookupByToken t = some i ↔ c.Holds i ∧ c.token i = t ∧ t ≠ noToken) ∧
    (∀ i j, c.Holds i → c.Holds j → c.token i = c.token j → c.token i ≠ noToken → i = j) ∧
    (∀ i, c.token i ≠ noToken → (c.after more).token i = c.token i) ∧
    (∀ t i, c.lookupByToken t = some i → (c.after more).lookupByToken t = some i) := by
  intro s calls more c
  have hr : Call.reset ∉ more := by decide
  have hd : noToken ∉ (fresh s).drawn (calls ++ more) := by decide +kernel
  exact ⟨hr, hd, lookupByToken_iff_token s calls more hr hd⟩

end MetricRouter.Catalog
