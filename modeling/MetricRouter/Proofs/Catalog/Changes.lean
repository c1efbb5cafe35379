import MetricRouter.Proofs.Catalog.Filing

/-!
# What a call can do to a catalog

A call sights a metric, gives a token to an identity, takes a reading or forgets everything. Each of these
is one constructor of `Change`, and what all of them keep, every run of calls keeps.

* `give` — the one way in which an identity gets a token;
* `tokenize_of_untokenized`, `assignTokenWith_cases` — what the calls about tokens answer and do;
* `change_call` — every call makes a `Change`;
* `filedAlike_of_change` — apart from a reset, what a call sights is all that it files;
* `filed_after` — identities are filed properly in every catalog that calls lead to.
-/

namespace MetricRouter.Catalog

open Wire (FullName)

/-! ## Giving a token -/

/-- The catalog after an identity was given a token and the counter was moved. -/
def give (c : Catalog) (i : Identity) (t next : Int64) : Catalog :=
  { c with
    tokens := { c.tokens with held := c.tokens.held.insert i.serial t }
    index := c.index.insert t i
    nextToken := next }

/-- The token that the counter leads to. -/
def freeToken (c : Catalog) : Int64 := firstFree c.index c.index.size c.nextToken

section Give

variable (c : Catalog) (i j : Identity) (t next : Int64)

theorem token_give : (c.give i t next).token j = if i.serial = j.serial then t else c.token j := by
  unfold token Tokens.token give
  rw [Table.get?_insert]
  split <;> rfl

theorem index_give : (c.give i t next).index.get? = fun u => if t = u then some i else c.index.get? u :=
  funext fun u => Table.get?_insert c.index t u i

variable {c i}

theorem tokenize_of_tokenized (h : c.token i ≠ noToken) : c.tokenize i = (c.token i, c) := by
  have h' : ¬ c.tokens.token i = noToken := h
  simp [tokenize, Tokens.isTokenized, h']

theorem tokenize_of_untokenized (h : c.token i = noToken) :
    c.tokenize i = (c.freeToken, c.give i c.freeToken (c.freeToken + 1)) := by
  have h' : c.tokens.token i = noToken := h
  simp [tokenize, Tokens.isTokenized, h', Tokens.assign?, give, freeToken]

end Give

theorem ne_noToken_of_isChoosable {t : Int64} (h : isChoosable t = true) : t ≠ noToken := by
  rintro rfl
  exact absurd h (by decide)

/-- **What becomes of a chosen token.** It is refused at once, or the metric is sighted and then the
identity has the token, or another identity has it, or the identity has another token, or the token is
given. -/
theorem assignTokenWith_cases (c : Catalog) (t : Int64) (n : FullName) (type : MetricType) :
    let s := c.sight n type
    let r := c.assignTokenWith t n.host n.agent n.name type n.segments
    (isChoosable t = false ∧ r = (.error (.protocol ("invalid token " ++ toString t.toInt)), c)) ∨
      isChoosable t = true ∧
        ((s.2.token s.1 = t ∧ r = (.ok t, s.2)) ∨
        (∃ holder, s.2.token s.1 ≠ t ∧ s.2.index.get? t = some holder ∧
          r = (.error (.tokenConflict t holder.fqn), s.2)) ∨
        (s.2.token s.1 ≠ t ∧ s.2.index.get? t = none ∧ s.2.token s.1 ≠ noToken ∧
          r = (.ok (s.2.token s.1), s.2)) ∨
        (s.2.index.get? t = none ∧ s.2.token s.1 = noToken ∧
          r = (.ok t, s.2.give s.1 t (max s.2.nextToken (t + 1))))) := by
  intro s r
  cases hc : isChoosable t with
  | false => exact Or.inl ⟨rfl, by simp [r, assignTokenWith, hc]⟩
  | true =>
    refine Or.inr ⟨rfl, ?_⟩
    have hs : c.resolve n.host n.agent n.name type n.segments = (s.1, s.2) := rfl
    by_cases ht : s.2.token s.1 = t
    · refine Or.inl ⟨ht, ?_⟩
      simp [r, assignTokenWith, hc, hs, ht]
    cases hi : s.2.index.get? t with
    | some holder =>
      refine Or.inr (Or.inl ⟨holder, ht, rfl, ?_⟩)
      simp [r, assignTokenWith, hc, hs, ht, hi]
    | none =>
      by_cases hn : s.2.token s.1 = noToken
      · have hn' : s.2.tokens.token s.1 = noToken := hn
        refine Or.inr (Or.inr (Or.inr ⟨rfl, hn, ?_⟩))
        simp only [r, assignTokenWith, hc, hs, Bool.not_true, Bool.false_eq_true, if_false, if_neg ht, hi,
          Tokens.assign?, if_pos hn']
        rfl
      · have hn' : ¬ s.2.tokens.token s.1 = noToken := hn
        refine Or.inr (Or.inr (Or.inl ⟨ht, rfl, hn, ?_⟩))
        simp only [r, assignTokenWith, hc, hs, Bool.not_true, Bool.false_eq_true, if_false, if_neg ht, hi,
          Tokens.assign?, if_neg hn']

/-! ## Changes -/

/-- **What a call can do to a catalog.** -/
inductive Change (c : Catalog) (k : Call) : Catalog → Prop where
  /-- Nothing. -/
  | kept (hk : k.sights = none) : Change c k c
  /-- It sights a metric. -/
  | sighted (n : FullName) (type : MetricType) (hk : k.sights = some (n.fqn, type)) :
      Change c k (c.sight n type).2
  /-- It draws a token for an identity. -/
  | tokenized (i : Identity) (hk : k = .tokenize i) (hi : c.Holds i) (ht : c.token i = noToken) :
      Change c k (c.give i c.freeToken (c.freeToken + 1))
  /-- It sights a metric and draws a token for its identity. -/
  | assigned (n : FullName) (type : MetricType) (hk : k = .assign n type)
      (ht : (c.sight n type).2.token (c.sight n type).1 = noToken) :
      Change c k ((c.sight n type).2.give (c.sight n type).1 (c.sight n type).2.freeToken
        ((c.sight n type).2.freeToken + 1))
  /-- It sights a metric and gives its identity a chosen token that is free. -/
  | chosen (t : Int64) (n : FullName) (type : MetricType) (hk : k = .assignWith t n type)
      (hc : isChoosable t = true) (hi : (c.sight n type).2.index.get? t = none)
      (ht : (c.sight n type).2.token (c.sight n type).1 = noToken) :
      Change c k ((c.sight n type).2.give (c.sight n type).1 t (max (c.sight n type).2.nextToken (t + 1)))
  /-- It takes a reading. -/
  | read (value : Int64) (n : FullName) (hk : k = .delta value n) :
      Change c k { c with readings := c.readings.insert n.fqn value }
  /-- It forgets everything. -/
  | forgotten (hk : k = .reset) : Change c k c.reset

/-- **Every call makes a change of one of these kinds.** -/
theorem change_call (c : Catalog) (k : Call) : Change c k (c.call k).2 := by
  cases k with
  | resolve n type => exact .sighted n type rfl
  | build fqn type =>
    cases hp : Fqn.parse fqn with
    | error fault =>
      have hk : (Call.build fqn type).sights = none := by simp [Call.sights, hp]
      simpa [call, build, hp, Except.map] using Change.kept hk
    | ok p =>
      have hk : (Call.build fqn type).sights =
          some ((⟨p.host, p.agent, p.segments, p.name⟩ : FullName).fqn, type) := by
        simp [Call.sights, hp, FullName.fqn]
      have hcall : (c.call (.build fqn type)).2 =
          (c.sight ⟨p.host, p.agent, p.segments, p.name⟩ type).2 := by
        simp [call, build, hp, Except.map, sight]
      exact hcall ▸ .sighted _ type hk
  | tokenize i =>
    by_cases hi : c.Holds i
    · by_cases ht : c.token i = noToken
      · simpa [call, hi, tokenize_of_untokenized ht] using Change.tokenized i rfl hi ht
      · simpa [call, hi, tokenize_of_tokenized ht] using Change.kept (k := .tokenize i) rfl
    · simpa [call, hi] using Change.kept (k := .tokenize i) rfl
  | assign n type =>
    show Change c _ ((c.sight n type).2.tokenize (c.sight n type).1).2
    by_cases ht : (c.sight n type).2.token (c.sight n type).1 = noToken
    · rw [tokenize_of_untokenized ht]
      exact .assigned n type rfl ht
    · rw [tokenize_of_tokenized ht]
      exact .sighted n type rfl
  | assignWith t n type =>
    have hsights (h : isChoosable t = true) : (Call.assignWith t n type).sights = some (n.fqn, type) := by
      simp [Call.sights, h]
    rcases assignTokenWith_cases c t n type with ⟨hc, hr⟩ | ⟨hc, h⟩
    · have hk : (Call.assignWith t n type).sights = none := by simp [Call.sights, hc]
      simpa [call, hr] using Change.kept hk
    · rcases h with ⟨-, hr⟩ | ⟨holder, -, -, hr⟩ | ⟨-, -, -, hr⟩ | ⟨hi, ht, hr⟩
      · simpa [call, hr] using Change.sighted n type (hsights hc)
      · simpa [call, hr] using Change.sighted n type (hsights hc)
      · simpa [call, hr] using Change.sighted n type (hsights hc)
      · simpa [call, hr] using Change.chosen t n type rfl hc hi ht
  | isAssigned n => exact .kept rfl
  | lookup t => exact .kept rfl
  | delta value n => exact .read value n rfl
  | size => exact .kept rfl
  | reset => exact .forgotten rfl

/-- **What every change keeps, every run of calls keeps.** -/
theorem after_of_change {P : Catalog → Prop} {calls : List Call}
    (h : ∀ k ∈ calls, ∀ c c', Change c k c' → P c → P c') {c : Catalog} (hc : P c) : P (c.after calls) :=
  Run.after_of_step (P := P) (fun k hk c hp => h k hk c _ (change_call c k) hp) hc

/-- **Identities are filed alike in both catalogs**, and the same collisions were counted and reported. -/
structure FiledAlike (c c' : Catalog) : Prop where
  strategy : c'.strategy = c.strategy
  primary : c'.primary = c.primary
  overflow : c'.overflow = c.overflow
  collisions : c'.collisions = c.collisions
  reports : c'.reports = c.reports

theorem FiledAlike.find? {c c' : Catalog} (h : FiledAlike c c') (f : String) : c'.find? f = c.find? f := by
  unfold Catalog.find?
  rw [h.strategy, h.primary, h.overflow]

theorem FiledAlike.size {c c' : Catalog} (h : FiledAlike c c') : c'.size = c.size := by
  unfold Catalog.size
  rw [h.primary, h.overflow]

theorem filedAlike_of_change {c c' : Catalog} {k : Call} (h : Change c k c') (hk : k ≠ .reset) :
    (k.sights = none ∧ FiledAlike c c') ∨
      ∃ n type, k.sights = some (n.fqn, type) ∧ FiledAlike (c.sight n type).2 c' := by
  cases h with
  | kept hs => exact Or.inl ⟨hs, ⟨rfl, rfl, rfl, rfl, rfl⟩⟩
  | sighted n type hs => exact Or.inr ⟨n, type, hs, ⟨rfl, rfl, rfl, rfl, rfl⟩⟩
  | tokenized i he => exact Or.inl ⟨he ▸ rfl, ⟨rfl, rfl, rfl, rfl, rfl⟩⟩
  | assigned n type he => exact Or.inr ⟨n, type, he ▸ rfl, ⟨rfl, rfl, rfl, rfl, rfl⟩⟩
  | chosen t n type he hcho =>
    exact Or.inr ⟨n, type, by rw [he]; simp [Call.sights, hcho], ⟨rfl, rfl, rfl, rfl, rfl⟩⟩
  | read value n he => exact Or.inl ⟨he ▸ rfl, ⟨rfl, rfl, rfl, rfl, rfl⟩⟩
  | forgotten he => exact absurd he hk

theorem filed_of_change {c c' : Catalog} {k : Call} (h : Change c k c') (hc : c.Filed) : c'.Filed := by
  cases h with
  | kept => exact hc
  | sighted n type => exact filed_sight hc
  | tokenized i => exact ⟨hc.primary, hc.overflow⟩
  | assigned n type => exact ⟨(filed_sight hc).primary, (filed_sight hc).overflow⟩
  | chosen t n type => exact ⟨(filed_sight hc).primary, (filed_sight hc).overflow⟩
  | read value n => exact ⟨hc.primary, hc.overflow⟩
  | forgotten => exact filed_fresh c.strategy c.tokens

theorem filed_after {c : Catalog} (hc : c.Filed) (calls : List Call) : (c.after calls).Filed :=
  after_of_change (fun _ _ _ _ h => filed_of_change h) hc

end MetricRouter.Catalog
