import MetricRouter.Proofs.Catalog.Index

/-!
# Tokens that callers choose

What becomes of a chosen token depends on three things: whether a caller may choose it at all, what token the
identity of the name has, and who has the chosen one. This leaves four verdicts, of which exactly one applies.

* `Names`, `Free` — the identity of a name, and a token that no identity has;
* `Verdict`, `Verdict.Applies`, `Verdict.Comes` — the verdicts, when each applies, and what comes of it;
* `Sighted`, `sighted_sight` — a sighting adds at most the identity of the name;
* `Granted`, `granted_give` — a token that is granted leads to this identity, and nothing else moves;
* `assignTokenWith_verdict` — the main statement.
-/

namespace MetricRouter.Catalog

open Wire (FullName)

/-! ## Verdicts -/

/-- The catalog holds the identity, and it is the one of the name. -/
def Names (c : Catalog) (n : FullName) (i : Identity) : Prop := c.Holds i ∧ i.fqn = n.fqn

/-- No identity of the catalog has the token. -/
def Free (c : Catalog) (t : Int64) : Prop := ∀ i, c.Holds i → c.token i ≠ t

/-- The numbers that a caller may choose from. -/
def Choosable (t : Int64) : Prop := 1 ≤ t.toInt ∧ t.toInt ≤ 2 ^ 63 - 2

instance (t : Int64) : Decidable (Choosable t) := inferInstanceAs (Decidable (_ ∧ _))

/-- What can become of a token that is chosen for a name. -/
inductive Verdict where
  /-- It is no token that a caller may choose. -/
  | refused
  /-- The identity of the name stays with the token that it has. -/
  | kept
  /-- Another identity has it. -/
  | conflict
  /-- The identity of the name gets it. -/
  | granted

/-- **The catalog `c'` has at most the identity `i` of the name in addition**, and this one without a token. -/
structure Sighted (c : Catalog) (n : FullName) (i : Identity) (c' : Catalog) : Prop where
  names : c'.Names n i
  holds : ∀ j, c'.Holds j ↔ c.Holds j ∨ j = i
  known : c.Holds i → c' = c
  unknown : ¬ c.Holds i → c'.token i = noToken
  token : ∀ j, c'.token j = c.token j
  index : c'.index = c.index
  nextToken : c'.nextToken = c.nextToken

/-- **In the catalog `c'` the identity `i` of the name has the token**, the index leads from the one to the other
and the counter is past it. What other identities have is as in `c`. -/
structure Granted (c : Catalog) (t : Int64) (n : FullName) (i : Identity) (c' : Catalog) : Prop where
  names : c'.Names n i
  holds : ∀ j, c'.Holds j ↔ c.Holds j ∨ j = i
  token : c'.token i = t
  lookup : c'.lookupByToken t = some i
  nextToken : t.toInt + 1 ≤ c'.nextToken.toInt
  others : ∀ j, c.Holds j → j ≠ i → c'.token j = c.token j
  lookups : ∀ u, u ≠ t → c'.lookupByToken u = c.lookupByToken u

namespace Verdict

/-- When a verdict applies. -/
def Applies (c : Catalog) (t : Int64) (n : FullName) : Verdict → Prop
  | refused => ¬ Choosable t
  | kept => Choosable t ∧ ∃ i, c.Names n i ∧ c.token i ≠ noToken ∧ (c.token i = t ∨ c.Free t)
  | conflict => Choosable t ∧ ∃ h, c.Holds h ∧ h.fqn ≠ n.fqn ∧ c.token h = t
  | granted => Choosable t ∧ (∀ i, c.Names n i → c.token i = noToken) ∧ c.Free t

/-- What comes of a verdict: the answer, and the catalog after it. -/
def Comes (c : Catalog) (t : Int64) (n : FullName) (r : Except Failure Int64 × Catalog) : Verdict → Prop
  | refused => r = (.error (.protocol ("invalid token " ++ toString t.toInt)), c)
  | kept => ∃ i, c.Names n i ∧ r = (.ok (c.token i), c)
  | conflict =>
    ∃ h, c.Holds h ∧ h.fqn ≠ n.fqn ∧ c.token h = t ∧ r.1 = .error (.tokenConflict t h.fqn) ∧
      ∃ i, Sighted c n i r.2
  | granted => r.1 = .ok t ∧ ∃ i, Granted c t n i r.2

end Verdict

/-! ## When a verdict applies -/

theorem isChoosable_iff (t : Int64) : isChoosable t = true ↔ Choosable t := by
  simp only [isChoosable, Bool.and_eq_true, decide_eq_true_eq, Int64.le_iff_toInt_le, Int64.lt_iff_toInt_lt,
    Int64.toInt_maxValue]
  show 1 ≤ t.toInt ∧ _ ↔ 1 ≤ t.toInt ∧ _
  omega

section Applies

variable {c : Catalog} {t : Int64} {n : FullName}

theorem Indexed.free_iff (h : c.Indexed) (ht : Choosable t) : c.Free t ↔ c.index.get? t = none := by
  constructor
  · intro hfree
    by_contra hsome
    obtain ⟨i, hi⟩ := Option.ne_none_iff_exists'.mp hsome
    obtain ⟨hheld, htoken, -⟩ := h.sound hi
    exact hfree i hheld htoken
  · rintro hnone i hi rfl
    have hlookup := h.complete hi (ne_noToken_of_isChoosable ((isChoosable_iff _).mpr ht))
    rw [hnone] at hlookup
    exact absurd hlookup (by simp)

theorem eq_of_names (hc : c.Filed) {i j : Identity} (hi : c.Names n i) (hj : c.Names n j) : i = j := by
  have hi' := (holds_iff_find? hc).mp hi.1
  have hj' := (holds_iff_find? hc).mp hj.1
  rw [hi.2] at hi'
  rw [hj.2, hi'] at hj'
  exact Option.some.inj hj'

namespace Verdict

theorem not_conflict_of_kept (h : c.Indexed) (hkept : kept.Applies c t n) : ¬ conflict.Applies c t n := by
  rintro ⟨-, j, hj, hne, htoken⟩
  obtain ⟨-, i, hi, hnone, hsame | hfree⟩ := hkept
  · -- no two identities have the same token
    obtain rfl := h.eq_of_token_eq hi.1 hj (hsame.trans htoken.symm) hnone
    exact hne hi.2
  · exact hfree j hj htoken

theorem not_granted_of_kept (hkept : kept.Applies c t n) : ¬ granted.Applies c t n := by
  rintro ⟨-, hnone, -⟩
  obtain ⟨-, i, hi, htoken, -⟩ := hkept
  exact htoken (hnone i hi)

theorem not_granted_of_conflict (hconflict : conflict.Applies c t n) : ¬ granted.Applies c t n := by
  rintro ⟨-, -, hfree⟩
  obtain ⟨-, j, hj, -, htoken⟩ := hconflict
  exact hfree j hj htoken

theorem eq_of_applies (h : c.Indexed) {v w : Verdict} (hv : v.Applies c t n) (hw : w.Applies c t n) : v = w := by
  cases v <;> cases w
  case refused.refused | kept.kept | conflict.conflict | granted.granted => rfl
  case refused.kept | refused.conflict | refused.granted => exact absurd hw.1 hv
  case kept.refused | conflict.refused | granted.refused => exact absurd hv.1 hw
  case kept.conflict => exact absurd hw (not_conflict_of_kept h hv)
  case conflict.kept => exact absurd hv (not_conflict_of_kept h hw)
  case kept.granted => exact absurd hw (not_granted_of_kept hv)
  case granted.kept => exact absurd hv (not_granted_of_kept hw)
  case conflict.granted => exact absurd hw (not_granted_of_conflict hv)
  case granted.conflict => exact absurd hv (not_granted_of_conflict hw)

end Verdict

end Applies

/-! ## What comes of a verdict -/

section Comes

variable {c : Catalog} {t : Int64} {n : FullName} {type : MetricType}

theorem names_sight (hc : c.Filed) : (c.sight n type).2.Names n (c.sight n type).1 :=
  ⟨holds_sight hc, fqn_of_find? (filed_sight hc) (find?_sight hc)⟩

/-- **A sighting adds at most the identity of the name.** -/
theorem sighted_sight (h : c.Indexed) (n : FullName) (type : MetricType) :
    Sighted c n (c.sight n type).1 (c.sight n type).2 where
  names := names_sight h.filed
  holds := by
    intro j
    constructor
    · intro hj
      rcases sight_cases h.filed n type with ⟨i, -, hs⟩ | ⟨-, c', hs, -⟩
      · rw [hs] at hj
        exact Or.inl hj
      · rcases holds_sight_cases h.filed hj with hj | ⟨rfl, -⟩
        · exact Or.inl hj
        · exact Or.inr (by rw [hs])
    · rintro (hj | rfl)
      · exact holds_sight_of_holds h.filed hj
      · exact holds_sight h.filed
  known := by
    intro hi
    have hfound := (holds_iff_find? h.filed).mp hi
    rw [(names_sight h.filed).2] at hfound
    rw [sight_of_find? hfound]
  unknown := by
    intro hi
    rw [token_sight h.filed]
    rcases sight_cases h.filed n type with ⟨i, hfound, hs⟩ | ⟨-, c', hs, -⟩
    · rw [hs] at hi
      exact absurd (holds_of_find? h.filed hfound) hi
    · rw [hs]
      exact token_newcomer h
  token := token_sight h.filed
  index := (held_sight h.filed).2
  nextToken := nextToken_sight h.filed n type

/-- **A chosen token that is given to the identity of a name is granted**, and the counter moves past it. -/
theorem granted_give {d : Catalog} {i : Identity} (hs : Sighted c n i d) (hd : d.Indexed)
    (ht : Choosable t) : Granted c t n i (d.give i t (max d.nextToken (t + 1))) where
  names := hs.names
  holds := hs.holds
  token := by rw [token_give, if_pos rfl]
  lookup := by simp [lookupByToken, index_give]
  nextToken := by
    have hmax : (max d.nextToken (t + 1)).toInt = max d.nextToken.toInt (t + 1).toInt := toInt_max _ _
    have hsucc : (t + 1).toInt = t.toInt + 1 := toInt_succ (by have := ht.2; omega)
    show _ ≤ (max d.nextToken (t + 1)).toInt
    omega
  others := by
    intro j hj hne
    have hserial : i.serial ≠ j.serial := fun e =>
      hne (hd.numbered.inj hs.names.1 ((hs.holds j).mpr (Or.inl hj)) e).symm
    rw [token_give, if_neg hserial, hs.token]
  lookups := by
    intro u hu
    show (d.give i t _).index.get? u = c.index.get? u
    rw [index_give, hs.index]
    exact if_neg (Ne.symm hu)

end Comes

/-! ## Every request meets its verdict -/

section Requests

variable {c d : Catalog} {t : Int64} {n : FullName} {i j : Identity}

theorem Sighted.eq_of_names (hs : Sighted c n i d) (hd : d.Indexed) (hj : c.Names n j) : j = i :=
  Catalog.eq_of_names hd.filed ⟨(hs.holds j).mpr (Or.inl hj.1), hj.2⟩ hs.names

theorem Sighted.holds_of_token (hs : Sighted c n i d) (ht : d.token i ≠ noToken) : c.Holds i := by
  by_contra hno
  exact ht (hs.unknown hno)

/-- **A verdict that applies to the request comes about.** -/
theorem exists_verdict (h : c.Indexed) (t : Int64) (n : FullName) (type : MetricType) :
    ∃ v : Verdict, v.Applies c t n ∧
      v.Comes c t n (c.assignTokenWith t n.host n.agent n.name type n.segments) := by
  have hs := sighted_sight h n type
  have hd := indexed_sight h n type
  have hcases := assignTokenWith_cases c t n type
  dsimp only at hcases
  generalize c.assignTokenWith t n.host n.agent n.name type n.segments = r at hcases ⊢
  generalize (c.sight n type).2 = d at hs hd hcases
  generalize (c.sight n type).1 = i at hs hcases
  rcases hcases with ⟨hno, hr⟩ | ⟨hc, hcases⟩
  · refine ⟨.refused, ?_, hr⟩
    rw [Verdict.Applies, ← isChoosable_iff, hno]
    exact Bool.false_ne_true
  have ht : Choosable t := (isChoosable_iff t).mp hc
  have htoken : c.token i = d.token i := (hs.token i).symm
  rcases hcases with ⟨hsame, hr⟩ | ⟨holder, hne, hi, hr⟩ | ⟨-, hi, hsome, hr⟩ | ⟨hi, hnone, hr⟩
  · -- the identity has the chosen token
    have hsome : d.token i ≠ noToken := hsame ▸ ne_noToken_of_isChoosable hc
    have hheld := hs.holds_of_token hsome
    refine ⟨.kept, ⟨ht, i, ⟨hheld, hs.names.2⟩, htoken ▸ hsome, Or.inl (htoken.trans hsame)⟩, ?_⟩
    exact ⟨i, ⟨hheld, hs.names.2⟩, by rw [hr, hs.known hheld, htoken, hsame]⟩
  · -- another identity has it
    rw [hs.index] at hi
    obtain ⟨hheld, hholder, -⟩ := h.sound hi
    have hname : holder.fqn ≠ n.fqn := by
      intro e
      obtain rfl := hs.eq_of_names hd ⟨hheld, e⟩
      exact hne (htoken.symm.trans hholder)
    refine ⟨.conflict, ⟨ht, holder, hheld, hname, hholder⟩, ?_⟩
    rw [hr]
    exact ⟨holder, hheld, hname, hholder, rfl, i, hs⟩
  · -- the identity has another token, and nobody has the chosen one
    have hheld := hs.holds_of_token hsome
    have hfree : c.Free t := (h.free_iff ht).mpr (hs.index ▸ hi)
    refine ⟨.kept, ⟨ht, i, ⟨hheld, hs.names.2⟩, htoken ▸ hsome, Or.inr hfree⟩, ?_⟩
    exact ⟨i, ⟨hheld, hs.names.2⟩, by rw [hr, hs.known hheld, htoken]⟩
  · have hfree : c.Free t := (h.free_iff ht).mpr (hs.index ▸ hi)
    refine ⟨.granted, ⟨ht, ?_, hfree⟩, ?_⟩
    · intro j hj
      rw [hs.eq_of_names hd hj, htoken, hnone]
    · rw [hr]
      exact ⟨rfl, i, granted_give hs hd ht⟩

theorem Verdict.Comes.lookup (h : c.Indexed) {v : Verdict} (happlies : v.Applies c t n)
    {r : Except Failure Int64 × Catalog} (hr : v.Comes c t n r) {u : Int64} (hu : r.1 = .ok u) :
    ∃ i, r.2.Names n i ∧ r.2.lookupByToken u = some i := by
  cases v with
  | refused =>
    rw [show r = _ from hr] at hu
    exact absurd hu (by simp)
  | kept =>
    obtain ⟨i, hi, rfl⟩ := hr
    obtain ⟨-, j, hj, htoken, -⟩ := happlies
    obtain rfl := eq_of_names h.filed hi hj
    obtain rfl := Except.ok.inj hu
    exact ⟨i, hi, h.complete hi.1 htoken⟩
  | conflict =>
    obtain ⟨j, -, -, -, hfailure, -⟩ := hr
    rw [hfailure] at hu
    exact absurd hu (by simp)
  | granted =>
    obtain ⟨hok, i, hi⟩ := hr
    rw [hok] at hu
    obtain rfl := Except.ok.inj hu
    exact ⟨i, hi.names, hi.lookup⟩

theorem Verdict.Comes.token {v : Verdict} {r : Except Failure Int64 × Catalog} (hr : v.Comes c t n r)
    {failure : Failure} (hfailure : r.1 = .error failure) : r.2.token = c.token := by
  cases v with
  | refused => rw [show r = _ from hr]
  | kept =>
    obtain ⟨i, -, rfl⟩ := hr
    rfl
  | conflict =>
    obtain ⟨-, -, -, -, -, i, hs⟩ := hr
    exact funext hs.token
  | granted =>
    rw [hr.1] at hfailure
    exact absurd hfailure (by simp)

end Requests

/-- **Exactly one verdict applies to a chosen token, and it comes about.** A token that no caller may choose is
turned down and nothing changes; an identity with a token keeps it, unless another identity has the chosen one; a
token that another identity has is turned down with the name of this identity, and at most the identity of the name
is new, without a token; a free token is granted to the identity of the name if it has none. So the token that is
answered leads to the identity of the name, and a request that is turned down changes no token. All this as long
as the mark of an identity without a token has not been drawn from the counter. -/
theorem assignTokenWith_verdict (s : KeyStrategy) (calls : List Call) (hd : noToken ∉ (fresh s).drawn calls)
    (t : Int64) (n : FullName) (type : MetricType) :
    let c := (fresh s).after calls
    let r := c.assignTokenWith t n.host n.agent n.name type n.segments
    (∃! v : Verdict, v.Applies c t n) ∧
    (∀ v : Verdict, v.Applies c t n → v.Comes c t n r) ∧
    (∀ u, r.1 = .ok u → ∃ i, r.2.Names n i ∧ r.2.lookupByToken u = some i) ∧
    (∀ failure, r.1 = .error failure → r.2.token = c.token) := by
  intro c r
  have h : c.Indexed := indexed_after (indexed_fresh s fun _ _ => rfl) hd
  obtain ⟨v, happlies, hcomes⟩ := exists_verdict h t n type
  have hunique : ∀ w : Verdict, w.Applies c t n → w = v := fun w hw => Verdict.eq_of_applies h hw happlies
  refine ⟨⟨v, happlies, hunique⟩, ?_, ?_, ?_⟩
  · intro w hw
    rw [hunique w hw]
    exact hcomes
  · intro u hu
    exact hcomes.lookup h happlies hu
  · intro failure hfailure
    exact hcomes.token hfailure

/-- A token that was drawn for one name is chosen for another, which is new and shares its key. -/
theorem assignTokenWith_verdict_of_drawn_token :
    let s : KeyStrategy := .hashed fun _ => 0
    let calls : List Call := [.assignWith 5 ⟨"h", "a", [], "x"⟩ .gauge, .assign ⟨"h", "a", [], "y"⟩ .delta]
    let n : FullName := ⟨"h", "a", ["n"], "z"⟩
    let c := (fresh s).after calls
    let r := c.assignTokenWith 6 n.host n.agent n.name .gauge n.segments
    noToken ∉ (fresh s).drawn calls ∧ Verdict.conflict.Applies c 6 n ∧
    (∃! v : Verdict, v.Applies c 6 n) ∧
    (∀ v : Verdict, v.Applies c 6 n → v.Comes c 6 n r) ∧
    (∀ u, r.1 = .ok u → ∃ i, r.2.Names n i ∧ r.2.lookupByToken u = some i) ∧
    (∀ failure, r.1 = .error failure → r.2.token = c.token) := by
  intro s calls n c r
  have hd : noToken ∉ (fresh s).drawn calls := by decide +kernel
  let h : Identity := ⟨1, "h", "a", [], "y", .delta, "h/a:y"⟩
  have hheld : c.Holds h ∧ h.fqn ≠ n.fqn ∧ c.token h = 6 := by decide +kernel
  exact ⟨hd, ⟨by decide, h, hheld⟩, assignTokenWith_verdict s calls hd 6 n .gauge⟩

end MetricRouter.Catalog
