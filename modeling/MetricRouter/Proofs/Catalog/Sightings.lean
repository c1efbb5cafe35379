import MetricRouter.Proofs.Catalog.NameMap

/-!
# One identity for each name

The first sighting of a name since the last reset creates its identity and settles its type. Every later
sighting, under whatever spelling, returns the same object.

* `type_find?_after` — a catalog has an identity for exactly the names that were sighted, with the type of
  the first sighting;
* `find?_after_of_find?` — an identity stays until the next reset;
* `numbered_after` — serial numbers are never used twice;
* `answers_eq_of_strategies` — whatever the keys are, the catalog behaves as a map from full names to such
  identities.
-/

namespace MetricRouter.Catalog

open Wire (FullName)

/-! ## Sightings in a row -/

/-- The type that a call gives to a name that it sights. -/
def Call.typeFor (k : Call) (f : String) : Option MetricType :=
  k.sights.bind (fun s => if s.1 = f then some s.2 else none)

theorem sightings_reset (calls : List Call) : sightings (calls ++ [.reset]) = [] := by
  simp [sightings]

theorem sightings_concat {calls : List Call} {k : Call} (hk : k ≠ .reset) :
    sightings (calls ++ [k]) = sightings calls ++ k.sights.toList := by
  unfold sightings
  rw [List.rtakeWhile_concat_pos _ _ _ (by simpa using hk), List.filterMap_append]
  cases hs : k.sights <;> simp [hs]

theorem firstType_reset (calls : List Call) (f : String) : firstType (calls ++ [.reset]) f = none := by
  rw [firstType, sightings_reset]
  rfl

theorem firstType_concat {calls : List Call} {k : Call} (hk : k ≠ .reset) (f : String) :
    firstType (calls ++ [k]) f = (firstType calls f).or (k.typeFor f) := by
  have hlast : (k.sights.toList.find? (fun s => decide (s.1 = f))).map Prod.snd = k.typeFor f := by
    cases hs : k.sights with
    | none => simp [Call.typeFor, hs]
    | some s => by_cases hf : s.1 = f <;> simp [Call.typeFor, hs, hf]
  rw [firstType, sightings_concat hk, List.find?_append, Option.map_or, hlast]
  rfl

/-! ## What a call does to look-ups by name -/

section Find

variable {c c' : Catalog} {k : Call}

theorem find?_sight_eq (hc : c.Filed) (n : FullName) (type : MetricType) (f : String) :
    (c.sight n type).2.find? f =
      (c.find? f).or (if n.fqn = f then some (c.newcomer n type) else none) := by
  rcases sight_cases hc n type with ⟨i, hi, h⟩ | ⟨hno, c', h, hext⟩
  · rw [h]
    by_cases hf : n.fqn = f
    · subst hf
      simp [hi]
    · simp [hf]
  · rw [h, hext.find?, fqn_newcomer]
    by_cases hf : n.fqn = f
    · subst hf
      simp [hno]
    · simp [hf]

theorem find?_of_change (h : Change c k c') (hk : k ≠ .reset) :
    (k.sights = none ∧ ∀ f, c'.find? f = c.find? f) ∨
      ∃ n type, k.sights = some (n.fqn, type) ∧ ∀ f, c'.find? f = (c.sight n type).2.find? f := by
  rcases filedAlike_of_change h hk with ⟨hs, halike⟩ | ⟨n, type, hs, halike⟩
  · exact Or.inl ⟨hs, halike.find?⟩
  · exact Or.inr ⟨n, type, hs, halike.find?⟩

theorem type_find?_of_change (hc : c.Filed) (h : Change c k c') (hk : k ≠ .reset) (f : String) :
    (c'.find? f).map Identity.type = ((c.find? f).map Identity.type).or (k.typeFor f) := by
  rcases find?_of_change h hk with ⟨hs, hf⟩ | ⟨n, type, hs, hf⟩
  · rw [hf]
    simp [Call.typeFor, hs]
  · have hnew : (if n.fqn = f then some (c.newcomer n type) else none).map Identity.type = k.typeFor f := by
      by_cases he : n.fqn = f <;> simp [Call.typeFor, hs, he]
    rw [hf, find?_sight_eq hc, Option.map_or, hnew]

theorem find?_of_change_of_find? (hc : c.Filed) (h : Change c k c') (hk : k ≠ .reset) {f : String}
    {i : Identity} (hi : c.find? f = some i) : c'.find? f = some i := by
  rcases find?_of_change h hk with ⟨-, hf⟩ | ⟨n, type, -, hf⟩
  · rw [hf, hi]
  · rw [hf, find?_sight_eq hc, hi, Option.some_or]

/-- **An identity stays under its name** until the next reset. -/
theorem find?_after_of_find? (hc : c.Filed) {calls : List Call} (hr : Call.reset ∉ calls) {f : String}
    {i : Identity} (hi : c.find? f = some i) : (c.after calls).find? f = some i := by
  refine (after_of_change (P := fun c => c.Filed ∧ c.find? f = some i) ?_ ⟨hc, hi⟩).2
  rintro k hk c c' h ⟨hfiled, hfound⟩
  have hne : k ≠ .reset := fun e => hr (e ▸ hk)
  exact ⟨filed_of_change h hfiled, find?_of_change_of_find? hfiled h hne hfound⟩

end Find

/-- **A catalog has an identity for exactly the names that were sighted since the last reset**, with the
type of the first sighting. -/
theorem type_find?_after (s : KeyStrategy) (ts : Tokens) (calls : List Call) (f : String) :
    (((fresh s ts).after calls).find? f).map Identity.type = firstType calls f := by
  induction calls using List.reverseRecOn with
  | nil => rfl
  | append_singleton calls k ih =>
    have hc := filed_after (filed_fresh s ts) calls
    rw [after, Run.after_concat]
    by_cases hk : k = .reset
    · subst hk
      rw [firstType_reset]
      rfl
    · rw [type_find?_of_change hc (change_call _ k) hk, ih, firstType_concat hk]

/-! ## Serial numbers -/

/-- **Serial numbers are given out in order**: those of the identities held are below the next one, and no
two identities share one. -/
structure Numbered (c : Catalog) : Prop where
  lt : ∀ {i}, c.Holds i → i.serial < c.tokens.created
  inj : ∀ {i j}, c.Holds i → c.Holds j → i.serial = j.serial → i = j

theorem not_holds_fresh (s : KeyStrategy) (ts : Tokens) (i : Identity) : ¬ (fresh s ts).Holds i := by
  rintro (h | h)
  · exact absurd h List.not_mem_nil
  · exact absurd h List.not_mem_nil

theorem numbered_fresh (s : KeyStrategy) (ts : Tokens) : Numbered (fresh s ts) :=
  ⟨fun h => absurd h (not_holds_fresh s ts _), fun h => absurd h (not_holds_fresh s ts _)⟩

section Numbered

variable {c c' : Catalog} {k : Call}

theorem created_le_sight (hc : c.Filed) (n : FullName) (type : MetricType) :
    c.tokens.created ≤ (c.sight n type).2.tokens.created := by
  rcases sight_cases hc n type with ⟨i, -, h⟩ | ⟨-, c', h, hext⟩
  · rw [h]
  · rw [h, hext.created]
    exact Nat.le_succ _

theorem holds_sight_cases (hc : c.Filed) {n : FullName} {type : MetricType} {j : Identity}
    (hj : (c.sight n type).2.Holds j) :
    c.Holds j ∨ (j = c.newcomer n type ∧ (c.sight n type).2.tokens.created = c.tokens.created + 1) := by
  rcases sight_cases hc n type with ⟨i, -, h⟩ | ⟨-, c', h, hext⟩
  · rw [h] at hj
    exact Or.inl hj
  · rw [h] at hj ⊢
    rw [holds_iff_find? hext.filed, hext.find?] at hj
    split at hj
    · exact Or.inr ⟨(Option.some.inj hj).symm, by rw [hext.created]⟩
    · exact Or.inl ((holds_iff_find? hc).mpr hj)

theorem numbered_sight (hc : c.Filed) (hn : c.Numbered) (n : FullName) (type : MetricType) :
    (c.sight n type).2.Numbered := by
  have hle := created_le_sight hc n type
  refine ⟨fun {i} hi => ?_, fun {i j} hi hj heq => ?_⟩
  · rcases holds_sight_cases hc hi with hi | ⟨rfl, hcreated⟩
    · exact Nat.lt_of_lt_of_le (hn.lt hi) hle
    · rw [hcreated, serial_newcomer]
      exact Nat.lt_succ_self _
  · rcases holds_sight_cases hc hi with hi | ⟨rfl, -⟩ <;> rcases holds_sight_cases hc hj with hj | ⟨rfl, -⟩
    · exact hn.inj hi hj heq
    · exact absurd heq (Nat.ne_of_lt (hn.lt hi))
    · exact absurd heq.symm (Nat.ne_of_lt (hn.lt hj))
    · rfl

theorem created_le_of_change (hc : c.Filed) (h : Change c k c') :
    c.tokens.created ≤ c'.tokens.created := by
  cases h with
  | kept => exact Nat.le_refl _
  | sighted n type => exact created_le_sight hc n type
  | tokenized i => exact Nat.le_refl _
  | assigned n type => exact created_le_sight hc n type
  | chosen t n type => exact created_le_sight hc n type
  | read value n => exact Nat.le_refl _
  | forgotten => exact Nat.le_refl _

theorem numbered_of_change (hc : c.Filed) (hn : c.Numbered) (h : Change c k c') : c'.Numbered := by
  cases h with
  | kept => exact hn
  | sighted n type => exact numbered_sight hc hn n type
  | tokenized i => exact ⟨hn.lt, hn.inj⟩
  | assigned n type => exact ⟨(numbered_sight hc hn n type).lt, (numbered_sight hc hn n type).inj⟩
  | chosen t n type => exact ⟨(numbered_sight hc hn n type).lt, (numbered_sight hc hn n type).inj⟩
  | read value n => exact ⟨hn.lt, hn.inj⟩
  | forgotten => exact numbered_fresh c.strategy c.tokens

theorem numbered_after (hc : c.Filed) (hn : c.Numbered) (calls : List Call) : (c.after calls).Numbered :=
  (after_of_change (P := fun c => c.Filed ∧ c.Numbered)
    (fun _ _ _ _ h hp => ⟨filed_of_change h hp.1, numbered_of_change hp.1 hp.2 h⟩) ⟨hc, hn⟩).2

theorem created_le_after (hc : c.Filed) (calls : List Call) :
    c.tokens.created ≤ (c.after calls).tokens.created :=
  (after_of_change (P := fun d => d.Filed ∧ c.tokens.created ≤ d.tokens.created)
    (fun _ _ _ _ h hp => ⟨filed_of_change h hp.1, hp.2.trans (created_le_of_change hp.1 h)⟩)
    ⟨hc, Nat.le_refl _⟩).2

theorem ne_newcomer_of_holds (hc : c.Filed) (hn : c.Numbered) (calls : List Call) {i : Identity}
    (hi : c.Holds i) (n : FullName) (type : MetricType) : i ≠ (c.after calls).newcomer n type := by
  have hlt := Nat.lt_of_lt_of_le (hn.lt hi) (created_le_after hc calls)
  intro e
  rw [e, serial_newcomer] at hlt
  exact absurd hlt (Nat.lt_irrefl _)

end Numbered

/-! ## The catalog as a map of names -/

section Sight

variable (s : KeyStrategy) (ts : Tokens) (calls : List Call) (n : FullName) (type : MetricType)

theorem type_sight_after :
    (((fresh s ts).after calls).sight n type).1.type = (firstType calls n.fqn).getD type := by
  have hc : ((fresh s ts).after calls).Filed := filed_after (filed_fresh s ts) calls
  rw [← type_find?_after s ts]
  rcases sight_cases hc n type with ⟨i, hi, h⟩ | ⟨hno, c', h, -⟩
  · rw [h, hi]
    rfl
  · rw [h, hno]
    rfl

theorem ne_sight_of_firstType (hfirst : firstType calls n.fqn = none) {earlier : List Call}
    (hpre : earlier <+: calls) {j : Identity} (hj : ((fresh s ts).after earlier).Holds j) :
    j ≠ (((fresh s ts).after calls).sight n type).1 := by
  obtain ⟨rest, rfl⟩ := hpre
  have hc := filed_after (filed_fresh s ts) (earlier ++ rest)
  have hno : ((fresh s ts).after (earlier ++ rest)).find? n.fqn = none := by
    rw [← type_find?_after s ts] at hfirst
    exact Option.map_eq_none_iff.mp hfirst
  obtain ⟨c', h, -⟩ := sight_of_not_find? hc hno type
  rw [h, after, Run.after_append]
  exact ne_newcomer_of_holds (filed_after (filed_fresh s ts) earlier)
    (numbered_after (filed_fresh s ts) (numbered_fresh s ts) earlier) rest hj n type

theorem sight_after_sight {c : Catalog} (hc : c.Filed) {more : List Call} (hr : Call.reset ∉ more)
    {n' : FullName} (hsame : n'.fqn = n.fqn) (type' : MetricType) :
    (((c.sight n type).2.after more).sight n' type').1 = (c.sight n type).1 := by
  have hfound : (c.sight n type).2.find? n'.fqn = some (c.sight n type).1 := by
    rw [hsame]
    exact find?_sight hc
  rw [sight_of_find? (find?_after_of_find? (filed_sight hc) hr hfound) type']

end Sight

/-- **Catalogs with different keys cannot be told apart.** They answer all calls alike, the identities in
the answers included, and they answer as the plain map does. Raw identifiers stand for the one identity
that was created for their full name since the last reset: it has the type of the first sighting, it is a
new object if there was none, and it is what every later sighting returns until the next reset. -/
theorem answers_eq_of_strategies (s₁ s₂ : KeyStrategy) (ts : Tokens) (calls : List Call) :
    (fresh s₁ ts).answers calls = (fresh s₂ ts).answers calls ∧
    (fresh s₁ ts).answers calls = (NameMap.fresh ts).answers calls ∧
    ∀ (n : FullName) (type : MetricType),
      let c := (fresh s₁ ts).after calls
      let i := (c.sight n type).1
      i.fqn = n.fqn ∧ i.type = (firstType calls n.fqn).getD type ∧
      (firstType calls n.fqn = none →
        ∀ earlier, earlier <+: calls → ∀ j, ((fresh s₁ ts).after earlier).Holds j → j ≠ i) ∧
      (∀ more, Call.reset ∉ more → ∀ n' type', n'.fqn = n.fqn →
        (((c.sight n type).2.after more).sight n' type').1 = i) := by
  have hc : ((fresh s₁ ts).after calls).Filed := filed_after (filed_fresh s₁ ts) calls
  refine ⟨?_, answers_eq_answers s₁ ts calls, ?_⟩
  · rw [answers_eq_answers s₁, answers_eq_answers s₂]
  intro n type c i
  have hname : i.fqn = n.fqn := fqn_of_find? (filed_sight hc) (find?_sight hc)
  have htype : i.type = (firstType calls n.fqn).getD type := type_sight_after s₁ ts calls n type
  refine ⟨hname, htype, ?_, ?_⟩
  · intro hfirst earlier hpre j hj
    exact ne_sight_of_firstType s₁ ts calls n type hfirst hpre hj
  · intro more hr n' type' hsame
    exact sight_after_sight n type hc hr hsame type'

end MetricRouter.Catalog
