import MetricRouter.Proofs.Catalog.Calls
import MetricRouter.Proofs.Metric.Name
import MetricRouter.Proofs.Table

/-!
# How identities are filed

An identity stands under the key of its name, or in the overflow under the name itself when another name
holds the key. Whatever the keys are, a look-up by name sees one identity for each name.

* `Filed` — the invariant: every identity stands where `find?` looks for it;
* `holds_iff_find?` — the identities of a catalog are those that are found by their own names;
* `sight_cases` — a sighting returns the identity that is found, and files a new one if there is none;
* `filed_sight` — a sighting keeps the invariant;
* `strategy_sight`, `readings_sight`, `nextToken_sight` — what it leaves as it is.
-/

namespace MetricRouter.Catalog

open Wire (FullName)

/-- **Every identity stands where it is looked for**: under the key of its name, or under its name in the
overflow while another name holds the key. -/
structure Filed (c : Catalog) : Prop where
  primary : ∀ {k i}, c.primary.get? k = some i → c.strategy.key i.fqn = k
  overflow : ∀ {f i}, c.overflow.get? f = some i →
    i.fqn = f ∧ ∃ holder, c.primary.get? (c.strategy.key f) = some holder ∧ holder.fqn ≠ f

theorem filed_fresh (s : KeyStrategy) (ts : Tokens) : Filed (fresh s ts) :=
  ⟨fun h => by simp [fresh] at h, fun h => by simp [fresh] at h⟩

/-! ## Look-ups by name -/

section Find

variable {c : Catalog} {f : String} {i : Identity}

theorem find?_of_primary (h : c.primary.get? (c.strategy.key i.fqn) = some i) :
    c.find? i.fqn = some i := by
  simp [find?, h]

theorem find?_of_overflow {holder : Identity} (hp : c.primary.get? (c.strategy.key f) = some holder)
    (hne : holder.fqn ≠ f) : c.find? f = c.overflow.get? f := by
  simp [find?, hp, hne]

theorem find?_of_free (h : c.primary.get? (c.strategy.key f) = none) : c.find? f = none := by
  simp [find?, h]

theorem find?_eq_some_cases (h : c.find? f = some i) :
    (c.primary.get? (c.strategy.key f) = some i ∧ i.fqn = f) ∨
      ∃ holder, c.primary.get? (c.strategy.key f) = some holder ∧ holder.fqn ≠ f ∧
        c.overflow.get? f = some i := by
  cases hp : c.primary.get? (c.strategy.key f) with
  | none =>
    rw [find?_of_free hp] at h
    exact absurd h (by simp)
  | some holder =>
    by_cases hf : holder.fqn = f
    · left
      have hi : holder = i := by simpa [find?, hp, hf] using h
      subst hi
      exact ⟨rfl, hf⟩
    · right
      rw [find?_of_overflow hp hf] at h
      exact ⟨holder, rfl, hf, h⟩

theorem find?_eq_none_cases (h : c.find? f = none) :
    c.primary.get? (c.strategy.key f) = none ∨
      ∃ holder, c.primary.get? (c.strategy.key f) = some holder ∧ holder.fqn ≠ f ∧
        c.overflow.get? f = none := by
  cases hp : c.primary.get? (c.strategy.key f) with
  | none => exact Or.inl rfl
  | some holder =>
    have hne : holder.fqn ≠ f := by
      intro hf
      have hfound := find?_of_primary (i := holder) (hf.symm ▸ hp)
      rw [hf, h] at hfound
      exact absurd hfound (by simp)
    exact Or.inr ⟨holder, rfl, hne, find?_of_overflow hp hne ▸ h⟩

theorem fqn_of_find? (hc : c.Filed) (h : c.find? f = some i) : i.fqn = f := by
  rcases find?_eq_some_cases h with ⟨-, hf⟩ | ⟨holder, -, -, ho⟩
  · exact hf
  · exact (hc.overflow ho).1

theorem holds_iff_find? (hc : c.Filed) : c.Holds i ↔ c.find? i.fqn = some i := by
  constructor
  · rintro (h | h)
    · obtain ⟨k, hk⟩ := Table.mem_values_iff.mp h
      exact find?_of_primary ((hc.primary hk).symm ▸ hk)
    · obtain ⟨f, hf⟩ := Table.mem_values_iff.mp h
      obtain ⟨rfl, holder, hp, hne⟩ := hc.overflow hf
      rw [find?_of_overflow hp hne]
      exact hf
  · intro h
    rcases find?_eq_some_cases h with ⟨hp, -⟩ | ⟨holder, -, -, ho⟩
    · exact Or.inl (Table.mem_values_iff.mpr ⟨_, hp⟩)
    · exact Or.inr (Table.mem_values_iff.mpr ⟨_, ho⟩)

theorem holds_of_find? (hc : c.Filed) (h : c.find? f = some i) : c.Holds i :=
  (holds_iff_find? hc).mpr (fqn_of_find? hc h ▸ h)

end Find

/-! ## Sightings -/

/-- The identity that a catalog creates for raw identifiers. -/
def newcomer (c : Catalog) (n : FullName) (type : MetricType) : Identity :=
  (c.tokens.create n.host n.agent n.name type n.segments).1

section Newcomer

variable (c : Catalog) (n : FullName) (type : MetricType)

@[simp] theorem fqn_newcomer : (c.newcomer n type).fqn = n.fqn :=
  Fqn.render_sanitizeNamespace n.host n.agent n.name n.segments

@[simp] theorem type_newcomer : (c.newcomer n type).type = type := rfl

@[simp] theorem serial_newcomer : (c.newcomer n type).serial = c.tokens.created := rfl

end Newcomer

/-- **The catalog `c'` is the catalog `c` with one identity more.** -/
structure Extends (c : Catalog) (i : Identity) (c' : Catalog) : Prop where
  filed : c'.Filed
  find? : ∀ f, c'.find? f = if i.fqn = f then some i else c.find? f
  size : c'.size = c.size + 1
  created : c'.tokens = { c.tokens with created := c.tokens.created + 1 }
  index : c'.index = c.index
  readings : c'.readings = c.readings
  nextToken : c'.nextToken = c.nextToken

section Sight

variable {c : Catalog} {n : FullName} {type : MetricType}

theorem extends_primary (hc : c.Filed) (h : c.primary.get? (c.strategy.key n.fqn) = none) :
    Extends c (c.newcomer n type)
      { c with
        tokens := { c.tokens with created := c.tokens.created + 1 }
        primary := c.primary.insert (c.strategy.key n.fqn) (c.newcomer n type) } where
  filed := by
    refine ⟨fun {k i} hk => ?_, fun {f i} hf => ?_⟩
    · obtain ⟨hkey, rfl⟩ | ⟨-, hbefore⟩ := Table.get?_insert_eq_some_iff.mp hk
      · simpa using hkey
      · exact hc.primary hbefore
    · obtain ⟨hi, holder, hp, hne⟩ := hc.overflow hf
      refine ⟨hi, holder, ?_, hne⟩
      have hkey : c.strategy.key n.fqn ≠ c.strategy.key f := by
        intro e
        rw [e, hp] at h
        exact absurd h (by simp)
      simpa [hkey] using hp
  find? := by
    intro f
    by_cases hkey : c.strategy.key n.fqn = c.strategy.key f
    · -- another name with that key was not to be found, since the key was free
      have hno : c.overflow.get? f = none := by
        by_contra hsome
        obtain ⟨i, hi⟩ := Option.ne_none_iff_exists'.mp hsome
        obtain ⟨-, holder, hp, -⟩ := hc.overflow hi
        rw [← hkey, h] at hp
        exact absurd hp (by simp)
      have hfree : c.find? f = none := find?_of_free (hkey ▸ h)
      rw [hfree]
      simp [Catalog.find?, hkey, hno]
    · have hne : n.fqn ≠ f := fun e => hkey (e ▸ rfl)
      simp [Catalog.find?, hkey, hne]
  size := by
    show (c.primary.insert _ _).size + c.overflow.size = c.primary.size + c.overflow.size + 1
    rw [Table.size_insert, h]
    simp only [Option.isSome_none, Bool.false_eq_true, if_false]
    omega
  created := rfl
  index := rfl
  readings := rfl
  nextToken := rfl

theorem extends_overflow (hc : c.Filed) {holder : Identity}
    (hp : c.primary.get? (c.strategy.key n.fqn) = some holder) (hne : holder.fqn ≠ n.fqn)
    (ho : c.overflow.get? n.fqn = none) :
    Extends c (c.newcomer n type)
      { c with
        tokens := { c.tokens with created := c.tokens.created + 1 }
        overflow := c.overflow.insert n.fqn (c.newcomer n type)
        collisions := c.collisions + 1
        reports := c.reports ++ [⟨(c.strategy.key n.fqn).asNumber, n.fqn, holder.fqn⟩] } where
  filed := by
    refine ⟨fun hk => hc.primary hk, fun {f i} hf => ?_⟩
    obtain ⟨rfl, rfl⟩ | ⟨-, hbefore⟩ := Table.get?_insert_eq_some_iff.mp hf
    · exact ⟨fqn_newcomer c n type, holder, hp, hne⟩
    · exact hc.overflow hbefore
  find? := by
    intro f
    by_cases hf : n.fqn = f
    · subst hf
      simp [Catalog.find?, hp, hne]
    · simp [Catalog.find?, hf]
  size := by
    show c.primary.size + (c.overflow.insert _ _).size = c.primary.size + c.overflow.size + 1
    rw [Table.size_insert, ho]
    simp only [Option.isSome_none, Bool.false_eq_true, if_false]
    omega
  created := rfl
  index := rfl
  readings := rfl
  nextToken := rfl

theorem render_eq (n : FullName) : Fqn.render n.host n.agent n.name n.segments = n.fqn := rfl

theorem sight_of_find? {i : Identity} (h : c.find? n.fqn = some i) (type : MetricType) :
    c.sight n type = (i, c) := by
  rcases find?_eq_some_cases h with ⟨hp, hf⟩ | ⟨holder, hp, hne, ho⟩
  · simp only [sight, resolve, render_eq, hp]
    exact if_pos hf
  · simp only [sight, resolve, render_eq, hp, if_neg hne, ho]

theorem sight_of_free (h : c.primary.get? (c.strategy.key n.fqn) = none) (type : MetricType) :
    c.sight n type =
      (c.newcomer n type,
        { c with
          tokens := { c.tokens with created := c.tokens.created + 1 }
          primary := c.primary.insert (c.strategy.key n.fqn) (c.newcomer n type) }) := by
  simp only [sight, resolve, render_eq, h]
  rfl

theorem sight_of_held {holder : Identity} (hp : c.primary.get? (c.strategy.key n.fqn) = some holder)
    (hne : holder.fqn ≠ n.fqn) (ho : c.overflow.get? n.fqn = none) (type : MetricType) :
    c.sight n type =
      (c.newcomer n type,
        { c with
          tokens := { c.tokens with created := c.tokens.created + 1 }
          overflow := c.overflow.insert n.fqn (c.newcomer n type)
          collisions := c.collisions + 1
          reports := c.reports ++ [⟨(c.strategy.key n.fqn).asNumber, n.fqn, holder.fqn⟩] }) := by
  simp only [sight, resolve, render_eq, hp, if_neg hne, ho]
  rfl

theorem sight_of_not_find? (hc : c.Filed) (h : c.find? n.fqn = none) (type : MetricType) :
    ∃ c', c.sight n type = (c.newcomer n type, c') ∧ Extends c (c.newcomer n type) c' := by
  rcases find?_eq_none_cases h with hfree | ⟨holder, hp, hne, ho⟩
  · exact ⟨_, sight_of_free hfree type, extends_primary hc hfree⟩
  · exact ⟨_, sight_of_held hp hne ho type, extends_overflow hc hp hne ho⟩

/-- **All that a sighting can do.** -/
theorem sight_cases (hc : c.Filed) (n : FullName) (type : MetricType) :
    (∃ i, c.find? n.fqn = some i ∧ c.sight n type = (i, c)) ∨
      (c.find? n.fqn = none ∧
        ∃ c', c.sight n type = (c.newcomer n type, c') ∧ Extends c (c.newcomer n type) c') := by
  cases h : c.find? n.fqn with
  | none => exact Or.inr ⟨rfl, sight_of_not_find? hc h type⟩
  | some i => exact Or.inl ⟨i, rfl, sight_of_find? h type⟩

theorem filed_sight (hc : c.Filed) : (c.sight n type).2.Filed := by
  rcases sight_cases hc n type with ⟨i, -, h⟩ | ⟨-, c', h, hext⟩
  · rw [h]
    exact hc
  · rw [h]
    exact hext.filed

theorem find?_sight (hc : c.Filed) : (c.sight n type).2.find? n.fqn = some (c.sight n type).1 := by
  rcases sight_cases hc n type with ⟨i, hi, h⟩ | ⟨-, c', h, hext⟩
  · rw [h]
    exact hi
  · rw [h]
    simp [hext.find?]

theorem strategy_sight (c : Catalog) (n : FullName) (type : MetricType) :
    (c.sight n type).2.strategy = c.strategy := by
  cases h : c.find? n.fqn with
  | some i => rw [sight_of_find? h]
  | none =>
    rcases find?_eq_none_cases h with hfree | ⟨holder, hp, hne, ho⟩
    · rw [sight_of_free hfree]
    · rw [sight_of_held hp hne ho]

theorem readings_sight (hc : c.Filed) (n : FullName) (type : MetricType) :
    (c.sight n type).2.readings = c.readings := by
  rcases sight_cases hc n type with ⟨i, -, h⟩ | ⟨-, c', h, hext⟩
  · rw [h]
  · rw [h, hext.readings]

theorem nextToken_sight (hc : c.Filed) (n : FullName) (type : MetricType) :
    (c.sight n type).2.nextToken = c.nextToken := by
  rcases sight_cases hc n type with ⟨i, -, h⟩ | ⟨-, c', h, hext⟩
  · rw [h]
  · rw [h, hext.nextToken]

end Sight

end MetricRouter.Catalog
