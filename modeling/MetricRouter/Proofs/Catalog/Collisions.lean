import MetricRouter.Proofs.Catalog.Sightings

/-!
# Names that share a key

The first name with a key is filed under it, and the later ones with this key in the overflow. Each of them is
counted and reported once, however often it is sighted and in whatever order the names come.

* `sightedNames`, `firstWith` — the names since the last reset, and the first one with a key;
* `size_after`, `primary_after` — there is an identity for each name, and each key leads to its first name;
* `Reported` — the invariant: there is one report on each name in the overflow;
* `collisions_after` — the main statement.
-/

namespace MetricRouter.Catalog

open Wire (FullName)

/-! ## Names in the order of their sightings -/

/-- The names that were sighted since the last reset, in order. -/
def namesInOrder (calls : List Call) : List String := (sightings calls).map Prod.fst

/-- The different names that were sighted since the last reset. -/
def sightedNames (calls : List Call) : Finset String := (namesInOrder calls).toFinset

/-- The first name with the key that was sighted since the last reset. -/
def firstWith (s : KeyStrategy) (calls : List Call) (key : CatalogKey) : Option String :=
  (namesInOrder calls).find? (fun f => decide (s.key f = key))

section Names

variable {calls : List Call} {k : Call}

theorem namesInOrder_reset (calls : List Call) : namesInOrder (calls ++ [.reset]) = [] := by
  rw [namesInOrder, sightings_reset, List.map_nil]

theorem namesInOrder_concat (hk : k ≠ .reset) :
    namesInOrder (calls ++ [k]) = namesInOrder calls ++ (k.sights.map Prod.fst).toList := by
  rw [namesInOrder, sightings_concat hk, List.map_append]
  cases k.sights <;> rfl

theorem sightedNames_concat (hk : k ≠ .reset) :
    sightedNames (calls ++ [k]) = sightedNames calls ∪ (k.sights.map Prod.fst).toFinset := by
  unfold sightedNames
  rw [namesInOrder_concat hk, List.toFinset_append]
  cases k.sights <;> rfl

theorem firstWith_concat (s : KeyStrategy) (hk : k ≠ .reset) (key : CatalogKey) :
    firstWith s (calls ++ [k]) key =
      (firstWith s calls key).or ((k.sights.map Prod.fst).filter (fun f => decide (s.key f = key))) := by
  unfold firstWith
  rw [namesInOrder_concat hk, List.find?_append]
  congr 1
  cases k.sights with
  | none => rfl
  | some p => by_cases hp : s.key p.1 = key <;> simp [Option.filter_some, hp]

theorem isSome_firstWith {s : KeyStrategy} {key : CatalogKey} :
    (firstWith s calls key).isSome = true ↔ key ∈ (sightedNames calls).image s.key := by
  simp [firstWith, sightedNames, List.find?_isSome]

end Names

/-- **The names that were sighted are those that have an identity.** -/
theorem mem_sightedNames_iff (s : KeyStrategy) (ts : Tokens) (calls : List Call) (f : String) :
    f ∈ sightedNames calls ↔ (((fresh s ts).after calls).find? f).isSome = true := by
  rw [← Option.isSome_map (f := Identity.type), type_find?_after, firstType, Option.isSome_map,
    List.find?_isSome]
  simp [sightedNames, namesInOrder]

/-- **Who is in the overflow**: every name that has an identity while another name holds its key. -/
theorem mem_overflow_keys_iff {c : Catalog} (hc : c.Filed) (f : String) :
    f ∈ c.overflow.keys ↔ (c.find? f).isSome = true ∧
      ∃ first, (c.primary.get? (c.strategy.key f)).map Identity.fqn = some first ∧ first ≠ f := by
  rw [Table.mem_keys_iff]
  constructor
  · rintro ⟨i, hi⟩
    obtain ⟨-, holder, hp, hne⟩ := hc.overflow hi
    refine ⟨?_, holder.fqn, congrArg (Option.map Identity.fqn) hp, hne⟩
    rw [find?_of_overflow hp hne, hi]
    rfl
  · rintro ⟨hfound, first, hfirst, hne⟩
    obtain ⟨holder, hp, rfl⟩ := Option.map_eq_some_iff.mp hfirst
    rw [find?_of_overflow hp hne] at hfound
    exact Option.isSome_iff_exists.mp hfound

/-! ## What a sighting adds -/

theorem size_sight {c : Catalog} (hc : c.Filed) (n : FullName) (type : MetricType) :
    (c.sight n type).2.size = if (c.find? n.fqn).isSome = true then c.size else c.size + 1 := by
  rcases sight_cases hc n type with ⟨i, hi, h⟩ | ⟨hno, c', h, hext⟩
  · simp [h, hi]
  · simp [h, hno, hext.size]

theorem primary_sight (c : Catalog) (n : FullName) (type : MetricType) (key : CatalogKey) :
    ((c.sight n type).2.primary.get? key).map Identity.fqn =
      ((c.primary.get? key).map Identity.fqn).or
        (if c.strategy.key n.fqn = key then some n.fqn else none) := by
  have hkept {holder : Identity} (hp : c.primary.get? (c.strategy.key n.fqn) = some holder) :
      (c.primary.get? key).map Identity.fqn = ((c.primary.get? key).map Identity.fqn).or
        (if c.strategy.key n.fqn = key then some n.fqn else none) := by
    by_cases hkey : c.strategy.key n.fqn = key
    · rw [← hkey, hp]
      rfl
    · rw [if_neg hkey, Option.or_none]
  cases h : c.find? n.fqn with
  | some i =>
    rw [sight_of_find? h]
    rcases find?_eq_some_cases h with ⟨hp, -⟩ | ⟨holder, hp, -⟩
    · exact hkept hp
    · exact hkept hp
  | none =>
    rcases find?_eq_none_cases h with hfree | ⟨holder, hp, hne, ho⟩
    · rw [sight_of_free hfree, Table.get?_insert]
      by_cases hkey : c.strategy.key n.fqn = key
      · rw [if_pos hkey, if_pos hkey, ← hkey, hfree]
        exact congrArg some (fqn_newcomer c n type)
      · rw [if_neg hkey, if_neg hkey, Option.or_none]
    · rw [sight_of_held hp hne ho]
      exact hkept hp

/-! ## Reports -/

/-- **There is one report on each name in the overflow**, in the order in which the names came, and it names the
holder of the key. -/
structure Reported (c : Catalog) : Prop where
  expected : c.reports.map Collision.expected = c.overflow.keys
  found : ∀ r ∈ c.reports, r.key = (c.strategy.key r.expected).asNumber ∧
    (c.primary.get? (c.strategy.key r.expected)).map Identity.fqn = some r.found
  collisions : c.collisions = c.overflow.size

theorem reported_fresh (s : KeyStrategy) (ts : Tokens) : Reported (fresh s ts) :=
  ⟨rfl, fun _ h => absurd h List.not_mem_nil, rfl⟩

section Reported

variable {c c' : Catalog} {k : Call}

theorem reported_sight (hr : c.Reported) (n : FullName) (type : MetricType) : (c.sight n type).2.Reported := by
  have hfound (r : Collision) (h : r ∈ c.reports) :
      ((c.sight n type).2.primary.get? (c.strategy.key r.expected)).map Identity.fqn = some r.found := by
    rw [primary_sight, (hr.found r h).2, Option.some_or]
  cases h : c.find? n.fqn with
  | some i =>
    rw [sight_of_find? h]
    exact hr
  | none =>
    rcases find?_eq_none_cases h with hfree | ⟨holder, hp, hne, ho⟩
    · rw [sight_of_free hfree] at hfound ⊢
      exact ⟨hr.expected, fun r h => ⟨(hr.found r h).1, hfound r h⟩, hr.collisions⟩
    · rw [sight_of_held hp hne ho]
      refine ⟨?_, ?_, ?_⟩
      · show (c.reports ++ [_]).map Collision.expected = (c.overflow.insert _ _).keys
        rw [Table.keys_insert, if_neg (Table.get?_eq_none_iff.mp ho), List.map_append, hr.expected]
        rfl
      · intro r hmem
        rcases List.mem_append.mp hmem with h | h
        · exact hr.found r h
        · obtain rfl := List.mem_singleton.mp h
          exact ⟨rfl, congrArg (Option.map Identity.fqn) hp⟩
      · show c.collisions + 1 = (c.overflow.insert _ _).size
        rw [Table.size_insert, ho, hr.collisions]
        rfl

theorem reported_of_change (hr : c.Reported) (h : Change c k c') : c'.Reported := by
  have hs := reported_sight hr
  cases h with
  | kept => exact hr
  | sighted n type => exact hs n type
  | tokenized i => exact ⟨hr.expected, hr.found, hr.collisions⟩
  | assigned n type => exact ⟨(hs n type).expected, (hs n type).found, (hs n type).collisions⟩
  | chosen t n type => exact ⟨(hs n type).expected, (hs n type).found, (hs n type).collisions⟩
  | read value n => exact ⟨hr.expected, hr.found, hr.collisions⟩
  | forgotten => exact reported_fresh c.strategy c.tokens

theorem reported_after (hr : c.Reported) (calls : List Call) : (c.after calls).Reported :=
  after_of_change (fun _ _ _ _ h hr => reported_of_change hr h) hr

theorem strategy_of_change (h : Change c k c') : c'.strategy = c.strategy := by
  cases h with
  | sighted n type => exact strategy_sight c n type
  | assigned n type => exact strategy_sight c n type
  | chosen t n type => exact strategy_sight c n type
  | _ => rfl

end Reported

/-! ## Runs -/

section Run

variable (s : KeyStrategy) (ts : Tokens) (calls : List Call)

theorem strategy_after : ((fresh s ts).after calls).strategy = s :=
  after_of_change (P := fun c => c.strategy = s) (fun _ _ _ _ h hc => (strategy_of_change h).trans hc) rfl

/-- **There is one identity for each name** that was sighted. -/
theorem size_after : ((fresh s ts).after calls).size = (sightedNames calls).card := by
  induction calls using List.reverseRecOn with
  | nil => rfl
  | append_singleton calls k ih =>
    have hc := filed_after (filed_fresh s ts) calls
    rw [after, Run.after_concat]
    by_cases hk : k = .reset
    · subst hk
      rw [sightedNames, namesInOrder_reset]
      rfl
    rw [sightedNames_concat hk]
    rcases filedAlike_of_change (change_call _ k) hk with ⟨hs, halike⟩ | ⟨n, type, hs, halike⟩
    · rw [halike.size, ih, hs]
      simp
    · have hmem := mem_sightedNames_iff s ts calls n.fqn
      rw [halike.size, size_sight hc, ih, hs]
      by_cases hf : n.fqn ∈ sightedNames calls
      · rw [if_pos (hmem.mp hf)]
        simp [hf]
      · rw [if_neg (fun e => hf (hmem.mpr e))]
        simp [hf]

/-- **Each key leads to its first name.** -/
theorem primary_after (key : CatalogKey) :
    (((fresh s ts).after calls).primary.get? key).map Identity.fqn = firstWith s calls key := by
  induction calls using List.reverseRecOn with
  | nil => rfl
  | append_singleton calls k ih =>
    rw [after, Run.after_concat]
    by_cases hk : k = .reset
    · subst hk
      rw [firstWith, namesInOrder_reset]
      rfl
    rw [firstWith_concat s hk, ← ih]
    rcases filedAlike_of_change (change_call _ k) hk with ⟨hs, halike⟩ | ⟨n, type, hs, halike⟩
    · rw [halike.primary, hs]
      simp
    · rw [halike.primary, primary_sight, hs]
      show _ = Option.or _ (Option.filter _ (some n.fqn))
      rw [Option.filter_some, strategy_after]
      simp

theorem size_primary_after :
    ((fresh s ts).after calls).primary.size = ((sightedNames calls).image s.key).card := by
  rw [← Table.card_keys]
  congr 1
  ext key
  rw [← isSome_firstWith, ← primary_after s ts, Option.isSome_map, List.mem_toFinset, Table.mem_keys_iff,
    Option.isSome_iff_exists]

theorem mem_overflow_keys_after (f : String) :
    f ∈ ((fresh s ts).after calls).overflow.keys ↔
      f ∈ sightedNames calls ∧ ∃ first, firstWith s calls (s.key f) = some first ∧ first ≠ f := by
  have h := mem_overflow_keys_iff (filed_after (filed_fresh s ts) calls) f
  rwa [strategy_after, ← mem_sightedNames_iff, primary_after] at h

/-- What a report says: a name that was sighted, another name that was the first with its key, and the number of
the key. -/
theorem mem_reports_iff (r : Collision) :
    r ∈ ((fresh s ts).after calls).reports ↔
      r.expected ∈ sightedNames calls ∧ firstWith s calls (s.key r.expected) = some r.found ∧
        r.found ≠ r.expected ∧ r.key = (s.key r.expected).asNumber := by
  have hr : ((fresh s ts).after calls).Reported := reported_after (reported_fresh s ts) calls
  have hfound (r : Collision) (hmem : r ∈ ((fresh s ts).after calls).reports) :
      r.key = (s.key r.expected).asNumber ∧ firstWith s calls (s.key r.expected) = some r.found := by
    have h := hr.found r hmem
    rwa [strategy_after, primary_after] at h
  constructor
  · intro hmem
    obtain ⟨hkey, hfirst⟩ := hfound r hmem
    have hover : r.expected ∈ ((fresh s ts).after calls).overflow.keys :=
      hr.expected ▸ List.mem_map_of_mem hmem
    obtain ⟨hsighted, first, hfirst', hne⟩ := (mem_overflow_keys_after s ts calls r.expected).mp hover
    obtain rfl := Option.some.inj (hfirst'.symm.trans hfirst)
    exact ⟨hsighted, hfirst, hne, hkey⟩
  · rintro ⟨hsighted, hfirst, hne, hkey⟩
    have hover := (mem_overflow_keys_after s ts calls r.expected).mpr ⟨hsighted, r.found, hfirst, hne⟩
    rw [← hr.expected] at hover
    obtain ⟨r', hmem, hsame⟩ := List.mem_map.mp hover
    obtain ⟨hkey', hfirst'⟩ := hfound r' hmem
    rw [hsame] at hkey' hfirst'
    have heq : r' = r := by
      obtain ⟨key, expected, found⟩ := r
      obtain ⟨key', expected', found'⟩ := r'
      obtain rfl : expected' = expected := hsame
      obtain rfl : found' = found := Option.some.inj (hfirst'.symm.trans hfirst)
      obtain rfl : key' = key := hkey'.trans hkey.symm
      rfl
    exact heq ▸ hmem

end Run

/-- **Names that share a key are all kept, and each newcomer among them is counted and reported once.** Whatever the
keys are and whatever was asked since the last reset, there is one identity for each name that was sighted. The
names less the keys that they have are the collisions, and this is how many identities are in the overflow. There is
exactly one report on each name that was not the first with its key, with this first name as the one found.
Look-ups by name and by token leave everything as it is. -/
theorem collisions_after (s : KeyStrategy) (ts : Tokens) (calls : List Call) :
    let c := (fresh s ts).after calls
    let names := sightedNames calls
    (∀ f, f ∈ names ↔ ∃ i, c.Holds i ∧ i.fqn = f) ∧
    c.size = names.card ∧
    c.collisions + (names.image s.key).card = names.card ∧
    c.overflow.size = c.collisions ∧
    (c.reports.map Collision.expected).Nodup ∧
    (∀ r, r ∈ c.reports ↔ r.expected ∈ names ∧ firstWith s calls (s.key r.expected) = some r.found ∧
      r.found ≠ r.expected ∧ r.key = (s.key r.expected).asNumber) ∧
    (∀ n, (c.call (.isAssigned n)).2 = c) ∧ ∀ t, (c.call (.lookup t)).2 = c := by
  intro c names
  have hc : c.Filed := filed_after (filed_fresh s ts) calls
  have hr : c.Reported := reported_after (reported_fresh s ts) calls
  have hsize : c.size = names.card := size_after s ts calls
  refine ⟨fun f => ?_, hsize, ?_, hr.collisions.symm, ?_, mem_reports_iff s ts calls, fun _ => rfl,
    fun _ => rfl⟩
  · rw [mem_sightedNames_iff s ts, Option.isSome_iff_exists]
    constructor
    · rintro ⟨i, hi⟩
      exact ⟨i, holds_of_find? hc hi, fqn_of_find? hc hi⟩
    · rintro ⟨i, hi, rfl⟩
      exact ⟨i, (holds_iff_find? hc).mp hi⟩
  · rw [← hsize, ← size_primary_after s ts, hr.collisions]
    exact Nat.add_comm _ _
  · rw [hr.expected]
    exact c.overflow.nodup

end MetricRouter.Catalog
