/-!
# Finite maps in order of insertion

A `Table κ ν` is a list of pairs with distinct keys. A new key goes to the end and a known key keeps
its place, so the pairs stand in the order in which their keys were first inserted.

* `get?_insert`, `get?_erase` — how look-ups see an insertion and a removal;
* `size_insert` — what an insertion does to the number of pairs.
-/

namespace MetricRouter

/-- A finite map, kept as pairs with distinct keys in order of insertion. -/
structure Table (κ ν : Type) where
  entries : List (κ × ν)
  nodup : (entries.map Prod.fst).Nodup

namespace Table

variable {κ ν : Type} [DecidableEq κ]

/-- The map without a pair. -/
def empty : Table κ ν := ⟨[], List.nodup_nil⟩

instance : Inhabited (Table κ ν) := ⟨empty⟩

/-- The keys, oldest first. -/
def keys (t : Table κ ν) : List κ := t.entries.map Prod.fst

/-- The values, in the order of their keys. -/
def values (t : Table κ ν) : List ν := t.entries.map Prod.snd

/-- The number of pairs. -/
def size (t : Table κ ν) : Nat := t.entries.length

/-- The value under a key of a list of pairs. -/
def find? : List (κ × ν) → κ → Option ν
  | [], _ => none
  | (k, v) :: rest, x => if k = x then some v else find? rest x

/-- The value under a key. -/
def get? (t : Table κ ν) (k : κ) : Option ν := find? t.entries k

/-- Is there a value under the key? -/
def contains (t : Table κ ν) (k : κ) : Bool := (t.get? k).isSome

/-- The pairs with the value under `k` set: in place if `k` is there, at the end otherwise. -/
def put (k : κ) (v : ν) : List (κ × ν) → List (κ × ν)
  | [] => [(k, v)]
  | (k', v') :: rest => if k' = k then (k, v) :: rest else (k', v') :: put k v rest

theorem map_fst_put (k : κ) (v : ν) (l : List (κ × ν)) :
    (put k v l).map Prod.fst = if k ∈ l.map Prod.fst then l.map Prod.fst else l.map Prod.fst ++ [k] := by
  induction l with
  | nil => simp [put]
  | cons p rest ih =>
    obtain ⟨k', v'⟩ := p
    by_cases h : k' = k
    · subst h; simp [put]
    · have h' : ¬ k = k' := fun e => h e.symm
      by_cases hm : k ∈ rest.map Prod.fst
      · simp only [put, h, ite_false, List.map_cons, ih, hm, ite_true]
        simp [hm]
      · simp only [put, h, ite_false, List.map_cons, ih, hm]
        simp_all

theorem nodup_put {k : κ} {v : ν} {l : List (κ × ν)} (h : (l.map Prod.fst).Nodup) :
    ((put k v l).map Prod.fst).Nodup := by
  rw [map_fst_put]
  split
  · exact h
  · rename_i hk
    exact List.nodup_append.mpr ⟨h, by simp, fun a ha b hb => by
      rw [List.mem_singleton] at hb; rintro rfl; exact hk (hb ▸ ha)⟩

/-- The map with the value under `k` set to `v`. -/
def insert (t : Table κ ν) (k : κ) (v : ν) : Table κ ν := ⟨put k v t.entries, nodup_put t.nodup⟩

/-- The map without the key `k`. -/
def erase (t : Table κ ν) (k : κ) : Table κ ν :=
  ⟨t.entries.filter (fun p => decide (p.1 ≠ k)),
    t.nodup.sublist ((List.filter_sublist (l := t.entries)).map Prod.fst)⟩

/-! ## Laws -/

@[simp] theorem get?_empty (k : κ) : (empty : Table κ ν).get? k = none := rfl

theorem find?_put (k x : κ) (v : ν) (l : List (κ × ν)) :
    find? (put k v l) x = if k = x then some v else find? l x := by
  induction l with
  | nil => simp [put, find?]
  | cons p rest ih =>
    obtain ⟨k', v'⟩ := p
    by_cases h : k' = k
    · subst h; by_cases hx : k' = x <;> simp [put, find?, hx]
    · by_cases hx : k' = x
      · subst hx
        have h' : ¬ k = k' := fun e => h e.symm
        simp [put, find?, h, h']
      · simp [put, find?, h, hx, ih]

@[simp] theorem get?_insert (t : Table κ ν) (k x : κ) (v : ν) :
    (t.insert k v).get? x = if k = x then some v else t.get? x :=
  find?_put k x v t.entries

@[simp] theorem get?_erase (t : Table κ ν) (k x : κ) :
    (t.erase k).get? x = if k = x then none else t.get? x := by
  have : ∀ l : List (κ × ν), find? (l.filter (fun p => decide (p.1 ≠ k))) x =
      if k = x then none else find? l x := by
    intro l
    induction l with
    | nil => simp [find?]
    | cons p rest ih =>
      obtain ⟨k', v'⟩ := p
      by_cases h : k' = k
      · subst h
        by_cases hx : k' = x <;> simp_all [find?]
      · by_cases hx : k' = x
        · subst hx
          have h' : ¬ k = k' := fun e => h e.symm
          simp [find?, h, h']
        · by_cases hk : k = x <;> simp_all [find?]
  exact this t.entries

theorem find?_eq_none_iff {l : List (κ × ν)} {k : κ} : find? l k = none ↔ k ∉ l.map Prod.fst := by
  induction l with
  | nil => simp [find?]
  | cons p rest ih =>
    obtain ⟨k', v'⟩ := p
    by_cases h : k' = k
    · subst h; simp [find?]
    · have h' : ¬ k = k' := fun e => h e.symm
      simp only [find?, h, ite_false, ih, List.map_cons, List.mem_cons, h', false_or]

theorem get?_eq_none_iff {t : Table κ ν} {k : κ} : t.get? k = none ↔ k ∉ t.keys :=
  find?_eq_none_iff

theorem find?_eq_some_iff {l : List (κ × ν)} (h : (l.map Prod.fst).Nodup) {k : κ} {v : ν} :
    find? l k = some v ↔ (k, v) ∈ l := by
  induction l with
  | nil => simp [find?]
  | cons p rest ih =>
    obtain ⟨k', v'⟩ := p
    rw [List.map_cons, List.nodup_cons] at h
    by_cases hk : k' = k
    · subst hk
      have hno : (k', v) ∉ rest := fun hm => h.1 (List.mem_map.mpr ⟨_, hm, rfl⟩)
      simp [find?, hno, eq_comm]
    · have h' : ¬ k = k' := fun e => hk e.symm
      simp [find?, hk, ih h.2, h']

theorem get?_eq_some_iff {t : Table κ ν} {k : κ} {v : ν} : t.get? k = some v ↔ (k, v) ∈ t.entries :=
  find?_eq_some_iff t.nodup

theorem get?_insert_eq_some_iff {t : Table κ ν} {k x : κ} {v w : ν} :
    (t.insert k v).get? x = some w ↔ (k = x ∧ v = w) ∨ (k ≠ x ∧ t.get? x = some w) := by
  by_cases h : k = x <;> simp [h]

theorem get?_erase_eq_some_iff {t : Table κ ν} {k x : κ} {w : ν} :
    (t.erase k).get? x = some w ↔ k ≠ x ∧ t.get? x = some w := by
  by_cases h : k = x <;> simp [h]

theorem keys_insert (t : Table κ ν) (k : κ) (v : ν) :
    (t.insert k v).keys = if k ∈ t.keys then t.keys else t.keys ++ [k] :=
  map_fst_put k v t.entries

theorem size_insert (t : Table κ ν) (k : κ) (v : ν) :
    (t.insert k v).size = if (t.get? k).isSome then t.size else t.size + 1 := by
  have h := congrArg List.length (keys_insert t k v)
  have hk : (t.get? k).isSome ↔ k ∈ t.keys := by
    rw [← Option.ne_none_iff_isSome, ne_eq, get?_eq_none_iff, Classical.not_not]
  have hs : ∀ u : Table κ ν, u.keys.length = u.size := fun u => by simp [keys, size]
  rw [hs] at h
  by_cases hm : k ∈ t.keys
  · rw [if_pos (hk.mpr hm), h, if_pos hm, hs]
  · rw [if_neg (fun e => hm (hk.mp e)), h, if_neg hm, List.length_append, hs]
    rfl

end Table

end MetricRouter
