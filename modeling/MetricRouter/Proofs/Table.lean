import Mathlib
import MetricRouter.Table

/-!
# More laws of finite maps

* `mem_values_iff` — the values are what look-ups find;
* `contains_iff`, `contains_insert` — whether there is a value under a key;
* `mem_keys_iff`, `card_keys` — what keys there are, and how many;
* `filter_values` — a look-up as a filter of the values, where the values know their keys;
* `size_erase` — what a removal does to the number of pairs.
-/

namespace MetricRouter.Table

variable {κ ν : Type} [DecidableEq κ]

theorem mem_values_iff {t : Table κ ν} {v : ν} : v ∈ t.values ↔ ∃ k, t.get? k = some v := by
  constructor
  · intro h
    obtain ⟨⟨k, w⟩, hp, rfl⟩ := List.mem_map.mp h
    exact ⟨k, get?_eq_some_iff.mpr hp⟩
  · rintro ⟨k, hk⟩
    exact List.mem_map.mpr ⟨(k, v), get?_eq_some_iff.mp hk, rfl⟩

theorem contains_iff {t : Table κ ν} {k : κ} : t.contains k = true ↔ ∃ v, t.get? k = some v :=
  Option.isSome_iff_exists

theorem contains_insert {t : Table κ ν} {k x : κ} {v : ν} :
    (t.insert k v).contains x = true ↔ k = x ∨ t.contains x = true := by
  unfold contains
  rw [get?_insert]
  by_cases h : k = x <;> simp [h]

theorem mem_keys_iff {t : Table κ ν} {k : κ} : k ∈ t.keys ↔ ∃ v, t.get? k = some v := by
  rw [← Option.ne_none_iff_exists', ne_eq, get?_eq_none_iff, Classical.not_not]

theorem card_keys (t : Table κ ν) : t.keys.toFinset.card = t.size :=
  (List.toFinset_card_of_nodup t.nodup).trans (List.length_map _)

theorem filter_map_snd {key : ν → κ} {l : List (κ × ν)} (hl : (l.map Prod.fst).Nodup)
    (hkey : ∀ p ∈ l, key p.2 = p.1) (k : κ) :
    (l.map Prod.snd).filter (fun v => decide (key v = k)) = (find? l k).toList := by
  induction l with
  | nil => rfl
  | cons p rest ih =>
    obtain ⟨k', v'⟩ := p
    rw [List.map_cons, List.nodup_cons] at hl
    have hv' : key v' = k' := hkey _ List.mem_cons_self
    have hrec := ih hl.2 fun q hq => hkey q (List.mem_cons_of_mem _ hq)
    by_cases hk : k' = k
    · -- the key does not come again
      subst hk
      rw [find?_eq_none_iff.mpr hl.1] at hrec
      simp [find?, hv', hrec]
    · simp [find?, hv', hk, hrec]

theorem filter_values {key : ν → κ} {t : Table κ ν} (h : ∀ k v, t.get? k = some v → key v = k) (k : κ) :
    t.values.filter (fun v => decide (key v = k)) = (t.get? k).toList :=
  filter_map_snd t.nodup (fun p hp => h p.1 p.2 (get?_eq_some_iff.mpr hp)) k

theorem size_erase {t : Table κ ν} {k : κ} {v : ν} (h : t.get? k = some v) : (t.erase k).size + 1 = t.size := by
  have hmem : k ∈ t.entries.map Prod.fst := List.mem_map.mpr ⟨(k, v), get?_eq_some_iff.mp h, rfl⟩
  have hone : t.entries.countP (fun p => p.1 == k) = 1 := by
    rw [← List.count_eq_one_of_mem t.nodup hmem, List.count, List.countP_map]
    rfl
  have hsplit := List.length_eq_countP_add_countP (fun p : κ × ν => p.1 == k) (l := t.entries)
  rw [hone] at hsplit
  show (t.entries.filter fun p => decide (p.1 ≠ k)).length + 1 = t.entries.length
  rw [hsplit, ← List.countP_eq_length_filter, Nat.add_comm]
  refine congrArg (1 + ·) (List.countP_congr fun p _ => ?_)
  simp

end MetricRouter.Table
