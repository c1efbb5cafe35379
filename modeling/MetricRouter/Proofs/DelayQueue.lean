import Mathlib
import MetricRouter.DelayQueue

/-!
# Laws of delay queues

* `toNat_deadlineAfter`, `deadlineAfter_le_deadlineAfter`, `lt_deadlineAfter` — a deadline as a number, and the order
  of deadlines;
* `lt_next_iff`, `drainExpired_eq_filter` — where a queue is split, a drain parts the slots by their deadlines;
* `get?_set`, `get?_drainExpired` — how look-ups see a value that is filed, and a drain;
* `drainExpired_fst` — what is drained are the slots whose deadline is reached, in order;
* `lt_of_mem_drainExpired`, `drainExpired_of_later` — a drain leaves nothing for a second one at the same instant;
* `sum_set`, `sum_drainExpired` — a sum over the slots when a value is filed, and at a drain;
* `Lists`, `lists_drainExpired_iff`, `mem_flatMap_drainExpired_iff` — where the slots are lists, what stays listed and
  what comes out at a drain.
-/

namespace MetricRouter

theorem toNat_deadlineAfter (now delay : UInt64) :
    (deadlineAfter now delay).toNat = min (now.toNat + delay.toNat) (2 ^ 64 - 1) := by
  have hlt : min (UInt64.size - 1) (now.toNat + delay.toNat) < 2 ^ 64 :=
    Nat.lt_of_le_of_lt (Nat.min_le_left _ _) (by decide)
  rw [deadlineAfter, UInt64.toNat_ofNat', Nat.mod_eq_of_lt hlt, Nat.min_comm]
  rfl

theorem deadlineAfter_le_deadlineAfter {s t : UInt64} (h : s ≤ t) (delay : UInt64) :
    deadlineAfter s delay ≤ deadlineAfter t delay := by
  rw [UInt64.le_iff_toNat_le, toNat_deadlineAfter, toNat_deadlineAfter]
  have hnat : s.toNat ≤ t.toNat := UInt64.le_iff_toNat_le.mp h
  omega

theorem lt_deadlineAfter {now delay : UInt64} (hnow : now < lastInstant) (hdelay : 0 < delay) :
    now < deadlineAfter now delay := by
  have hlast : now.toNat < 2 ^ 64 - 1 := UInt64.lt_iff_toNat_lt.mp hnow
  have hpos : 0 < delay.toNat := UInt64.lt_iff_toNat_lt.mp hdelay
  rw [UInt64.lt_iff_toNat_lt, toNat_deadlineAfter]
  omega

theorem le_lastInstant (t : UInt64) : t ≤ lastInstant := by
  have hlt := t.toNat_lt
  rw [UInt64.le_iff_toNat_le]
  show t.toNat ≤ 2 ^ 64 - 1
  omega

theorem lt_next_iff {t now : UInt64} (h : now ≠ lastInstant) : t < now + 1 ↔ t ≤ now := by
  have hnow : now.toNat < 2 ^ 64 - 1 :=
    UInt64.lt_iff_toNat_lt.mp (UInt64.lt_of_le_of_ne (le_lastInstant now) h)
  have hnext : (now + 1).toNat = now.toNat + 1 := by
    rw [UInt64.toNat_add]
    show (now.toNat + 1) % 2 ^ 64 = _
    omega
  rw [UInt64.lt_iff_toNat_lt, UInt64.le_iff_toNat_le, hnext]
  omega

namespace DelayQueue

variable {ν : Type}

/-! ## Look-ups in lists of slots -/

theorem lookup_place (d x : UInt64) (v : ν) (l : List (UInt64 × ν)) :
    lookup (place d v l) x = if d = x then some v else lookup l x := by
  induction l with
  | nil => rfl
  | cons s rest ih =>
    obtain ⟨d', v'⟩ := s
    unfold place
    split
    · rfl
    · split
      · rename_i heq
        subst heq
        by_cases hx : d' = x <;> simp [lookup, hx]
      · rename_i hne
        by_cases hx : d' = x
        · have hdx : d ≠ x := fun e => hne (hx.trans e.symm)
          simp [lookup, hx, hdx]
        · simp [lookup, hx, ih]

theorem lookup_eq_none {l : List (UInt64 × ν)} {d : UInt64} (h : ∀ s ∈ l, s.1 ≠ d) :
    lookup l d = none := by
  induction l with
  | nil => rfl
  | cons s rest ih =>
    rw [lookup, if_neg (h s List.mem_cons_self)]
    exact ih fun t ht => h t (List.mem_cons_of_mem _ ht)

theorem mem_of_lookup {l : List (UInt64 × ν)} {d : UInt64} {v : ν} (h : lookup l d = some v) :
    (d, v) ∈ l := by
  induction l with
  | nil => exact absurd h (by simp [lookup])
  | cons s rest ih =>
    obtain ⟨d', v'⟩ := s
    rw [lookup] at h
    split at h
    · rename_i heq
      subst heq
      rw [← Option.some.inj h]
      exact List.mem_cons_self
    · exact List.mem_cons_of_mem _ (ih h)

theorem lookup_of_mem {l : List (UInt64 × ν)} (hl : l.Pairwise fun a b => a.1 < b.1) {d : UInt64} {v : ν}
    (h : (d, v) ∈ l) : lookup l d = some v := by
  induction l with
  | nil => exact absurd h List.not_mem_nil
  | cons s rest ih =>
    obtain ⟨hhead, hrest⟩ := List.pairwise_cons.mp hl
    rcases List.mem_cons.mp h with rfl | h
    · exact if_pos rfl
    · have hne : s.1 ≠ d := UInt64.ne_of_lt (hhead _ h)
      rw [lookup, if_neg hne]
      exact ih hrest h

theorem lookup_filter (p : UInt64 → Bool) (l : List (UInt64 × ν)) (d : UInt64) :
    lookup (l.filter fun s => p s.1) d = if p d then lookup l d else none := by
  induction l with
  | nil => simp [lookup]
  | cons s rest ih =>
    obtain ⟨d', v'⟩ := s
    by_cases hd : d' = d
    · subst hd
      by_cases hp : p d' = true
      · simp [lookup, hp]
      · simp [hp, ih]
    · by_cases hp : p d' = true
      · simp [lookup, hp, hd, ih]
      · simp [lookup, hp, hd, ih]

/-! ## Sorted slots -/

section Sorted

variable {l : List (UInt64 × ν)}

theorem takeWhile_eq_filter (hl : l.Pairwise fun a b => a.1 < b.1) {p : UInt64 → Bool}
    (hp : ∀ a b, a < b → p b = true → p a = true) : l.takeWhile (fun s => p s.1) = l.filter (fun s => p s.1) := by
  induction l with
  | nil => rfl
  | cons s rest ih =>
    obtain ⟨hhead, hrest⟩ := List.pairwise_cons.mp hl
    by_cases hs : p s.1 = true
    · simp [hs, ih hrest]
    · have hlater : ∀ t ∈ rest, ¬ p t.1 = true := fun t ht h => hs (hp _ _ (hhead t ht) h)
      simpa [hs] using hlater

theorem dropWhile_eq_filter (hl : l.Pairwise fun a b => a.1 < b.1) {p : UInt64 → Bool}
    (hp : ∀ a b, a < b → p b = true → p a = true) : l.dropWhile (fun s => p s.1) = l.filter (fun s => !p s.1) := by
  induction l with
  | nil => rfl
  | cons s rest ih =>
    obtain ⟨hhead, hrest⟩ := List.pairwise_cons.mp hl
    by_cases hs : p s.1 = true
    · simp [hs, ih hrest]
    · have hlater : ∀ t ∈ rest, (!p t.1) = true := fun t ht => by
        simpa using fun h => hs (hp _ _ (hhead t ht) h)
      rw [List.dropWhile_cons_of_neg (by simpa using hs), List.filter_cons_of_pos (by simpa using hs),
        List.filter_eq_self.mpr hlater]

theorem sum_place (hl : l.Pairwise fun a b => a.1 < b.1) (size : ν → Nat) (d : UInt64) (v : ν) :
    ((place d v l).map fun s => size s.2).sum + ((lookup l d).map size).getD 0 =
      (l.map fun s => size s.2).sum + size v := by
  induction l with
  | nil => simp [place, lookup]
  | cons s rest ih =>
    obtain ⟨d', v'⟩ := s
    obtain ⟨hhead, hrest⟩ := List.pairwise_cons.mp hl
    have hrec := ih hrest
    unfold place
    split
    · -- all deadlines from here on are later, so none of them is replaced
      rename_i hlt
      have hno : lookup ((d', v') :: rest) d = none := by
        refine lookup_eq_none fun t ht => ?_
        rcases List.mem_cons.mp ht with rfl | ht
        · exact (UInt64.ne_of_lt hlt).symm
        · exact (UInt64.ne_of_lt (UInt64.lt_trans hlt (hhead t ht))).symm
      rw [hno]
      simp only [List.map_cons, List.sum_cons, Option.map_none, Option.getD_none]
      omega
    · split
      · rename_i heq
        simp only [lookup, if_pos heq, List.map_cons, List.sum_cons, Option.map_some, Option.getD_some]
        omega
      · rename_i hne
        simp only [lookup, if_neg hne, List.map_cons, List.sum_cons]
        omega

end Sorted

/-! ## Queues -/

section Queue

variable (q : DelayQueue ν) (d x now : UInt64) (v : ν)

theorem get?_set : (q.set d v).get? x = if d = x then some v else q.get? x :=
  lookup_place d x v q.slots

theorem splitAt_fst (bound : UInt64) :
    (q.splitAt bound).1 = q.slots.filter (fun s => decide (s.1 < bound)) :=
  takeWhile_eq_filter q.sorted fun _ _ hlt h => decide_eq_true (UInt64.lt_trans hlt (of_decide_eq_true h))

theorem slots_splitAt (bound : UInt64) :
    (q.splitAt bound).2.slots = q.slots.filter (fun s => !decide (s.1 < bound)) :=
  dropWhile_eq_filter q.sorted fun _ _ hlt h => decide_eq_true (UInt64.lt_trans hlt (of_decide_eq_true h))

theorem nextDeadline_le {first : UInt64} (h : q.nextDeadline = some first) : ∀ s ∈ q.slots, first ≤ s.1 := by
  obtain ⟨slots, sorted⟩ := q
  cases slots with
  | nil => exact absurd h (by simp [nextDeadline])
  | cons s rest =>
    obtain rfl : s.1 = first := by simpa [nextDeadline] using h
    intro t ht
    rcases List.mem_cons.mp ht with rfl | ht
    · exact UInt64.le_refl _
    · exact UInt64.le_of_lt ((List.pairwise_cons.mp sorted).1 t ht)

theorem nextDeadline_eq_none_iff : q.nextDeadline = none ↔ q.slots = [] := by
  simp [nextDeadline]

/-- **A drain parts the slots by their deadlines**, whether it stops at the first one, splits the queue or takes all. -/
theorem drainExpired_eq_filter :
    (q.drainExpired now).1 = q.slots.filter (fun s => decide (s.1 ≤ now)) ∧
      (q.drainExpired now).2.slots = q.slots.filter (fun s => !decide (s.1 ≤ now)) := by
  unfold drainExpired
  split
  · rename_i hnext
    rw [nextDeadline_eq_none_iff] at hnext
    simp [hnext]
  · rename_i first hnext
    have hfirst := q.nextDeadline_le hnext
    split
    · -- the first deadline is later, and so are all others
      rename_i hlater
      have hnone : ∀ s ∈ q.slots, ¬ s.1 ≤ now := fun s hs =>
        UInt64.not_le.mpr (UInt64.lt_of_lt_of_le hlater (hfirst s hs))
      constructor
      · exact (List.filter_eq_nil_iff.mpr (by simpa using hnone)).symm
      · exact (List.filter_eq_self.mpr (by simpa using hnone)).symm
    · split
      · rename_i hlast
        subst hlast
        constructor
        · exact (List.filter_eq_self.mpr fun s _ => decide_eq_true (le_lastInstant s.1)).symm
        · exact (List.filter_eq_nil_iff.mpr fun s _ => by simp [le_lastInstant s.1]).symm
      · rename_i hnot
        rw [splitAt_fst, slots_splitAt]
        simp only [lt_next_iff hnot, and_self]

theorem drainExpired_fst : (q.drainExpired now).1 = q.slots.filter (fun s => decide (s.1 ≤ now)) :=
  (q.drainExpired_eq_filter now).1

theorem slots_drainExpired : (q.drainExpired now).2.slots = q.slots.filter (fun s => !decide (s.1 ≤ now)) :=
  (q.drainExpired_eq_filter now).2

theorem drainExpired_append : (q.drainExpired now).1 ++ (q.drainExpired now).2.slots = q.slots := by
  have hreached : ∀ a b : UInt64, a < b → decide (b ≤ now) = true → decide (a ≤ now) = true := fun a b hlt h =>
    decide_eq_true (UInt64.le_of_lt (UInt64.lt_of_lt_of_le hlt (of_decide_eq_true h)))
  rw [drainExpired_fst, slots_drainExpired, ← takeWhile_eq_filter q.sorted hreached,
    ← dropWhile_eq_filter q.sorted hreached, List.takeWhile_append_dropWhile]

theorem get?_drainExpired : (q.drainExpired now).2.get? x = if x ≤ now then none else q.get? x := by
  rw [get?, slots_drainExpired, lookup_filter (fun d => !decide (d ≤ now))]
  by_cases hx : x ≤ now
  · simp [hx]
  · simp [hx, get?]

theorem lt_of_mem_drainExpired {q : DelayQueue ν} {now : UInt64} {s : UInt64 × ν}
    (h : s ∈ (q.drainExpired now).2.slots) : now < s.1 := by
  rw [slots_drainExpired] at h
  have hlater := (List.mem_filter.mp h).2
  exact UInt64.not_le.mp (by simpa using hlater)

theorem drainExpired_of_later {q : DelayQueue ν} {now : UInt64} (h : ∀ s ∈ q.slots, now < s.1) :
    q.drainExpired now = ([], q) := by
  unfold drainExpired
  split
  · rfl
  · rename_i first hnext
    obtain ⟨s, hs, rfl⟩ := Option.map_eq_some_iff.mp hnext
    rw [if_pos (h s (List.mem_of_head? hs))]

/-- The sum of a size over all slots. -/
def sum (size : ν → Nat) (q : DelayQueue ν) : Nat := (q.slots.map fun s => size s.2).sum

theorem sum_set (size : ν → Nat) :
    (q.set d v).sum size + ((q.get? d).map size).getD 0 = q.sum size + size v :=
  sum_place q.sorted size d v

theorem sum_drainExpired (size : ν → Nat) :
    ((q.drainExpired now).1.map fun s => size s.2).sum + (q.drainExpired now).2.sum size = q.sum size := by
  unfold sum
  rw [← List.sum_append, ← List.map_append, drainExpired_append]

theorem get?_eq_some_iff : q.get? d = some v ↔ (d, v) ∈ q.slots := ⟨mem_of_lookup, lookup_of_mem q.sorted⟩

theorem getOrInsert_snd : (q.getOrInsert d v).2.1 = (q.get? d).getD v := by
  unfold getOrInsert
  split
  · rename_i h
    rw [h]
    rfl
  · rename_i h
    rw [h]
    rfl

theorem get?_getOrInsert :
    (q.getOrInsert d v).1.get? x = if d = x then some ((q.get? d).getD v) else q.get? x := by
  unfold getOrInsert
  split
  · rename_i held h
    by_cases hx : d = x
    · rw [if_pos hx, ← hx, h]
      rfl
    · rw [if_neg hx]
  · rename_i h
    rw [get?_set, h]
    rfl

end Queue

/-! ## Slots that are lists -/

section Lists

variable {α : Type}

/-- Is something listed under a deadline? -/
def Lists (q : DelayQueue (List α)) (d : UInt64) (a : α) : Prop := ∃ l, q.get? d = some l ∧ a ∈ l

variable {q : DelayQueue (List α)} {d x now : UInt64} {a b : α}

theorem lists_set_iff {l : List α} : (q.set d l).Lists x a ↔ if d = x then a ∈ l else q.Lists x a := by
  unfold Lists
  rw [get?_set]
  split <;> simp

theorem lists_getOrInsert_iff : (q.getOrInsert d []).1.Lists x a ↔ q.Lists x a := by
  unfold Lists
  rw [get?_getOrInsert]
  by_cases hd : d = x
  · subst hd
    cases h : q.get? d <;> simp
  · rw [if_neg hd]

theorem mem_getOrInsert_iff : a ∈ (q.getOrInsert d []).2.1 ↔ q.Lists d a := by
  unfold Lists
  rw [getOrInsert_snd]
  cases h : q.get? d <;> simp

theorem lists_drainExpired_iff : (q.drainExpired now).2.Lists d a ↔ now < d ∧ q.Lists d a := by
  unfold Lists
  rw [get?_drainExpired]
  by_cases hd : d ≤ now
  · simp [hd]
  · simp [hd, UInt64.not_le.mp hd]

theorem mem_flatMap_drainExpired_iff :
    a ∈ (q.drainExpired now).1.flatMap Prod.snd ↔ ∃ d, d ≤ now ∧ q.Lists d a := by
  rw [drainExpired_fst, List.mem_flatMap]
  constructor
  · rintro ⟨⟨d, l⟩, hslot, ha⟩
    obtain ⟨hmem, hd⟩ := List.mem_filter.mp hslot
    exact ⟨d, of_decide_eq_true hd, l, (get?_eq_some_iff q d l).mpr hmem, ha⟩
  · rintro ⟨d, hd, l, hl, ha⟩
    exact ⟨(d, l), List.mem_filter.mpr ⟨(get?_eq_some_iff q d l).mp hl, decide_eq_true hd⟩, ha⟩

end Lists

end DelayQueue

end MetricRouter
