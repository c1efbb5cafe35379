import MetricRouter.Proofs.Conflation.Calls
import MetricRouter.Proofs.Metric.Sample

/-!
# Merging

A sample absorbs another one if both are of one type whose samples are merged, and carry longs. What it has absorbed
before does not matter to that.

* `MetricType.combine` — the long after a merge;
* `Metric.absorbs`, `Metric.conflate_of_absorbs`, `Metric.conflate_of_not_absorbs` — when a sample absorbs another
  one, and what comes of it;
* `absorb_of_absorbs`, `absorb_of_not_absorbs`, `absorbs_absorb` — the same where a refused sample is skipped;
* `foldl_absorb_filter`, `foldl_absorb_eq` — many samples in turn: the refused ones leave no trace, and the others
  combine.
-/

namespace MetricRouter

/-- The long of a sample after a later one came in: counters add up, and otherwise the later one takes the place. -/
def MetricType.combine (t : MetricType) (a b : Int64) : Int64 := if t.isCounter then saturatingAdd a b else b

theorem Value.exists_long {v : Value} (h : v.long?.isSome = true) : ∃ a, v = .long a := by
  cases v with
  | long a => exact ⟨a, rfl⟩
  | text | blob => exact absurd h (by simp [long?])

theorem MetricType.isLong_of_merge {t : MetricType} {current incoming v : Value}
    (h : t.merge current incoming = .ok v) :
    t.isConflatable = true ∧ current.long?.isSome = true ∧ incoming.long?.isSome = true := by
  unfold merge at h
  split at h
  · exact ⟨rfl, rfl, rfl⟩
  · exact ⟨rfl, rfl, rfl⟩
  · split at h <;> exact absurd h (by simp)

namespace Metric

/-- Can the sample absorb the other one? Both are of one type whose samples are merged, and carry longs. -/
def absorbs (held m : Metric) : Bool :=
  decide (held.type = m.type) && held.type.isConflatable && held.value.long?.isSome && m.value.long?.isSome

theorem absorbs_of_carries {t : MetricType} {held m : Metric} (ht : t.isLong = true) (hheld : held.Carries t)
    (hm : m.Carries t) : held.absorbs m = true := by
  obtain ⟨a, ha⟩ := hheld.exists_long ht
  obtain ⟨b, hb⟩ := hm.exists_long ht
  simp [absorbs, hheld.type, hm.type, MetricType.isConflatable, ht, ha, hb, Value.long?]

/-- **A sample absorbs another one**: their longs combine, and the later time stays. -/
theorem conflate_of_absorbs {held m : Metric} (h : held.absorbs m = true) :
    ∃ a b, held.value = .long a ∧ m.value = .long b ∧ held.conflate m =
      .ok { held with value := .long (held.type.combine a b), time := max held.time m.time } := by
  simp only [absorbs, Bool.and_eq_true, decide_eq_true_iff] at h
  obtain ⟨⟨⟨htype, hmerged⟩, hheld⟩, hm⟩ := h
  obtain ⟨a, ha⟩ := Value.exists_long hheld
  obtain ⟨b, hb⟩ := Value.exists_long hm
  refine ⟨a, b, ha, hb, ?_⟩
  unfold conflate
  rw [if_neg (by simp [htype]), ha, hb]
  cases ht : held.type with
  | gauge | delta => rfl
  | error | text | blob => rw [ht] at hmerged; exact absurd hmerged (by decide)

/-- **Any other sample is refused.** -/
theorem conflate_of_not_absorbs {held m : Metric} (h : held.absorbs m = false) :
    ∃ refusal, held.conflate m = .error refusal := by
  cases hresult : held.conflate m with
  | error refusal => exact ⟨refusal, rfl⟩
  | ok merged =>
    unfold conflate at hresult
    split at hresult
    · exact absurd hresult (by simp)
    · rename_i htype
      split at hresult
      · exact absurd hresult (by simp)
      · rename_i v hmerge
        obtain ⟨hmerged, hheld, hm⟩ := MetricType.isLong_of_merge hmerge
        simp [absorbs, Decidable.not_not.mp htype ▸ hmerged, Decidable.not_not.mp htype, hheld, hm] at h

end Metric

namespace Conflation

open MetricRouter.Metric (absorbs)

variable {held m : Metric}

/-! ## One sample after another -/

theorem absorb_of_absorbs (h : held.absorbs m = true) : ∃ a b, held.value = .long a ∧ m.value = .long b ∧
    absorb held m = { held with value := .long (held.type.combine a b), time := max held.time m.time } := by
  obtain ⟨a, b, ha, hb, hmerge⟩ := Metric.conflate_of_absorbs h
  exact ⟨a, b, ha, hb, by rw [absorb, hmerge]⟩

theorem absorb_of_not_absorbs (h : held.absorbs m = false) : absorb held m = held := by
  obtain ⟨refusal, hrefusal⟩ := Metric.conflate_of_not_absorbs h
  rw [absorb, hrefusal]

theorem identity_absorb (held m : Metric) : (absorb held m).identity = held.identity := by
  cases h : held.absorbs m with
  | false => rw [absorb_of_not_absorbs h]
  | true =>
    obtain ⟨a, b, -, -, habsorb⟩ := absorb_of_absorbs h
    rw [habsorb]

/-- **What a sample has absorbed does not matter to what it absorbs.** -/
theorem absorbs_absorb (held m : Metric) : (absorb held m).absorbs = held.absorbs := by
  cases h : held.absorbs m with
  | false => rw [absorb_of_not_absorbs h]
  | true =>
    obtain ⟨a, b, ha, -, habsorb⟩ := absorb_of_absorbs h
    funext x
    rw [habsorb]
    simp only [Metric.absorbs, ha]
    rfl

theorem absorbs_foldl_absorb (held : Metric) (ms : List Metric) : (ms.foldl absorb held).absorbs = held.absorbs :=
  List.foldlRecOn (motive := fun m : Metric => m.absorbs = held.absorbs) ms absorb rfl
    fun m hm x _ => (absorbs_absorb m x).trans hm

theorem identity_foldl_absorb (held : Metric) (ms : List Metric) :
    (ms.foldl absorb held).identity = held.identity :=
  List.foldlRecOn (motive := fun m : Metric => m.identity = held.identity) ms absorb rfl
    fun m hm x _ => (identity_absorb m x).trans hm

/-! ## Many samples in turn -/

/-- **Samples that are refused leave no trace.** -/
theorem foldl_absorb_filter (held : Metric) (ms : List Metric) :
    ms.foldl absorb held = (ms.filter held.absorbs).foldl absorb held := by
  induction ms generalizing held with
  | nil => rfl
  | cons m ms ih =>
    rw [List.foldl_cons, ih, absorbs_absorb]
    cases h : held.absorbs m with
    | false => rw [absorb_of_not_absorbs h, List.filter_cons_of_neg (by simp [h])]
    | true => rw [List.filter_cons_of_pos h, List.foldl_cons]

/-- **Samples that are absorbed combine**, and the latest time stays. -/
theorem foldl_absorb_eq {ms : List Metric} (h : ∀ m ∈ ms, held.absorbs m = true) {v : Int64}
    (hv : held.value = .long v) : ms.foldl absorb held = { held with
      value := .long ((ms.filterMap fun m => m.value.long?).foldl held.type.combine v)
      time := (ms.map Metric.time).foldl max held.time } := by
  induction ms generalizing held v with
  | nil => rw [List.filterMap_nil, List.map_nil, List.foldl_nil, List.foldl_nil, List.foldl_nil, ← hv]
  | cons m ms ih =>
    obtain ⟨hm, hrest⟩ := List.forall_mem_cons.mp h
    obtain ⟨a, b, ha, hb, habsorb⟩ := absorb_of_absorbs hm
    obtain rfl : a = v := Value.long.inj (ha.symm.trans hv)
    rw [List.foldl_cons, ih (by rwa [absorbs_absorb]) (by rw [habsorb]), habsorb,
      List.filterMap_cons_some (by rw [hb]; rfl)]
    rfl

end Conflation

end MetricRouter
