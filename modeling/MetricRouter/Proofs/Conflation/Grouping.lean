import MetricRouter.Proofs.Conflation.Latest
import MetricRouter.Proofs.Conflation.Merging
import MetricRouter.Proofs.Conflation.Totals

/-!
# Merging in groups

Samples that are merged window by window, and the results then in the order of the windows, give what they give when
they are merged in turn. For a counter this needs that a sum that is held at an end of the range is never followed by
one that leads back.

* `Metric.RunsFit` — no total of consecutive samples leaves the range of 64 bits;
* `Groupable` — the samples for which groups do not matter;
* `amount_merged_of_nonneg`, `amount_merged_of_runsFit` — what samples of a counter add up to;
* `absorb_assoc`, `merged_append`, `yield_of_groupable` — three samples, two groups, and any number of groups;
* `absorbed_in_turn` — the main statement.
-/

namespace MetricRouter

instance lawfulOrderMax_int64 : Std.LawfulOrderMax Int64 where
  max_eq_or a b := by
    show (if a ≤ b then b else a) = a ∨ (if a ≤ b then b else a) = b
    split <;> simp
  max_le_iff a b c := by
    have hmax : (max a b).toInt = max a.toInt b.toInt := by
      show (if a ≤ b then b else a).toInt = _
      rw [Int.max_def]
      simp only [Int64.le_iff_toInt_le]
      split <;> rfl
    simp only [Int64.le_iff_toInt_le, hmax, max_le_iff]

namespace Metric

/-- **No total of consecutive samples leaves the range of 64 bits.** -/
def RunsFit (ms : List Metric) : Prop := ∀ run, run <:+: ms → InRange (total run)

end Metric

namespace Conflation

open MetricRouter.Metric (Carries InRange RunsFit amount total)

/-- **Samples for which groups do not matter**: readings of gauges, and those of counters if none is negative, or if no
total of consecutive ones leaves the range of 64 bits. -/
inductive Groupable (ms : List Metric) : Prop
  | readings (carries : ∀ m ∈ ms, m.Carries .gauge)
  | rising (carries : ∀ m ∈ ms, m.Carries .delta) (nonneg : ∀ m ∈ ms, 0 ≤ m.amount)
  | bounded (carries : ∀ m ∈ ms, m.Carries .delta) (fits : RunsFit ms)

theorem Groupable.of_infix {ms run : List Metric} (h : Groupable ms) (hrun : run <:+: ms) : Groupable run := by
  cases h with
  | readings hcarries => exact .readings fun m hm => hcarries m (hrun.subset hm)
  | rising hcarries hnonneg =>
    exact .rising (fun m hm => hcarries m (hrun.subset hm)) fun m hm => hnonneg m (hrun.subset hm)
  | bounded hcarries hfits =>
    exact .bounded (fun m hm => hcarries m (hrun.subset hm)) fun part hpart => hfits part (hpart.trans hrun)

/-! ## What samples of a counter add up to -/

theorem total_nonneg {ms : List Metric} (h : ∀ m ∈ ms, 0 ≤ m.amount) : 0 ≤ total ms :=
  List.sum_nonneg fun n hn => by
    obtain ⟨m, hm, rfl⟩ := List.mem_map.mp hn
    exact h m hm

/-- **Samples that are not negative add up to their total, held at the end of the range.** -/
theorem amount_merged_of_nonneg {ms : List Metric} (hms : ∀ m ∈ ms, m.Carries .delta)
    (hnonneg : ∀ m ∈ ms, 0 ≤ m.amount) {last : Metric} (hlast : merged ms = some last) :
    last.Carries .delta ∧ last.amount = min (total ms) Int64.maxValue.toInt := by
  induction ms using List.reverseRecOn generalizing last with
  | nil => exact absurd hlast (by simp [merged])
  | append_singleton ms m ih =>
    obtain ⟨hbefore, hafter⟩ := List.forall_mem_append.mp hms
    obtain ⟨hbefore', hafter'⟩ := List.forall_mem_append.mp hnonneg
    have hm : m.Carries .delta := hafter m (List.mem_singleton_self m)
    have hpos : 0 ≤ m.amount := hafter' m (List.mem_singleton_self m)
    rw [merged_concat] at hlast
    cases hmerged : merged ms with
    | none =>
      obtain ⟨v, hv⟩ := hm.exists_long rfl
      have hle : m.amount ≤ Int64.maxValue.toInt := by
        rw [amount, hv]
        exact v.toInt_le
      rw [hmerged] at hlast
      obtain rfl : m = last := Option.some.inj hlast
      rw [merged_eq_none_iff.mp hmerged]
      exact ⟨hm, by simpa using hle⟩
    | some held =>
      obtain ⟨hheld, hamount⟩ := ih hbefore hbefore' hmerged
      rw [hmerged] at hlast
      obtain rfl : absorb held m = last := Option.some.inj hlast
      obtain ⟨hcarries, hsum⟩ := amount_absorb hheld hm
      have htotal := total_nonneg hbefore'
      refine ⟨hcarries, ?_⟩
      rw [hsum, hamount, Metric.total_append, Metric.total_cons, Metric.total_nil, add_zero, Int64.toInt_maxValue,
        Int64.toInt_minValue]
      omega

/-- **Samples whose totals stay in the range add up to their total.** -/
theorem amount_merged_of_runsFit {ms : List Metric} (hms : ∀ m ∈ ms, m.Carries .delta) (hfits : RunsFit ms)
    {last : Metric} (hlast : merged ms = some last) : last.Carries .delta ∧ last.amount = total ms := by
  obtain ⟨htotal, hcarries⟩ := total_merged hms fun front hfront => hfits front hfront.isInfix
  rw [hlast] at htotal hcarries
  exact ⟨hcarries last rfl, by simpa using htotal⟩

/-! ## Groups -/

section Sums

variable {a b c : Int64}

theorem saturatingAdd_assoc_of_nonneg (ha : 0 ≤ a.toInt) (hb : 0 ≤ b.toInt) (hc : 0 ≤ c.toInt) :
    saturatingAdd (saturatingAdd a b) c = saturatingAdd a (saturatingAdd b c) := by
  rw [← Int64.toInt_inj]
  simp only [Metric.toInt_saturatingAdd, Int64.toInt_maxValue, Int64.toInt_minValue]
  omega

theorem saturatingAdd_assoc_of_inRange (hab : InRange (a.toInt + b.toInt)) (hbc : InRange (b.toInt + c.toInt)) :
    saturatingAdd (saturatingAdd a b) c = saturatingAdd a (saturatingAdd b c) := by
  rw [← Int64.toInt_inj]
  simp only [Metric.toInt_saturatingAdd, Metric.toInt_saturatingAdd_of_inRange hab,
    Metric.toInt_saturatingAdd_of_inRange hbc, Int.add_assoc]

end Sums

/-- **Three samples may be merged from either end**, if their longs may. -/
theorem absorb_assoc {t : MetricType} (ht : t.isLong = true) {a b c : Metric} (ha : a.Carries t) (hb : b.Carries t)
    (hc : c.Carries t) (hcombine : ∀ x y z : Int64, x.toInt = a.amount → y.toInt = b.amount → z.toInt = c.amount →
      t.combine (t.combine x y) z = t.combine x (t.combine y z)) :
    absorb (absorb a b) c = absorb a (absorb b c) := by
  obtain ⟨y, z, hy, hz, hbc⟩ := absorb_of_absorbs (Metric.absorbs_of_carries ht hb hc)
  have hright : (absorb b c).Carries t := by
    rw [hbc]
    exact ⟨hb.type, ht⟩
  obtain ⟨x, w, hx, hw, habc⟩ := absorb_of_absorbs (Metric.absorbs_of_carries ht ha hright)
  obtain rfl : b.type.combine y z = w := by
    rw [hbc] at hw
    exact Value.long.inj hw
  have htwo : ∀ m ∈ [b, c], a.absorbs m = true := by
    simp [Metric.absorbs_of_carries ht ha hb, Metric.absorbs_of_carries ht ha hc]
  have hleft : absorb (absorb a b) c = _ := foldl_absorb_eq htwo hx
  rw [hleft, habc]
  have hamount {m : Metric} {v : Int64} (hv : m.value = .long v) : v.toInt = m.amount := by
    rw [amount, hv]
    rfl
  have hlongs := hcombine x y z (hamount hx) (hamount hy) (hamount hz)
  have htime : (absorb b c).time = max b.time c.time := by rw [hbc]
  have htimes : max (max a.time b.time) c.time = max a.time (max b.time c.time) := Std.Associative.assoc _ _ _
  rw [ha.type, hb.type, ← hlongs, htime, ← htimes]
  simp [hy, hz, Value.long?]

section Groups

variable {xs ys : List Metric}

theorem forall_mem_three {P : Metric → Prop} {x : Metric} (h : ∀ m ∈ xs ++ (ys ++ [x]), P m) :
    (∀ m ∈ xs, P m) ∧ (∀ m ∈ ys, P m) ∧ P x := by
  obtain ⟨hxs, hrest⟩ := List.forall_mem_append.mp h
  obtain ⟨hys, hx⟩ := List.forall_mem_append.mp hrest
  exact ⟨hxs, hys, hx x (List.mem_singleton_self x)⟩

theorem infix_front (xs ys : List Metric) (x : Metric) : xs ++ ys <:+: xs ++ (ys ++ [x]) := ⟨[], [x], by simp⟩

theorem absorb_assoc_of_groupable {x a b : Metric} (h : Groupable (xs ++ (ys ++ [x]))) (ha : merged xs = some a)
    (hb : merged ys = some b) : absorb (absorb a b) x = absorb a (absorb b x) := by
  cases h with
  | readings hcarries =>
    obtain ⟨hxs, hys, hx⟩ := forall_mem_three hcarries
    exact absorb_assoc rfl ((value_merged hxs).2 a ha) ((value_merged hys).2 b hb) hx fun _ _ _ _ _ _ => by
      simp [MetricType.combine, MetricType.isCounter]
  | rising hcarries hnonneg =>
    obtain ⟨hxs, hys, hx⟩ := forall_mem_three hcarries
    obtain ⟨hxs', hys', hx'⟩ := forall_mem_three hnonneg
    obtain ⟨ha, haamount⟩ := amount_merged_of_nonneg hxs hxs' ha
    obtain ⟨hb, hbamount⟩ := amount_merged_of_nonneg hys hys' hb
    refine absorb_assoc rfl ha hb hx fun u v w hu hv hw => ?_
    have hmax : (0 : Int) ≤ Int64.maxValue.toInt := by decide
    exact saturatingAdd_assoc_of_nonneg (hu ▸ haamount ▸ le_min (total_nonneg hxs') hmax)
      (hv ▸ hbamount ▸ le_min (total_nonneg hys') hmax) (hw ▸ hx')
  | bounded hcarries hfits =>
    obtain ⟨hxs, hys, hx⟩ := forall_mem_three hcarries
    have hfront := infix_front xs ys x
    have hback : ys ++ [x] <:+: xs ++ (ys ++ [x]) := (List.suffix_append _ _).isInfix
    obtain ⟨ha, haamount⟩ := amount_merged_of_runsFit hxs
      (fun run hrun => hfits run (hrun.trans (List.prefix_append _ _).isInfix)) ha
    obtain ⟨hb, hbamount⟩ := amount_merged_of_runsFit hys
      (fun run hrun => hfits run ((hrun.trans (List.prefix_append _ _).isInfix).trans hback)) hb
    refine absorb_assoc rfl ha hb hx fun u v w hu hv hw => saturatingAdd_assoc_of_inRange ?_ ?_
    · rw [hu, hv, haamount, hbamount, ← Metric.total_append]
      exact hfits _ hfront
    · rw [hv, hw, hbamount]
      simpa using hfits _ hback

/-- **Two groups** give what their samples give in turn. -/
theorem merged_append {b : Metric} (h : Groupable (xs ++ ys)) (hb : merged ys = some b) :
    merged (xs ++ ys) = takeIn true b (merged xs) := by
  induction ys using List.reverseRecOn generalizing b with
  | nil => exact absurd hb (by simp [merged])
  | append_singleton ys y ih =>
    rw [merged_concat] at hb
    rw [← List.append_assoc, merged_concat]
    cases hys : merged ys with
    | none =>
      rw [hys] at hb
      obtain rfl : y = b := Option.some.inj hb
      rw [merged_eq_none_iff.mp hys, List.append_nil]
    | some c =>
      rw [hys] at hb
      obtain rfl : absorb c y = b := Option.some.inj hb
      rw [ih (h.of_infix (infix_front xs ys y)) hys]
      cases hxs : merged xs with
      | none => rfl
      | some a => exact congrArg some (absorb_assoc_of_groupable h hxs hys)

/-- **Any number of groups** give what their samples give in turn. -/
theorem yield_of_groupable {groups : List (List Metric)} (h : Groupable groups.flatten) :
    yield groups = merged groups.flatten := by
  induction groups using List.reverseRecOn with
  | nil => rfl
  | append_singleton groups group ih =>
    rw [List.flatten_append, List.flatten_singleton] at h ⊢
    have hrest := ih (h.of_infix (List.prefix_append _ _).isInfix)
    rw [yield, List.filterMap_append]
    cases hgroup : merged group with
    | none =>
      rw [List.filterMap_cons_none hgroup, List.filterMap_nil, List.append_nil, merged_eq_none_iff.mp hgroup,
        List.append_nil]
      exact hrest
    | some b =>
      rw [List.filterMap_cons_some hgroup, List.filterMap_nil, merged_concat, merged_append h hgroup, ← hrest, yield]

end Groups

/-! ## Samples in turn -/

theorem value_foldl_absorb {m : Metric} (ht : m.type = .gauge) {ms : List Metric}
    (h : ∀ x ∈ ms, m.absorbs x = true) : (ms.foldl absorb m).value = (ms.getLast?.getD m).value := by
  induction ms using List.reverseRecOn with
  | nil => rfl
  | append_singleton ms x _ =>
    have hx : (ms.foldl absorb m).absorbs x = true := by
      rw [absorbs_foldl_absorb]
      exact h x (List.mem_append_right _ (List.mem_singleton_self x))
    have htype : (ms.foldl absorb m).type = .gauge := (congrArg Identity.type (identity_foldl_absorb m ms)).trans ht
    obtain ⟨a, b, -, hb, habsorb⟩ := absorb_of_absorbs hx
    rw [List.foldl_append, List.foldl_cons, List.foldl_nil, habsorb, htype, List.getLast?_concat, Option.getD_some, hb]
    rfl

theorem max?_time_foldl_absorb {m : Metric} {ms : List Metric} (h : ∀ x ∈ ms, m.absorbs x = true) :
    (m.time :: ms.map Metric.time).max? = some (ms.foldl absorb m).time := by
  cases ms with
  | nil => rfl
  | cons x rest =>
    obtain ⟨v, -, hv, -⟩ := absorb_of_absorbs (h x List.mem_cons_self)
    rw [foldl_absorb_eq h hv]
    rfl

/-- **What comes of samples that are absorbed in turn.** Whatever came before, a sample is refused and leaves no trace
if it differs in type from the first one, is of a type that is not merged, or meets a value that is not a long on either
side, and else it is absorbed. The time is then the greatest of those absorbed; a gauge has the last value, and a
counter the sum, held at the ends of the range at every step. Where no sample of a counter is negative, that is the
total held at the end, and where no total of consecutive samples leaves the range it is the total. In both cases, and
for readings of a gauge, groups of consecutive samples may be merged on their own first. -/
theorem absorbed_in_turn (m : Metric) (ms : List Metric) :
    let last := ms.foldl absorb m
    let accepted := ms.filter m.absorbs
    let times := m.time :: accepted.map Metric.time
    (∀ x, (m.absorbs x = true → last.conflate x = .ok (absorb last x)) ∧
      (m.absorbs x = false → (∃ refusal, last.conflate x = .error refusal) ∧ absorb last x = last)) ∧
    last.identity = m.identity ∧
    (last.time ∈ times ∧ ∀ t ∈ times, t ≤ last.time) ∧
    (m.type = .gauge → last.value = (accepted.getLast?.getD m).value) ∧
    (m.type = .delta → ∀ v, m.value = .long v →
      last.value = .long ((accepted.filterMap fun x => x.value.long?).foldl saturatingAdd v)) ∧
    ((∀ x ∈ m :: ms, x.Carries .delta) → (∀ x ∈ m :: ms, 0 ≤ x.amount) →
      last.Carries .delta ∧ last.amount = min (total (m :: ms)) Int64.maxValue.toInt) ∧
    ((∀ x ∈ m :: ms, x.Carries .delta) → RunsFit (m :: ms) →
      last.Carries .delta ∧ last.amount = total (m :: ms)) ∧
    (Groupable (m :: ms) → ∀ groups : List (List Metric), groups.flatten = m :: ms → yield groups = some last) := by
  intro last accepted times
  have hlast : last = accepted.foldl absorb m := foldl_absorb_filter m ms
  have haccepted : ∀ x ∈ accepted, m.absorbs x = true := fun x hx => (List.mem_filter.mp hx).2
  have hmerged : merged (m :: ms) = some last := rfl
  have habsorbs (x : Metric) : last.absorbs x = m.absorbs x := by rw [absorbs_foldl_absorb]
  have hmax : times.max? = some last.time := by
    rw [hlast]
    exact max?_time_foldl_absorb haccepted
  refine ⟨fun x => ⟨fun hx => ?_, fun hx => ?_⟩, identity_foldl_absorb m ms, List.max?_eq_some_iff.mp hmax,
    fun ht => ?_, fun ht v hv => ?_, fun hms hnonneg => amount_merged_of_nonneg hms hnonneg hmerged,
    fun hms hfits => amount_merged_of_runsFit hms hfits hmerged, fun h groups hgroups => ?_⟩
  · obtain ⟨a, b, -, -, hmerge⟩ := Metric.conflate_of_absorbs ((habsorbs x).trans hx)
    rw [absorb, hmerge]
  · exact ⟨Metric.conflate_of_not_absorbs ((habsorbs x).trans hx), absorb_of_not_absorbs ((habsorbs x).trans hx)⟩
  · rw [hlast]
    exact value_foldl_absorb ht haccepted
  · rw [hlast, foldl_absorb_eq haccepted hv, ht]
    rfl
  · rw [yield_of_groupable (hgroups ▸ h), hgroups, hmerged]

/-- A counter near the end of the range: two later samples take it there, and a reading of a gauge between them would
be refused. Merged with each other first, the later two come to the same. -/
theorem absorbed_in_turn_of_rising :
    let sample (t : MetricType) (time v : Int64) : Metric := ⟨⟨0, "h", "a", [], "x", t, "h/a:x"⟩, time, .long v⟩
    let m := sample .delta 1 (Int64.maxValue - 3)
    let ms := [sample .delta 9 2, sample .delta 4 5]
    (∀ x ∈ m :: ms, x.Carries .delta) ∧ (∀ x ∈ m :: ms, 0 ≤ x.amount) ∧
      (ms.foldl absorb m).amount = 2 ^ 63 - 1 ∧ (ms.foldl absorb m).time = 9 ∧
      absorb (ms.foldl absorb m) (sample .gauge 20 0) = ms.foldl absorb m ∧
      yield [[m], ms] = some (ms.foldl absorb m) := by
  intro sample m ms
  have hcarries : ∀ x ∈ m :: ms, x.Carries .delta := by
    simp only [m, ms, sample, List.forall_mem_cons]
    exact ⟨⟨rfl, rfl⟩, ⟨rfl, rfl⟩, ⟨rfl, rfl⟩, fun x hx => absurd hx List.not_mem_nil⟩
  have hnonneg : ∀ x ∈ m :: ms, 0 ≤ x.amount := by decide +kernel
  obtain ⟨hturn, -, -, -, -, hrising, -, hgroups⟩ := absorbed_in_turn m ms
  refine ⟨hcarries, hnonneg, (hrising hcarries hnonneg).2.trans (by decide +kernel), by decide +kernel,
    ((hturn (sample .gauge 20 0)).2 rfl).2, hgroups (.rising hcarries hnonneg) [[m], ms] rfl⟩

/-- Where a sum is held at the end of the range and a negative sample follows, groups do matter. -/
example :
    let sample (v : Int64) : Metric := ⟨⟨0, "h", "a", [], "x", .delta, "h/a:x"⟩, 0, .long v⟩
    (yield [[sample Int64.maxValue], [sample 1, sample (-1)]]).map amount = some (2 ^ 63 - 1) ∧
      (merged [sample Int64.maxValue, sample 1, sample (-1)]).map amount = some (2 ^ 63 - 2) := by
  decide +kernel

end Conflation

end MetricRouter
