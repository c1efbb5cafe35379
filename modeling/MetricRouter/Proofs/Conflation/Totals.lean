import MetricRouter.Proofs.Conflation.Ledger
import MetricRouter.Proofs.Conflation.Merging

/-!
# Totals

Samples that add up keep their total, however they are merged, as long as no total of some of them leaves the
range of 64 bits.

* `amount_absorb`, `carries_absorb` — one merge adds up;
* `total_merged`, `total_yield` — so does a window, and a delivery from several windows;
* `total_given` — the main statement.
-/

namespace MetricRouter

namespace Conflation

open MetricRouter.Metric (Carries Fits InRange amount total)

/-! ## Merging -/

theorem amount_absorb {held m : Metric} (hheld : held.Carries .delta) (hm : m.Carries .delta) :
    (absorb held m).Carries .delta ∧ (absorb held m).amount =
      max Int64.minValue.toInt (min Int64.maxValue.toInt (held.amount + m.amount)) := by
  obtain ⟨a, b, ha, hb, habsorb⟩ := absorb_of_absorbs (Metric.absorbs_of_carries rfl hheld hm)
  have hamount : held.amount + m.amount = a.toInt + b.toInt := by
    rw [amount, amount, ha, hb]
    rfl
  rw [habsorb, hheld.type, hamount]
  exact ⟨⟨hheld.type, rfl⟩, Metric.toInt_saturatingAdd a b⟩

/-- **One merge adds up.** -/
theorem carries_absorb {held m : Metric} (hheld : held.Carries .delta) (hm : m.Carries .delta)
    (hrange : InRange (held.amount + m.amount)) :
    (absorb held m).Carries .delta ∧ (absorb held m).amount = held.amount + m.amount := by
  obtain ⟨hcarries, hamount⟩ := amount_absorb hheld hm
  rw [min_eq_right hrange.2, max_eq_right hrange.1] at hamount
  exact ⟨hcarries, hamount⟩

/-- **The samples of a window add up**, as long as the totals on the way stay in the range. -/
theorem total_merged {ms : List Metric} (hms : ∀ m ∈ ms, m.Carries .delta)
    (hfits : ∀ front, front <+: ms → InRange (total front)) :
    total (merged ms).toList = total ms ∧ ∀ m ∈ merged ms, m.Carries .delta := by
  induction ms using List.reverseRecOn with
  | nil => exact ⟨rfl, fun m hm => absurd hm (by simp [merged])⟩
  | append_singleton ms m ih =>
    obtain ⟨hbefore, hlast⟩ := List.forall_mem_append.mp hms
    have hm : m.Carries .delta := hlast m (List.mem_singleton_self m)
    obtain ⟨htotal, hheld⟩ := ih hbefore fun front hfront => hfits front (hfront.trans (List.prefix_append ms [m]))
    rw [merged_concat]
    cases hmerged : merged ms with
    | none =>
      rw [merged_eq_none_iff.mp hmerged]
      exact ⟨rfl, fun m' hm' => by rwa [← Option.some.inj hm']⟩
    | some held =>
      rw [hmerged] at htotal hheld
      have hall : held.amount + m.amount = total (ms ++ [m]) := by
        rw [Metric.total_append, ← htotal]
        simp
      have hrange : InRange (held.amount + m.amount) := by
        rw [hall]
        exact hfits _ (List.prefix_refl _)
      obtain ⟨hcarries, hamount⟩ := carries_absorb (hheld held rfl) hm hrange
      refine ⟨?_, fun m' hm' => by rwa [← Option.some.inj hm']⟩
      rw [← hall, ← hamount]
      exact add_zero _

theorem total_filterMap {β : Type} {sample : β → Option Metric} {part : β → List Metric} {bs : List β}
    (h : ∀ b ∈ bs, total (sample b).toList = total (part b)) :
    total (bs.filterMap sample) = total (bs.flatMap part) := by
  rw [List.filterMap_eq_flatMap_toList]
  induction bs with
  | nil => rfl
  | cons b bs ih =>
    obtain ⟨hb, hbs⟩ := List.forall_mem_cons.mp h
    rw [List.flatMap_cons, List.flatMap_cons, Metric.total_append, Metric.total_append, hb, ih hbs]

/-- **The samples of several windows add up.** -/
theorem total_yield {windows : List (List Metric)} (hms : ∀ m ∈ windows.flatten, m.Carries .delta)
    (hfits : Fits windows.flatten) : total (yield windows).toList = total windows.flatten := by
  have hwindow : ∀ w ∈ windows, total (merged w).toList = total w ∧ ∀ m ∈ merged w, m.Carries .delta :=
    fun w hw => total_merged (fun m hm => hms m (List.mem_flatten_of_mem hw hm))
      fun front hfront => hfits front (hfront.sublist.trans (List.sublist_flatten_of_mem hw))
  have hsome : ∀ ws : List (List Metric), ws.Sublist windows → total (ws.filterMap merged) = total ws.flatten := by
    intro ws hws
    rw [← List.flatMap_id]
    exact total_filterMap fun w hw => (hwindow w (hws.subset hw)).1
  have hentries : Fits (windows.filterMap merged) := by
    intro part hpart
    obtain ⟨ws, hws, rfl⟩ := List.sublist_filterMap_iff.mp hpart
    rw [hsome ws hws]
    exact hfits _ (List.Sublist.flatten hws)
  have hcarries : ∀ m ∈ windows.filterMap merged, m.Carries .delta := by
    intro m hm
    obtain ⟨w, hw, hmerged⟩ := List.mem_filterMap.mp hm
    exact (hwindow w hw).2 m hmerged
  rw [yield, (total_merged hcarries fun front hfront => hentries front hfront.sublist).1,
    hsome windows (List.Sublist.refl _)]

/-- **Counters are conserved.** Once everything is flushed, and if nothing was lost, what went downstream of a
counter has the total of what came in, provided no total of some of the samples leaves the range of 64 bits. -/
theorem total_given (f : String) {period : UInt64} {capacity : Nat} {calls : List Call}
    (hdropped : ((create period capacity).after (calls ++ [.flush])).dropped = 0)
    (hms : ∀ m ∈ Metric.ofName f (brought (calls ++ [.flush])), m.Carries .delta)
    (hfits : Fits (Metric.ofName f (brought (calls ++ [.flush])))) :
    total (Metric.ofName f ((create period capacity).given (calls ++ [.flush]))) =
      total (Metric.ofName f (brought (calls ++ [.flush]))) := by
  obtain ⟨gone, hwent, hcame⟩ := perm_gone_of_flush f hdropped
  have hyields : Metric.ofName f ((create period capacity).given (calls ++ [.flush])) = gone.filterMap yield := by
    have hids := congrArg (List.filterMap id) hwent
    rwa [List.filterMap_map, List.filterMap_map, Function.id_comp, Function.id_comp, List.filterMap_some] at hids
  have hflatten : gone.flatten.flatten = gone.flatMap List.flatten := by
    rw [List.flatten_flatten, List.flatMap_def]
  rw [hflatten] at hcame
  have hpart : ∀ windows ∈ gone, windows.flatten.Sublist (gone.flatMap List.flatten) := by
    intro windows hmem
    rw [List.flatMap_def]
    exact List.sublist_flatten_of_mem (List.mem_map_of_mem hmem)
  have hyield : ∀ windows ∈ gone, total (yield windows).toList = total windows.flatten :=
    fun windows hmem => total_yield
      (fun m hm => hms m (hcame.symm.subset ((hpart windows hmem).subset hm)))
      (hfits.of_subperm ((hpart windows hmem).subperm.trans hcame.symm.subperm))
  rw [hyields, total_filterMap hyield, Metric.total_perm hcame]

end Conflation

end MetricRouter
