import MetricRouter.Proofs.Conflation.Windows

/-!
# Drains

What a drain counts, and what it gives of each name.

* `Gathered`, `gathered_foldl_gatherWindow` — gathering counts every sample once;
* `get?_foldl_gatherWindow` — a delivery holds, of each name, its samples merged in order;
* `Drained`, `drained_drain`, `get?_windows_drain` — what a drain does to the counters and the windows;
* `filter_drain` — what it gives of a name are the entries of its due windows, merged in the order of the
  deadlines;
* `sound_drain`, `sound_after`, `settings_after` — drains keep the invariant, and so do all calls, which leave
  the settings alone.
-/

namespace MetricRouter.Conflation

/-! ## Counting -/

/-- So many samples were gathered, and so many are not pending any more. -/
structure Gathered (n taken : Nat) (a b : Window × Conflation) : Prop where
  period : b.2.period = a.2.period
  capacity : b.2.capacity = a.2.capacity
  windows : b.2.windows = a.2.windows
  queued : b.2.queued = a.2.queued
  forwarded : b.2.forwarded = a.2.forwarded
  pending : b.2.pending = a.2.pending - taken
  /-- Every sample is delivered, conflated or lost. -/
  counted : b.1.size + b.2.conflated + b.2.dropped = a.1.size + a.2.conflated + a.2.dropped + n

namespace Gathered

theorem refl (a : Window × Conflation) : Gathered 0 0 a a := ⟨rfl, rfl, rfl, rfl, rfl, rfl, rfl⟩

theorem trans {n n' taken taken' : Nat} {a b c : Window × Conflation} (h : Gathered n taken a b)
    (h' : Gathered n' taken' b c) : Gathered (n + n') (taken + taken') a c where
  period := h'.period.trans h.period
  capacity := h'.capacity.trans h.capacity
  windows := h'.windows.trans h.windows
  queued := h'.queued.trans h.queued
  forwarded := h'.forwarded.trans h.forwarded
  pending := by rw [h'.pending, h.pending, Nat.sub_sub]
  counted := by
    have hfirst := h.counted
    have hthen := h'.counted
    omega

end Gathered

theorem gathered_gather (acc : Window × Conflation) (m : Metric) : Gathered 1 0 acc (gather acc m) := by
  obtain ⟨delivery, c⟩ := acc
  unfold gather
  simp only
  split
  · rename_i hnone
    refine ⟨rfl, rfl, rfl, rfl, rfl, rfl, ?_⟩
    simp only [Table.size_insert, hnone, Option.isSome_none, Bool.false_eq_true, if_false]
    omega
  · rename_i held hheld
    split
    · refine ⟨rfl, rfl, rfl, rfl, rfl, rfl, ?_⟩
      simp only [Table.size_insert, hheld, Option.isSome_some, if_true]
      omega
    · refine ⟨rfl, rfl, rfl, rfl, rfl, rfl, ?_⟩
      simp only [lose]
      omega

theorem gathered_foldl_gather (ms : List Metric) (acc : Window × Conflation) :
    Gathered ms.length 0 acc (ms.foldl gather acc) := by
  induction ms generalizing acc with
  | nil => exact .refl acc
  | cons m ms ih =>
    have h := (gathered_gather acc m).trans (ih (gather acc m))
    rw [Nat.add_comm] at h
    exact h

theorem gathered_gatherWindow (acc : Window × Conflation) (w : Window) :
    Gathered w.size w.size acc (gatherWindow acc w) := by
  have h := gathered_foldl_gather w.values (acc.1, { acc.2 with pending := acc.2.pending - w.size })
  rw [show w.values.length = w.size from List.length_map _] at h
  exact ⟨h.period, h.capacity, h.windows, h.queued, h.forwarded, h.pending, h.counted⟩

/-- **Gathering windows counts every entry once**, and takes every entry off the pending ones. -/
theorem gathered_foldl_gatherWindow (ws : List Window) (acc : Window × Conflation) :
    Gathered (ws.map Table.size).sum (ws.map Table.size).sum acc (ws.foldl gatherWindow acc) := by
  induction ws generalizing acc with
  | nil => exact .refl acc
  | cons w ws ih => exact (gathered_gatherWindow acc w).trans (ih (gatherWindow acc w))

/-! ## What a delivery holds -/

theorem get?_gather (acc : Window × Conflation) (m : Metric) (f : String) :
    (gather acc m).1.get? f = if m.fqn = f then takeIn true m (acc.1.get? f) else acc.1.get? f := by
  obtain ⟨delivery, c⟩ := acc
  by_cases hf : m.fqn = f
  · subst hf
    unfold gather
    simp only [if_true]
    split
    · rename_i hnone
      simp [hnone, takeIn]
    · rename_i held hheld
      split
      · rename_i merged hmerge
        simp [hheld, takeIn, absorb, hmerge]
      · rename_i refusal hmerge
        simp [hheld, takeIn, absorb, hmerge]
  · unfold gather
    simp only [if_neg hf]
    split
    · simp [hf]
    · split
      · simp [hf]
      · rfl

theorem get?_foldl_gather (ms : List Metric) (acc : Window × Conflation) (f : String) :
    (ms.foldl gather acc).1.get? f =
      (ms.filter (fun m => decide (m.fqn = f))).foldl (fun o m => takeIn true m o) (acc.1.get? f) := by
  induction ms generalizing acc with
  | nil => rfl
  | cons m ms ih =>
    rw [List.foldl_cons, ih, get?_gather]
    by_cases hf : m.fqn = f
    · simp [hf]
    · simp [hf]

theorem get?_foldl_gatherWindow (ws : List Window) (acc : Window × Conflation) (f : String) :
    (ws.foldl gatherWindow acc).1.get? f =
      ((ws.flatMap Table.values).filter (fun m => decide (m.fqn = f))).foldl (fun o m => takeIn true m o)
        (acc.1.get? f) := by
  induction ws generalizing acc with
  | nil => rfl
  | cons w ws ih =>
    rw [List.foldl_cons, ih, List.flatMap_cons, List.filter_append, List.foldl_append]
    unfold gatherWindow
    rw [get?_foldl_gather]

theorem foldl_takeIn (ms : List Metric) (held : Metric) :
    ms.foldl (fun o m => takeIn true m o) (some held) = some (ms.foldl absorb held) := by
  induction ms generalizing held with
  | nil => rfl
  | cons m ms ih => exact ih (absorb held m)

theorem foldl_takeIn_none (ms : List Metric) : ms.foldl (fun o m => takeIn true m o) none = merged ms := by
  cases ms with
  | nil => rfl
  | cons m later => exact foldl_takeIn later m

theorem named_foldl_gatherWindow (ws : List Window) {acc : Window × Conflation}
    (hacc : ∀ f m, acc.1.get? f = some m → m.fqn = f) (f : String) (m : Metric)
    (h : (ws.foldl gatherWindow acc).1.get? f = some m) : m.fqn = f := by
  rw [get?_foldl_gatherWindow] at h
  refine List.foldlRecOn (motive := fun o : Option Metric => ∀ m ∈ o, m.fqn = f) _ _ (hacc f) ?_ m h
  intro o ho m hm m' hm'
  obtain rfl : m.fqn = f := of_decide_eq_true (List.mem_filter.mp hm).2
  exact fqn_of_takeIn ho hm'

/-! ## Drains -/

section Drain

variable (c : Conflation) (now : UInt64)

/-- The delivery of a drain, and the conflation before the delivery is counted. -/
def gathered : Window × Conflation :=
  ((c.ripe now).map Prod.snd).foldl gatherWindow
    (.empty, { c with windows := (c.windows.drainExpired now).2 })

theorem drain_eq : c.drain now = (byName (c.gathered now).1.values,
    { (c.gathered now).2 with forwarded := (c.gathered now).2.forwarded + (c.gathered now).1.size }) := by
  unfold drain gathered ripe
  rw [← DelayQueue.drainExpired_fst]

theorem gathered_gathered : Gathered (c.dueCount now) (c.dueCount now)
    (.empty, { c with windows := (c.windows.drainExpired now).2 }) (c.gathered now) := by
  have h := gathered_foldl_gatherWindow ((c.ripe now).map Prod.snd)
    (.empty, { c with windows := (c.windows.drainExpired now).2 })
  rw [List.map_map] at h
  exact h

theorem length_drain : (c.drain now).1.length = (c.gathered now).1.size := by
  rw [drain_eq]
  show (byName _).length = _
  rw [byName, (List.mergeSort_perm _ _).length_eq]
  exact List.length_map _

/-- What a drain does to the windows and the counters. -/
structure Drained (c : Conflation) (now : UInt64) (c' : Conflation) : Prop where
  period : c'.period = c.period
  capacity : c'.capacity = c.capacity
  windows : c'.windows = (c.windows.drainExpired now).2
  queued : c'.queued = c.queued
  pending : c'.pending = c.pending - c.dueCount now
  /-- Every entry of a window that is due is forwarded, conflated or lost. -/
  counted : c'.forwarded + c'.conflated + c'.dropped =
    c.forwarded + c.conflated + c.dropped + c.dueCount now

theorem drained_drain : Drained c now (c.drain now).2 := by
  have h := gathered_gathered c now
  rw [drain_eq]
  refine ⟨h.period, h.capacity, h.windows, h.queued, h.pending, ?_⟩
  have hforwarded : (c.gathered now).2.forwarded = c.forwarded := h.forwarded
  have hcounted : (c.gathered now).1.size + (c.gathered now).2.conflated + (c.gathered now).2.dropped =
      0 + c.conflated + c.dropped + c.dueCount now := h.counted
  show (c.gathered now).2.forwarded + (c.gathered now).1.size + (c.gathered now).2.conflated +
    (c.gathered now).2.dropped = _
  omega

/-- **What a drain does to the windows.** Those that are due are gone, and the others stay. -/
theorem get?_windows_drain (d : UInt64) :
    (c.drain now).2.windows.get? d = if d ≤ now then none else c.windows.get? d := by
  rw [(drained_drain c now).windows, DelayQueue.get?_drainExpired]

theorem held?_drain (d : UInt64) (f : String) :
    (c.drain now).2.held? d f = if d ≤ now then none else c.held? d f := by
  unfold held?
  rw [get?_windows_drain]
  split
  · rfl
  · rfl

theorem entryCount_drain : (c.drain now).2.entryCount + c.dueCount now = c.entryCount := by
  have h := DelayQueue.sum_drainExpired c.windows now Table.size
  rw [DelayQueue.drainExpired_fst] at h
  unfold entryCount dueCount ripe
  rw [(drained_drain c now).windows, Nat.add_comm]
  exact h

variable {c}

theorem sound_drain (h : c.Sound) : (c.drain now).2.Sound := by
  have hdrained := drained_drain c now
  have hentries := entryCount_drain c now
  have hpending := h.pending
  have hfits := h.fits
  refine ⟨?_, ?_, ?_⟩
  · intro d f m hentry
    rw [held?_drain] at hentry
    split at hentry
    · exact absurd hentry (by simp)
    · exact h.named hentry
  · rw [hdrained.pending]
    omega
  · rw [hdrained.pending, hdrained.capacity]
    omega

theorem sound_call (h : c.Sound) (k : Call) : (c.call k).2.Sound := by
  cases k with
  | enqueue now ms => exact sound_enqueue h now ms
  | drain now => exact sound_drain now h
  | flush => exact sound_drain lastInstant h

/-- **The invariant holds after all calls.** -/
theorem sound_after (period : UInt64) (capacity : Nat) (calls : List Call) :
    ((create period capacity).after calls).Sound :=
  Run.after_of_step (P := Sound) (fun k _ _ h => sound_call h k) (sound_create period capacity)

theorem settings_call (c : Conflation) (k : Call) :
    (c.call k).2.period = c.period ∧ (c.call k).2.capacity = c.capacity := by
  cases k with
  | enqueue now ms =>
    have htaken := taken_foldl_file c (deadlineAfter now c.period) (ms.filter mayWait)
    exact ⟨htaken.period, htaken.capacity⟩
  | drain now => exact ⟨(drained_drain c now).period, (drained_drain c now).capacity⟩
  | flush => exact ⟨(drained_drain c lastInstant).period, (drained_drain c lastInstant).capacity⟩

theorem settings_after (c : Conflation) (calls : List Call) :
    (c.after calls).period = c.period ∧ (c.after calls).capacity = c.capacity := by
  refine Run.after_of_step (P := fun c' : Conflation => c'.period = c.period ∧ c'.capacity = c.capacity)
    (fun k _ c' h => ?_) ⟨rfl, rfl⟩
  obtain ⟨hperiod, hcapacity⟩ := settings_call c' k
  exact ⟨hperiod.trans h.1, hcapacity.trans h.2⟩

/-! ## What a drain gives -/

theorem get?_windows_of_mem {d : UInt64} {w : Window} (h : (d, w) ∈ c.windows.slots) :
    c.windows.get? d = some w :=
  DelayQueue.lookup_of_mem c.windows.sorted h

theorem sorted_due : (c.due now).Pairwise (· < ·) :=
  List.pairwise_map.mpr (c.windows.sorted.filter _)

theorem mem_due_iff {d : UInt64} : d ∈ c.due now ↔ d ≤ now ∧ (c.windows.get? d).isSome := by
  unfold due ripe
  constructor
  · intro h
    obtain ⟨⟨d', w⟩, hmem, rfl⟩ := List.mem_map.mp h
    obtain ⟨hslot, hdue⟩ := List.mem_filter.mp hmem
    rw [get?_windows_of_mem hslot]
    exact ⟨of_decide_eq_true hdue, rfl⟩
  · rintro ⟨hdue, hopen⟩
    obtain ⟨w, hw⟩ := Option.isSome_iff_exists.mp hopen
    have hslot : (d, w) ∈ c.windows.slots := DelayQueue.mem_of_lookup hw
    exact List.mem_map.mpr ⟨(d, w), List.mem_filter.mpr ⟨hslot, decide_eq_true hdue⟩, rfl⟩

theorem filter_values_ripe (h : c.Sound) (f : String) :
    (((c.ripe now).map Prod.snd).flatMap Table.values).filter (fun m => decide (m.fqn = f)) =
      (c.due now).filterMap (fun d => c.held? d f) := by
  have hslot : ∀ s ∈ c.ripe now, s.2.values.filter (fun m => decide (m.fqn = f)) = (c.held? s.1 f).toList := by
    intro s hs
    have hw : c.windows.get? s.1 = some s.2 := get?_windows_of_mem (List.mem_filter.mp hs).1
    have hentry : ∀ g, c.held? s.1 g = s.2.get? g := fun g => by rw [held?, hw, Option.bind_some]
    rw [hentry]
    exact Table.filter_values (fun g m hm => h.named (hentry g ▸ hm)) f
  unfold due
  rw [List.filter_flatMap, List.flatMap_map, List.filterMap_map, List.filterMap_eq_flatMap_toList]
  exact List.flatMap_congr hslot

/-- **What a drain gives of a name** are its entries in the windows that are due, merged in the order of the
deadlines; nothing if there is none. -/
theorem filter_drain (h : c.Sound) (f : String) : (c.drain now).1.filter (fun m => decide (m.fqn = f)) =
    (merged ((c.due now).filterMap (fun d => c.held? d f))).toList := by
  have hnamed : ∀ f m, (c.gathered now).1.get? f = some m → m.fqn = f :=
    named_foldl_gatherWindow _ fun f m h => by simp at h
  have hholds : (c.gathered now).1.get? f = merged ((c.due now).filterMap (fun d => c.held? d f)) := by
    unfold gathered
    rw [get?_foldl_gatherWindow, filter_values_ripe now h, Table.get?_empty, foldl_takeIn_none]
  -- the order of the names does not matter where there is at most one sample
  have hperm : ((c.drain now).1.filter (fun m => decide (m.fqn = f))).Perm
      ((c.gathered now).1.values.filter (fun m => decide (m.fqn = f))) := by
    rw [drain_eq]
    exact (List.mergeSort_perm _ _).filter _
  rw [Table.filter_values hnamed, hholds] at hperm
  cases hmerged : merged ((c.due now).filterMap (fun d => c.held? d f)) with
  | none =>
    rw [hmerged] at hperm
    exact hperm.eq_nil
  | some m =>
    rw [hmerged] at hperm
    exact List.perm_singleton.mp hperm

end Drain

end MetricRouter.Conflation
