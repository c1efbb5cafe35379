import MetricRouter.Proofs.Conflation.History
import MetricRouter.Proofs.Metric.Sample

/-!
# Where the samples of a name are

As long as no sample is lost, every sample that came in waits in one of the windows, or went downstream in one
sample with those that it was merged with.

* `brought`, `given` — the samples that calls bring, and those that go downstream in them;
* `dropped_le_call` — what is lost stays lost, so nothing was lost on the way to an end with nothing lost;
* `deadlines`, `perm_deadlines_of_filing`, `deadlines_drain` — the open windows, after a filing and a drain;
* `Accounted`, `accounted_file`, `accounted_drain`, `accounted_run` — the invariant, and how it is kept;
* `perm_gone_of_flush` — after a flush, all that came in went downstream;
* `length_given_le`, `fqn_mem_names_of_mem_given` — no more samples of a name go downstream than came in, and none
  of a name that did not come.
-/

namespace MetricRouter

namespace Conflation

/-- The samples that a call brings. -/
def Call.metrics : Call → List Metric
  | enqueue _ ms => ms
  | drain _ | flush => []

/-- The samples that calls bring, in order. -/
def brought (calls : List Call) : List Metric := calls.flatMap Call.metrics

/-- The samples that go downstream in calls that are made in order. -/
def given (c : Conflation) (calls : List Call) : List Metric := (Run.answers call c calls).flatten

theorem given_append (c : Conflation) (calls more : List Call) :
    c.given (calls ++ more) = c.given calls ++ (c.after calls).given more := by
  rw [given, Run.answers_append, List.flatten_append]
  rfl

/-! ## What is lost -/

section Dropped

theorem dropped_le_of_filing {c c' : Conflation} {d : UInt64} {m : Metric} (h : Filing c d m c') :
    c.dropped ≤ c'.dropped := by
  cases h with
  | absorbed | queued => exact Nat.le_refl _
  | refused | crowded => exact Nat.le_succ _

theorem dropped_le_foldl_file (c : Conflation) (d : UInt64) (ms : List Metric) :
    c.dropped ≤ (ms.foldl (fun c m => c.file d m) c).dropped := by
  induction ms generalizing c with
  | nil => exact Nat.le_refl _
  | cons m ms ih => exact (dropped_le_of_filing (filing_file c d m)).trans (ih (c.file d m))

theorem dropped_le_gather (acc : Window × Conflation) (m : Metric) :
    acc.2.dropped ≤ (gather acc m).2.dropped := by
  unfold gather
  simp only
  split
  · exact Nat.le_refl _
  · split
    · exact Nat.le_refl _
    · exact Nat.le_succ _

theorem dropped_le_foldl_gather (ms : List Metric) (acc : Window × Conflation) :
    acc.2.dropped ≤ (ms.foldl gather acc).2.dropped := by
  induction ms generalizing acc with
  | nil => exact Nat.le_refl _
  | cons m ms ih => exact (dropped_le_gather acc m).trans (ih (gather acc m))

theorem dropped_le_drain (c : Conflation) (now : UInt64) : c.dropped ≤ (c.drain now).2.dropped := by
  have hfold (ws : List Window) (acc : Window × Conflation) :
      acc.2.dropped ≤ (ws.foldl gatherWindow acc).2.dropped := by
    induction ws generalizing acc with
    | nil => exact Nat.le_refl _
    | cons w ws ih =>
      have hw : acc.2.dropped ≤ (gatherWindow acc w).2.dropped :=
        dropped_le_foldl_gather w.values (acc.1, { acc.2 with pending := acc.2.pending - w.size })
      exact hw.trans (ih (gatherWindow acc w))
  rw [drain_eq]
  exact hfold _ (.empty, { c with windows := (c.windows.drainExpired now).2 })

theorem dropped_le_call (c : Conflation) (k : Call) : c.dropped ≤ (c.call k).2.dropped := by
  cases k with
  | enqueue now ms => exact dropped_le_foldl_file c (deadlineAfter now c.period) (ms.filter mayWait)
  | drain now => exact dropped_le_drain c now
  | flush => exact dropped_le_drain c lastInstant

theorem dropped_le_after (c : Conflation) (calls : List Call) : c.dropped ≤ (c.after calls).dropped :=
  Run.after_of_step (P := fun c' : Conflation => c.dropped ≤ c'.dropped)
    (fun k _ c' h => h.trans (dropped_le_call c' k)) (Nat.le_refl _)

end Dropped

/-! ## The open windows -/

/-- The deadlines of the open windows, the earliest first. -/
def deadlines (c : Conflation) : List UInt64 := c.windows.slots.map Prod.fst

section Deadlines

variable {c c' : Conflation} {d now : UInt64} {m : Metric} {f : String}

theorem sorted_deadlines (c : Conflation) : c.deadlines.Pairwise (· < ·) := List.pairwise_map.mpr c.windows.sorted

theorem nodup_deadlines (c : Conflation) : c.deadlines.Nodup := (sorted_deadlines c).imp UInt64.ne_of_lt

theorem mem_deadlines_iff : d ∈ c.deadlines ↔ (c.windows.get? d).isSome := by
  unfold deadlines
  constructor
  · intro h
    obtain ⟨⟨x, w⟩, hslot, rfl⟩ := List.mem_map.mp h
    rw [get?_windows_of_mem hslot]
    rfl
  · intro h
    obtain ⟨w, hw⟩ := Option.isSome_iff_exists.mp h
    exact List.mem_map.mpr ⟨(d, w), DelayQueue.mem_of_lookup hw, rfl⟩

theorem held?_eq_none (h : d ∉ c.deadlines) (f : String) : c.held? d f = none := by
  rw [mem_deadlines_iff, Option.not_isSome_iff_eq_none] at h
  rw [held?, h]
  rfl

theorem mem_deadlines_of_filing (h : Filing c d m c') {x : UInt64} :
    x ∈ c'.deadlines ↔ x = d ∨ x ∈ c.deadlines := by
  obtain ⟨w, hw, -⟩ := window_of_filing h
  rw [mem_deadlines_iff, mem_deadlines_iff, hw]
  by_cases hx : d = x
  · simp [hx]
  · simp [hx, Ne.symm hx]

theorem perm_deadlines_of_filing (h : Filing c d m c') : c'.deadlines.Perm (c.deadlines.insert d) := by
  refine (List.perm_ext_iff_of_nodup (nodup_deadlines c') (nodup_deadlines c).insert).mpr fun x => ?_
  rw [mem_deadlines_of_filing h, List.mem_insert_iff]

theorem deadlines_drain (c : Conflation) (now : UInt64) :
    c.deadlines = c.due now ++ (c.drain now).2.deadlines := by
  unfold deadlines due ripe
  rw [(drained_drain c now).windows, ← DelayQueue.drainExpired_fst, ← List.map_append]
  rw [DelayQueue.drainExpired_append]

theorem lt_of_mem_deadlines_drain (h : d ∈ (c.drain now).2.deadlines) : ¬ d ≤ now := by
  rw [mem_deadlines_iff, get?_windows_drain] at h
  intro hd
  rw [if_pos hd] at h
  exact absurd h (by simp)

theorem deadlines_flush (c : Conflation) : c.flush.2.deadlines = [] := by
  refine List.eq_nil_iff_forall_not_mem.mpr fun d hd => lt_of_mem_deadlines_drain hd ?_
  exact UInt64.le_iff_toNat_le.mpr (Nat.le_of_lt_succ d.toNat_lt)

theorem deadlines_after_flush (c : Conflation) (calls : List Call) :
    (c.after (calls ++ [.flush])).deadlines = [] := by
  have hlast : c.after (calls ++ [.flush]) = (c.after calls).flush.2 := Run.after_concat c calls .flush
  rw [hlast]
  exact deadlines_flush _

end Deadlines

/-! ## The invariant -/

/-- The sample that goes downstream for the samples that some windows hold of a name, window by window. -/
def yield (windows : List (List Metric)) : Option Metric := merged (windows.filterMap merged)

theorem merged_eq_none_iff {ms : List Metric} : merged ms = none ↔ ms = [] := by
  cases ms with
  | nil => exact ⟨fun _ => rfl, fun _ => rfl⟩
  | cons m later => simp [merged]

theorem yield_eq_none_iff {windows : List (List Metric)} : yield windows = none ↔ windows.flatten = [] := by
  unfold yield
  rw [merged_eq_none_iff, List.filterMap_eq_nil_iff, List.flatten_eq_nil_iff]
  exact forall₂_congr fun _ _ => merged_eq_none_iff

/-- **Where the samples of a name are** that came in: in the windows, as the history says, or in the samples that
went downstream. `gone` has, for each of these, the samples that it was made of, window by window. -/
structure Accounted (f : String) (h : List Event) (c : Conflation) (came went : List Metric)
    (gone : List (List (List Metric))) : Prop where
  went : went.map some = gone.map yield
  came : came.Perm (gone.flatten.flatten ++ c.deadlines.flatMap (fun d => admitted h d f))

section Lists

variable {ds ds' : List UInt64} {d : UInt64} {g g' : UInt64 → List Metric} {new : List Metric}

theorem perm_flatMap_insert (hperm : ds'.Perm (ds.insert d)) (hout : d ∉ ds → g d = [])
    (hother : ∀ x, x ≠ d → g' x = g x) (hat : g' d = g d ++ new) (hnodup : ds.Nodup) :
    (ds'.flatMap g').Perm (ds.flatMap g ++ new) := by
  have hrest : (ds.erase d).flatMap g' = (ds.erase d).flatMap g :=
    List.flatMap_congr fun x hx => hother x (hnodup.mem_erase_iff.mp hx).1
  have hbefore : (ds.flatMap g).Perm (g d ++ (ds.erase d).flatMap g) := by
    by_cases hd : d ∈ ds
    · exact (List.perm_cons_erase hd).flatMap_right g
    · rw [hout hd, List.erase_of_not_mem hd]
      exact List.Perm.refl _
  have hafter : ds'.Perm (d :: ds.erase d) := by
    refine hperm.trans ?_
    by_cases hd : d ∈ ds
    · rw [List.insert_of_mem hd]
      exact List.perm_cons_erase hd
    · rw [List.insert_of_not_mem hd, List.erase_of_not_mem hd]
  calc
    (ds'.flatMap g').Perm (g' d ++ (ds.erase d).flatMap g') := hafter.flatMap_right g'
    _ = g d ++ new ++ (ds.erase d).flatMap g := by rw [hat, hrest]
    (g d ++ new ++ (ds.erase d).flatMap g).Perm (g d ++ (ds.erase d).flatMap g ++ new) := by
      rw [List.append_assoc, List.append_assoc]
      exact List.perm_append_comm.append_left _
    List.Perm _ (ds.flatMap g ++ new) := hbefore.symm.append_right new

end Lists

section Step

variable {f : String} {h : List Event} {c : Conflation} {came went : List Metric}
  {gone : List (List (List Metric))}

theorem accounted_create (f : String) (period : UInt64) (capacity : Nat) :
    Accounted f [] (create period capacity) [] [] [] := ⟨rfl, List.Perm.refl _⟩

theorem admitted_of_filing {c' : Conflation} {d : UInt64} {m : Metric} (hrec : Records h c)
    (hfiling : Filing c d m c') (hdropped : c'.dropped = 0) (room : Bool)
    (hroom : room = decide (c.pending < c.capacity)) :
    admitted (h ++ [.filed d m room]) d m.fqn = admitted h d m.fqn ++ [m] := by
  rw [admitted_filed, if_neg]
  rintro ⟨hnone, hfull⟩
  have hentry : c.held? d m.fqn = none := by
    rw [hrec, hnone]
    rfl
  cases hfiling with
  | absorbed hheld | refused hheld =>
    rw [hentry] at hheld
    exact absurd hheld (by simp)
  | queued _ hspace =>
    rw [hfull, eq_comm, decide_eq_false_iff_not] at hroom
    exact hroom hspace
  | crowded => exact absurd hdropped (Nat.succ_ne_zero _)

/-- **A filing puts its sample in a window.** -/
theorem accounted_file (hacc : Accounted f h c came went gone) (hrec : Records h c) (hc : c.Sound)
    (d : UInt64) (m : Metric) (hdropped : (c.file d m).dropped = 0) :
    Accounted f (h ++ [.filed d m (decide (c.entryCount < c.capacity))]) (c.file d m)
      (came ++ Metric.ofName f [m]) went gone := by
  have hfiling := filing_file c d m
  refine ⟨hacc.went, ?_⟩
  let h' := h ++ [.filed d m (decide (c.entryCount < c.capacity))]
  have hwindows : ((c.file d m).deadlines.flatMap (fun x => admitted h' x f)).Perm
      (c.deadlines.flatMap (fun x => admitted h x f) ++ Metric.ofName f [m]) := by
    refine perm_flatMap_insert (perm_deadlines_of_filing hfiling) (fun hd => ?_) (fun x hx => ?_) ?_
      (nodup_deadlines c)
    · have hentry := hrec d f
      rw [held?_eq_none hd] at hentry
      exact merged_eq_none_iff.mp hentry.symm
    · exact admitted_filed_of_ne h d x m _ f fun heq => hx heq.1.symm
    · by_cases hf : m.fqn = f
      · subst hf
        simp only [Metric.ofName, List.filter_singleton, decide_true]
        exact admitted_of_filing hrec hfiling hdropped _ (by rw [hc.pending])
      · rw [admitted_filed_of_ne h d d m _ f fun heq => hf heq.2]
        simp [Metric.ofName, hf]
  refine (hacc.came.append_right _).trans ?_
  rw [List.append_assoc]
  exact hwindows.symm.append_left _

theorem accounted_filings (d : UInt64) (ms : List Metric) (hacc : Accounted f h c came went gone)
    (hrec : Records h c) (hc : c.Sound) (hdropped : (ms.foldl (fun c m => c.file d m) c).dropped = 0) :
    Accounted f (h ++ filings d c ms) (ms.foldl (fun c m => c.file d m) c)
      (came ++ Metric.ofName f ms) went gone := by
  induction ms generalizing h c came with
  | nil => simpa [filings, Metric.ofName] using hacc
  | cons m ms ih =>
    have hfirst : (c.file d m).dropped = 0 :=
      Nat.le_zero.mp ((dropped_le_foldl_file (c.file d m) d ms).trans_eq hdropped)
    have hrest := ih (accounted_file hacc hrec hc d m hfirst) (records_file hrec hc d m)
      (sound_of_filing hc (filing_file c d m)) hdropped
    rw [List.append_assoc, List.append_assoc, ← Metric.ofName_append] at hrest
    exact hrest

/-- **A sample that may not wait goes downstream alone.** -/
theorem accounted_bypass (hacc : Accounted f h c came went gone) (ms : List Metric) :
    Accounted f h c (came ++ ms) (went ++ ms) (gone ++ ms.map fun m => [[m]]) where
  went := by
    rw [List.map_append, List.map_append, hacc.went, List.map_map]
    rfl
  came := by
    have halone : (ms.map fun m => [[m]]).flatten.flatten = ms := by
      rw [← List.flatMap_def, List.flatten_eq_flatMap, List.flatMap_assoc]
      simp
    rw [List.flatten_append, List.flatten_append, halone, List.append_assoc]
    refine (hacc.came.append_right ms).trans ?_
    rw [List.append_assoc]
    exact List.perm_append_comm.append_left _

/-- **A drain sends what is in the windows that are due downstream**, in one sample. -/
theorem accounted_drain (hacc : Accounted f h c came went gone) (hrec : Records h c) (hc : c.Sound)
    (now : UInt64) : ∃ gone', Accounted f (h ++ [.drained now]) (c.drain now).2 came
      (went ++ Metric.ofName f (c.drain now).1) gone' := by
  let windows := (c.due now).map fun d => admitted h d f
  have hgiven : Metric.ofName f (c.drain now).1 = (yield windows).toList := by
    refine (filter_drain now hc f).trans ?_
    rw [yield, List.filterMap_map]
    exact congrArg (fun ms => (merged ms).toList) (List.filterMap_congr fun d _ => hrec d f)
  have hleft : (c.drain now).2.deadlines.flatMap (fun d => admitted (h ++ [.drained now]) d f) =
      (c.drain now).2.deadlines.flatMap (fun d => admitted h d f) :=
    List.flatMap_congr fun d hd => by
      rw [admitted_drained, if_neg (lt_of_mem_deadlines_drain hd)]
  have hdue : (c.due now).flatMap (fun d => admitted h d f) = windows.flatten := List.flatMap_def
  have hcame := hacc.came
  rw [deadlines_drain c now, List.flatMap_append, hdue, ← hleft, ← List.append_assoc] at hcame
  rw [hgiven]
  cases hyield : yield windows with
  | none =>
    refine ⟨gone, ?_, ?_⟩
    · simpa using hacc.went
    · rwa [yield_eq_none_iff.mp hyield, List.append_nil] at hcame
  | some m =>
    refine ⟨gone ++ [windows], ?_, ?_⟩
    · rw [List.map_append, List.map_append, hacc.went, List.map_singleton, hyield]
      rfl
    · rw [List.flatten_append, List.flatten_append, List.flatten_singleton]
      exact hcame

/-- **Every call keeps the accounts**, if nothing was lost in it. -/
theorem accounted_call (hacc : Accounted f h c came went gone) (hrec : Records h c) (hc : c.Sound) (k : Call)
    (hdropped : (c.call k).2.dropped = 0) : ∃ gone', Accounted f (h ++ k.events c) (c.call k).2
      (came ++ Metric.ofName f k.metrics) (went ++ Metric.ofName f (c.call k).1) gone' := by
  cases k with
  | enqueue now ms =>
    have hfiled := accounted_filings (deadlineAfter now c.period) (ms.filter mayWait) hacc hrec hc hdropped
    have hboth := accounted_bypass hfiled (Metric.ofName f (ms.filter fun m => !mayWait m))
    refine ⟨_, hboth.went, List.Perm.trans ?_ hboth.came⟩
    -- those that wait and those that may not are all that came
    have hsplit := (List.filter_append_perm mayWait ms).filter (fun m => decide (m.fqn = f))
    rw [List.append_assoc, ← Metric.ofName_append]
    exact hsplit.symm.append_left came
  | drain now =>
    rw [Call.metrics, Metric.ofName, List.filter_nil, List.append_nil]
    exact accounted_drain hacc hrec hc now
  | flush =>
    rw [Call.metrics, Metric.ofName, List.filter_nil, List.append_nil]
    exact accounted_drain hacc hrec hc lastInstant

theorem accounted_run (hacc : Accounted f h c came went gone) (hrec : Records h c) (hc : c.Sound)
    (calls : List Call) (hdropped : (c.after calls).dropped = 0) :
    ∃ h' gone', Accounted f h' (c.after calls) (came ++ Metric.ofName f (brought calls))
      (went ++ Metric.ofName f (c.given calls)) gone' := by
  induction calls generalizing h c came went gone with
  | nil =>
    refine ⟨h, gone, ?_⟩
    show Accounted f h c (came ++ []) (went ++ []) gone
    rwa [List.append_nil, List.append_nil]
  | cons k calls ih =>
    have hfirst : (c.call k).2.dropped = 0 :=
      Nat.le_zero.mp ((dropped_le_after (c.call k).2 calls).trans_eq hdropped)
    obtain ⟨gone₁, hcall⟩ := accounted_call hacc hrec hc k hfirst
    obtain ⟨h', gone', hrest⟩ := ih hcall (records_call hrec hc k) (sound_call hc k) hdropped
    rw [List.append_assoc, List.append_assoc, ← Metric.ofName_append, ← Metric.ofName_append] at hrest
    exact ⟨h', gone', hrest⟩

end Step

/-! ## Whole runs -/

section Runs

variable {f : String} {period : UInt64} {capacity : Nat} {calls : List Call}

/-- **After a run in which nothing was lost, the samples of a name are accounted for.** -/
theorem accounted_after (f : String) (hdropped : ((create period capacity).after calls).dropped = 0) :
    ∃ h gone, Accounted f h ((create period capacity).after calls) (Metric.ofName f (brought calls))
      (Metric.ofName f ((create period capacity).given calls)) gone :=
  accounted_run (accounted_create f period capacity) (records_create period capacity)
    (sound_create period capacity) calls hdropped

theorem perm_gone_of_flush (f : String)
    (hdropped : ((create period capacity).after (calls ++ [.flush])).dropped = 0) :
    ∃ gone : List (List (List Metric)),
      (Metric.ofName f ((create period capacity).given (calls ++ [.flush]))).map some = gone.map yield ∧
      (Metric.ofName f (brought (calls ++ [.flush]))).Perm gone.flatten.flatten := by
  obtain ⟨h, gone, hacc⟩ := accounted_after f hdropped
  refine ⟨gone, hacc.went, ?_⟩
  have hcame := hacc.came
  rwa [deadlines_after_flush, List.flatMap_nil, List.append_nil] at hcame

/-- **No more samples of a name go downstream than came in.** -/
theorem length_given_le (f : String) (hdropped : ((create period capacity).after calls).dropped = 0) :
    (Metric.ofName f ((create period capacity).given calls)).length ≤ (Metric.ofName f (brought calls)).length := by
  obtain ⟨h, gone, hacc⟩ := accounted_after f hdropped
  have hparts : ∀ windows ∈ gone, 1 ≤ windows.flatten.length := by
    intro windows hmem
    have hyield : yield windows ∈ gone.map yield := List.mem_map_of_mem hmem
    rw [← hacc.went] at hyield
    obtain ⟨m, -, hm⟩ := List.mem_map.mp hyield
    refine List.length_pos_iff.mpr fun hempty => ?_
    rw [yield_eq_none_iff.mpr hempty] at hm
    exact absurd hm (by simp)
  have hlength := congrArg List.length hacc.went
  rw [List.length_map, List.length_map] at hlength
  calc
    (Metric.ofName f ((create period capacity).given calls)).length = gone.length := hlength
    _ ≤ (gone.map fun windows => windows.flatten.length).sum := by
      rw [← List.length_map (f := fun windows => windows.flatten.length)]
      exact List.length_le_sum_of_one_le _ (List.forall_mem_map.mpr hparts)
    _ = gone.flatten.flatten.length := by
      rw [List.length_flatten, List.map_flatten, List.sum_flatten, List.map_map]
      exact congrArg List.sum (List.map_congr_left fun _ _ => List.length_flatten)
    _ ≤ (Metric.ofName f (brought calls)).length := by
      rw [hacc.came.length_eq, List.length_append]
      exact Nat.le_add_right _ _

/-- No sample goes downstream of a name that did not come. -/
theorem fqn_mem_names_of_mem_given (hdropped : ((create period capacity).after calls).dropped = 0) {m : Metric}
    (hm : m ∈ (create period capacity).given calls) : m.fqn ∈ Metric.names (brought calls) := by
  have hwent : m ∈ Metric.ofName m.fqn ((create period capacity).given calls) :=
    List.mem_filter.mpr ⟨hm, decide_eq_true rfl⟩
  have hlength := length_given_le m.fqn hdropped
  obtain ⟨m', hm'⟩ := List.exists_mem_of_length_pos (Nat.lt_of_lt_of_le (List.length_pos_of_mem hwent) hlength)
  obtain ⟨hmem, hname⟩ := List.mem_filter.mp hm'
  exact ⟨m', hmem, of_decide_eq_true hname⟩

end Runs

end Conflation

end MetricRouter
