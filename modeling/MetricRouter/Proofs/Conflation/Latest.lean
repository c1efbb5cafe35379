import MetricRouter.Proofs.Conflation.Ledger
import MetricRouter.Proofs.Conflation.Merging

/-!
# The latest reading

A gauge keeps the later value at every merge. As long as samples come in the order of their instants, the latest
one is in the open window with the greatest deadline, so it is merged last and goes downstream last.

* `value_absorb`, `value_merged` — a merge keeps the later value;
* `inWindows`, `inWindows_eq` — the entries of a name; the one of the greatest deadline comes last;
* `Latest`, `latest_file`, `latest_drain`, `latest_call`, `latest_run` — the invariant, and how it is kept;
* `latest_given` — the main statement.
-/

namespace MetricRouter.Conflation

open MetricRouter.Metric (Carries)

/-! ## Merging -/

/-- **A merge keeps the later value.** -/
theorem value_absorb {held m : Metric} (hheld : held.Carries .gauge) (hm : m.Carries .gauge) :
    (absorb held m).Carries .gauge ∧ (absorb held m).value = m.value := by
  obtain ⟨a, b, -, hb, habsorb⟩ := absorb_of_absorbs (Metric.absorbs_of_carries rfl hheld hm)
  rw [habsorb, hheld.type, hb]
  exact ⟨⟨hheld.type, rfl⟩, rfl⟩

theorem value_merged {ms : List Metric} (hms : ∀ m ∈ ms, m.Carries .gauge) :
    (merged ms).map Metric.value = ms.getLast?.map Metric.value ∧ ∀ m ∈ merged ms, m.Carries .gauge := by
  induction ms using List.reverseRecOn with
  | nil => exact ⟨rfl, fun m hm => absurd hm (by simp [merged])⟩
  | append_singleton ms m ih =>
    obtain ⟨hbefore, hlast⟩ := List.forall_mem_append.mp hms
    have hm : m.Carries .gauge := hlast m (List.mem_singleton_self m)
    rw [merged_concat, List.getLast?_concat]
    cases hmerged : merged ms with
    | none => exact ⟨rfl, fun m' hm' => by rwa [← Option.some.inj hm']⟩
    | some held =>
      obtain ⟨hcarries, hvalue⟩ := value_absorb ((ih hbefore).2 held hmerged) hm
      exact ⟨congrArg some hvalue, fun m' hm' => by rwa [← Option.some.inj hm']⟩

/-! ## Entries in the order of their deadlines -/

/-- The entries of a name in the open windows, the earliest deadline first. -/
def inWindows (c : Conflation) (f : String) : List Metric := c.deadlines.filterMap (fun d => c.held? d f)

section Entries

variable {c c' : Conflation} {d now : UInt64} {m : Metric} {f : String}

/-- A sorted list up to its greatest possible member. -/
theorem eq_filter_ne_append {ds : List UInt64} (hds : ds.Pairwise (· < ·)) (hd : ∀ x ∈ ds, x ≤ d) :
    ds = ds.filter (fun x => decide (x ≠ d)) ++ (if d ∈ ds then [d] else []) := by
  have hbelow : ∀ x ∈ ds.filter (fun x => decide (x ≠ d)), x < d := fun x hx => by
    obtain ⟨hmem, hne⟩ := List.mem_filter.mp hx
    exact UInt64.lt_of_le_of_ne (hd x hmem) (of_decide_eq_true hne)
  refine hds.eq_of_mem_iff (List.pairwise_append.mpr ⟨hds.filter _, ?_, fun x hx y hy => ?_⟩) fun x => ?_
  · split <;> simp
  · split at hy
    · rw [List.mem_singleton.mp hy]
      exact hbelow x hx
    · exact absurd hy List.not_mem_nil
  · by_cases hx : x = d
    · subst hx
      by_cases hmem : x ∈ ds <;> simp [hmem]
    · by_cases hmem : d ∈ ds <;> simp [hmem, hx]

theorem inWindows_eq (f : String) (hd : ∀ x ∈ c.deadlines, x ≤ d) : c.inWindows f =
    (c.deadlines.filter (fun x => decide (x ≠ d))).filterMap (fun x => c.held? x f) ++ (c.held? d f).toList := by
  rw [inWindows]
  nth_rewrite 1 [eq_filter_ne_append (sorted_deadlines c) hd]
  rw [List.filterMap_append]
  congr 1
  by_cases hmem : d ∈ c.deadlines
  · rw [if_pos hmem]
    cases hheld : c.held? d f <;> simp [hheld]
  · rw [if_neg hmem, held?_eq_none hmem]
    rfl

theorem deadlines_of_filing_of_ne (h : Filing c d m c') :
    c'.deadlines.filter (fun x => decide (x ≠ d)) = c.deadlines.filter (fun x => decide (x ≠ d)) := by
  refine ((sorted_deadlines c').filter _).eq_of_mem_iff ((sorted_deadlines c).filter _) fun x => ?_
  rw [List.mem_filter, List.mem_filter, mem_deadlines_of_filing h, decide_eq_true_iff]
  exact ⟨fun ⟨hmem, hne⟩ => ⟨hmem.resolve_left hne, hne⟩, fun ⟨hmem, hne⟩ => ⟨Or.inr hmem, hne⟩⟩

theorem inWindows_of_filing (h : Filing c d m c') (f : String) (hd : ∀ x ∈ c.deadlines, x ≤ d) :
    c'.inWindows f = (c.deadlines.filter (fun x => decide (x ≠ d))).filterMap (fun x => c.held? x f) ++
      (c'.held? d f).toList := by
  have hd' : ∀ x ∈ c'.deadlines, x ≤ d := fun x hx => by
    rcases (mem_deadlines_of_filing h).mp hx with rfl | hx
    · exact UInt64.le_refl _
    · exact hd x hx
  rw [inWindows_eq f hd', deadlines_of_filing_of_ne h]
  congr 1
  refine List.filterMap_congr fun x hx => ?_
  rw [held?_of_filing h, if_neg]
  exact fun heq => of_decide_eq_true (List.mem_filter.mp hx).2 heq.1.symm

theorem held?_of_filing_of_dropped (h : Filing c d m c') (hdropped : c'.dropped = 0) :
    c'.held? d m.fqn = takeIn true m (c.held? d m.fqn) := by
  rw [held?_of_filing h, if_pos ⟨rfl, rfl⟩]
  cases h with
  | absorbed hentry | refused hentry => rw [hentry]; rfl
  | queued _ hroom => rw [decide_eq_true hroom]
  | crowded => exact absurd hdropped (Nat.succ_ne_zero _)

theorem exists_held?_of_filing (h : Filing c d m c') (hdropped : c'.dropped = 0) (hm : m.Carries .gauge)
    (hheld : ∀ held, c.held? d m.fqn = some held → held.Carries .gauge) :
    ∃ last, c'.held? d m.fqn = some last ∧ last.Carries .gauge ∧ last.value = m.value := by
  rw [held?_of_filing_of_dropped h hdropped]
  cases hentry : c.held? d m.fqn with
  | none => exact ⟨m, rfl, hm, rfl⟩
  | some held => exact ⟨absorb held m, rfl, value_absorb (hheld held hentry) hm⟩

end Entries

/-! ## The invariant -/

/-- **The latest reading is the last one**: counting those that wait after those that went downstream, the last
sample has the value of the one that came in last. All windows close by `bound`. -/
structure Latest (f : String) (bound : UInt64) (c : Conflation) (came went : List Metric) : Prop where
  carries : ∀ {d m}, c.held? d f = some m → m.Carries .gauge
  bounded : ∀ d ∈ c.deadlines, d ≤ bound
  value : (went ++ c.inWindows f).getLast?.map Metric.value = came.getLast?.map Metric.value

section Step

variable {f : String} {bound : UInt64} {c : Conflation} {came went : List Metric}

theorem latest_create (f : String) (period : UInt64) (capacity : Nat) :
    Latest f 0 (create period capacity) [] [] where
  carries := fun h => by simp [create, held?, DelayQueue.get?, DelayQueue.empty, DelayQueue.lookup] at h
  bounded := fun d hd => absurd hd List.not_mem_nil
  value := rfl

theorem Latest.later (h : Latest f bound c came went) {d : UInt64} (hd : bound ≤ d) : Latest f d c came went :=
  ⟨h.carries, fun x hx => UInt64.le_trans (h.bounded x hx) hd, h.value⟩

/-- **A filing under the greatest deadline makes its sample the last one.** -/
theorem latest_file (h : Latest f bound c came went) (m : Metric) (hdropped : (c.file bound m).dropped = 0)
    (hm : m.fqn = f → m.Carries .gauge) :
    Latest f bound (c.file bound m) (came ++ Metric.ofName f [m]) went := by
  have hfiling := filing_file c bound m
  have hbounded : ∀ d ∈ (c.file bound m).deadlines, d ≤ bound := fun d hd => by
    rcases (mem_deadlines_of_filing hfiling).mp hd with rfl | hd
    · exact UInt64.le_refl _
    · exact h.bounded d hd
  have hentries := inWindows_of_filing hfiling f h.bounded
  by_cases hf : m.fqn = f
  · subst hf
    obtain ⟨last, hlast, hcarries, hvalue⟩ :=
      exists_held?_of_filing hfiling hdropped (hm rfl) fun held hheld => h.carries hheld
    refine ⟨fun {d m'} hd => ?_, hbounded, ?_⟩
    · by_cases hdb : bound = d
      · rw [← hdb, hlast] at hd
        rwa [← Option.some.inj hd]
      · rw [held?_of_filing hfiling, if_neg fun heq => hdb heq.1] at hd
        exact h.carries hd
    · rw [hentries, hlast, Option.toList_some, ← List.append_assoc, List.getLast?_concat]
      simp [Metric.ofName, hvalue]
  · have hsame : ∀ d, (c.file bound m).held? d f = c.held? d f := fun d => by
      rw [held?_of_filing hfiling, if_neg fun heq => hf heq.2]
    have hnone : Metric.ofName f [m] = [] := by simp [hf]
    refine ⟨fun hd => h.carries (hsame _ ▸ hd), hbounded, ?_⟩
    rw [hentries, hsame, ← inWindows_eq f h.bounded, hnone, List.append_nil]
    exact h.value

theorem latest_filings (ms : List Metric) (h : Latest f bound c came went)
    (hdropped : (ms.foldl (fun c m => c.file bound m) c).dropped = 0)
    (hms : ∀ m ∈ Metric.ofName f ms, m.Carries .gauge) :
    Latest f bound (ms.foldl (fun c m => c.file bound m) c) (came ++ Metric.ofName f ms) went := by
  induction ms generalizing c came with
  | nil => simpa [Metric.ofName] using h
  | cons m ms ih =>
    have hfirst : (c.file bound m).dropped = 0 :=
      Nat.le_zero.mp ((dropped_le_foldl_file (c.file bound m) bound ms).trans_eq hdropped)
    rw [← List.singleton_append, Metric.ofName_append] at hms ⊢
    obtain ⟨hm, hrest⟩ := List.forall_mem_append.mp hms
    have hfiled := latest_file h m hfirst fun hf => hm m (by simp [hf])
    rw [← List.append_assoc]
    exact ih hfiled hdropped hrest

/-- **A drain sends the last one downstream last.** -/
theorem latest_drain (h : Latest f bound c came went) (hc : c.Sound) (now : UInt64) :
    Latest f bound (c.drain now).2 came (went ++ Metric.ofName f (c.drain now).1) := by
  let ready := (c.due now).filterMap fun d => c.held? d f
  have hgiven : Metric.ofName f (c.drain now).1 = (merged ready).toList := filter_drain now hc f
  have hleft : c.inWindows f = ready ++ (c.drain now).2.inWindows f := by
    rw [inWindows, deadlines_drain c now, List.filterMap_append, inWindows]
    refine congrArg _ (List.filterMap_congr fun d hd => ?_)
    rw [held?_drain, if_neg (lt_of_mem_deadlines_drain hd)]
  have hready : ∀ m ∈ ready, m.Carries .gauge := fun m hm => by
    obtain ⟨d, -, hd⟩ := List.mem_filterMap.mp hm
    exact h.carries hd
  have hvalue : (merged ready).toList.getLast?.map Metric.value = ready.getLast?.map Metric.value := by
    rw [← (value_merged hready).1]
    cases merged ready <;> rfl
  refine ⟨fun hd => ?_, fun d hd => h.bounded d ?_, ?_⟩
  · rw [held?_drain] at hd
    split at hd
    · exact absurd hd (by simp)
    · exact h.carries hd
  · rw [deadlines_drain c now]
    exact List.mem_append_right _ hd
  · rw [← h.value, hleft, hgiven]
    simp only [List.getLast?_append, Option.map_or, hvalue]
    rw [Option.or_assoc]

theorem latest_enqueue (h : Latest f bound c came went) {now : UInt64} (hnow : bound ≤ deadlineAfter now c.period)
    {ms : List Metric} (hdropped : (c.enqueue now ms).2.dropped = 0)
    (hms : ∀ m ∈ Metric.ofName f ms, m.Carries .gauge) :
    Latest f (deadlineAfter now c.period) (c.enqueue now ms).2 (came ++ Metric.ofName f ms)
      (went ++ Metric.ofName f (c.enqueue now ms).1) := by
  have hwaits : ∀ m ∈ Metric.ofName f ms, mayWait m = true := fun m hm => by
    rw [mayWait, (hms m hm).type]
    rfl
  have hfiled : Metric.ofName f (ms.filter mayWait) = Metric.ofName f ms := by
    rw [Metric.ofName, List.filter_comm]
    exact List.filter_eq_self.mpr hwaits
  have hbypass : Metric.ofName f (c.enqueue now ms).1 = [] := by
    show Metric.ofName f (ms.filter fun m => !mayWait m) = []
    rw [Metric.ofName, List.filter_comm]
    exact List.filter_eq_nil_iff.mpr fun m hm => by simp [hwaits m hm]
  rw [← hfiled] at hms ⊢
  rw [hbypass, List.append_nil]
  have hlast := latest_filings (ms.filter mayWait) (h.later hnow) hdropped hms
  exact ⟨hlast.carries, hlast.bounded, hlast.value⟩

/-- The instant at which a call brings samples. -/
def Call.instant : Call → Option UInt64
  | enqueue now _ => some now
  | drain _ | flush => none

/-- **Every call keeps the latest reading the last one**, if its instant does not go back. -/
theorem latest_call {now : UInt64} (h : Latest f (deadlineAfter now c.period) c came went) (hc : c.Sound) (k : Call)
    (hdropped : (c.call k).2.dropped = 0) (hms : ∀ m ∈ Metric.ofName f k.metrics, m.Carries .gauge)
    (hnow : ∀ t ∈ k.instant, now ≤ t) :
    Latest f (deadlineAfter (k.instant.getD now) c.period) (c.call k).2 (came ++ Metric.ofName f k.metrics)
      (went ++ Metric.ofName f (c.call k).1) := by
  cases k with
  | enqueue t ms => exact latest_enqueue h (deadlineAfter_le_deadlineAfter (hnow t rfl) c.period) hdropped hms
  | drain t =>
    rw [Call.metrics, Metric.ofName, List.filter_nil, List.append_nil]
    exact latest_drain h hc t
  | flush =>
    rw [Call.metrics, Metric.ofName, List.filter_nil, List.append_nil]
    exact latest_drain h hc lastInstant

theorem instant_le_of_pairwise {now : UInt64} {k : Call} {calls : List Call}
    (h : (now :: (k :: calls).filterMap Call.instant).Pairwise (· ≤ ·)) :
    (∀ t ∈ k.instant, now ≤ t) ∧ (k.instant.getD now :: calls.filterMap Call.instant).Pairwise (· ≤ ·) := by
  cases hk : k.instant with
  | none =>
    rw [List.filterMap_cons_none hk] at h
    exact ⟨fun t ht => absurd ht (by simp), h⟩
  | some t =>
    rw [List.filterMap_cons_some hk] at h
    obtain ⟨hnow, hlater⟩ := List.pairwise_cons.mp h
    refine ⟨fun t' ht' => ?_, hlater⟩
    rw [← Option.some.inj ht']
    exact hnow t List.mem_cons_self

/-- **So does a run** whose instants do not go back. -/
theorem latest_run {now : UInt64} (h : Latest f (deadlineAfter now c.period) c came went) (hc : c.Sound)
    (calls : List Call) (hdropped : (c.after calls).dropped = 0)
    (hms : ∀ m ∈ Metric.ofName f (brought calls), m.Carries .gauge)
    (hordered : (now :: calls.filterMap Call.instant).Pairwise (· ≤ ·)) :
    ∃ last, Latest f last (c.after calls) (came ++ Metric.ofName f (brought calls))
      (went ++ Metric.ofName f (c.given calls)) := by
  induction calls generalizing c came went now with
  | nil =>
    refine ⟨deadlineAfter now c.period, ?_⟩
    show Latest f _ c (came ++ []) (went ++ [])
    rwa [List.append_nil, List.append_nil]
  | cons k calls ih =>
    have hfirst : (c.call k).2.dropped = 0 :=
      Nat.le_zero.mp ((dropped_le_after (c.call k).2 calls).trans_eq hdropped)
    have hbrought : brought (k :: calls) = k.metrics ++ brought calls := rfl
    have hgiven : c.given (k :: calls) = (c.call k).1 ++ (c.call k).2.given calls := rfl
    rw [hbrought, Metric.ofName_append] at hms
    obtain ⟨hnew, hrest⟩ := List.forall_mem_append.mp hms
    obtain ⟨hnow, hlater⟩ := instant_le_of_pairwise hordered
    have hcall := latest_call h hc k hfirst hnew hnow
    rw [← (settings_call c k).1] at hcall
    rw [hbrought, hgiven, Metric.ofName_append, Metric.ofName_append, ← List.append_assoc, ← List.append_assoc]
    exact ih hcall (sound_call hc k) hdropped hrest hlater

end Step

/-- **The last reading goes downstream last.** Once everything is flushed, and if nothing was lost and the samples
came in the order of their instants, the last value that went downstream of a gauge is the last one that came
in. -/
theorem latest_given (f : String) {period : UInt64} {capacity : Nat} {calls : List Call}
    (hdropped : ((create period capacity).after (calls ++ [.flush])).dropped = 0)
    (hms : ∀ m ∈ Metric.ofName f (brought (calls ++ [.flush])), m.Carries .gauge)
    (hordered : (calls.filterMap Call.instant).Pairwise (· ≤ ·)) :
    (Metric.ofName f ((create period capacity).given (calls ++ [.flush]))).getLast?.map Metric.value =
      (Metric.ofName f (brought (calls ++ [.flush]))).getLast?.map Metric.value := by
  have hinstants : (0 :: (calls ++ [Call.flush]).filterMap Call.instant).Pairwise (· ≤ ·) := by
    refine List.pairwise_cons.mpr ⟨fun _ _ => UInt64.zero_le, ?_⟩
    rw [List.filterMap_append, List.filterMap_cons_none rfl, List.filterMap_nil, List.append_nil]
    exact hordered
  have hfirst := (latest_create f period capacity).later (d := deadlineAfter 0 period) UInt64.zero_le
  obtain ⟨last, hlatest⟩ := latest_run hfirst (sound_create period capacity) _ hdropped hms hinstants
  have hempty : ((create period capacity).after (calls ++ [.flush])).deadlines = [] := deadlines_after_flush _ calls
  have hvalue := hlatest.value
  rwa [inWindows, hempty, List.filterMap_nil, List.append_nil] at hvalue

end MetricRouter.Conflation
