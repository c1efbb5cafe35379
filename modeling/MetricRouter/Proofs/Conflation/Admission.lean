import MetricRouter.Proofs.Conflation.Delivery

/-!
# Which samples are admitted

The windows share one limit on their entries. A sample whose name has an entry in its window needs no room; any other
one takes a place, and is lost where none is left.

* `Counts` — how many entries were made, and how many samples were merged and lost;
* `Admission`, `admission_of_filing` — the four ways in which a sample comes out, with all that each of them changes;
* `counts_foldl_file` — of samples with new names, as many are admitted as there are places;
* `file_forwarded`, `enqueue_append` — a batch is taken in as its samples are, one after another;
* `admission_after` — the main statement.
-/

namespace MetricRouter.Conflation

/-! ## One sample -/

/-- So many entries were made, so many samples were merged into entries, and so many were lost. -/
structure Counts (placed merged lost : Nat) (c c' : Conflation) : Prop where
  entries : c'.entryCount = c.entryCount + placed
  pending : c'.pending = c.pending + placed
  queued : c'.queued = c.queued + placed
  conflated : c'.conflated = c.conflated + merged
  dropped : c'.dropped = c.dropped + lost

namespace Counts

theorem refl (c : Conflation) : Counts 0 0 0 c c := ⟨rfl, rfl, rfl, rfl, rfl⟩

theorem trans {p p' m m' l l' : Nat} {a b c : Conflation} (h : Counts p m l a b) (h' : Counts p' m' l' b c) :
    Counts (p + p') (m + m') (l + l') a c where
  entries := by rw [h'.entries, h.entries, Nat.add_assoc]
  pending := by rw [h'.pending, h.pending, Nat.add_assoc]
  queued := by rw [h'.queued, h.queued, Nat.add_assoc]
  conflated := by rw [h'.conflated, h.conflated, Nat.add_assoc]
  dropped := by rw [h'.dropped, h.dropped, Nat.add_assoc]

end Counts

/-- **The four ways in which a sample comes out** under a deadline, with what it is counted as and what becomes of all
entries. The first two are for a name that has an entry there, the others for one that has none. -/
inductive Admission (c : Conflation) (d : UInt64) (m : Metric) (c' : Conflation) : Prop
  | merged {held merged : Metric} (entry : c.held? d m.fqn = some held) (merge : held.conflate m = .ok merged)
      (counts : Counts 0 1 0 c c')
      (entries : ∀ x f, c'.held? x f = if d = x ∧ m.fqn = f then some merged else c.held? x f)
  | refused {held : Metric} {refusal : MergeRefusal} (entry : c.held? d m.fqn = some held)
      (merge : held.conflate m = .error refusal) (counts : Counts 0 0 1 c c')
      (entries : ∀ x f, c'.held? x f = c.held? x f)
  | placed (entry : c.held? d m.fqn = none) (room : c.pending < c.capacity) (counts : Counts 1 0 0 c c')
      (entries : ∀ x f, c'.held? x f = if d = x ∧ m.fqn = f then some m else c.held? x f)
  | crowded (entry : c.held? d m.fqn = none) (full : c.pending = c.capacity) (counts : Counts 0 0 1 c c')
      (entries : ∀ x f, c'.held? x f = c.held? x f)

section Step

variable {c c' : Conflation} {d : UInt64} {m : Metric}

theorem held?_of_filing_of_same (h : Filing c d m c')
    (hsame : takeIn (decide (c.pending < c.capacity)) m (c.held? d m.fqn) = c.held? d m.fqn) (x : UInt64)
    (f : String) : c'.held? x f = c.held? x f := by
  rw [held?_of_filing h]
  split
  · rename_i hat
    obtain ⟨rfl, rfl⟩ := hat
    exact hsame
  · rfl

/-- **Every filing is one of the four.** -/
theorem admission_of_filing (hc : c.Sound) (h : Filing c d m c') : Admission c d m c' := by
  have hheld := held?_of_filing h
  have hcount := entryCount_of_filing h
  have hsame := held?_of_filing_of_same h
  cases h with
  | absorbed hentry hmerge =>
    refine .merged hentry hmerge ⟨Nat.add_right_cancel hcount, rfl, rfl, rfl, rfl⟩ fun x f => ?_
    rw [hheld]
    refine ite_congr rfl (fun hat => ?_) fun _ => rfl
    rw [← hat.2, hentry, takeIn, absorb, hmerge]
  | refused hentry hmerge =>
    exact .refused hentry hmerge ⟨Nat.add_right_cancel hcount, rfl, rfl, rfl, rfl⟩
      (hsame (by rw [hentry, takeIn, absorb, hmerge]))
  | queued hentry hroom =>
    refine .placed hentry hroom ⟨?_, rfl, rfl, rfl, rfl⟩ fun x f => ?_
    · simp only at hcount
      omega
    · rw [hheld]
      refine ite_congr rfl (fun hat => ?_) fun _ => rfl
      rw [← hat.2, hentry, takeIn, if_pos (decide_eq_true hroom)]
  | crowded hentry hroom =>
    exact .crowded hentry (Nat.le_antisymm hc.fits (Nat.not_lt.mp hroom))
      ⟨Nat.add_right_cancel hcount, rfl, rfl, rfl, rfl⟩
      (hsame (by rw [hentry, takeIn, if_neg (by simpa using hroom)]))

end Step

/-! ## Samples with new names -/

/-- **Of samples with new names, as many are admitted as there are places**, and the others are lost. -/
theorem counts_foldl_file {c : Conflation} (hc : c.Sound) (d : UInt64) {ms : List Metric}
    (hnew : ∀ m ∈ ms, c.held? d m.fqn = none) (hnames : (ms.map Metric.fqn).Nodup) :
    Counts (min (c.capacity - c.pending) ms.length) 0 (ms.length - (c.capacity - c.pending)) c
      (ms.foldl (fun c m => c.file d m) c) := by
  induction ms generalizing c with
  | nil => simpa using Counts.refl c
  | cons m ms ih =>
    obtain ⟨hm, hrest⟩ := List.forall_mem_cons.mp hnew
    obtain ⟨hfirst, hnames⟩ := List.nodup_cons.mp hnames
    have hfiling := filing_file c d m
    have hcapacity := (taken_of_filing hfiling).capacity
    have hothers : ∀ m' ∈ ms, ¬ (d = d ∧ m.fqn = m'.fqn) := fun m' hm' he =>
      hfirst (he.2 ▸ List.mem_map_of_mem hm')
    have hnext := ih (sound_of_filing hc hfiling) (fun m' hm' => by
      rw [held?_of_filing hfiling, if_neg (hothers m' hm')]
      exact hrest m' hm') hnames
    rw [hcapacity] at hnext
    rw [List.foldl_cons, List.length_cons]
    cases admission_of_filing hc hfiling with
    | merged hentry | refused hentry => exact absurd (hm.symm.trans hentry) (by simp)
    | placed _ hroom hcounts _ =>
      have h := hcounts.trans hnext
      rw [hcounts.pending] at h
      convert h using 1 <;> omega
    | crowded _ hfull hcounts _ =>
      have h := hcounts.trans hnext
      rw [hcounts.pending] at h
      convert h using 1 <;> omega

/-! ## Batches -/

theorem file_forwarded (c : Conflation) (d : UInt64) (m : Metric) (n : Nat) :
    ({ c with forwarded := n } : Conflation).file d m = { c.file d m with forwarded := n } := by
  unfold file lose
  simp only
  split
  · split <;> rfl
  · split <;> rfl

theorem foldl_file_forwarded (c : Conflation) (d : UInt64) (ms : List Metric) (n : Nat) :
    ms.foldl (fun c m => c.file d m) { c with forwarded := n } =
      { ms.foldl (fun c m => c.file d m) c with forwarded := n } := by
  induction ms generalizing c with
  | nil => rfl
  | cons m ms ih =>
    rw [List.foldl_cons, file_forwarded]
    exact ih (c.file d m)

/-- **A batch is taken in as its parts are**, one after another. -/
theorem enqueue_append (c : Conflation) (t : UInt64) (ms more : List Metric) :
    (c.enqueue t (ms ++ more)).2 = ((c.enqueue t ms).2.enqueue t more).2 := by
  let into (d : UInt64) (c : Conflation) (ms : List Metric) := (ms.filter mayWait).foldl (fun c m => c.file d m) c
  let aside (ms : List Metric) := (ms.filter (fun m => !mayWait m)).length
  have henqueue (c : Conflation) (ms : List Metric) : (c.enqueue t ms).2 =
      { into (deadlineAfter t c.period) c ms with
        forwarded := (into (deadlineAfter t c.period) c ms).forwarded + aside ms } := rfl
  let d := deadlineAfter t c.period
  have hfirst : Taken _ c (into d c ms) := taken_foldl_file c d (ms.filter mayWait)
  have hthen : Taken _ (into d c ms) (into d (into d c ms) more) := taken_foldl_file _ d (more.filter mayWait)
  have hinto : into d c (ms ++ more) = into d (into d c ms) more := by
    simp only [into, List.filter_append, List.foldl_append]
  have haside : aside (ms ++ more) = aside ms + aside more := by
    simp only [aside, List.filter_append, List.length_append]
  have hmore (n : Nat) : into d { into d c ms with forwarded := n } more =
      { into d (into d c ms) more with forwarded := n } := foldl_file_forwarded _ d _ n
  rw [henqueue c, henqueue (c.enqueue t ms).2, henqueue c, hfirst.period, hmore, hinto, haside, hthen.forwarded,
    Nat.add_assoc]

theorem enqueue_of_waits (c : Conflation) (t : UInt64) {ms : List Metric} (h : ∀ m ∈ ms, mayWait m = true) :
    (c.enqueue t ms).2 = ms.foldl (fun c' m => c'.file (deadlineAfter t c.period) m) c := by
  have hall : ms.filter mayWait = ms := List.filter_eq_self.mpr h
  have hnone : ms.filter (fun m => !mayWait m) = [] := List.filter_eq_nil_iff.mpr fun m hm => by simp [h m hm]
  simp only [enqueue, hall, hnone, List.length_nil, Nat.add_zero]

/-! ## The main statement -/

theorem held?_of_entryCount {c : Conflation} (h : c.entryCount = 0) (d : UInt64) (f : String) :
    c.held? d f = none := by
  refine Option.eq_none_iff_forall_ne_some.mpr fun m hm => ?_
  obtain ⟨w, hw, hentry⟩ := Option.bind_eq_some_iff.mp hm
  have hslot := DelayQueue.mem_of_lookup hw
  have hempty : w.entries.length = 0 := List.sum_eq_zero_iff.mp h _ (List.mem_map_of_mem hslot)
  have hmem := Table.get?_eq_some_iff.mp hentry
  rw [List.length_eq_zero_iff.mp hempty] at hmem
  exact absurd hmem List.not_mem_nil

/-- **Admission is exact.** After all calls, whatever broke down downstream, the entries are counted and there are no
more than fit. A sample that may wait comes out in one of the four ways, under the deadline one period after its
arrival, and a batch is taken in as its samples are, one after another. So of samples with different names that come
into empty windows at one instant, as many are queued as fit, and the others are lost. A drain makes room for as many
entries as it takes out. -/
theorem admission_after (period : UInt64) (capacity : Nat) (breaks : List (List Metric) → List Metric → Bool)
    (calls : List Call) :
    let s := (Service.fresh period capacity).after breaks calls
    let next (k : Call) := (s.call breaks k).2.conflation
    let c := s.conflation
    (c.pending = c.entryCount ∧ c.pending ≤ capacity ∧ c.capacity = capacity) ∧
    (∀ t, (deadlineAfter t period).toNat = min (t.toNat + period.toNat) (2 ^ 64 - 1)) ∧
    (∀ t m, mayWait m = true → Admission c (deadlineAfter t period) m (next (.enqueue t [m]))) ∧
    (∀ t ms more, next (.enqueue t (ms ++ more)) = ((next (.enqueue t ms)).enqueue t more).2) ∧
    (∀ t ms k, c.pending = 0 → (∀ m ∈ ms, mayWait m = true) → (ms.map Metric.fqn).Nodup →
      ms.length = capacity + k → Counts capacity 0 k c (next (.enqueue t ms))) ∧
    (∀ now, capacity - (next (.drain now)).pending = (capacity - c.pending) + c.dueCount now ∧
      (next (.drain now)).entryCount + c.dueCount now = c.entryCount) := by
  intro s next c
  have hconflation : c = (create period capacity).after calls := Service.conflation_after calls
  obtain ⟨hperiod, hcapacity⟩ : c.period = period ∧ c.capacity = capacity :=
    hconflation ▸ settings_after (create period capacity) calls
  have hsound : c.Sound := hconflation ▸ sound_after period capacity calls
  have hpending := hsound.pending
  have hfits : c.pending ≤ capacity := hcapacity ▸ hsound.fits
  have hnext (k : Call) : next k = (c.call k).2 := Service.conflation_call k
  have hwaits (t : UInt64) {ms : List Metric} (hms : ∀ m ∈ ms, mayWait m = true) :
      next (.enqueue t ms) = ms.foldl (fun c m => c.file (deadlineAfter t period) m) c := by
    rw [hnext, ← hperiod]
    exact enqueue_of_waits c t hms
  refine ⟨⟨hpending, hfits, hcapacity⟩, fun t => toNat_deadlineAfter t period, fun t m hm => ?_,
    fun t ms more => ?_, fun t ms k hempty hms hnames hlength => ?_, fun now => ?_⟩
  · rw [hwaits t (List.forall_mem_singleton.mpr hm)]
    exact admission_of_filing hsound (filing_file c _ m)
  · rw [hnext, hnext]
    exact enqueue_append c t ms more
  · have hcounts := counts_foldl_file hsound (deadlineAfter t period)
      (fun m _ => held?_of_entryCount (hpending.symm.trans hempty) _ m.fqn) hnames
    rw [hwaits t hms]
    rw [hempty, hcapacity, hlength] at hcounts
    convert hcounts using 1 <;> omega
  · have hdrained := drained_drain c now
    have hentries := entryCount_drain c now
    rw [hnext]
    refine ⟨?_, hentries⟩
    rw [call, hdrained.pending]
    omega

/-- Two places: of three names that come at one instant, two are queued, and the third finds no room. With both places
taken, the entry of the first name absorbs a later sample all the same. -/
theorem admission_after_of_three_names :
    let m (f : String) (v : Int64) : Metric := ⟨⟨0, "h", "a", [], f, .gauge, f⟩, 0, .long v⟩
    let c := (create 10 2).after [.enqueue 5 [m "x" 1, m "y" 2]]
    let names := [m "x" 1, m "y" 2, m "z" 3]
    (∀ n ∈ names, mayWait n = true) ∧ (names.map Metric.fqn).Nodup ∧
      Counts 2 0 1 (create 10 2) ((create 10 2).enqueue 5 names).2 ∧
      c.pending = c.capacity ∧ Admission c 15 (m "z" 3) (c.enqueue 5 [m "z" 3]).2 ∧
      Admission c 15 (m "x" 4) (c.enqueue 5 [m "x" 4]).2 ∧
      (c.enqueue 5 [m "x" 4]).2.held? 15 "x" = some (m "x" 4) := by
  intro m c names
  have hwait : ∀ n ∈ names, mayWait n = true := by decide
  have hnodup : (names.map Metric.fqn).Nodup := by decide
  obtain ⟨-, -, -, -, hthree, -⟩ := admission_after 10 2 (fun _ _ => false) []
  obtain ⟨-, -, hone, -, -, -⟩ := admission_after 10 2 (fun _ _ => false) [.enqueue 5 [m "x" 1, m "y" 2]]
  exact ⟨hwait, hnodup, hthree 5 names 1 rfl hwait hnodup rfl, by decide +kernel, hone 5 (m "z" 3) rfl,
    hone 5 (m "x" 4) rfl, by decide +kernel⟩

end MetricRouter.Conflation
