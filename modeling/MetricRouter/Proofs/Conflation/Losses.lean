import MetricRouter.Proofs.Conflation.Ledger
import MetricRouter.Proofs.Conflation.Merging

/-!
# What is lost

A sample is lost where there is no room for it, or where an entry of its name cannot absorb it. The latter does not
happen as long as all samples of a name are of one type and carry values of its kind.

* `gathered_of_gather` — what a drain keeps, from what one entry keeps;
* `crowds`, `turnedAway`, `crowdedOut` — the samples for which there is no room;
* `Explained`, `explained_call`, `explained_after` — every loss is of one of the two kinds;
* `Mergeable`, `exists_conflate` — samples that may wait and are of the type of their name; two of one name merge;
* `Uniform`, `uniform_file`, `uniform_drain`, `uniform_call` — the invariant that no merge failed;
* `lost_after` — where all samples are of the type of their name, only room is a reason for a loss.
-/

namespace MetricRouter

namespace Conflation

open MetricRouter.Metric (Carries)

/-! ## Gathering -/

/-- **What gathering the entries of a conflation keeps**, beginning with an empty delivery: what does not depend on the
number of pending entries, and what each entry keeps. -/
theorem gathered_of_gather {c : Conflation} {now : UInt64} {P : Window × Conflation → Prop}
    (hstart : P (.empty, { c with windows := (c.windows.drainExpired now).2 }))
    (hpending : ∀ acc n, P acc → P (acc.1, { acc.2 with pending := n }))
    (hgather : ∀ acc m, (∃ d f, c.held? d f = some m) → P acc → P (gather acc m)) : P (c.gathered now) := by
  refine List.foldlRecOn (motive := P) _ _ hstart fun acc hacc w hw => ?_
  obtain ⟨⟨d, w⟩, hslot, rfl⟩ := List.mem_map.mp hw
  refine List.foldlRecOn (motive := P) _ _ (hpending acc _ hacc) fun acc hacc m hm => hgather acc m ⟨d, ?_⟩ hacc
  obtain ⟨f, hf⟩ := Table.mem_values_iff.mp hm
  refine ⟨f, ?_⟩
  rw [held?, get?_windows_of_mem (List.mem_filter.mp hslot).1]
  exact hf

/-! ## No room -/

/-- Is there no room for the sample under a deadline? No entry of its name can absorb it, and there are as many
entries as there may be. -/
def crowds (c : Conflation) (deadline : UInt64) (m : Metric) : Bool :=
  (c.held? deadline m.fqn).isNone && decide (c.capacity ≤ c.entryCount)

/-- The samples for which there is no room, of some that are filed under a deadline one after another. -/
def turnedAway (deadline : UInt64) (c : Conflation) : List Metric → List Metric
  | [] => []
  | m :: rest =>
    (if c.crowds deadline m then [m] else []) ++ turnedAway deadline (c.file deadline m) rest

/-- The samples for which there is no room in a call. -/
def Call.turnsAway (c : Conflation) : Call → List Metric
  | enqueue now ms => turnedAway (deadlineAfter now c.period) c (ms.filter mayWait)
  | drain _ | flush => []

/-- The samples for which there is no room in calls that are made in order. -/
def crowdedOut (c : Conflation) : List Call → List Metric
  | [] => []
  | k :: rest => k.turnsAway c ++ crowdedOut (c.call k).2 rest

/-- **Every loss is explained**: by one of so many samples for which there was no room, or by one that could not be
merged. -/
def Explained (crowded : Nat) (c : Conflation) : Prop := c.dropped = crowded + c.lost.length

section Step

variable {crowded : Nat} {c c' : Conflation} {d : UInt64} {m : Metric}

theorem crowds_iff (hc : c.Sound) (d : UInt64) (m : Metric) :
    c.crowds d m = true ↔ c.held? d m.fqn = none ∧ ¬ c.pending < c.capacity := by
  rw [crowds, Bool.and_eq_true, Option.isNone_iff_eq_none, decide_eq_true_iff, hc.pending, Nat.not_lt]

theorem explained_of_filing (hc : c.Sound) (h : Explained crowded c) (hfiling : Filing c d m c') :
    Explained (crowded + (if c.crowds d m then [m] else []).length) c' := by
  have hcrowds := crowds_iff hc d m
  unfold Explained at h ⊢
  cases hfiling with
  | absorbed hentry hmerge =>
    rw [if_neg (by simp [hcrowds, hentry])]
    exact h
  | refused hentry hmerge =>
    rw [if_neg (by simp [hcrowds, hentry])]
    simp only [List.length_nil, List.length_append, List.length_singleton]
    omega
  | queued hentry hroom =>
    rw [if_neg (by simp [hcrowds, hroom])]
    exact h
  | crowded hentry hroom =>
    rw [if_pos (hcrowds.mpr ⟨hentry, hroom⟩)]
    simp only [List.length_singleton]
    omega

theorem explained_foldl_file (hc : c.Sound) (h : Explained crowded c) (d : UInt64) (ms : List Metric) :
    Explained (crowded + (turnedAway d c ms).length) (ms.foldl (fun c m => c.file d m) c) := by
  induction ms generalizing c crowded with
  | nil => exact h
  | cons m ms ih =>
    have hfiling := filing_file c d m
    have hrest := ih (sound_of_filing hc hfiling) (explained_of_filing hc h hfiling)
    rw [turnedAway, List.length_append, ← Nat.add_assoc]
    exact hrest

theorem explained_gather {acc : Window × Conflation} (h : Explained crowded acc.2) (m : Metric) :
    Explained crowded (gather acc m).2 := by
  unfold gather
  simp only
  split
  · exact h
  · split
    · exact h
    · unfold Explained lose at *
      simp only [List.length_append, List.length_singleton]
      omega

theorem explained_drain (h : Explained crowded c) (now : UInt64) : Explained crowded (c.drain now).2 := by
  rw [drain_eq]
  exact gathered_of_gather (P := fun acc => Explained crowded acc.2) h (fun _ _ h => h)
    (fun _ _ _ h => explained_gather h _)

/-- **Every call explains what it loses.** -/
theorem explained_call (hc : c.Sound) (h : Explained crowded c) (k : Call) :
    Explained (crowded + (k.turnsAway c).length) (c.call k).2 := by
  cases k with
  | enqueue now ms => exact explained_foldl_file hc h (deadlineAfter now c.period) (ms.filter mayWait)
  | drain now => exact explained_drain h now
  | flush => exact explained_drain h lastInstant

theorem explained_run (hc : c.Sound) (h : Explained crowded c) (calls : List Call) :
    Explained (crowded + (crowdedOut c calls).length) (c.after calls) := by
  induction calls generalizing c crowded with
  | nil => exact h
  | cons k calls ih =>
    have hrest := ih (sound_call hc k) (explained_call hc h k)
    rw [Nat.add_assoc, ← List.length_append] at hrest
    exact hrest

end Step

/-- **After all calls, every loss is explained.** -/
theorem explained_after (period : UInt64) (capacity : Nat) (calls : List Call) :
    let c := (create period capacity).after calls
    c.dropped = (crowdedOut (create period capacity) calls).length + c.lost.length := by
  have hfresh : Explained 0 (create period capacity) := rfl
  have h := explained_run (sound_create period capacity) hfresh calls
  rw [Nat.zero_add] at h
  exact h

/-! ## No merge fails -/

/-- The sample may wait, and its type and value are those of its name. -/
structure Mergeable (type : String → MetricType) (m : Metric) : Prop where
  carries : m.Carries (type m.fqn)
  waits : mayWait m = true

section Merge

variable {type : String → MetricType} {held m : Metric}

/-- **Two samples of one name merge.** -/
theorem exists_conflate (hheld : Mergeable type held) (hm : Mergeable type m) (hname : held.fqn = m.fqn) :
    ∃ merged, held.conflate m = .ok merged ∧ Mergeable type merged := by
  have hlong : (type held.fqn).isLong = true := hheld.carries.type ▸ hheld.waits
  obtain ⟨a, b, -, -, hok⟩ := Metric.conflate_of_absorbs
    (Metric.absorbs_of_carries hlong hheld.carries (hname ▸ hm.carries))
  exact ⟨_, hok, ⟨hheld.carries.type, hlong⟩, hheld.waits⟩

end Merge

/-- **No merge failed, and none will**: all entries are of the type of their name. -/
structure Uniform (type : String → MetricType) (c : Conflation) : Prop where
  mergeable : ∀ {d f m}, c.held? d f = some m → Mergeable type m
  lost : c.lost = []

section Uniform

variable {type : String → MetricType} {c : Conflation} {m : Metric}

theorem uniform_create (type : String → MetricType) (period : UInt64) (capacity : Nat) :
    (create period capacity).Uniform type :=
  ⟨fun h => by simp [create, held?, DelayQueue.get?, DelayQueue.empty, DelayQueue.lookup] at h, rfl⟩

/-- **A filing does not fail to merge.** -/
theorem uniform_file (hc : c.Sound) (h : c.Uniform type) (hm : Mergeable type m) (d : UInt64) :
    (c.file d m).Uniform type := by
  have hfiling := filing_file c d m
  have hmerges {held : Metric} (hentry : c.held? d m.fqn = some held) :
      ∃ merged, held.conflate m = .ok merged ∧ Mergeable type merged :=
    exists_conflate (h.mergeable hentry) hm (hc.named hentry)
  refine ⟨fun {x f m'} hx => ?_, ?_⟩
  · rw [held?_of_filing hfiling] at hx
    split at hx
    · rename_i hat
      obtain ⟨rfl, rfl⟩ := hat
      cases hentry : c.held? d m.fqn with
      | none =>
        rw [hentry, takeIn] at hx
        split at hx
        · rwa [← Option.some.inj hx]
        · exact absurd hx (by simp)
      | some held =>
        obtain ⟨merged, hmerge, hmerged⟩ := hmerges hentry
        rw [hentry, takeIn, absorb, hmerge] at hx
        rwa [← Option.some.inj hx]
    · exact h.mergeable hx
  · generalize c.file d m = c' at hfiling
    cases hfiling with
    | absorbed | queued | crowded => exact h.lost
    | refused hentry hrefused =>
      obtain ⟨merged, hmerge, -⟩ := hmerges hentry
      rw [hmerge] at hrefused
      exact absurd hrefused (by simp)

theorem uniform_foldl_file (hc : c.Sound) (h : c.Uniform type) (d : UInt64) {ms : List Metric}
    (hms : ∀ m ∈ ms, Mergeable type m) : (ms.foldl (fun c m => c.file d m) c).Uniform type := by
  induction ms generalizing c with
  | nil => exact h
  | cons m ms ih =>
    obtain ⟨hm, hrest⟩ := List.forall_mem_cons.mp hms
    exact ih (sound_of_filing hc (filing_file c d m)) (uniform_file hc h hm d) hrest

/-- A delivery whose samples stand under their own names and are of the types of these, so far without a failure. -/
structure Smooth (type : String → MetricType) (acc : Window × Conflation) : Prop where
  entries : ∀ f m, acc.1.get? f = some m → m.fqn = f ∧ Mergeable type m
  lost : acc.2.lost = []

/-- **A drain does not fail to merge.** -/
theorem smooth_gather {acc : Window × Conflation} (h : Smooth type acc) (hm : Mergeable type m) :
    Smooth type (gather acc m) := by
  obtain ⟨delivery, c⟩ := acc
  have hplaced {new : Metric} (hfqn : new.fqn = m.fqn) (hnew : Mergeable type new) (f : String) (m' : Metric)
      (hget : (delivery.insert m.fqn new).get? f = some m') : m'.fqn = f ∧ Mergeable type m' := by
    obtain ⟨rfl, rfl⟩ | ⟨-, hbefore⟩ := Table.get?_insert_eq_some_iff.mp hget
    · exact ⟨hfqn, hnew⟩
    · exact h.entries f m' hbefore
  unfold gather
  simp only
  split
  · exact ⟨hplaced rfl hm, h.lost⟩
  · rename_i held hheld
    obtain ⟨hname, hmergeable⟩ := h.entries m.fqn held hheld
    obtain ⟨merged, hmerge, hmerged⟩ := exists_conflate hmergeable hm hname
    rw [hmerge]
    exact ⟨hplaced ((Metric.fqn_of_conflate hmerge).trans hname) hmerged, h.lost⟩

theorem uniform_drain (h : c.Uniform type) (now : UInt64) : (c.drain now).2.Uniform type := by
  refine ⟨fun {d f m} hentry => ?_, ?_⟩
  · rw [held?_drain] at hentry
    split at hentry
    · exact absurd hentry (by simp)
    · exact h.mergeable hentry
  · have hsmooth : Smooth type (c.gathered now) := by
      refine gathered_of_gather ⟨fun f m hget => by simp at hget, h.lost⟩ (fun _ _ h => ⟨h.entries, h.lost⟩) ?_
      rintro acc m ⟨d, f, hentry⟩ hacc
      exact smooth_gather hacc (h.mergeable hentry)
    rw [drain_eq]
    exact hsmooth.lost

/-- **Every call keeps the invariant** that brings samples of the type of their name. -/
theorem uniform_call (hc : c.Sound) (h : c.Uniform type) (k : Call)
    (hms : ∀ m ∈ k.metrics, m.Carries (type m.fqn)) : (c.call k).2.Uniform type := by
  cases k with
  | enqueue now ms =>
    have hwait : ∀ m ∈ ms.filter mayWait, Mergeable type m := fun m hm => by
      obtain ⟨hmem, hwaits⟩ := List.mem_filter.mp hm
      exact ⟨hms m hmem, hwaits⟩
    have hfiled := uniform_foldl_file hc h (deadlineAfter now c.period) hwait
    exact ⟨hfiled.mergeable, hfiled.lost⟩
  | drain now => exact uniform_drain h now
  | flush => exact uniform_drain h lastInstant

theorem uniform_run (hc : c.Sound) (h : c.Uniform type) {calls : List Call}
    (hms : ∀ m ∈ brought calls, m.Carries (type m.fqn)) : (c.after calls).Uniform type := by
  induction calls generalizing c with
  | nil => exact h
  | cons k calls ih =>
    obtain ⟨hfirst, hrest⟩ := List.forall_mem_append.mp hms
    exact ih (sound_call hc k) (uniform_call hc h k hfirst) hrest

end Uniform

/-- **Where all samples are of the type of their name, no merge fails**: what is lost had no room. -/
theorem lost_after (type : String → MetricType) (period : UInt64) (capacity : Nat) {calls : List Call}
    (hms : ∀ m ∈ brought calls, m.Carries (type m.fqn)) :
    let c := (create period capacity).after calls
    c.lost = [] ∧ c.dropped = (crowdedOut (create period capacity) calls).length := by
  intro c
  have hlost : c.lost = [] :=
    (uniform_run (sound_create period capacity) (uniform_create type period capacity) hms).lost
  have hexplained : c.dropped = (crowdedOut (create period capacity) calls).length + c.lost.length :=
    explained_after period capacity calls
  rw [hlost] at hexplained
  exact ⟨hlost, hexplained⟩

end Conflation

end MetricRouter
