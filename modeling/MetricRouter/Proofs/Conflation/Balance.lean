import MetricRouter.Proofs.Conflation.Delivery

/-!
# The counters balance

Every sample that was taken in is counted once, whatever becomes of it.

* `submitted`, `takenOut` — the samples that calls bring, and the entries that their drains take out;
* `Balanced`, `balanced_call`, `balanced_after` — the invariant, for one call and for all of them;
* `forwarded_after` — what is counted as forwarded was handed downstream;
* `submitted_eq_counted` — the main statement.
-/

namespace MetricRouter

namespace Conflation

/-- The number of samples that a call brings. -/
def Call.samples : Call → Nat
  | enqueue _ metrics => metrics.length
  | drain _ | flush => 0

/-- The number of samples that calls bring. -/
def submitted (calls : List Call) : Nat := (calls.map Call.samples).sum

/-- The number of entries that a call takes out of the windows. -/
def Call.takes (c : Conflation) : Call → Nat
  | enqueue _ _ => 0
  | drain now => c.dueCount now
  | flush => c.dueCount lastInstant

/-- The number of entries that calls made in order take out of the windows. -/
def takenOut (c : Conflation) : List Call → Nat
  | [] => 0
  | k :: rest => k.takes c + takenOut (c.call k).2 rest

/-- **The counters after so many samples were brought and so many entries taken out.** -/
structure Balanced (brought taken : Nat) (c : Conflation) : Prop where
  brought : brought = c.forwarded + c.conflated + c.dropped + c.pending
  queued : c.queued = c.pending + taken

section Step

variable {c : Conflation} {brought taken : Nat}

theorem balanced_enqueue (h : Balanced brought taken c) (now : UInt64) (ms : List Metric) :
    Balanced (brought + ms.length) taken (c.enqueue now ms).2 := by
  have htaken := taken_foldl_file c (deadlineAfter now c.period) (ms.filter mayWait)
  have hsplit := List.length_eq_length_filter_add (l := ms) mayWait
  have hforwarded := htaken.forwarded
  have hcounted := htaken.counted
  have hqueued := htaken.queued
  have hbefore := h.brought
  have hbefore' := h.queued
  refine ⟨?_, ?_⟩
  · simp only [enqueue]
    omega
  · simp only [enqueue]
    omega

theorem balanced_drain (hc : c.Sound) (h : Balanced brought taken c) (now : UInt64) :
    Balanced brought (taken + c.dueCount now) (c.drain now).2 := by
  have hdrained := drained_drain c now
  have hentries := entryCount_drain c now
  have hpending := hc.pending
  have hpending' := hdrained.pending
  have hcounted := hdrained.counted
  have hqueued := hdrained.queued
  have hbefore := h.brought
  have hbefore' := h.queued
  exact ⟨by omega, by omega⟩

theorem balanced_call (hc : c.Sound) (h : Balanced brought taken c) (k : Call) :
    Balanced (brought + k.samples) (taken + k.takes c) (c.call k).2 := by
  cases k with
  | enqueue now ms => exact balanced_enqueue h now ms
  | drain now => exact balanced_drain hc h now
  | flush => exact balanced_drain hc h lastInstant

theorem balanced_after (hc : c.Sound) (h : Balanced brought taken c) (calls : List Call) :
    Balanced (brought + submitted calls) (taken + takenOut c calls) (c.after calls) := by
  induction calls generalizing c brought taken with
  | nil => exact h
  | cons k calls ih =>
    have hrest := ih (sound_call hc k) (balanced_call hc h k)
    rw [Nat.add_assoc, Nat.add_assoc] at hrest
    exact hrest

end Step

/-! ## What went downstream -/

theorem forwarded_call (c : Conflation) (k : Call) :
    (c.call k).2.forwarded = c.forwarded + (c.call k).1.length := by
  have hdrain : ∀ now, (c.drain now).2.forwarded = c.forwarded + (c.drain now).1.length := by
    intro now
    have hgathered : (c.gathered now).2.forwarded = c.forwarded := (gathered_gathered c now).forwarded
    rw [length_drain, drain_eq, hgathered]
  cases k with
  | enqueue now ms =>
    have htaken := taken_foldl_file c (deadlineAfter now c.period) (ms.filter mayWait)
    simp only [call, enqueue, htaken.forwarded]
  | drain now => exact hdrain now
  | flush => exact hdrain lastInstant

/-- **What is counted as forwarded was handed downstream**, once, also where downstream broke down. -/
theorem forwarded_after (period : UInt64) (capacity : Nat)
    (breaks : List (List Metric) → List Metric → Bool) (calls : List Call) :
    let s := (Service.fresh period capacity).after breaks calls
    s.conflation.forwarded = (s.handed.map List.length).sum := by
  refine Run.after_of_step (P := fun s : Service => s.conflation.forwarded = (s.handed.map List.length).sum)
    (fun k _ s h => ?_) rfl
  rw [Service.conflation_call, forwarded_call, Service.handed_call, h, List.map_append, List.sum_append]
  split
  · rename_i hempty
    simp [hempty]
  · simp

/-! ## The balance -/

/-- **The counters balance.** After all calls, whatever broke down downstream, every sample that was brought
is forwarded, conflated, lost or pending. The pending ones are the entries of the open windows, of which there
are never more than fit, and the queued ones are those that are pending or were taken out by drains. -/
theorem submitted_eq_counted (period : UInt64) (capacity : Nat)
    (breaks : List (List Metric) → List Metric → Bool) (calls : List Call) :
    let c := ((Service.fresh period capacity).after breaks calls).conflation
    submitted calls = c.forwarded + c.conflated + c.dropped + c.pending ∧
    c.pending = c.entryCount ∧ c.pending ≤ capacity ∧
    c.queued = c.pending + takenOut (create period capacity) calls := by
  have hconflation : ((Service.fresh period capacity).after breaks calls).conflation =
      (create period capacity).after calls := Service.conflation_after calls
  have hsound := sound_after period capacity calls
  have hfits : ((create period capacity).after calls).pending ≤ capacity := by
    have hcapacity := (settings_after (create period capacity) calls).2
    exact hsound.fits.trans_eq hcapacity
  have hfresh : Balanced 0 0 (create period capacity) := ⟨rfl, rfl⟩
  have hbalanced := balanced_after (sound_create period capacity) hfresh calls
  rw [Nat.zero_add, Nat.zero_add] at hbalanced
  rw [hconflation]
  exact ⟨hbalanced.brought, hsound.pending, hfits, hbalanced.queued⟩

end Conflation

end MetricRouter
