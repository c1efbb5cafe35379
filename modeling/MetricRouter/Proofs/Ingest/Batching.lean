import MetricRouter.Proofs.DelayQueue
import MetricRouter.Proofs.Ingest.Turns

/-!
# Batches in parts

What an ingest keeps from one metric to the next is the same within a batch and between two batches of one instant.
The expiry of resets, with which a batch begins, has nothing left to do at the instant of the batch before it.

* `IngestCounters.plus`, `counting` — what several stretches count together, in whichever order;
* `take_counting`, `takeAll_counting` — what was counted before makes no difference to metrics that are taken in;
* `Quiet`, `quiet_expireResets`, `quiet_takeAll`, `expireResets_of_quiet` — no reset expires at the instant at which
  metrics were just taken in;
* `takeAll_append`, `handle_eq_takeAll`, `handle_counting` — metrics in two parts, and a batch by its metrics;
* `handle_parts` — a batch in two parts.
-/

namespace MetricRouter

open Net (Endpoint)
open Wire (Incoming Batch Reply)

/-! ## Counting -/

/-- What two stretches count together. -/
def IngestCounters.plus (c d : IngestCounters) : IngestCounters where
  bytesReceived := c.bytesReceived + d.bytesReceived
  metricsReceived := c.metricsReceived + d.metricsReceived
  nonTokenizedMetrics := c.nonTokenizedMetrics + d.nonTokenizedMetrics
  tokensSent := c.tokensSent + d.tokensSent
  confirmsSent := c.confirmsSent + d.confirmsSent
  resetsSent := c.resetsSent + d.resetsSent
  resetConfirmsReceived := c.resetConfirmsReceived + d.resetConfirmsReceived
  tokenLookupDrops := c.tokenLookupDrops + d.tokenLookupDrops
  decodeErrors := c.decodeErrors + d.decodeErrors
  replyFailures := c.replyFailures + d.replyFailures
  typeMismatches := c.typeMismatches + d.typeMismatches

theorem IngestCounters.plus_assoc (c d e : IngestCounters) : (c.plus d).plus e = c.plus (d.plus e) := by
  simp only [plus, Nat.add_assoc]

theorem IngestCounters.plus_comm (c d : IngestCounters) : c.plus d = d.plus c := by
  simp only [plus, Nat.add_comm]

namespace Ingest

/-- The ingest that has counted so much more. -/
def counting (i : Ingest) (d : IngestCounters) : Ingest := i.count (fun c => c.plus d)

section Counting

variable (i : Ingest) (remote : Option Endpoint) (confirm : Bool) (now : UInt64) (d e : IngestCounters)

theorem counting_counting : (i.counting d).counting e = i.counting (d.plus e) :=
  congrArg (fun c => { i with counters := c }) (i.counters.plus_assoc d e)

theorem counting_comm : (i.counting d).counting e = (i.counting e).counting d := by
  rw [counting_counting, counting_counting, IngestCounters.plus_comm]

theorem resetDue_counting (r : Endpoint) :
    (i.counting d).resetDue r now = ((i.resetDue r now).1, (i.resetDue r now).2.counting d) := by
  show (if i.mayReset r now then _ else _) = ((if i.mayReset r now then _ else _ : Bool × Ingest).1,
    (if i.mayReset r now then _ else _ : Bool × Ingest).2.counting d)
  split <;> rfl

theorem identify_of_unknown {t : Int64} (h : i.catalog.lookupByToken t = none) {m : Incoming}
    (hkey : m.key = .token t) : i.identify remote now m =
      match remote with
      | none => (none, [], i.dropped)
      | some r =>
        (none, if (i.dropped.resetDue r now).1 then [.reset] else [], (i.dropped.resetDue r now).2) := by
  simp only [identify, hkey, h]
  cases remote <;> rfl

theorem identify_counting (m : Incoming) : (i.counting d).identify remote now m =
    ((i.identify remote now m).1, (i.identify remote now m).2.1, (i.identify remote now m).2.2.counting d) := by
  have hdropped : (i.counting d).dropped = i.dropped.counting d := counting_comm i d { tokenLookupDrops := 1 }
  cases hkey : m.key with
  | named n =>
    have hassigned : (i.counting d).assigned n m.type = (i.assigned n m.type).counting d :=
      counting_comm { i with catalog := (i.catalog.call (.assign n m.type)).2 } d { nonTokenizedMetrics := 1 }
    simp only [identify, hkey]
    exact congrArg (fun j => (_, _, j)) hassigned
  | token t =>
    cases hlookup : i.catalog.lookupByToken t with
    | some identity =>
      have hlookup' : (i.counting d).catalog.lookupByToken t = some identity := hlookup
      simp only [identify, hkey, hlookup, hlookup']
    | none =>
      rw [identify_of_unknown (i.counting d) remote now hlookup hkey, identify_of_unknown i remote now hlookup hkey,
        hdropped]
      cases remote with
      | none => rfl
      | some r => simp only [resetDue_counting]

/-- **What was counted before makes no difference to a metric.** -/
theorem take_counting (m : Incoming) : (i.counting d).take remote confirm now m =
    ((i.take remote confirm now m).1, (i.take remote confirm now m).2.1,
      (i.take remote confirm now m).2.2.counting d) := by
  unfold take
  rw [identify_counting]
  obtain ⟨identity, replies, j⟩ := i.identify remote now m
  cases identity with
  | none => rfl
  | some identity =>
    simp only
    split
    · rfl
    · exact congrArg (fun j => (_, _, j)) (counting_comm j d { typeMismatches := 1 })

theorem takeAll_counting (ms : List Incoming) : (i.counting d).takeAll remote confirm now ms =
    ((i.takeAll remote confirm now ms).1, (i.takeAll remote confirm now ms).2.1,
      (i.takeAll remote confirm now ms).2.2.counting d) := by
  induction ms generalizing i with
  | nil => rfl
  | cons m rest ih => simp only [takeAll, take_counting, ih]

theorem takeAll_append (ms more : List Incoming) : i.takeAll remote confirm now (ms ++ more) =
    let first := i.takeAll remote confirm now ms
    let second := first.2.2.takeAll remote confirm now more
    (first.1 ++ second.1, first.2.1 ++ second.2.1, second.2.2) := by
  induction ms generalizing i with
  | nil => rfl
  | cons m rest ih => simp only [List.cons_append, takeAll, ih, List.append_assoc]

end Counting

/-! ## Resets at one instant -/

/-- **No reset expires at the instant**, nor does one that is noted at it. -/
structure Quiet (now : UInt64) (i : Ingest) : Prop where
  waits : 0 < i.resetTimeout
  later : ∀ s ∈ i.resetExpiry.slots, now < s.1

section Quiet

variable {i : Ingest} {now : UInt64}

theorem quiet_expireResets (h : 0 < i.resetTimeout) : (i.expireResets now).Quiet now where
  waits := h
  later := fun _ hs => DelayQueue.lt_of_mem_drainExpired hs

theorem expireResets_of_quiet (h : i.Quiet now) : i.expireResets now = i := by
  rw [expireResets, DelayQueue.drainExpired_of_later h.later]
  rfl

theorem mem_slots_fileReset {q : DelayQueue (List Endpoint)} {d : UInt64} {r : Endpoint}
    {s : UInt64 × List Endpoint} (h : s ∈ (fileReset q d r).slots) : s.1 = d ∨ s ∈ q.slots := by
  have hplaced : ∀ {v l}, s ∈ DelayQueue.place d v l → s.1 = d ∨ s ∈ l := fun hs =>
    (DelayQueue.mem_place hs).imp_left (congrArg Prod.fst)
  unfold fileReset DelayQueue.getOrInsert at h
  cases hheld : q.get? d with
  | some remotes =>
    rw [hheld] at h
    exact hplaced h
  | none =>
    rw [hheld] at h
    exact (hplaced h).elim Or.inl hplaced

theorem quiet_told (h : i.Quiet now) (hnow : now < lastInstant) (r : Endpoint) : (i.told r now).Quiet now where
  waits := h.waits
  later := fun s hs => by
    rcases mem_slots_fileReset hs with hs | hs
    · rw [hs]
      exact lt_deadlineAfter hnow h.waits
    · exact h.later s hs

theorem quiet_take (h : i.Quiet now) (hnow : now < lastInstant) (remote : Option Endpoint) (confirm : Bool)
    (m : Incoming) : (i.take remote confirm now m).2.2.Quiet now := by
  let u : Turn := ⟨i, remote, confirm, now, m⟩
  have hidentified : u.identified.2.2.Quiet now := by
    have hcases := identified_identify i remote now m
    unfold Turn.identified
    generalize i.identify remote now m = x at hcases
    cases hcases with
    | known => exact h
    | stray => exact ⟨h.waits, h.later⟩
    | reset t r => exact quiet_told (i := i.dropped) ⟨h.waits, h.later⟩ hnow r
    | named => exact ⟨h.waits, h.later⟩
  show u.next.Quiet now
  rcases u.next_cases with hnext | hnext
  · rw [hnext]
    exact hidentified
  · rw [hnext]
    exact ⟨hidentified.waits, hidentified.later⟩

/-- **Metrics leave no reset behind that expires at their own instant.** -/
theorem quiet_takeAll (h : i.Quiet now) (hnow : now < lastInstant) (remote : Option Endpoint) (confirm : Bool)
    (ms : List Incoming) : (i.takeAll remote confirm now ms).2.2.Quiet now := by
  induction ms generalizing i with
  | nil => exact h
  | cons m rest ih => exact ih (quiet_take h hnow remote confirm m)

end Quiet

/-! ## Batches -/

section Batches

variable (i : Ingest) (now : UInt64) (b : Batch)

/-- What the metrics of a batch give, before the batch is counted. -/
def taken : List Reply × List Metric × Ingest :=
  (i.expireResets now).takeAll b.remote b.opcode.wantsConfirm now b.metrics

/-- What a batch counts besides what its metrics count. -/
def received (b : Batch) (passed : Nat) : IngestCounters :=
  { bytesReceived := b.bytes, decodeErrors := b.malformed, metricsReceived := passed }

variable {b}

theorem handle_eq_takeAll (h : b.opcode ≠ .resetConfirm) : i.handle now b =
    ((i.taken now b).1, (i.taken now b).2.1,
      (i.taken now b).2.2.counting (received b (i.taken now b).2.1.length)) := by
  have hhandle : i.handle now b =
      let r := ((i.expireResets now).counting (received b 0)).takeAll b.remote b.opcode.wantsConfirm now b.metrics
      (r.1, r.2.1, r.2.2.counting { metricsReceived := r.2.1.length }) := by
    unfold handle
    cases hb : b.opcode with
    | resetConfirm => exact absurd hb h
    | sendMetric | sendMetricDirect | tokenAssign | confirm | reset => rfl
  rw [hhandle, takeAll_counting]
  simp only [counting_counting]
  simp [taken, received, IngestCounters.plus]

theorem handle_counting (h : b.opcode ≠ .resetConfirm) (d : IngestCounters) : (i.counting d).handle now b =
    ((i.handle now b).1, (i.handle now b).2.1, (i.handle now b).2.2.counting d) := by
  have htaken : (i.counting d).taken now b =
      ((i.taken now b).1, (i.taken now b).2.1, (i.taken now b).2.2.counting d) :=
    takeAll_counting (i.expireResets now) b.remote b.opcode.wantsConfirm now d b.metrics
  rw [handle_eq_takeAll _ now h, handle_eq_takeAll _ now h, htaken]
  simp only [counting_comm _ d]

/-- **A batch in two parts.** At an instant that is not the last one, a batch comes to the same as its two parts one
after another, down to the state after it. -/
theorem handle_parts {opcode : Wire.Opcode} (h : opcode ≠ .resetConfirm) (hnow : now < lastInstant)
    (htimeout : 0 < i.resetTimeout) (remote : Option Endpoint) (ms more : List Incoming) (x y k l : Nat) :
    let first := i.handle now ⟨opcode, remote, ms, x, k⟩
    let second := first.2.2.handle now ⟨opcode, remote, more, y, l⟩
    i.handle now ⟨opcode, remote, ms ++ more, x + y, k + l⟩ =
      (first.1 ++ second.1, first.2.1 ++ second.2.1, second.2.2) := by
  intro first second
  let a := (i.expireResets now).takeAll remote opcode.wantsConfirm now ms
  let b := a.2.2.takeAll remote opcode.wantsConfirm now more
  have hwhole : i.taken now ⟨opcode, remote, ms ++ more, x + y, k + l⟩ = (a.1 ++ b.1, a.2.1 ++ b.2.1, b.2.2) :=
    takeAll_append (i.expireResets now) remote opcode.wantsConfirm now ms more
  have hfirst : first = (a.1, a.2.1, a.2.2.counting (received ⟨opcode, remote, ms, x, k⟩ a.2.1.length)) :=
    handle_eq_takeAll i now (b := ⟨opcode, remote, ms, x, k⟩) h
  -- the second part finds no reset to expire
  have hquiet : a.2.2.Quiet now := quiet_takeAll (quiet_expireResets htimeout) hnow remote opcode.wantsConfirm ms
  have htaken : a.2.2.taken now ⟨opcode, remote, more, y, l⟩ = b := by
    rw [taken, expireResets_of_quiet hquiet]
  have hsecond : second = (b.1, b.2.1,
      (b.2.2.counting (received ⟨opcode, remote, more, y, l⟩ b.2.1.length)).counting
        (received ⟨opcode, remote, ms, x, k⟩ a.2.1.length)) := by
    show first.2.2.handle now _ = _
    rw [hfirst, handle_counting _ now (b := ⟨opcode, remote, more, y, l⟩) h,
      handle_eq_takeAll _ now (b := ⟨opcode, remote, more, y, l⟩) h, htaken]
  rw [handle_eq_takeAll i now (b := ⟨opcode, remote, ms ++ more, x + y, k + l⟩) h, hwhole, hfirst, hsecond,
    counting_counting]
  simp [received, IngestCounters.plus, Nat.add_comm]

end Batches

end Ingest

end MetricRouter
