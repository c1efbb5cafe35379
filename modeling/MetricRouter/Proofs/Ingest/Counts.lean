import MetricRouter.Proofs.Ingest.Turns

/-!
# What becomes of metrics

Every metric of a batch ends in exactly one place: it is passed on, its token is unknown, or its value does not fit.

* `IngestCounters.settled` — all that was counted of metrics, whatever became of them;
* `counted_next`, `counted_afterTurns` — what a turn counts, and what the turns of a batch count;
* `counters_handle` — what a batch counts.
-/

namespace MetricRouter

open Net (Endpoint)
open Wire (Incoming Batch)

/-- What could not be read, and the metrics that were passed on, had an unknown token or a value that does not fit. -/
def IngestCounters.settled (c : IngestCounters) : Nat :=
  c.decodeErrors + c.metricsReceived + c.tokenLookupDrops + c.typeMismatches

namespace Ingest

/-- **The counters go from `c` to `c'` over metrics**, `came` in number, of which `passed` are passed on. The latter are
counted when the batch is through. -/
structure Counted (c c' : IngestCounters) (came passed : Nat) : Prop where
  bytes : c'.bytesReceived = c.bytesReceived
  received : c'.metricsReceived = c.metricsReceived
  settled : c'.settled + passed = c.settled + came

section Turns

variable {c c' c'' : IngestCounters} {came passed came' passed' : Nat}

theorem Counted.trans (h : Counted c c' came passed) (h' : Counted c' c'' came' passed') :
    Counted c c'' (came + came') (passed + passed') where
  bytes := h'.bytes.trans h.bytes
  received := h'.received.trans h.received
  settled := by
    have hfirst := h.settled
    have hrest := h'.settled
    omega

theorem counted_dropped (i : Ingest) : Counted i.counters i.dropped.counters 1 0 where
  bytes := rfl
  received := rfl
  settled := Nat.add_right_comm _ 1 _

/-- **A turn counts its metric once.** -/
theorem counted_next (u : Turn) : Counted u.ingest.counters u.next.counters 1 u.sample.toList.length := by
  have hcases := identified_identify u.ingest u.remote u.now u.metric
  unfold Turn.next Turn.sample take
  generalize u.ingest.identify u.remote u.now u.metric = x at hcases ⊢
  cases hcases with
  | known | named =>
    -- the value fits, and the sample is passed on, or it does not, and that is counted
    simp only
    split
    · exact ⟨rfl, rfl, rfl⟩
    · exact ⟨rfl, rfl, rfl⟩
  | stray | reset => exact counted_dropped u.ingest

/-- **The turns of a batch count each metric once.** -/
theorem counted_afterTurns (i : Ingest) (remote : Option Endpoint) (confirm : Bool) (now : UInt64)
    (ms : List Incoming) :
    Counted i.counters (i.afterTurns remote confirm now ms).counters ms.length
      ((i.turns remote confirm now ms).flatMap fun u => u.sample.toList).length := by
  induction ms generalizing i with
  | nil => exact ⟨rfl, rfl, rfl⟩
  | cons m rest ih =>
    let u : Turn := ⟨i, remote, confirm, now, m⟩
    have hboth := (counted_next u).trans (ih u.next)
    rw [turns, List.flatMap_cons, List.length_append, List.length_cons, Nat.add_comm rest.length]
    exact hboth

end Turns

theorem counters_confirmed (i : Ingest) (remote : Option Endpoint) : (i.confirmed remote).counters =
    { i.counters with resetConfirmsReceived := i.counters.resetConfirmsReceived + 1 } := by
  unfold confirmed
  cases remote <;> rfl

/-- **What a batch counts**: its bytes, the metrics that it passes on, and each of its metrics and faults once. -/
theorem counters_handle (i : Ingest) (now : UInt64) (b : Batch) (h : b.opcode = .resetConfirm → b.metrics = []) :
    let c := (i.handle now b).2.2.counters
    c.bytesReceived = i.counters.bytesReceived + b.bytes ∧
      c.metricsReceived = i.counters.metricsReceived + (i.handle now b).2.1.length ∧
      c.settled = i.counters.settled + (b.metrics.length + b.malformed) := by
  have harrive : (i.arrive now b).counters.settled = i.counters.settled + b.malformed := by
    simp only [IngestCounters.settled, arrive, count, expireResets]
    omega
  by_cases hb : b.opcode = .resetConfirm
  · rw [handle_of_confirm i now b hb, h hb]
    simp only [counters_confirmed]
    refine ⟨rfl, rfl, ?_⟩
    rw [List.length_nil, Nat.zero_add]
    exact harrive
  · rw [handle_of_metrics i now b hb]
    have hturns := counted_afterTurns (i.arrive now b) b.remote b.opcode.wantsConfirm now b.metrics
    refine ⟨hturns.bytes, congrArg (· + _) hturns.received, ?_⟩
    have hsettled := hturns.settled
    rw [harrive] at hsettled
    simp only [IngestCounters.settled, count] at hsettled ⊢
    omega

end Ingest

end MetricRouter
