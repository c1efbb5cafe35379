import MetricRouter.Proofs.Ingest.Counts
import MetricRouter.Proofs.Pipeline.Calls
import MetricRouter.Proofs.Wire.Frame

/-!
# Frames on a pipeline

Every metric that a frame declares is counted in one place, whether it was lost on the wire, turned down or passed on.

* `Pipeline.FrameCall`, `Pipeline.feed`, `Pipeline.fed` — frames that come in, and what others do in between;
* `IngestCounters.arrivals`, `arrivals_handle` — replies leave the counters of what came in alone;
* `handleFrame_of_error`, `handleFrame_of_ok` — a frame that cannot be read, and one that can;
* `counters_feed`, `counters_fed` — what a frame counts, and what a run counts;
* `settled_fed` — the main statement.
-/

namespace MetricRouter

open Net (Endpoint)
open Wire (Batch Fault Reply)

/-- The counters of what came in, without those of the replies. -/
def IngestCounters.arrivals (c : IngestCounters) : IngestCounters :=
  { c with tokensSent := 0, confirmsSent := 0, resetsSent := 0, replyFailures := 0 }

theorem IngestCounters.eq_of_arrivals {c c' : IngestCounters} (h : c.arrivals = c'.arrivals) :
    c.bytesReceived = c'.bytesReceived ∧ c.metricsReceived = c'.metricsReceived ∧ c.settled = c'.settled := by
  obtain ⟨⟩ := c
  obtain ⟨⟩ := c'
  simp only [arrivals, mk.injEq] at h
  simp only [settled, h, and_self]

namespace Pipeline

variable {σ τ : Type}

/-- What can happen to a pipeline that takes in frames. -/
inductive FrameCall where
  /-- Some bytes come in, from an agent or from the process itself. -/
  | frame (arrival : Arrival) (bytes : List UInt8) (remote : Option Endpoint)
  /-- The conflation lets go what is due at an instant. -/
  | drain (now : UInt64)
  /-- Somebody else asks the catalog. -/
  | catalog (k : Catalog.Call)

namespace FrameCall

/-- The number of bytes that come in. -/
def size : FrameCall → Nat
  | frame _ bytes _ => bytes.length
  | drain _ | catalog _ => 0

/-- The number of frames that cannot be read. -/
def refused : FrameCall → Nat
  | frame _ bytes remote =>
    match Batch.decode bytes remote with
    | .ok _ => 0
    | .error _ => 1
  | drain _ | catalog _ => 0

/-- The number of metrics that a frame says it has, if it can be read. -/
def declared : FrameCall → Nat
  | frame _ bytes remote =>
    match Batch.decode bytes remote with
    | .ok _ => Batch.declared bytes
    | .error _ => 0
  | drain _ | catalog _ => 0

/-- The samples that the ingest passes on. -/
def passes (p : Pipeline σ τ) : FrameCall → List Metric
  | frame arrival bytes remote =>
    match Batch.decode bytes remote with
    | .ok b => (p.ingest.handle arrival.ingest b).2.1
    | .error _ => []
  | drain _ | catalog _ => []

end FrameCall

section Frames

variable (receive : Receive σ) (transmit : Transmit τ) (p : Pipeline σ τ)

/-- How a call comes out, and the pipeline after it. -/
def feed (p : Pipeline σ τ) : FrameCall → Except Fault (Except String Nat) × Pipeline σ τ
  | .frame arrival bytes remote => p.handleFrame receive transmit arrival bytes remote
  | .drain now => (.ok (p.drain receive now).1, (p.drain receive now).2)
  | .catalog k => (.ok (.ok 0), { p with ingest := (p.ingest.call (.catalog k)).2 })

/-- The pipeline after calls that are made in order. -/
abbrev fed (p : Pipeline σ τ) (calls : List FrameCall) : Pipeline σ τ := Run.after (feed receive transmit) p calls

/-- The samples that the ingest passes on in calls that are made in order. -/
def forwarded (p : Pipeline σ τ) : List FrameCall → List Metric
  | [] => []
  | k :: rest => k.passes p ++ forwarded (p.feed receive transmit k).2 rest

/-! ## One frame -/

theorem arrivals_sendReply (remote : Endpoint) (clock : UInt64) (r : Reply) :
    (p.sendReply transmit remote clock r).ingest.counters.arrivals = p.ingest.counters.arrivals := by
  unfold sendReply
  simp only
  split
  · cases r <;> rfl
  · rfl

theorem arrivals_sendReplies (remote : Endpoint) (clock : UInt64) (replies : List Reply) :
    (p.sendReplies transmit remote clock replies).ingest.counters.arrivals = p.ingest.counters.arrivals := by
  unfold sendReplies
  split
  · refine List.foldlRecOn (motive := fun q : Pipeline σ τ =>
      q.ingest.counters.arrivals = p.ingest.counters.arrivals) _ _ rfl fun q hq r _ => ?_
    exact (arrivals_sendReply transmit q remote clock r).trans hq
  · rfl

/-- **A pipeline counts of a batch what its ingest counts.** -/
theorem arrivals_handle (arrival : Arrival) (b : Batch) :
    (p.handle receive transmit arrival b).2.ingest.counters.arrivals =
      (p.ingest.handle arrival.ingest b).2.2.counters.arrivals := by
  unfold handle
  cases b.remote with
  | none => exact congrArg (fun i => i.counters.arrivals) (ingest_forward receive _ _ _)
  | some remote =>
    calc _ = _ := congrArg (fun i => i.counters.arrivals) (ingest_forward receive _ _ _)
      _ = _ := arrivals_sendReplies transmit _ remote arrival.channels _

variable {bytes : List UInt8} {remote : Option Endpoint} (arrival : Arrival)

theorem handleFrame_of_error {fault : Fault} (h : Batch.decode bytes remote = .error fault) :
    p.handleFrame receive transmit arrival bytes remote =
      (.error fault, { p with ingest := p.ingest.refuseFrame bytes }) := by
  rw [handleFrame, h]

theorem handleFrame_of_ok {b : Batch} (h : Batch.decode bytes remote = .ok b) :
    (p.handleFrame receive transmit arrival bytes remote).2 = (p.handle receive transmit arrival b).2 := by
  rw [handleFrame, h]

/-! ## Calls -/

/-- **What a call counts**: its bytes, the samples that are passed on, and all that a frame declares. -/
theorem counters_feed (k : FrameCall) :
    let c := p.ingest.counters
    let c' := (p.feed receive transmit k).2.ingest.counters
    c'.bytesReceived = c.bytesReceived + k.size ∧
      c'.metricsReceived = c.metricsReceived + (k.passes p).length ∧
      c'.settled = c.settled + (k.refused + k.declared) := by
  cases k with
  | drain now =>
    simp only [feed, ingest_drain]
    exact ⟨rfl, rfl, rfl⟩
  | catalog k => exact ⟨rfl, rfl, rfl⟩
  | frame arrival bytes remote =>
    cases hdecode : Batch.decode bytes remote with
    | error fault =>
      simp only [feed, handleFrame_of_error receive transmit p arrival hdecode, FrameCall.passes,
        FrameCall.refused, FrameCall.declared, hdecode]
      refine ⟨rfl, rfl, ?_⟩
      simp only [IngestCounters.settled, Ingest.refuseFrame, Ingest.count]
      omega
    | ok b =>
      obtain ⟨hbytes, hdeclared, hconfirm⟩ := Batch.declared_of_decode hdecode
      have harrivals := arrivals_handle receive transmit p arrival b
      obtain ⟨hsize, hpassed, hsettled⟩ := Ingest.counters_handle p.ingest arrival.ingest b hconfirm
      simp only [feed, handleFrame_of_ok receive transmit p arrival hdecode, FrameCall.passes, FrameCall.refused,
        FrameCall.declared, FrameCall.size, hdecode]
      obtain ⟨hsize', hpassed', hsettled'⟩ := IngestCounters.eq_of_arrivals harrivals
      rw [hbytes] at hsize
      rw [hdeclared] at hsettled
      refine ⟨hsize'.trans hsize, hpassed'.trans hpassed, ?_⟩
      rw [Nat.zero_add]
      exact hsettled'.trans hsettled

/-- **What a run counts.** -/
theorem counters_fed (calls : List FrameCall) :
    let c := p.ingest.counters
    let c' := (p.fed receive transmit calls).ingest.counters
    c'.bytesReceived = c.bytesReceived + (calls.map FrameCall.size).sum ∧
      c'.metricsReceived = c.metricsReceived + (p.forwarded receive transmit calls).length ∧
      c'.settled =
        c.settled + ((calls.map FrameCall.refused).sum + (calls.map FrameCall.declared).sum) := by
  induction calls generalizing p with
  | nil => exact ⟨rfl, rfl, rfl⟩
  | cons k rest ih =>
    obtain ⟨hsize, hpassed, hsettled⟩ := counters_feed receive transmit p k
    obtain ⟨hsizes, hforwarded, hsettled'⟩ := ih (p.feed receive transmit k).2
    simp only [fed, Run.after, List.map_cons, List.sum_cons, forwarded, List.length_append] at *
    refine ⟨?_, ?_, ?_⟩
    · omega
    · omega
    · omega

/-- **Every metric that a frame declares ends in one place.** Frames are any bytes, from agents or from the process
itself, at any instants, and what else the catalog is asked in between does not matter. In the end the bytes received
are those of all frames. The metrics that could not be read, were passed on, had an unknown token or a value that does
not fit are as many as the frames that could be read declare, apart from one fault for each frame that could not be
read. The metrics received are those that were passed on. A frame that cannot be read changes the counters of bytes
and of faults, and nothing else in the whole pipeline. -/
theorem settled_fed (catalog : Catalog) (resetTimeout : UInt64) (channels : ChannelPool) (network : τ)
    (replies : Bool) (conflation : Option Conflation) (router : Pool σ) (calls : List FrameCall) :
    let p : Pipeline σ τ := ⟨.create catalog resetTimeout, channels, network, replies, conflation, router⟩
    let c := (p.fed receive transmit calls).ingest.counters
    c.bytesReceived = (calls.map FrameCall.size).sum ∧
      c.decodeErrors + c.metricsReceived + c.tokenLookupDrops + c.typeMismatches =
        (calls.map FrameCall.refused).sum + (calls.map FrameCall.declared).sum ∧
      c.metricsReceived = (p.forwarded receive transmit calls).length ∧
      ∀ (q : Pipeline σ τ) (arrival : Arrival) (bytes : List UInt8) (remote : Option Endpoint) (fault : Fault),
        Batch.decode bytes remote = .error fault →
          (q.handleFrame receive transmit arrival bytes remote).1 = .error fault ∧
          (q.handleFrame receive transmit arrival bytes remote).2 =
            { q with ingest := { q.ingest with counters := { q.ingest.counters with
              bytesReceived := q.ingest.counters.bytesReceived + bytes.length
              decodeErrors := q.ingest.counters.decodeErrors + 1 } } } := by
  intro p c
  obtain ⟨hsizes, hforwarded, hsettled⟩ := counters_fed receive transmit p calls
  refine ⟨hsizes.trans (Nat.zero_add _), hsettled.trans (Nat.zero_add _), hforwarded.trans (Nat.zero_add _), ?_⟩
  intro q arrival bytes remote fault h
  rw [handleFrame_of_error receive transmit q arrival h]
  exact ⟨rfl, rfl⟩

end Frames

end Pipeline

end MetricRouter
