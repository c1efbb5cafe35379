import MetricRouter.Ingest
import MetricRouter.Proofs.Catalog.Calls

/-!
# Calls on an ingest

Everything that can happen to an ingest, as data: batches that arrive, and calls on its catalog that others
make in between. A batch is taken in metric by metric, and a statement about one metric is a statement about
its turn.

* `Ingest.Call`, `Ingest.call`, `Ingest.after` — what can happen, one call, calls in order;
* `Turn`, `turns` — one metric of a batch with the state that it finds, and the turns of a batch in order;
* `takeAll_eq`, `handle_of_metrics` — a batch gives what its turns give;
* `Event`, `history` — the turns of a run, and the confirmations of agents between them;
* `Call.asks`, `catalog_after` — what an ingest asks of its catalog, as calls on the catalog.
-/

namespace MetricRouter

open Net (Endpoint)
open Wire (Incoming Batch Reply)

namespace Ingest

/-- What can happen to an ingest. -/
inductive Call where
  /-- A batch arrives at an instant. -/
  | handle (now : UInt64) (b : Batch)
  /-- Somebody else asks the catalog. -/
  | catalog (k : Catalog.Call)
  deriving DecidableEq

/-- The replies to the sender and the samples that are passed on in a call, and the ingest after it. -/
def call (i : Ingest) : Call → (List Reply × List Metric) × Ingest
  | .handle now b =>
    let (replies, samples, i) := i.handle now b
    ((replies, samples), i)
  | .catalog k => (([], []), { i with catalog := (i.catalog.call k).2 })

/-- The ingest after calls that are made in order. -/
abbrev after (i : Ingest) (calls : List Call) : Ingest := Run.after call i calls

/-! ## Turns -/

/-- The turn of one metric of a batch. -/
structure Turn where
  /-- The state that the metric finds. -/
  ingest : Ingest
  remote : Option Endpoint
  /-- Are the samples of the batch to be confirmed? -/
  confirm : Bool
  now : UInt64
  metric : Incoming

namespace Turn

variable (t : Turn)

/-- The identity that the metric is attributed to. -/
def identity : Option Identity := (t.ingest.identify t.remote t.now t.metric).1

/-- What is replied. -/
def replies : List Reply := (t.ingest.take t.remote t.confirm t.now t.metric).1

/-- The sample that is passed on. -/
def sample : Option Metric := (t.ingest.take t.remote t.confirm t.now t.metric).2.1

/-- The state after the turn. -/
def next : Ingest := (t.ingest.take t.remote t.confirm t.now t.metric).2.2

end Turn

/-- The turns of metrics that are taken in in order. -/
def turns (i : Ingest) (remote : Option Endpoint) (confirm : Bool) (now : UInt64) : List Incoming → List Turn
  | [] => []
  | m :: rest =>
    let t : Turn := ⟨i, remote, confirm, now, m⟩
    t :: turns t.next remote confirm now rest

/-- The state after metrics that are taken in in order. -/
def afterTurns (i : Ingest) (remote : Option Endpoint) (confirm : Bool) (now : UInt64) (ms : List Incoming) :
    Ingest :=
  (i.takeAll remote confirm now ms).2.2

/-- The state that the first metric of a batch finds. -/
def arrive (i : Ingest) (now : UInt64) (b : Batch) : Ingest :=
  (i.expireResets now).count (fun c =>
    { c with bytesReceived := c.bytesReceived + b.bytes, decodeErrors := c.decodeErrors + b.malformed })

/-- What an agent has confirmed, it may be told again. -/
def confirmed (i : Ingest) (remote : Option Endpoint) : Ingest :=
  let i := i.count (fun c => { c with resetConfirmsReceived := c.resetConfirmsReceived + 1 })
  match remote with
  | none => i
  | some remote => { i with pendingResets := i.pendingResets.erase remote }

section Batches

variable (i : Ingest) (remote : Option Endpoint) (confirm : Bool) (now : UInt64)

theorem takeAll_cons (m : Incoming) (rest : List Incoming) :
    i.takeAll remote confirm now (m :: rest) =
      let t : Turn := ⟨i, remote, confirm, now, m⟩
      let more := t.next.takeAll remote confirm now rest
      (t.replies ++ more.1, t.sample.toList ++ more.2.1, more.2.2) := rfl

/-- **A batch gives what its turns give**, in order. -/
theorem takeAll_eq (ms : List Incoming) : i.takeAll remote confirm now ms =
    ((i.turns remote confirm now ms).flatMap Turn.replies,
      (i.turns remote confirm now ms).flatMap (fun t => t.sample.toList),
      i.afterTurns remote confirm now ms) := by
  induction ms generalizing i with
  | nil => rfl
  | cons m rest ih =>
    have hrest := ih (Turn.mk i remote confirm now m).next
    rw [takeAll_cons, turns, List.flatMap_cons, List.flatMap_cons, afterTurns, takeAll_cons]
    simp only [hrest]

variable (b : Batch)

theorem handle_of_confirm (h : b.opcode = .resetConfirm) :
    i.handle now b = ([], [], (i.arrive now b).confirmed b.remote) := by
  unfold handle confirmed
  simp only [h]
  cases b.remote <;> rfl

theorem handle_of_metrics (h : b.opcode ≠ .resetConfirm) :
    let ts := (i.arrive now b).turns b.remote b.opcode.wantsConfirm now b.metrics
    i.handle now b = (ts.flatMap Turn.replies, ts.flatMap (fun t => t.sample.toList),
      ((i.arrive now b).afterTurns b.remote b.opcode.wantsConfirm now b.metrics).count (fun c =>
        { c with metricsReceived :=
          c.metricsReceived + (ts.flatMap (fun t => t.sample.toList)).length })) := by
  intro ts
  have hhandle : i.handle now b =
      let r := (i.arrive now b).takeAll b.remote b.opcode.wantsConfirm now b.metrics
      (r.1, r.2.1, r.2.2.count (fun c => { c with metricsReceived := c.metricsReceived + r.2.1.length })) := by
    unfold handle
    cases hb : b.opcode with
    | resetConfirm => exact absurd hb h
    | sendMetric | sendMetricDirect | tokenAssign | confirm | reset => rfl
  rw [hhandle, takeAll_eq]

end Batches

/-! ## Histories -/

/-- What happens in a run, metric by metric. -/
inductive Event where
  /-- A metric has its turn. -/
  | turn (t : Turn)
  /-- An agent confirms that it forgot its tokens. -/
  | confirmed (remote : Endpoint)

/-- What happens in a call. -/
def Call.events (i : Ingest) : Call → List Event
  | handle now b =>
    if b.opcode = .resetConfirm then b.remote.toList.map .confirmed
    else ((i.arrive now b).turns b.remote b.opcode.wantsConfirm now b.metrics).map .turn
  | catalog _ => []

theorem events_of_confirm (i : Ingest) (now : UInt64) (b : Batch) (h : b.opcode = .resetConfirm) :
    (Call.handle now b).events i = b.remote.toList.map .confirmed := if_pos h

theorem events_of_metrics (i : Ingest) (now : UInt64) (b : Batch) (h : b.opcode ≠ .resetConfirm) :
    (Call.handle now b).events i =
      ((i.arrive now b).turns b.remote b.opcode.wantsConfirm now b.metrics).map .turn := if_neg h

/-- What happens in calls that are made in order, oldest first. -/
def history (i : Ingest) : List Call → List Event
  | [] => []
  | k :: rest => k.events i ++ history (i.call k).2 rest

theorem history_append (i : Ingest) (calls more : List Call) :
    i.history (calls ++ more) = i.history calls ++ (i.after calls).history more := by
  induction calls generalizing i with
  | nil => rfl
  | cons k rest ih =>
    rw [List.cons_append, history, history, ih, List.append_assoc]
    rfl

end Ingest

/-! ## What is asked of the catalog -/

/-- What taking in a metric asks of the catalog, look-ups apart. -/
def Wire.Incoming.asks (m : Incoming) : List Catalog.Call :=
  match m.key with
  | .token _ => []
  | .named n => [.assign n m.type]

/-- What taking in a batch asks of the catalog. -/
def Wire.Batch.asks (b : Batch) : List Catalog.Call :=
  if b.opcode = .resetConfirm then [] else b.metrics.flatMap Incoming.asks

namespace Ingest

/-- What a call asks of the catalog. -/
def Call.asks : Call → List Catalog.Call
  | handle _ b => b.asks
  | catalog k => [k]

theorem reset_mem_asks_iff {k : Call} : .reset ∈ k.asks ↔ k = .catalog .reset := by
  cases k with
  | catalog k => simp [Call.asks, eq_comm]
  | handle now b =>
    have hnamed : ∀ m : Incoming, .reset ∉ m.asks := by
      intro m
      unfold Incoming.asks
      split <;> simp
    refine iff_of_false ?_ (by simp)
    rw [Call.asks, Batch.asks]
    split
    · exact List.not_mem_nil
    · simp [hnamed]

section Asks

variable (i : Ingest) (remote : Option Endpoint) (confirm : Bool) (now : UInt64)

theorem catalog_confirmed : (i.confirmed remote).catalog = i.catalog := by
  unfold confirmed
  cases remote <;> rfl

theorem catalog_resetDue (r : Endpoint) : (i.resetDue r now).2.catalog = i.catalog := by
  unfold resetDue
  split <;> rfl

theorem catalog_identify (m : Incoming) :
    (i.identify remote now m).2.2.catalog = i.catalog.after m.asks := by
  unfold identify Incoming.asks
  cases m.key with
  | named n => rfl
  | token t =>
    simp only
    cases i.catalog.lookupByToken t with
    | some identity => rfl
    | none =>
      cases remote with
      | none => rfl
      | some r => exact catalog_resetDue _ now r

theorem catalog_take (m : Incoming) :
    (i.take remote confirm now m).2.2.catalog = i.catalog.after m.asks := by
  rw [← catalog_identify i remote now m]
  unfold take
  split
  · rename_i h
    rw [h]
  · rename_i h
    rw [h]
    split <;> rfl

theorem catalog_afterTurns (ms : List Incoming) :
    (i.afterTurns remote confirm now ms).catalog = i.catalog.after (ms.flatMap Incoming.asks) := by
  induction ms generalizing i with
  | nil => rfl
  | cons m rest ih =>
    rw [List.flatMap_cons, Catalog.after_append, ← catalog_take i remote confirm now m]
    exact ih (Turn.mk i remote confirm now m).next

theorem catalog_handle (b : Batch) : (i.handle now b).2.2.catalog = i.catalog.after b.asks := by
  unfold Batch.asks
  by_cases hb : b.opcode = .resetConfirm
  · rw [if_pos hb, handle_of_confirm i now b hb]
    exact catalog_confirmed _ b.remote
  · rw [if_neg hb, handle_of_metrics i now b hb]
    exact catalog_afterTurns _ b.remote b.opcode.wantsConfirm now b.metrics

theorem catalog_call (k : Call) : (i.call k).2.catalog = i.catalog.after k.asks := by
  cases k with
  | handle now b => exact catalog_handle i now b
  | catalog k => rfl

/-- **What happens to the catalog are the calls that are asked of it**, in order. -/
theorem catalog_after (calls : List Call) :
    (i.after calls).catalog = i.catalog.after (calls.flatMap Call.asks) := by
  induction calls generalizing i with
  | nil => rfl
  | cons k rest ih =>
    rw [List.flatMap_cons, Catalog.after_append, ← catalog_call i k]
    exact ih (i.call k).2

end Asks

end Ingest

end MetricRouter
