import MetricRouter.Pipeline
import MetricRouter.Proofs.Conflation.Latest
import MetricRouter.Proofs.Ingest.Samples
import MetricRouter.Proofs.Routing.Delivery

/-!
# Calls on a pipeline

Everything that can happen to a pipeline, as data, and what its parts are asked for when it happens.

* `Pipeline.Call`, `Pipeline.call`, `Pipeline.after`, `Pipeline.answers` — what can happen, one call, calls in order;
* `Call.turns`, `Call.passes`, `Call.asks`, `Call.conflates` — the turns of metrics, the samples that are passed
  on, and what is asked of the catalog and of the conflation;
* `passed_call`, `conflation_call`, `catalog_call` — a call calls the conflation, whose samples go to the router, and
  the catalog;
* `turnsOf`, `passedOn`, `conflationCalls` — the same for calls that are made in order.
-/

namespace MetricRouter

open Net (Endpoint)
open Wire (Batch Reply)

namespace Pipeline

variable {σ τ : Type}

/-- What can happen to a pipeline. -/
inductive Call where
  /-- A batch arrives. -/
  | handle (arrival : Arrival) (b : Batch)
  /-- The conflation lets go what is due at an instant. -/
  | drain (now : UInt64)
  /-- The conflation lets everything go. -/
  | flush
  /-- Somebody else asks the catalog. -/
  | catalog (k : Catalog.Call)

section Calls

variable (receive : Receive σ) (transmit : Transmit τ)

/-- The number of samples that went on in a call, and the pipeline after it. -/
def call (p : Pipeline σ τ) : Call → Except String Nat × Pipeline σ τ
  | .handle arrival b => p.handle receive transmit arrival b
  | .drain now => p.drain receive now
  | .flush => p.flush receive
  | .catalog k => (.ok 0, { p with ingest := (p.ingest.call (.catalog k)).2 })

/-- The pipeline after calls that are made in order. -/
abbrev after (p : Pipeline σ τ) (calls : List Call) : Pipeline σ τ := Run.after (call receive transmit) p calls

/-- How calls that are made in order come out. -/
abbrev answers (p : Pipeline σ τ) (calls : List Call) : List (Except String Nat) :=
  Run.answers (call receive transmit) p calls

end Calls

/-! ## What the parts are asked -/

/-- The turns of the metrics that come in a call. -/
def Call.turns (p : Pipeline σ τ) : Call → List Ingest.Turn
  | handle arrival b => (Ingest.Call.handle arrival.ingest b).turns p.ingest
  | drain _ | flush | catalog _ => []

/-- The samples that the ingest passes on in a call. -/
def Call.passes (p : Pipeline σ τ) : Call → List Metric
  | handle arrival b => (p.ingest.handle arrival.ingest b).2.1
  | drain _ | flush | catalog _ => []

/-- What a call asks of the catalog. -/
def Call.asks : Call → List Catalog.Call
  | handle _ b => b.asks
  | drain _ | flush => []
  | catalog k => [k]

theorem reset_not_mem_asks {calls : List Call} (h : .catalog .reset ∉ calls) :
    .reset ∉ calls.flatMap Call.asks := by
  intro hreset
  obtain ⟨k, hk, hasks⟩ := List.mem_flatMap.mp hreset
  cases k with
  | handle arrival b =>
    have hhandle : Ingest.Call.handle 0 b = .catalog .reset := Ingest.reset_mem_asks_iff.mp hasks
    exact absurd hhandle (by simp)
  | drain now | flush => exact absurd hasks List.not_mem_nil
  | catalog k =>
    rw [← List.mem_singleton.mp hasks] at hk
    exact h hk

/-- What a call asks of the conflation. -/
def Call.conflates (p : Pipeline σ τ) : Call → List Conflation.Call
  | handle arrival b => [.enqueue arrival.conflation (p.ingest.handle arrival.ingest b).2.1]
  | drain now => [.drain now]
  | flush => [.flush]
  | catalog _ => []

theorem passes_eq (p : Pipeline σ τ) (k : Call) :
    k.passes p = (k.turns p).flatMap (fun u => u.sample.toList) := by
  cases k with
  | handle arrival b => exact congrArg Prod.snd (Ingest.call_fst p.ingest (.handle arrival.ingest b))
  | drain now | flush | catalog k => rfl

theorem brought_conflates (p : Pipeline σ τ) (k : Call) :
    Conflation.brought (k.conflates p) = k.passes p := by
  cases k with
  | handle arrival b => exact List.append_nil _
  | drain now | flush | catalog k => rfl

/-! ## The parts after a call -/

/-- The same catalog, conflation and router. -/
structure Alike (p q : Pipeline σ τ) : Prop where
  catalog : q.ingest.catalog = p.ingest.catalog
  conflation : q.conflation = p.conflation
  router : q.router = p.router

/-- **What a call does to the conflation and the router**: the conflation is called, and what it gives is handed
to the router. The call comes out well if this does. -/
structure Passed (receive : Receive σ) (c : Conflation) (k : Conflation.Call) (p : Pipeline σ τ)
    (r : Except String Nat × Pipeline σ τ) : Prop where
  conflation : r.2.conflation = some (c.call k).2
  router : r.2.router = (p.router.queue receive (c.call k).1).2
  isOk : r.1.isOk = (p.router.queue receive (c.call k).1).1.isOk

section Parts

variable (receive : Receive σ) (transmit : Transmit τ) (p : Pipeline σ τ) {c : Conflation}

theorem alike_sendReply (remote : Endpoint) (clock : UInt64) (r : Reply) :
    p.Alike (p.sendReply transmit remote clock r) := by
  unfold sendReply
  simp only
  split <;> exact ⟨rfl, rfl, rfl⟩

theorem alike_sendReplies (remote : Endpoint) (clock : UInt64) (replies : List Reply) :
    p.Alike (p.sendReplies transmit remote clock replies) := by
  unfold sendReplies
  split
  · refine List.foldlRecOn (motive := p.Alike) _ _ ⟨rfl, rfl, rfl⟩ fun q hq r _ => ?_
    have hsent := alike_sendReply transmit q remote clock r
    exact ⟨hsent.catalog.trans hq.catalog, hsent.conflation.trans hq.conflation, hsent.router.trans hq.router⟩
  · exact ⟨rfl, rfl, rfl⟩

theorem handle_eq (arrival : Arrival) (b : Batch) : ∃ q : Pipeline σ τ,
    { p with ingest := (p.ingest.handle arrival.ingest b).2.2 }.Alike q ∧
    p.handle receive transmit arrival b =
      ((q.forward receive arrival.conflation (p.ingest.handle arrival.ingest b).2.1).1.map
        (fun _ => (p.ingest.handle arrival.ingest b).2.1.length),
       (q.forward receive arrival.conflation (p.ingest.handle arrival.ingest b).2.1).2) := by
  cases hb : b.remote with
  | none =>
    refine ⟨_, ⟨rfl, rfl, rfl⟩, ?_⟩
    rw [handle, hb]
  | some remote =>
    refine ⟨_, alike_sendReplies transmit _ remote arrival.channels (p.ingest.handle arrival.ingest b).1, ?_⟩
    rw [handle, hb]

theorem isOk_map {α β : Type} (r : Except String α) (f : α → β) : (r.map f).isOk = r.isOk := by
  cases r <;> rfl

theorem passed_forward (hc : p.conflation = some c) (now : UInt64) (ms : List Metric) (n : Nat) :
    Passed receive c (.enqueue now ms) p
      ((p.forward receive now ms).1.map (fun _ => n), (p.forward receive now ms).2) := by
  unfold forward
  rw [hc]
  exact ⟨rfl, rfl, (isOk_map _ _).trans (isOk_map _ _)⟩

theorem passed_drain (hc : p.conflation = some c) (now : UInt64) :
    Passed receive c (.drain now) p (p.drain receive now) := by
  unfold drain
  rw [hc]
  exact ⟨rfl, rfl, (isOk_map _ _).trans (isOk_map _ _)⟩

/-- **What goes on in a call goes through the conflation to the router.** -/
theorem passed_call (hc : p.conflation = some c) {k : Call} {q : Conflation.Call} (hq : k.conflates p = [q]) :
    Passed receive c q p (p.call receive transmit k) := by
  cases k with
  | handle arrival b =>
    obtain ⟨s, hs, hhandle⟩ := handle_eq receive transmit p arrival b
    have hforward := passed_forward receive s (hs.conflation.trans hc) arrival.conflation
      (p.ingest.handle arrival.ingest b).2.1 (p.ingest.handle arrival.ingest b).2.1.length
    rw [List.singleton_inj.mp hq] at hforward
    rw [call, hhandle]
    have hrouter : s.router = p.router := hs.router
    exact ⟨hforward.conflation, hrouter ▸ hforward.router, hrouter ▸ hforward.isOk⟩
  | drain now =>
    rw [← List.singleton_inj.mp hq]
    exact passed_drain receive p hc now
  | flush =>
    rw [← List.singleton_inj.mp hq]
    have hdrain := passed_drain receive p hc lastInstant
    exact ⟨hdrain.conflation, hdrain.router, hdrain.isOk⟩
  | catalog k => exact absurd hq (by simp [Call.conflates])

/-- **What happens to the conflation is what is asked of it.** -/
theorem conflation_call (hc : p.conflation = some c) (k : Call) :
    (p.call receive transmit k).2.conflation = some (c.after (k.conflates p)) := by
  cases k with
  | handle arrival b => exact (passed_call receive transmit p hc (k := .handle arrival b) rfl).conflation
  | drain now => exact (passed_call receive transmit p hc (k := .drain now) rfl).conflation
  | flush => exact (passed_call receive transmit p hc (k := .flush) rfl).conflation
  | catalog k => exact hc

theorem ingest_forward (now : UInt64) (ms : List Metric) : (p.forward receive now ms).2.ingest = p.ingest := by
  unfold forward
  cases p.conflation <;> rfl

theorem ingest_drain (now : UInt64) : (p.drain receive now).2.ingest = p.ingest := by
  unfold drain
  cases p.conflation <;> rfl

/-- **What happens to the catalog is what is asked of it.** -/
theorem catalog_call (k : Call) :
    (p.call receive transmit k).2.ingest.catalog = p.ingest.catalog.after k.asks := by
  cases k with
  | handle arrival b =>
    obtain ⟨s, hs, hhandle⟩ := handle_eq receive transmit p arrival b
    rw [call, hhandle]
    show (s.forward _ _ _).2.ingest.catalog = _
    rw [ingest_forward, hs.catalog]
    exact Ingest.catalog_handle p.ingest arrival.ingest b
  | drain now => exact congrArg Ingest.catalog (ingest_drain receive p now)
  | flush => exact congrArg Ingest.catalog (ingest_drain receive p lastInstant)
  | catalog k => rfl

end Parts

/-! ## Runs -/

section Runs

variable (receive : Receive σ) (transmit : Transmit τ) (p : Pipeline σ τ)

/-- What is seen of calls that are made in order, each in the state that it finds. -/
def along {β : Type} (view : Pipeline σ τ → Call → List β) (p : Pipeline σ τ) : List Call → List β
  | [] => []
  | k :: rest => view p k ++ along view (p.call receive transmit k).2 rest

/-- The turns of the metrics that come in calls that are made in order. -/
abbrev turnsOf (calls : List Call) : List Ingest.Turn := along receive transmit (fun p k => k.turns p) p calls

/-- The samples that the ingest passes on in calls that are made in order. -/
abbrev passedOn (calls : List Call) : List Metric := along receive transmit (fun p k => k.passes p) p calls

/-- What calls that are made in order ask of the conflation. -/
abbrev conflationCalls (calls : List Call) : List Conflation.Call :=
  along receive transmit (fun p k => k.conflates p) p calls

theorem along_append {β : Type} (view : Pipeline σ τ → Call → List β) (calls more : List Call) :
    along receive transmit view p (calls ++ more) =
      along receive transmit view p calls ++ along receive transmit view (p.after receive transmit calls) more := by
  induction calls generalizing p with
  | nil => rfl
  | cons k rest ih =>
    rw [List.cons_append, along, along, ih, List.append_assoc]
    rfl

/-- What is seen of a run can be read off whatever shows it call by call. -/
theorem along_eq {β γ : Type} {view : Pipeline σ τ → Call → List β} {view' : Pipeline σ τ → Call → List γ}
    {g : List β → List γ} (hnil : g [] = []) (happend : ∀ l l', g (l ++ l') = g l ++ g l')
    (h : ∀ p k, view' p k = g (view p k)) (calls : List Call) :
    along receive transmit view' p calls = g (along receive transmit view p calls) := by
  induction calls generalizing p with
  | nil => exact hnil.symm
  | cons k rest ih => rw [along, along, ih, h, happend]

theorem passedOn_eq (calls : List Call) : p.passedOn receive transmit calls =
    (p.turnsOf receive transmit calls).flatMap (fun u => u.sample.toList) :=
  along_eq receive transmit p rfl (fun _ _ => List.flatMap_append) passes_eq calls

theorem brought_conflationCalls (calls : List Call) :
    Conflation.brought (p.conflationCalls receive transmit calls) = p.passedOn receive transmit calls :=
  (along_eq receive transmit p rfl (fun _ _ => List.flatMap_append)
    (fun p k => (brought_conflates p k).symm) calls).symm

/-- The instant at which the samples of a call are filed. -/
def Call.filed : Call → Option UInt64
  | handle arrival _ => some arrival.conflation
  | drain _ | flush | catalog _ => none

theorem filterMap_instant_conflationCalls (calls : List Call) :
    (p.conflationCalls receive transmit calls).filterMap Conflation.Call.instant = calls.filterMap Call.filed := by
  induction calls generalizing p with
  | nil => rfl
  | cons k rest ih =>
    have hrest : p.conflationCalls receive transmit (k :: rest) =
        k.conflates p ++ (p.call receive transmit k).2.conflationCalls receive transmit rest := rfl
    rw [hrest, List.filterMap_append, ih]
    cases k with
    | handle arrival b => rfl
    | drain now | flush | catalog k => rfl

theorem conflation_after {c : Conflation} (hc : p.conflation = some c) (calls : List Call) :
    (p.after receive transmit calls).conflation = some (c.after (p.conflationCalls receive transmit calls)) := by
  induction calls generalizing p c with
  | nil => exact hc
  | cons k rest ih =>
    rw [conflationCalls, along, Conflation.after, Run.after_append]
    exact ih (p.call receive transmit k).2 (conflation_call receive transmit p hc k)

theorem catalog_after (calls : List Call) :
    (p.after receive transmit calls).ingest.catalog = p.ingest.catalog.after (calls.flatMap Call.asks) := by
  induction calls generalizing p with
  | nil => rfl
  | cons k rest ih =>
    rw [List.flatMap_cons, Catalog.after_append, ← catalog_call receive transmit p k]
    exact ih (p.call receive transmit k).2

end Runs

end Pipeline

end MetricRouter
