import MetricRouter.Catalog.Basic
import MetricRouter.DelayQueue
import MetricRouter.Wire.Frame
import MetricRouter.Wire.Reply

/-!
# Taking in the metrics of agents

For every metric of a batch the identity is looked up, the replies that the agent expects are noted, and
the sample is passed on if its value is of the kind that the catalogued type carries.

* `Ingest.take` — one metric: what is replied and what is passed on;
* `Ingest.handle` — a whole batch;
* `Ingest.resetDue`, `Ingest.expireResets` — an agent that sends an unknown token is told to forget its
  tokens, and is not told again before a timeout unless it has confirmed.
-/

namespace MetricRouter

open Net (Endpoint)
open Wire (Incoming Batch Reply)

/-- What was counted while metrics were taken in. -/
structure IngestCounters where
  bytesReceived : Nat := 0
  /-- Metrics that were passed on. -/
  metricsReceived : Nat := 0
  /-- Metrics that came with their names. -/
  nonTokenizedMetrics : Nat := 0
  tokensSent : Nat := 0
  confirmsSent : Nat := 0
  resetsSent : Nat := 0
  resetConfirmsReceived : Nat := 0
  /-- Metrics with an unknown token. -/
  tokenLookupDrops : Nat := 0
  decodeErrors : Nat := 0
  replyFailures : Nat := 0
  /-- Metrics whose value does not fit the catalogued type. -/
  typeMismatches : Nat := 0
  deriving DecidableEq, Repr

/-- The counters by their names. -/
def IngestCounters.entries (c : IngestCounters) : List (String × Nat) :=
  [("bytes_received", c.bytesReceived), ("metrics_received", c.metricsReceived),
   ("non_tokenized_metrics", c.nonTokenizedMetrics), ("tokens_sent", c.tokensSent),
   ("confirms_sent", c.confirmsSent), ("resets_sent", c.resetsSent),
   ("reset_confirms_received", c.resetConfirmsReceived), ("token_lookup_drops", c.tokenLookupDrops),
   ("decode_errors", c.decodeErrors), ("reply_failures", c.replyFailures),
   ("type_mismatches", c.typeMismatches)]

/-- The catalog, the agents that were told to forget their tokens, and what was counted. -/
structure Ingest where
  catalog : Catalog
  /-- How long an agent has time to confirm that it forgot its tokens, in milliseconds. -/
  resetTimeout : UInt64
  /-- The agents that have not confirmed, with the instant from which on they may be told again. -/
  pendingResets : Table Endpoint UInt64
  /-- The same agents by that instant. -/
  resetExpiry : DelayQueue (List Endpoint)
  counters : IngestCounters

namespace Ingest

/-- Nothing taken in. -/
def create (catalog : Catalog) (resetTimeout : UInt64) : Ingest :=
  { catalog := catalog, resetTimeout := resetTimeout, pendingResets := .empty, resetExpiry := .empty,
    counters := {} }

/-! ## Resets -/

/-- Forgets a reset whose time is up at an instant. -/
def expireReset (now : UInt64) (pending : Table Endpoint UInt64) (remote : Endpoint) :
    Table Endpoint UInt64 :=
  if (pending.get? remote).any (fun expiry => expiry ≤ now) then pending.erase remote else pending

/-- Forgets the resets whose time is up at an instant. -/
def expireResets (i : Ingest) (now : UInt64) : Ingest :=
  let (slots, expiry) := i.resetExpiry.drainExpired now
  { i with
    pendingResets := (slots.flatMap Prod.snd).foldl (expireReset now) i.pendingResets
    resetExpiry := expiry }

/-- The queue of resets with one more agent at an instant. -/
def fileReset (expiry : DelayQueue (List Endpoint)) (deadline : UInt64) (remote : Endpoint) :
    DelayQueue (List Endpoint) :=
  let (expiry, remotes, _) := expiry.getOrInsert deadline []
  expiry.set deadline (remotes ++ [remote])

/-- Is an agent to be told to forget its tokens? If so, this is noted. -/
def resetDue (i : Ingest) (remote : Endpoint) (now : UInt64) : Bool × Ingest :=
  if (i.pendingResets.get? remote).all (fun expiry => expiry ≤ now) then
    let expires := deadlineAfter now i.resetTimeout
    (true,
      { i with
        pendingResets := i.pendingResets.insert remote expires
        resetExpiry := fileReset i.resetExpiry expires remote })
  else (false, i)

/-! ## Metrics -/

/-- Changes the counters. -/
def count (i : Ingest) (f : IngestCounters → IngestCounters) : Ingest := { i with counters := f i.counters }

/-- The identity of a metric, and what is replied to a remote. An unknown token has no identity. -/
def identify (i : Ingest) (remote : Option Endpoint) (now : UInt64) (m : Incoming) :
    Option Identity × List Reply × Ingest :=
  match m.key with
  | .token token =>
    match i.catalog.lookupByToken token with
    | some identity => (some identity, [], i)
    | none =>
      let i := i.count (fun c => { c with tokenLookupDrops := c.tokenLookupDrops + 1 })
      match remote with
      | none => (none, [], i)
      | some remote =>
        let (due, i) := i.resetDue remote now
        (none, if due then [.reset] else [], i)
  | .named name =>
    let (identity, catalog) := i.catalog.resolve name.host name.agent name.name m.type name.segments
    let (token, catalog) := catalog.tokenize identity
    let i := { i with catalog := catalog }.count
      (fun c => { c with nonTokenizedMetrics := c.nonTokenizedMetrics + 1 })
    (some identity, if remote.isSome then [.tokenAssign identity.fqn token] else [], i)

/-- Takes in one metric: what is replied to a remote, in order, and the sample that is passed on. Samples
are confirmed if `confirm` says so and there is a remote. -/
def take (i : Ingest) (remote : Option Endpoint) (confirm : Bool) (now : UInt64) (m : Incoming) :
    List Reply × Option Metric × Ingest :=
  match i.identify remote now m with
  | (none, replies, i) => (replies, none, i)
  | (some identity, replies, i) =>
    if identity.type.accepts m.value then
      let sample : Metric := ⟨identity, m.time, m.value⟩
      let confirms := if confirm && remote.isSome then [Reply.confirm sample.confirmKey] else []
      (replies ++ confirms, some sample, i)
    else (replies, none, i.count (fun c => { c with typeMismatches := c.typeMismatches + 1 }))

/-- Takes in metrics in order. -/
def takeAll (i : Ingest) (remote : Option Endpoint) (confirm : Bool) (now : UInt64) :
    List Incoming → List Reply × List Metric × Ingest
  | [] => ([], [], i)
  | m :: rest =>
    let (replies, sample, i) := i.take remote confirm now m
    let (moreReplies, samples, i) := takeAll i remote confirm now rest
    (replies ++ moreReplies, sample.toList ++ samples, i)

/-- Takes in a batch that arrives at an instant: the replies to its sender, in order, and the samples that
are passed on. -/
def handle (i : Ingest) (now : UInt64) (b : Batch) : List Reply × List Metric × Ingest :=
  let i := (i.expireResets now).count (fun c =>
    { c with bytesReceived := c.bytesReceived + b.bytes, decodeErrors := c.decodeErrors + b.malformed })
  match b.opcode with
  | .resetConfirm =>
    let i := i.count (fun c => { c with resetConfirmsReceived := c.resetConfirmsReceived + 1 })
    match b.remote with
    | none => ([], [], i)
    | some remote => ([], [], { i with pendingResets := i.pendingResets.erase remote })
  | opcode =>
    let (replies, samples, i) := i.takeAll b.remote opcode.wantsConfirm now b.metrics
    (replies, samples, i.count (fun c => { c with metricsReceived := c.metricsReceived + samples.length }))

/-- Counts a frame that could not be read. -/
def refuseFrame (i : Ingest) (frame : List UInt8) : Ingest :=
  i.count (fun c =>
    { c with bytesReceived := c.bytesReceived + frame.length, decodeErrors := c.decodeErrors + 1 })

/-- Counts a reply that was sent. -/
def countSent (i : Ingest) (r : Reply) : Ingest :=
  i.count (fun c =>
    match r with
    | .tokenAssign _ _ => { c with tokensSent := c.tokensSent + 1 }
    | .confirm _ => { c with confirmsSent := c.confirmsSent + 1 }
    | .reset => { c with resetsSent := c.resetsSent + 1 })

/-- Counts replies that could not be sent. -/
def countUnsent (i : Ingest) (n : Nat) : Ingest :=
  i.count (fun c => { c with replyFailures := c.replyFailures + n })

end Ingest

end MetricRouter
