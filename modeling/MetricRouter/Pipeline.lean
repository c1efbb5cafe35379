import MetricRouter.Channels
import MetricRouter.Conflation
import MetricRouter.Ingest
import MetricRouter.Routing.Pool

/-!
# From frames to destinations

Frames of agents are taken in, their samples are conflated if there is a conflation, and what comes out
of it is handed to the router. Replies go back over the channels of the agents.

* `Pipeline.handle`, `Pipeline.handleFrame`, `Pipeline.submit` — what comes in;
* `Pipeline.drain`, `Pipeline.flush` — what the conflation lets go.

A destination that breaks down while the router delivers at once is felt by the caller; everything that
happened before stays.
-/

namespace MetricRouter

open Net (Endpoint)
open Wire (Incoming Batch Reply)

/-- The instant of an arrival, as each part of the way reads it. -/
structure Arrival where
  /-- The instant by which agents are told to forget their tokens. -/
  ingest : UInt64
  /-- The instant by which samples are filed in windows. -/
  conflation : UInt64
  /-- The instant by which channels are in use. -/
  channels : UInt64

/-- An arrival that all parts read off one clock. -/
def Arrival.now (clock : UInt64) : Arrival := ⟨clock, clock, clock⟩

/-- All parts of the way from an agent to the destinations. -/
structure Pipeline (σ τ : Type) where
  ingest : Ingest
  channels : ChannelPool
  /-- What the network has taken in. -/
  network : τ
  /-- Can replies be sent at all? -/
  replies : Bool
  conflation : Option Conflation
  router : Pool σ

namespace Pipeline

variable {σ τ : Type}

/-- Sends one reply and counts how that came out. -/
def sendReply (transmit : Transmit τ) (remote : Endpoint) (clock : UInt64) (p : Pipeline σ τ) (r : Reply) :
    Pipeline σ τ :=
  let (sent, channels, network) := p.channels.send transmit remote r.encode clock p.network
  let p := { p with channels := channels, network := network }
  match sent with
  | .ok _ => { p with ingest := p.ingest.countSent r }
  | .error _ => { p with ingest := p.ingest.countUnsent 1 }

/-- Sends replies to an agent in order. -/
def sendReplies (transmit : Transmit τ) (p : Pipeline σ τ) (remote : Endpoint) (clock : UInt64)
    (replies : List Reply) : Pipeline σ τ :=
  if p.replies then replies.foldl (sendReply transmit remote clock) p
  else { p with ingest := p.ingest.countUnsent replies.length }

/-- Hands samples to the router. -/
def deliver (receive : Receive σ) (p : Pipeline σ τ) (samples : List Metric) :
    Except String Unit × Pipeline σ τ :=
  let (r, router) := p.router.queue receive samples
  (r.map (fun _ => ()), { p with router := router })

/-- Passes on samples that arrive at an instant. -/
def forward (receive : Receive σ) (p : Pipeline σ τ) (now : UInt64) (samples : List Metric) :
    Except String Unit × Pipeline σ τ :=
  match p.conflation with
  | none => p.deliver receive samples
  | some c =>
    let (bypass, c) := c.enqueue now samples
    { p with conflation := some c }.deliver receive bypass

/-- Takes in a batch, and tells how many samples were passed on. -/
def handle (receive : Receive σ) (transmit : Transmit τ) (p : Pipeline σ τ) (arrival : Arrival)
    (b : Batch) : Except String Nat × Pipeline σ τ :=
  let (replies, samples, ingest) := p.ingest.handle arrival.ingest b
  let p := { p with ingest := ingest }
  let p := match b.remote with
    | none => p
    | some remote => p.sendReplies transmit remote arrival.channels replies
  let (r, p) := p.forward receive arrival.conflation samples
  (r.map (fun _ => samples.length), p)

/-- Takes in a frame from a remote; one that cannot be read is counted. -/
def handleFrame (receive : Receive σ) (transmit : Transmit τ) (p : Pipeline σ τ) (arrival : Arrival)
    (frame : List UInt8) (remote : Option Endpoint) :
    Except Wire.Fault (Except String Nat) × Pipeline σ τ :=
  match Batch.decode frame remote with
  | .error fault => (.error fault, { p with ingest := p.ingest.refuseFrame frame })
  | .ok b =>
    let (r, p) := p.handle receive transmit arrival b
    (.ok r, p)

/-- Takes in metrics of the process itself. -/
def submit (receive : Receive σ) (transmit : Transmit τ) (p : Pipeline σ τ) (arrival : Arrival)
    (metrics : List Incoming) : Except String Nat × Pipeline σ τ :=
  p.handle receive transmit arrival (Batch.ofLocal metrics)

/-- Delivers what the conflation lets go at an instant, and tells how many samples there were. -/
def drain (receive : Receive σ) (p : Pipeline σ τ) (now : UInt64) : Except String Nat × Pipeline σ τ :=
  match p.conflation with
  | none => (.ok 0, p)
  | some c =>
    let (samples, c) := c.drain now
    let (r, p) := { p with conflation := some c }.deliver receive samples
    (r.map (fun _ => samples.length), p)

/-- Delivers everything that the conflation holds. -/
def flush (receive : Receive σ) (p : Pipeline σ τ) : Except String Nat × Pipeline σ τ :=
  p.drain receive lastInstant

end Pipeline

end MetricRouter
