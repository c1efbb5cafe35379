import MetricRouter.DelayQueue
import MetricRouter.Failure
import MetricRouter.Net.Address

/-!
# Channels to agents

Replies go to an agent over its channel. A channel is opened at its first use and kept until a write
fails, until it has not been used for the idle time, or until it is given up.

* `ChannelPool.get` — the channel of an agent, opened if need be;
* `ChannelPool.insert` — holds a channel that the caller has, from now on;
* `ChannelPool.send` — writes a frame to an agent;
* `ChannelPool.evictIdle` — gives up the channels that were not used for the idle time.

The pool looks for idle channels by a queue of the instants at which they may be due. A channel that was
used meanwhile is filed again under its new instant.
-/

namespace MetricRouter

open Net (Endpoint)

/-- A way to an agent. Two channels are the same one exactly when their serial numbers and agents agree. -/
structure Channel where
  serial : Nat
  remote : Endpoint
  deriving DecidableEq

/-- A channel with the latest instant at which it was used. -/
structure Pooled where
  channel : Channel
  lastUsed : UInt64
  deriving DecidableEq

/-- How a write came out. -/
structure Written where
  /-- Why it failed, if it did. -/
  failure : Option Failure
  /-- Is the channel closed after it? -/
  closes : Bool

/-- How writes come out: `τ` is what the network has taken in so far. -/
abbrev Transmit (τ : Type) := Channel → List UInt8 → τ → Written × τ

/-- How writes come out on a socket: `put` hands a frame to it and tells the fault if there is one. A fault
closes the channel. -/
def Transmit.overSocket {τ : Type} (put : Endpoint → List UInt8 → τ → Option String × τ) : Transmit τ :=
  fun c frame t =>
    let (fault, t) := put c.remote frame t
    match fault with
    | none => (⟨none, false⟩, t)
    | some reason =>
      (⟨some (.network ("reply to " ++ c.remote.display ++ " failed: " ++ reason)), true⟩, t)

/-- The channels by the addresses of their agents. -/
structure ChannelPool where
  /-- Can the pool open channels? -/
  connects : Bool
  /-- How long a channel may go unused, in milliseconds. -/
  idleTime : UInt64
  channels : Table Endpoint Pooled
  /-- The agents to look at, by the instant at which their channels may be due. -/
  expiry : DelayQueue (List Endpoint)
  /-- How many channels the pool has opened. -/
  opened : Nat
  /-- The serial number of the next channel that the pool opens. Whatever it opened or was given before has a
  smaller one. -/
  next : Nat
  closed : List Channel

namespace ChannelPool

/-- The idle time of a pool that is given none. -/
def defaultIdleTime : UInt64 := 60000

/-- A pool without a channel. The idle time is at least one millisecond. -/
def create (connects : Bool) (idleTime : UInt64) : ChannelPool :=
  { connects := connects, idleTime := max idleTime 1, channels := .empty, expiry := .empty, opened := 0,
    next := 0, closed := [] }

/-- The number of channels. -/
def size (p : ChannelPool) : Nat := p.channels.size

/-- Is the channel closed? -/
def isClosed (p : ChannelPool) (c : Channel) : Bool := p.closed.contains c

/-- Closes a channel. -/
def close (p : ChannelPool) (c : Channel) : ChannelPool := { p with closed := c :: p.closed }

/-- A new channel, which the pool does not hold. -/
def openFor (p : ChannelPool) (remote : Endpoint) : Channel × ChannelPool :=
  (⟨p.next, remote⟩, { p with opened := p.opened + 1, next := p.next + 1 })

/-- The instant at which a channel used at an instant may be due. -/
def dueAfter (p : ChannelPool) (used : UInt64) : UInt64 := deadlineAfter used p.idleTime

/-- Files an agent under an instant. -/
def schedule (p : ChannelPool) (remote : Endpoint) (deadline : UInt64) : ChannelPool :=
  let (expiry, remotes, _) := p.expiry.getOrInsert deadline []
  if remotes.contains remote then { p with expiry := expiry }
  else { p with expiry := expiry.set deadline (remotes ++ [remote]) }

/-- Looks at one agent: gives up its channel if it is due, and files it again otherwise. -/
def review (now : UInt64) (acc : Nat × ChannelPool) (remote : Endpoint) : Nat × ChannelPool :=
  let (evicted, p) := acc
  match p.channels.get? remote with
  | none => (evicted, p)
  | some pooled =>
    let due := p.dueAfter pooled.lastUsed
    if due ≤ now then (evicted + 1, { p with channels := p.channels.erase remote })
    else (evicted, p.schedule remote due)

/-- Gives up the channels that were not used for the idle time, and tells how many there were. -/
def evictIdle (p : ChannelPool) (now : UInt64) : Nat × ChannelPool :=
  let (slots, expiry) := p.expiry.drainExpired now
  (slots.flatMap Prod.snd).foldl (review now) (0, { p with expiry := expiry })

/-- Holds a channel for its agent from an instant on. -/
def hold (p : ChannelPool) (c : Channel) (now : UInt64) : ChannelPool :=
  { p with channels := p.channels.insert c.remote ⟨c, now⟩ }.schedule c.remote (p.dueAfter now)

/-- The channel of an agent. One that is closed or missing is opened if the pool can open channels. -/
def get (p : ChannelPool) (remote : Endpoint) (now : UInt64) : Option Channel × ChannelPool :=
  let p := (p.evictIdle now).2
  let usable := (p.channels.get? remote).filter (fun pooled => !p.isClosed pooled.channel)
  match usable with
  | some pooled =>
    (some pooled.channel,
      { p with channels := p.channels.insert remote { pooled with lastUsed := max pooled.lastUsed now } })
  | none =>
    if p.connects then
      let (c, p) := p.openFor remote
      (some c, p.hold c now)
    else (none, p)

/-- Holds a channel of the caller's in place of an earlier one of its agent. It may have been held before, and may
be closed; it counts as used now, whenever it was used before. -/
def insert (p : ChannelPool) (c : Channel) (now : UInt64) : ChannelPool :=
  { p with next := max p.next (c.serial + 1) }.hold c now

/-- Gives up the channel of an agent and tells whether there was one. -/
def evict (p : ChannelPool) (remote : Endpoint) : Bool × ChannelPool :=
  (p.channels.contains remote, { p with channels := p.channels.erase remote })

variable {τ : Type}

/-- Writes a frame to a channel; nothing is written to a closed one. -/
def write (transmit : Transmit τ) (p : ChannelPool) (c : Channel) (frame : List UInt8) (t : τ) :
    Except Failure Unit × ChannelPool × τ :=
  if p.isClosed c then (.error (.channelClosed c.remote.display), p, t)
  else
    let (written, t) := transmit c frame t
    let p := if written.closes then p.close c else p
    match written.failure with
    | none => (.ok (), p, t)
    | some f => (.error f, p, t)

/-- Gives up a channel if it is the one held for its agent. -/
def release (p : ChannelPool) (c : Channel) : ChannelPool :=
  if (p.channels.get? c.remote).any (fun pooled => pooled.channel == c) then
    { p with channels := p.channels.erase c.remote }
  else p

/-- Writes a frame to an agent. A channel that is closed or whose write failed is given up. -/
def send (transmit : Transmit τ) (p : ChannelPool) (remote : Endpoint) (frame : List UInt8) (now : UInt64)
    (t : τ) : Except Failure Unit × ChannelPool × τ :=
  match p.get remote now with
  | (none, p) => (.error (.channelClosed remote.display), p, t)
  | (some c, p) =>
    let (r, p, t) := p.write transmit c frame t
    match r with
    | .error e => (.error e, p.release c, t)
    | .ok _ => (.ok (), if p.isClosed c then p.release c else p, t)

end ChannelPool

end MetricRouter
