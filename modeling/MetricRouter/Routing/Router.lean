import MetricRouter.Failure
import MetricRouter.Routing.Dispatch
import MetricRouter.Text.Hash

/-!
# The router

The router knows the destinations in the order in which they were registered, and delivers samples to
those whose patterns match.

* `Router.register`, `Router.unregister`, `Router.setPatterns` — the destinations and their patterns; a
  call that fails changes neither;
* `Router.dispatch` — delivers a batch and counts what happened.
-/

namespace MetricRouter

open Pattern (Matchers Group)

/-- What the router has counted. -/
structure RouterCounters where
  /-- Offers accepted, in batches that were gone through to the end. -/
  routed : Nat := 0
  /-- Samples that matched no destination. -/
  unmatched : Nat := 0
  /-- Samples of batches that found the queue full. -/
  dropped : Nat := 0
  /-- Offers refused. -/
  rejected : Nat := 0
  /-- Batches that were gone through to the end. -/
  batches : Nat := 0
  /-- Batches of workers that a destination broke off. -/
  failures : Nat := 0
  deriving DecidableEq, Repr

/-- The counters by their names. -/
def RouterCounters.entries (c : RouterCounters) : List (String × Nat) :=
  [("routed", c.routed), ("unmatched", c.unmatched), ("dropped", c.dropped), ("rejected", c.rejected),
   ("batches", c.batches), ("failures", c.failures)]

/-- The destinations with their patterns, and all that they have taken in. -/
structure Router (σ : Type) where
  /-- The key under which the patterns remember a name. -/
  memoKey : String → Nat
  matchers : Matchers
  /-- The destinations, the first registered first. -/
  bindings : List Binding
  /-- How many times a destination was registered. -/
  registrations : Nat
  counters : RouterCounters
  /-- What the destinations have taken in. -/
  world : σ

namespace Router

variable {σ : Type}

/-- A router without a destination, whose patterns remember a name by its hash. -/
def create (world : σ) : Router σ :=
  { memoKey := Text.hash, matchers := .empty, bindings := [], registrations := 0, counters := {},
    world := world }

/-! ## Destinations -/

/-- The names of the destinations. -/
def destinations (r : Router σ) : List String := r.bindings.map Binding.name

/-- The destination of a name with its patterns. -/
def binding? (r : Router σ) (name : String) : Option Binding :=
  r.bindings.find? (fun b => b.name == name)

/-- The bindings of all other names. -/
def without (name : String) (bs : List Binding) : List Binding := bs.filter (fun b => b.name != name)

/-- Puts a destination at the end, in place of an earlier one of its name. -/
def register (r : Router σ) (d : Destination) (patterns : List String) : Except Failure Unit × Router σ :=
  match Group.ofPatterns r.matchers patterns with
  | (.error _, ms) => (.error .invalidPattern, { r with matchers := ms })
  | (.ok g, ms) =>
    (.ok (), { r with matchers := ms, bindings := without d.name r.bindings ++ [⟨r.registrations, d, g⟩],
                      registrations := r.registrations + 1 })

/-- Removes the destination of a name and tells whether there was one. -/
def unregister (r : Router σ) (name : String) : Bool × Router σ :=
  ((r.binding? name).isSome, { r with bindings := without name r.bindings })

/-- The bindings with the patterns of one of them set. -/
def setGroup (serial : Nat) (g : Group) (bs : List Binding) : List Binding :=
  bs.map (fun b => if b.serial = serial then { b with patterns := g } else b)

/-- Replaces the patterns of the destination of a name. -/
def setPatterns (r : Router σ) (name : String) (patterns : List String) :
    Except Failure Unit × Router σ :=
  match r.binding? name with
  | none => (.error (.destinationNotFound name), r)
  | some b =>
    match b.patterns.replace r.matchers patterns with
    | (.error _, _, ms) => (.error .invalidPattern, { r with matchers := ms })
    | (.ok _, g, ms) =>
      (.ok (), { r with matchers := ms, bindings := setGroup b.serial g r.bindings })

/-! ## Delivery -/

/-- The start of a dispatch. -/
def start (r : Router σ) : Sweep σ :=
  { matchers := r.matchers, world := r.world, delivered := 0, rejected := 0, unmatched := 0 }

/-- The router after a dispatch came so far. Refusals and samples without a destination are counted as
they happen, the offers accepted only when the batch was gone through. -/
def conclude (r : Router σ) (outcome : Outcome) (s : Sweep σ) : Router σ :=
  let counters := { r.counters with
    rejected := r.counters.rejected + s.rejected
    unmatched := r.counters.unmatched + s.unmatched }
  let counters := match outcome with
    | .done delivered =>
      { counters with routed := counters.routed + delivered, batches := counters.batches + 1 }
    | _ => counters
  { r with matchers := s.matchers, world := s.world, counters := counters }

/-- Delivers a batch. -/
def dispatch (receive : Receive σ) (r : Router σ) (batch : List Metric) : Outcome × Router σ :=
  let (outcome, s) := sweep receive r.memoKey r.bindings batch r.start
  (outcome, r.conclude outcome s)

/-- Goes on with a dispatch that waited for a destination. -/
def resume (receive : Receive σ) (r : Router σ) (left : Stalled) : Outcome × Router σ :=
  let (outcome, s) := left.resume receive r.memoKey r.start
  (outcome, r.conclude outcome s)

end Router

end MetricRouter
