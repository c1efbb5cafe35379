import MetricRouter.DelayQueue
import MetricRouter.Failure

/-!
# Conflation

Bursts of samples are thinned out before they go downstream. A sample that may be held back is filed in
the window that closes one period after its arrival, where later samples of its name are merged into it.
When windows are drained, each name goes downstream once, with everything that the windows hold of it.
Samples that may not be held back go downstream at once.

* `Conflation.enqueue` — takes in samples, and gives those that go downstream at once;
* `Conflation.drain` — closes the windows that are due, and gives what goes downstream;
* `Conflation.flush` — closes all windows.

Both give the samples of one delivery; where there are none, there is no delivery. What becomes of a
delivery does not matter here.
-/

namespace MetricRouter

/-- A sample that was lost because it could not be merged. -/
structure LostSample where
  fqn : String
  /-- Did it happen while windows were drained? -/
  draining : Bool
  refusal : MergeRefusal
  deriving DecidableEq

/-- The loss in words. -/
def LostSample.message (l : LostSample) : String :=
  "Dropped metric [" ++ l.fqn ++ "]" ++ (if l.draining then " while draining" else "") ++ ": " ++
    l.refusal.failure.message

/-- The samples of one window, by name. -/
abbrev Window := Table String Metric

/-- The windows that are open, and what was counted. -/
structure Conflation where
  /-- How long a window stays open, in milliseconds. -/
  period : UInt64
  /-- How many samples the windows may hold together. -/
  capacity : Nat
  windows : DelayQueue Window
  /-- Samples that the windows hold. -/
  pending : Nat
  /-- Samples that were placed in a window. -/
  queued : Nat
  /-- Samples that were lost: there was no room, or they could not be merged. -/
  dropped : Nat
  /-- Samples that were merged into one that a window or a delivery held. -/
  conflated : Nat
  /-- Samples that went downstream. -/
  forwarded : Nat
  /-- Deliveries of drained samples that broke down. -/
  failures : Nat
  /-- The samples that were lost because they could not be merged, oldest first. -/
  lost : List LostSample

namespace Conflation

/-- No window and nothing counted. -/
def create (period : UInt64) (capacity : Nat) : Conflation :=
  { period := period, capacity := capacity, windows := .empty, pending := 0, queued := 0, dropped := 0,
    conflated := 0, forwarded := 0, failures := 0, lost := [] }

/-- The counters by their names. -/
def entries (c : Conflation) : List (String × Nat) :=
  [("queued", c.queued), ("dropped", c.dropped), ("conflated", c.conflated), ("forwarded", c.forwarded),
   ("failures", c.failures), ("pending", c.pending), ("windows", c.windows.size)]

/-! ## Taking in -/

/-- The conflation after a sample of a name was lost. -/
def lose (c : Conflation) (fqn : String) (draining : Bool) (refusal : MergeRefusal) : Conflation :=
  { c with dropped := c.dropped + 1, lost := c.lost ++ [⟨fqn, draining, refusal⟩] }

/-- Files a sample in the window that closes at a deadline. A sample of the same name absorbs it. A new
name needs room, and the window is there afterwards whether or not there was any. -/
def file (c : Conflation) (deadline : UInt64) (m : Metric) : Conflation :=
  let (windows, window, _) := c.windows.getOrInsert deadline .empty
  let c := { c with windows := windows }
  match window.get? m.fqn with
  | some held =>
    match held.conflate m with
    | .ok merged =>
      { c with
        windows := windows.set deadline (window.insert m.fqn merged)
        conflated := c.conflated + 1 }
    | .error refusal => c.lose m.fqn false refusal
  | none =>
    if c.pending < c.capacity then
      { c with
        windows := windows.set deadline (window.insert m.fqn m)
        pending := c.pending + 1
        queued := c.queued + 1 }
    else { c with dropped := c.dropped + 1 }

/-- May the sample be held back? -/
def mayWait (m : Metric) : Bool := m.type.isConflatable

/-- Takes in samples that arrive at an instant, and gives those that go downstream at once, in order. -/
def enqueue (c : Conflation) (now : UInt64) (metrics : List Metric) : List Metric × Conflation :=
  let deadline := deadlineAfter now c.period
  let bypass := metrics.filter (fun m => !mayWait m)
  let c := (metrics.filter mayWait).foldl (fun c m => c.file deadline m) c
  (bypass, { c with forwarded := c.forwarded + bypass.length })

/-! ## Draining -/

/-- Adds a drained sample to a delivery; a sample of the same name absorbs it. -/
def gather (acc : Window × Conflation) (m : Metric) : Window × Conflation :=
  let (delivery, c) := acc
  match delivery.get? m.fqn with
  | none => (delivery.insert m.fqn m, c)
  | some held =>
    match held.conflate m with
    | .ok merged => (delivery.insert m.fqn merged, { c with conflated := c.conflated + 1 })
    | .error refusal => (delivery, c.lose m.fqn true refusal)

/-- Adds all samples of a window to a delivery. -/
def gatherWindow (acc : Window × Conflation) (window : Window) : Window × Conflation :=
  window.values.foldl gather (acc.1, { acc.2 with pending := acc.2.pending - window.size })

/-- The samples in the order of their names. -/
def byName (metrics : List Metric) : List Metric :=
  metrics.mergeSort (fun a b => decide (a.fqn ≤ b.fqn))

/-- Closes the windows that are due at an instant, the earliest first, and gives what goes downstream,
one sample for each name, in the order of the names. -/
def drain (c : Conflation) (now : UInt64) : List Metric × Conflation :=
  let (expired, windows) := c.windows.drainExpired now
  let (delivery, c) := (expired.map Prod.snd).foldl gatherWindow (.empty, { c with windows := windows })
  (byName delivery.values, { c with forwarded := c.forwarded + delivery.size })

/-- Closes all windows. -/
def flush (c : Conflation) : List Metric × Conflation := c.drain lastInstant

/-- Counts a delivery of drained samples that broke down. -/
def fail (c : Conflation) : Conflation := { c with failures := c.failures + 1 }

end Conflation

end MetricRouter
