import Mathlib
import MetricRouter.Conflation
import MetricRouter.Proofs.DelayQueue
import MetricRouter.Proofs.Run

/-!
# Calls on a conflation

Everything that can be asked of a conflation, as data, and the conflation in front of something that takes
in batches and may break down on any of them.

* `Conflation.Call`, `Conflation.call`, `Conflation.after` — what is asked, one call, calls in order;
* `Service`, `Service.call`, `Service.after` — the same with what lies downstream;
* `Service.conflation_after` — breakdowns leave no trace in the conflation;
* `history` — what happens to the windows in a run: filings, and drains;
* `arrivals`, `admitted`, `merged` — what a window holds of a name, read off the history.
-/

namespace MetricRouter

namespace Conflation

/-- What can be asked of a conflation. -/
inductive Call where
  /-- That samples be taken in at an instant. -/
  | enqueue (now : UInt64) (metrics : List Metric)
  /-- That the windows be closed that are due at an instant. -/
  | drain (now : UInt64)
  /-- That all windows be closed. -/
  | flush
  deriving DecidableEq

/-- The samples that go downstream in a call, and the conflation after it. -/
def call (c : Conflation) : Call → List Metric × Conflation
  | .enqueue now metrics => c.enqueue now metrics
  | .drain now => c.drain now
  | .flush => c.flush

/-- The conflation after calls that are made in order. -/
abbrev after (c : Conflation) (calls : List Call) : Conflation := Run.after call c calls

/-- How a call ended. -/
inductive Ending where
  /-- The samples were taken in. -/
  | taken
  /-- So many drained samples went downstream. -/
  | forwarded (count : Nat)
  /-- Downstream broke down. -/
  | broken
  deriving DecidableEq

/-- How a call ends on which so many samples go downstream, and nothing breaks down. -/
def Call.ending (count : Nat) : Call → Ending
  | enqueue _ _ => .taken
  | drain _ | flush => .forwarded count

end Conflation

/-! ## What lies downstream -/

/-- A conflation in front of something that takes in batches. -/
structure Service where
  conflation : Conflation
  /-- The batches that were handed downstream, oldest first, those on which it broke down included. -/
  handed : List (List Metric)

namespace Service

open Conflation (Call Ending)

/-- Nothing taken in and nothing handed downstream. -/
def fresh (period : UInt64) (capacity : Nat) : Service := ⟨.create period capacity, []⟩

/-- One call, and how it ended. Whether downstream breaks down on a batch may depend on everything that it
was handed before. An empty batch is not handed over. -/
def call (breaks : List (List Metric) → List Metric → Bool) (s : Service) (k : Call) : Ending × Service :=
  let (batch, c) := s.conflation.call k
  if batch = [] then (k.ending 0, ⟨c, s.handed⟩)
  else
    (if breaks s.handed batch then .broken else k.ending batch.length, ⟨c, s.handed ++ [batch]⟩)

/-- The service after calls that are made in order. -/
abbrev after (breaks : List (List Metric) → List Metric → Bool) (s : Service) (calls : List Call) : Service :=
  Run.after (call breaks) s calls

section Laws

variable {breaks : List (List Metric) → List Metric → Bool} {s : Service}

theorem conflation_call (k : Call) : (s.call breaks k).2.conflation = (s.conflation.call k).2 := by
  unfold call
  split
  split <;> simp_all

theorem handed_call (k : Call) : (s.call breaks k).2.handed =
    s.handed ++ (if (s.conflation.call k).1 = [] then [] else [(s.conflation.call k).1]) := by
  unfold call
  split
  split <;> simp_all

/-- **Breakdowns leave no trace in the conflation.** -/
theorem conflation_after (calls : List Call) :
    (s.after breaks calls).conflation = s.conflation.after calls := by
  induction calls generalizing s with
  | nil => rfl
  | cons k calls ih =>
    show (after breaks (s.call breaks k).2 calls).conflation = (s.conflation.call k).2.after calls
    rw [ih, conflation_call]

end Laws

end Service

namespace Conflation

/-! ## What happens to the windows -/

/-- The sample that a window or a delivery holds after a later one came in. One that cannot be merged is
skipped. -/
def absorb (held m : Metric) : Metric :=
  match held.conflate m with
  | .ok merged => merged
  | .error _ => held

/-- The first sample with the later ones merged into it, in order. -/
def merged : List Metric → Option Metric
  | [] => none
  | m :: later => some (later.foldl absorb m)

/-- The entry of a name in the window of a deadline. -/
def held? (c : Conflation) (deadline : UInt64) (fqn : String) : Option Metric :=
  (c.windows.get? deadline).bind (fun w => w.get? fqn)

/-- The number of entries in all open windows. -/
def entryCount (c : Conflation) : Nat := c.windows.sum Table.size

/-- The open windows that are due at an instant, with their deadlines, the earliest first. -/
def ripe (c : Conflation) (now : UInt64) : List (UInt64 × Window) :=
  c.windows.slots.filter (fun s => decide (s.1 ≤ now))

/-- The deadlines of the open windows that are due at an instant, the earliest first. -/
def due (c : Conflation) (now : UInt64) : List UInt64 := (c.ripe now).map Prod.fst

/-- The number of entries in the open windows that are due at an instant. -/
def dueCount (c : Conflation) (now : UInt64) : Nat := ((c.ripe now).map (fun s => s.2.size)).sum

/-- What happens to the windows. -/
inductive Event where
  /-- A sample is filed under a deadline, and there is or is not room for a new entry. -/
  | filed (deadline : UInt64) (sample : Metric) (room : Bool)
  /-- The windows are closed that are due at an instant. -/
  | drained (now : UInt64)

/-- The filings of samples one after another. There is room if all windows together have fewer entries than
they may have. -/
def filings (deadline : UInt64) (c : Conflation) : List Metric → List Event
  | [] => []
  | m :: rest =>
    .filed deadline m (decide (c.entryCount < c.capacity)) :: filings deadline (c.file deadline m) rest

/-- What a call does to the windows. -/
def Call.events (c : Conflation) : Call → List Event
  | enqueue now metrics => filings (deadlineAfter now c.period) c (metrics.filter mayWait)
  | drain now => [.drained now]
  | flush => [.drained lastInstant]

/-- What calls that are made in order do to the windows, oldest first. -/
def history (c : Conflation) : List Call → List Event
  | [] => []
  | k :: rest => k.events c ++ history (c.call k).2 rest

/-- Does the event close the window of a deadline? -/
def Event.closes (deadline : UInt64) : Event → Bool
  | filed _ _ _ => false
  | drained now => decide (deadline ≤ now)

/-- The sample that the event files under a deadline and a name, and whether there was room. -/
def Event.files (deadline : UInt64) (fqn : String) : Event → Option (Metric × Bool)
  | filed d m room => if d = deadline ∧ m.fqn = fqn then some (m, room) else none
  | drained _ => none

/-- The samples of a name that were filed under a deadline since its window was last closed, and whether
there was room for each. -/
def arrivals (h : List Event) (deadline : UInt64) (fqn : String) : List (Metric × Bool) :=
  (h.rtakeWhile (fun e => !e.closes deadline)).filterMap (Event.files deadline fqn)

/-- The samples of a name that were admitted to the window of a deadline since it was last closed: the
first one for which there was room, and all later ones. -/
def admitted (h : List Event) (deadline : UInt64) (fqn : String) : List Metric :=
  ((arrivals h deadline fqn).dropWhile (fun a => !a.2)).map Prod.fst

end Conflation

end MetricRouter
