import MetricRouter.Routing.Destination

/-!
# Dispatching a batch

Every sample of a batch is offered, in order, to every destination whose patterns match its name.

* `offerAll` — one sample, offered along the bindings;
* `sweep` — a batch, sample by sample;
* `Stalled.resume` — what is left of a batch once a destination that kept an offer waiting can answer.

A destination that breaks down ends the dispatch; the rest of the batch is offered to nobody.
-/

namespace MetricRouter

open Pattern (Matchers)

/-- The state of a dispatch on its way, and what it has counted. -/
structure Sweep (σ : Type) where
  matchers : Matchers
  world : σ
  /-- Offers that were accepted. -/
  delivered : Nat
  /-- Offers that were refused. -/
  rejected : Nat
  /-- Samples that matched no binding. -/
  unmatched : Nat

/-- What is left of a dispatch that waits for a destination. -/
structure Stalled where
  bindings : List Binding
  /-- The sample on offer. -/
  metric : Metric
  /-- The destination that it is offered to. -/
  destination : Destination
  /-- The bindings that come after it. -/
  rest : List Binding
  /-- The samples that come after the one on offer. -/
  later : List Metric
  /-- Offers that were accepted so far. -/
  delivered : Nat

/-- How the offers of one sample came out. -/
inductive Offered where
  /-- All bindings were gone through; did one match? -/
  | done (matched : Bool)
  | failed (reason : String)
  /-- A destination keeps the offer waiting; these bindings come after it. -/
  | waiting (destination : Destination) (rest : List Binding)

/-- How a dispatch came out. -/
inductive Outcome where
  /-- The whole batch was gone through, and so many offers were accepted. -/
  | done (delivered : Nat)
  | failed (reason : String)
  | waiting (left : Stalled)

variable {σ : Type}

/-- Makes one offer and counts the answer. -/
def Sweep.offer (receive : Receive σ) (m : Metric) (d : Destination) (s : Sweep σ) : Answer × Sweep σ :=
  match receive d m s.world with
  | (.accepted, w) => (.accepted, { s with world := w, delivered := s.delivered + 1 })
  | (.refused, w) => (.refused, { s with world := w, rejected := s.rejected + 1 })
  | (answer, w) => (answer, { s with world := w })

/-- Offers a sample along the bindings whose patterns match its name. -/
def offerAll (receive : Receive σ) (memoKey : String → Nat) (m : Metric) :
    List Binding → Bool → Sweep σ → Offered × Sweep σ
  | [], matched, s => (.done matched, s)
  | b :: rest, matched, s =>
    match b.patterns.answer memoKey s.matchers m.fqn with
    | (false, ms) => offerAll receive memoKey m rest matched { s with matchers := ms }
    | (true, ms) =>
      match Sweep.offer receive m b.destination { s with matchers := ms } with
      | (.failed reason, s) => (.failed reason, s)
      | (.waiting, s) => (.waiting b.destination rest, s)
      | (_, s) => offerAll receive memoKey m rest true s

/-- Offers the samples of a batch in order. -/
def sweep (receive : Receive σ) (memoKey : String → Nat) (bindings : List Binding) :
    List Metric → Sweep σ → Outcome × Sweep σ
  | [], s => (.done s.delivered, s)
  | m :: later, s =>
    match offerAll receive memoKey m bindings false s with
    | (.failed reason, s) => (.failed reason, s)
    | (.waiting d rest, s) => (.waiting ⟨bindings, m, d, rest, later, s.delivered⟩, s)
    | (.done true, s) => sweep receive memoKey bindings later s
    | (.done false, s) => sweep receive memoKey bindings later { s with unmatched := s.unmatched + 1 }

/-- Makes the standing offer again and goes on from there. -/
def Stalled.resume (receive : Receive σ) (memoKey : String → Nat) (left : Stalled) (s : Sweep σ) :
    Outcome × Sweep σ :=
  match Sweep.offer receive left.metric left.destination { s with delivered := left.delivered } with
  | (.failed reason, s) => (.failed reason, s)
  | (.waiting, s) => (.waiting left, s)
  | (_, s) =>
    match offerAll receive memoKey left.metric left.rest true s with
    | (.failed reason, s) => (.failed reason, s)
    | (.waiting d rest, s) =>
      (.waiting { left with destination := d, rest := rest, delivered := s.delivered }, s)
    | (.done _, s) => sweep receive memoKey left.bindings left.later s

end MetricRouter
