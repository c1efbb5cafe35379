import MetricRouter.Routing.Router

/-!
# The router with its workers

Batches wait in a queue of bounded length until a worker is free. As long as the workers are not
running, a batch is delivered at once, by the one who queues it.

* `Pool.queue` — takes in a batch, or drops it when the queue is full;
* `Pool.begin`, `Pool.advance` — the steps of the workers: one takes the oldest batch, and all go on with
  theirs as far as the destinations let them;
* `Pool.settle` — the steps that the workers can make until something happens outside;
* `Pool.run`, `Pool.shutdown` — starts the workers, and stops them once the queue is empty.
-/

namespace MetricRouter

/-- The batch of a worker. -/
inductive Job where
  /-- The worker has it and no sample was offered yet. -/
  | ready (batch : List Metric)
  /-- A destination keeps an offer waiting. -/
  | stalled (left : Stalled)

/-- A router with workers and the batches that wait for them. -/
structure Pool (σ : Type) where
  router : Router σ
  workers : Nat
  capacity : Nat
  isRunning : Bool
  /-- The batches that wait for a worker, oldest first. -/
  waiting : List (List Metric)
  /-- The batches of the workers. -/
  busy : List Job

namespace Pool

variable {σ : Type}

/-- A pool that is not running. It has at least one worker and room for at least one batch. -/
def create (router : Router σ) (workers queueSize : Nat) : Pool σ :=
  { router := router, workers := max workers 1, capacity := max queueSize 1, isRunning := false,
    waiting := [], busy := [] }

/-- Starts the workers. -/
def run (p : Pool σ) : Pool σ := { p with isRunning := true }

/-- Delivers a batch at once. -/
def route (receive : Receive σ) (p : Pool σ) (batch : List Metric) : Outcome × Pool σ :=
  let (outcome, router) := p.router.dispatch receive batch
  (outcome, { p with router := router })

/-- Hands a batch to the workers and tells whether it was taken. A batch that finds the queue full is
dropped and counted. When the workers are not running it is delivered at once, and a destination that
breaks down is felt by the caller. -/
def queue (receive : Receive σ) (p : Pool σ) (batch : List Metric) : Except String Bool × Pool σ :=
  if batch.isEmpty then (.ok true, p)
  else if p.isRunning then
    if p.waiting.length < p.capacity then (.ok true, { p with waiting := p.waiting ++ [batch] })
    else
      let counters := p.router.counters
      (.ok false,
        { p with router := { p.router with counters :=
          { counters with dropped := counters.dropped + batch.length } } })
  else
    match p.route receive batch with
    | (.failed reason, p) => (.error reason, p)
    | (_, p) => (.ok true, p)

/-! ## Steps of the workers -/

/-- A free worker takes the oldest batch; `none` if there is no free worker or no batch. -/
def begin (p : Pool σ) : Option (Pool σ) :=
  match p.waiting with
  | [] => none
  | batch :: rest =>
    if p.busy.length < p.workers then some { p with waiting := rest, busy := p.busy ++ [.ready batch] }
    else none

/-- Goes on with a batch; what is left of it if it has to wait. A destination that breaks down ends the
batch and is counted. -/
def Job.advance (receive : Receive σ) (r : Router σ) (job : Job) : Option Job × Router σ :=
  let (outcome, r) := match job with
    | .ready batch => r.dispatch receive batch
    | .stalled left => r.resume receive left
  match outcome with
  | .done _ => (none, r)
  | .waiting left => (some (.stalled left), r)
  | .failed _ => (none, { r with counters := { r.counters with failures := r.counters.failures + 1 } })

/-- Goes on with several batches in turn. -/
def advanceAll (receive : Receive σ) : Router σ → List Job → List Job × Router σ
  | r, [] => ([], r)
  | r, job :: rest =>
    let (left, r) := Job.advance receive r job
    let (more, r) := advanceAll receive r rest
    (left.toList ++ more, r)

/-- Every worker goes on with its batch. -/
def advance (receive : Receive σ) (p : Pool σ) : Pool σ :=
  let (busy, router) := advanceAll receive p.router p.busy
  { p with busy := busy, router := router }

/-- Up to `rounds` times, the workers go on and a free one takes the next batch. -/
def rounds (receive : Receive σ) : Nat → Pool σ → Pool σ
  | 0, p => p.advance receive
  | n + 1, p =>
    let p := p.advance receive
    match p.begin with
    | none => p
    | some p => rounds receive n p

/-- All steps that the workers can make by themselves. Each round begins with one of the batches that
wait, so as many rounds as there are batches are enough. -/
def settle (receive : Receive σ) (p : Pool σ) : Pool σ := p.rounds receive p.waiting.length

/-- Stops the workers once they have delivered what was queued. -/
def shutdown (receive : Receive σ) (p : Pool σ) : Pool σ :=
  { p.settle receive with isRunning := false }

/-! ## Destinations -/

/-- Applies a change to bindings also to those of a batch on its way. -/
def rebind (f : List Binding → List Binding) : Job → Job
  | .ready batch => .ready batch
  | .stalled left => .stalled { left with bindings := f left.bindings, rest := f left.rest }

/-- Replaces the patterns of the destination of a name. -/
def setPatterns (p : Pool σ) (name : String) (patterns : List String) : Except Failure Unit × Pool σ :=
  match p.router.setPatterns name patterns with
  | (.error e, router) => (.error e, { p with router := router })
  | (.ok _, router) =>
    let change := match router.binding? name with
      | none => id
      | some b => rebind (Router.setGroup b.serial b.patterns)
    (.ok (), { p with router := router, busy := p.busy.map change })

/-- Puts a destination at the end, in place of an earlier one of its name. -/
def register (p : Pool σ) (d : Destination) (patterns : List String) : Except Failure Unit × Pool σ :=
  let (r, router) := p.router.register d patterns
  (r, { p with router := router })

/-- Removes the destination of a name and tells whether there was one. -/
def unregister (p : Pool σ) (name : String) : Bool × Pool σ :=
  let (r, router) := p.router.unregister name
  (r, { p with router := router })

end Pool

end MetricRouter
