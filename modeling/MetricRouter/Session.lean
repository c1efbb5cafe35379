import MetricRouter.Deployment
import MetricRouter.Pipeline
import MetricRouter.Settings.Validation

/-!
# Sessions

A session is one run of a router as its settings want it, from its start until it is stopped.

* `Session.create` — the parts of a session, made as the settings say;
* `Session.receive` — takes in a datagram of an agent;
* `Session.tick` — delivers what the conflation lets go;
* `Session.reload` — other destinations, while the session runs;
* `Session.stop` — delivers everything that is still held back.
-/

namespace MetricRouter

/-- One run of a router. -/
structure Session (τ : Type) where
  settings : Settings
  pipeline : Pipeline Outlets τ
  /-- The inboxes that nobody has taken yet. -/
  inboxes : Table String Nat

/-- How a catalog derives its keys. -/
def Backend.strategy : Backend → KeyStrategy
  | hashed => .coded
  | fqn => .byName

/-- The conflation that settings ask for. -/
def ConflationSettings.create (s : ConflationSettings) : Conflation :=
  Conflation.create s.period.millis s.maxQueueSize

/-- The router that settings ask for, without a destination. -/
def RouterSettings.create (s : RouterSettings) : Pool Outlets :=
  Pool.create (Router.create .empty) s.workers s.queueSize

namespace Session

variable {τ : Type}

/-- The destinations of a session. -/
def deployment (s : Session τ) : Deployment := ⟨s.pipeline.router, s.inboxes⟩

/-- The session with other destinations. -/
def withDeployment (s : Session τ) (d : Deployment) : Session τ :=
  { s with pipeline := { s.pipeline with router := d.pool }, inboxes := d.inboxes }

/-- Makes the destinations those of a list, as far as their patterns allow it. -/
def reload (s : Session τ) (wanted : List DestinationSettings) : Except Failure Unit × Session τ :=
  let (r, d) := s.deployment.apply wanted
  (r, s.withDeployment d)

/-- The parts of a session that has no destination yet. -/
def parts (settings : Settings) (network : τ) : Session τ :=
  { settings := settings
    pipeline :=
      { ingest := Ingest.create (Catalog.fresh settings.catalog.backend.strategy)
          settings.ingest.resetTimeout.millis
        channels := ChannelPool.create true settings.ingest.channelIdleTime.millis
        network := network
        replies := true
        conflation := if settings.conflation.enabled then some settings.conflation.create else none
        router := settings.router.create }
    inboxes := .empty }

/-- A session that has not started. Faulty settings are reported. -/
def create (settings : Settings) (network : τ) : Except Failure (Session τ) :=
  match settings.check with
  | .error e => .error e
  | .ok _ =>
    match (parts settings network).reload settings.destinations with
    | (.error e, _) => .error e
    | (.ok _, s) => .ok s

/-- Takes the inbox of a name: the serial number of its destination. -/
def takeInbox (s : Session τ) (name : String) : Option Nat × Session τ :=
  let (serial, d) := s.deployment.takeInbox name
  (serial, s.withDeployment d)

/-- Starts the workers of the router. -/
def start (s : Session τ) : Session τ :=
  { s with pipeline := { s.pipeline with router := s.pipeline.router.run } }

/-- Lets the workers go on as far as they can. -/
def settle (p : Pipeline Outlets τ) : Pipeline Outlets τ :=
  { p with router := p.router.settle Outlets.receive }

/-- Takes in a datagram, of which what is too long is cut off. The first answer tells whether it could be
read, the second whether it was handled to the end. -/
def receive (transmit : Transmit τ) (s : Session τ) (arrival : Arrival) (datagram : List UInt8)
    (remote : Net.Endpoint) : Except Wire.Fault (Except String Nat) × Session τ :=
  let frame := datagram.take s.settings.listener.maxDatagramSize
  let (r, p) := s.pipeline.handleFrame Outlets.receive transmit arrival frame (some remote)
  (r, { s with pipeline := settle p })

/-- Delivers what the conflation lets go at an instant. -/
def tick (s : Session τ) (now : UInt64) : Session τ :=
  { s with pipeline := settle (s.pipeline.drain Outlets.receive now).2 }

/-- Stops the session once everything is delivered. -/
def stop (s : Session τ) : Session τ :=
  let p := (s.pipeline.flush Outlets.receive).2
  { s with pipeline := { p with router := p.router.shutdown Outlets.receive } }

/-- All lines that log destinations wrote, with the names of their destinations. -/
def log (s : Session τ) : List (String × String) := s.deployment.outlets.lines

/-- Takes the lines that log destinations wrote out of the session. -/
def takeLog (s : Session τ) : List (String × String) × Session τ :=
  (s.log, s.withDeployment (s.deployment.withOutlets { s.deployment.outlets with lines := [] }))

/-- Changes what the network has taken in. -/
def onNetwork {α : Type} (s : Session τ) (change : τ → α × τ) : α × Session τ :=
  let (a, network) := change s.pipeline.network
  (a, { s with pipeline := { s.pipeline with network := network } })

end Session

end MetricRouter
