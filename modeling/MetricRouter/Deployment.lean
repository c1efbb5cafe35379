import MetricRouter.Routing.Outlets
import MetricRouter.Routing.Pool
import MetricRouter.Settings.Basic

/-!
# Destinations as settings want them

A router follows a list of destinations that may change while it runs.

* `Deployment.apply` — makes the destinations those of a list: what the list does not name goes, what is
  there already gets the patterns of the list, and what is missing is added.

If the patterns of a destination are invalid, the list is applied up to it.
-/

namespace MetricRouter

/-- A router, and the inboxes of its destinations that nobody has taken yet. -/
structure Deployment where
  pool : Pool Outlets
  /-- The serial numbers of the destinations whose inboxes are here, by name. -/
  inboxes : Table String Nat

namespace Deployment

/-- The deployment with other outlets. -/
def withOutlets (d : Deployment) (os : Outlets) : Deployment :=
  { d with pool := { d.pool with router := { d.pool.router with world := os } } }

/-- The outlets of all destinations. -/
def outlets (d : Deployment) : Outlets := d.pool.router.world

/-- Gives up the inbox of a name. -/
def dropInbox (d : Deployment) (name : String) : Deployment :=
  match d.inboxes.get? name with
  | none => d
  | some serial =>
    { d with inboxes := d.inboxes.erase name }.withOutlets (d.outlets.close serial)

/-- Removes a destination with its inbox. -/
def remove (d : Deployment) (name : String) : Deployment :=
  { d with pool := (d.pool.unregister name).2 }.dropInbox name

/-- Removes the destinations whose names a list does not have. -/
def removeOthers (d : Deployment) (wanted : List String) : Deployment :=
  (d.pool.router.destinations.filter (fun name => !wanted.contains name)).foldl remove d

/-- What a destination of a kind does with samples. -/
def outlet (s : DestinationSettings) : Outlet :=
  match s.kind with
  | .log => .log
  | .inbox => .inbox (.create s.inboxCapacity)

/-- Adds a destination. -/
def add (d : Deployment) (s : DestinationSettings) : Except Failure Unit × Deployment :=
  let (destination, os) := d.outlets.create s.name (outlet s)
  let (r, pool) := (d.withOutlets os).pool.register destination s.patterns
  let d := { d with pool := pool }
  match r, s.kind with
  | .ok _, .inbox => (r, { d with inboxes := d.inboxes.insert s.name destination.serial })
  | _, _ => (r, d)

/-- Adds a destination, or sets the patterns of the one that has its name. -/
def place (d : Deployment) (s : DestinationSettings) : Except Failure Unit × Deployment :=
  if (d.pool.router.binding? s.name).isSome then
    let (r, pool) := d.pool.setPatterns s.name s.patterns
    (r, { d with pool := pool })
  else d.add s

/-- Places destinations in turn up to the first failure. -/
def placeAll (d : Deployment) : List DestinationSettings → Except Failure Unit × Deployment
  | [] => (.ok (), d)
  | s :: rest =>
    match d.place s with
    | (.error e, d) => (.error e, d)
    | (.ok _, d) => placeAll d rest

/-- Makes the destinations those of a list. -/
def apply (d : Deployment) (wanted : List DestinationSettings) : Except Failure Unit × Deployment :=
  (d.removeOthers (wanted.map DestinationSettings.name)).placeAll wanted

/-- Takes the inbox of a name: the serial number of its destination. -/
def takeInbox (d : Deployment) (name : String) : Option Nat × Deployment :=
  (d.inboxes.get? name, { d with inboxes := d.inboxes.erase name })

end Deployment

end MetricRouter
