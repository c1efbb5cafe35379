import MetricRouter.Net.Address
import MetricRouter.Time.Duration

/-!
# Settings

All that a router can be told before it starts, with the defaults of what it is not told. Numbers of
bytes, samples and workers fit in 64 bits.
-/

namespace MetricRouter

/-- Where agents send their frames. -/
structure ListenerSettings where
  address : Net.Ip := .v4 0 0 0 0
  port : Nat := 2094
  /-- The largest datagram that is taken in. -/
  maxDatagramSize : Nat := 65507

/-- How the catalog files its identities. -/
inductive Backend where
  | hashed
  | fqn
  deriving DecidableEq, Repr

structure CatalogSettings where
  backend : Backend := .hashed

structure ConflationSettings where
  /-- Are samples conflated at all? -/
  enabled : Bool := true
  maxQueueSize : Nat := 100000
  workers : Nat := 1
  period : Duration := .ofSeconds 1
  /-- The pause between two looks for windows that are due. -/
  drainInterval : Duration := .ofMillis 50

structure RouterSettings where
  workers : Nat := 5
  queueSize : Nat := 1000

structure IngestSettings where
  /-- How long an agent has to forget its tokens before it is told again. -/
  resetTimeout : Duration := .ofSeconds 15
  channelIdleTime : Duration := .ofSeconds 60

structure MonitoringSettings where
  statsInterval : Duration := .ofSeconds 30

/-- How much is logged. -/
inductive LogLevel where
  | trace
  | debug
  | info
  | warn
  | error
  deriving DecidableEq, Repr

structure LoggingSettings where
  level : LogLevel := .info
  structured : Bool := false

/-- What a destination does with samples. -/
inductive DestinationKind where
  /-- It writes them to the log. -/
  | log
  /-- It keeps them until they are taken out. -/
  | inbox
  deriving DecidableEq, Repr

/-- A destination with the patterns of the names that it is offered. -/
structure DestinationSettings where
  name : String
  kind : DestinationKind := .log
  patterns : List String
  /-- The number of samples that an inbox has room for. -/
  inboxCapacity : Nat := 1024
  deriving DecidableEq, Repr

/-- Everything a router is told. -/
structure Settings where
  listener : ListenerSettings := {}
  catalog : CatalogSettings := {}
  conflation : ConflationSettings := {}
  router : RouterSettings := {}
  ingest : IngestSettings := {}
  monitoring : MonitoringSettings := {}
  logging : LoggingSettings := {}
  destinations : List DestinationSettings := [{ name := "console", patterns := [".*"] }]
  /-- Set for one run only, never by a file. -/
  debug : Bool := false

/-! ## Names -/

/-- All ways to file identities. -/
def Backend.all : List Backend := [.hashed, .fqn]

/-- The name in files. -/
def Backend.name : Backend → String
  | hashed => "hashed"
  | fqn => "fqn"

/-- The name in reports. -/
def Backend.title : Backend → String
  | hashed => "Hashed"
  | fqn => "Fqn"

/-- All levels. -/
def LogLevel.all : List LogLevel := [.trace, .debug, .info, .warn, .error]

/-- The name in files, and of the filter that shows what is logged at this level or above. -/
def LogLevel.name : LogLevel → String
  | trace => "trace"
  | debug => "debug"
  | info => "info"
  | warn => "warn"
  | error => "error"

/-- All kinds of destinations. -/
def DestinationKind.all : List DestinationKind := [.log, .inbox]

/-- The name in files. -/
def DestinationKind.name : DestinationKind → String
  | log => "log"
  | inbox => "inbox"

/-- The name in reports. -/
def DestinationKind.title : DestinationKind → String
  | log => "Log"
  | inbox => "Inbox"

/-- The value of a name. -/
def withName? {α : Type} (name : α → String) (all : List α) (s : String) : Option α :=
  all.find? (fun a => name a == s)

end MetricRouter
