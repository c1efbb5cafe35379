import MetricRouter.Settings.Basic
import MetricRouter.Yaml.Node

/-!
# Settings in writing

* `Settings.node` — settings as the root of a document. Numbers and marks are plain scalars, and all texts
  are quoted.
-/

namespace MetricRouter

open Yaml (Node)

/-- A text as a node. -/
def textNode (s : String) : Node := .scalar none .quoted s

/-- A number as a node. -/
def numberNode (n : Nat) : Node := .scalar none .plain (toString n)

/-- Yes or no as a node. -/
def flagNode (b : Bool) : Node := .scalar none .plain (if b then "true" else "false")

/-- A duration as a node. -/
def durationNode (d : Duration) : Node := textNode d.display

/-- A part of the settings as a node. -/
def partNode (entries : List (String × Node)) : Node :=
  .mapping none (entries.map (fun e => (textNode e.1, e.2)))

/-- A destination as a node. -/
def DestinationSettings.node (d : DestinationSettings) : Node :=
  partNode
    [("name", textNode d.name),
     ("kind", textNode d.kind.name),
     ("patterns", .sequence none (d.patterns.map textNode)),
     ("inbox_capacity", numberNode d.inboxCapacity)]

/-- Settings as a node, less what is set for one run only. -/
def Settings.node (s : Settings) : Node :=
  partNode
    [("server", partNode
       [("bind_address", textNode s.listener.address.display),
        ("port", numberNode s.listener.port),
        ("max_datagram_size", numberNode s.listener.maxDatagramSize)]),
     ("catalog", partNode [("backend", textNode s.catalog.backend.name)]),
     ("conflation", partNode
       [("enabled", flagNode s.conflation.enabled),
        ("max_queue_size", numberNode s.conflation.maxQueueSize),
        ("worker_threads", numberNode s.conflation.workers),
        ("conflation_period", durationNode s.conflation.period),
        ("drain_interval", durationNode s.conflation.drainInterval)]),
     ("router", partNode
       [("worker_threads", numberNode s.router.workers),
        ("queue_size", numberNode s.router.queueSize)]),
     ("ingest", partNode
       [("reset_timeout", durationNode s.ingest.resetTimeout),
        ("channel_idle_timeout", durationNode s.ingest.channelIdleTime)]),
     ("monitoring", partNode [("stats_interval", durationNode s.monitoring.statsInterval)]),
     ("logging", partNode
       [("level", textNode s.logging.level.name),
        ("structured", flagNode s.logging.structured)]),
     ("destinations", .sequence none (s.destinations.map DestinationSettings.node))]

end MetricRouter
