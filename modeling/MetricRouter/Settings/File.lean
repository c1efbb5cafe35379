import MetricRouter.Failure
import MetricRouter.Settings.Basic
import MetricRouter.Yaml.Node

/-!
# Settings files

Settings are written as a YAML document. Each part is a mapping of its own. What is left out has its
default, and entries of other names are passed over.

* `Settings.ofYaml` — the settings of a text.
-/

namespace MetricRouter

open Yaml (Document Node)

/-- Reading, with the number of aliases that may still be followed; `none` if it fails. -/
abbrev Reading := StateT Nat Option

/-- A value that is read off a node of a document; the reading fails if the node holds none. -/
abbrev NodeReader (α : Type) := Document → Node → Reading α

namespace NodeReader

/-- What a node stands for. -/
def target : NodeReader Node := fun d n =>
  match n with
  | .reference number => fun left => if left = 0 then none else some (d.node number, left - 1)
  | n => pure n

/-! ## Scalars -/

/-- A text. Every scalar is one, however it is written. -/
def text : NodeReader String := fun d n => do
  match ← target d n with
  | .scalar _ _ s => return s
  | _ => failure

/-- The text of a value that is not quoted, or that is a block of lines under the tag given. -/
def bare (tag : String) : NodeReader String := fun d n => do
  match ← target d n with
  | .scalar _ .plain s => return s
  | .scalar t .literal s => if t == some (Text.utf8 tag) then return s else failure
  | _ => failure

/-- The spellings of true and false. -/
def flagNames : List (String × Bool) :=
  [("true", true), ("True", true), ("TRUE", true), ("false", false), ("False", false), ("FALSE", false)]

/-- Yes or no. -/
def flag : NodeReader Bool := fun d n => do flagNames.lookup (← bare "tag:yaml.org,2002:bool" d n)

/-- The number that digits of a base stand for. -/
def digits? (base : Nat) (cs : List Char) : Option Nat := do
  let ds ← cs.mapM (Net.digit? base)
  if ds.isEmpty then none else return ds.foldl (fun n d => base * n + d) 0

/-- The number that a text stands for: in base 16, 8 or 2 after `0x`, `0o` or `0b`, and else in decimal
without zeros in front. A `+` may come first. -/
def wholeNumber? (s : String) : Option Nat :=
  let cs := match s.toList with
    | '+' :: cs => cs
    | cs => cs
  match cs with
  | '0' :: 'x' :: cs => digits? 16 cs
  | '0' :: 'o' :: cs => digits? 8 cs
  | '0' :: 'b' :: cs => digits? 2 cs
  | '0' :: _ :: _ => none
  | cs => digits? 10 cs

/-- A number below a bound. -/
def number (bound : Nat) : NodeReader Nat := fun d n => do
  let v ← wholeNumber? (← bare "tag:yaml.org,2002:int" d n)
  if v < bound then return v else failure

/-- A number of bytes, samples or workers. -/
def size : NodeReader Nat := number UInt64.size

/-- An address. -/
def address : NodeReader Net.Ip := fun d n => do Net.Ip.parse? (← text d n)

/-- A duration. -/
def duration : NodeReader Duration := fun d n => do Duration.read? (← text d n)

/-- The ways to write that there is no value. -/
def nullNames : List String := ["", "~", "null", "Null", "NULL"]

/-- The text of a tag after its `!`; other tags and those that are no text have none. -/
def tagName? (tag : Yaml.Tag) : Option String :=
  match tag with
  | b :: name => if b == 0x21 then String.fromUTF8? ⟨name.toArray⟩ else none
  | [] => none

/-- One of several names: the text, or a tag before no value. -/
def choice {α : Type} (name : α → String) (all : List α) : NodeReader α := fun d n => do
  match ← target d n with
  | .scalar tag style s =>
    match tag.bind tagName? with
    | some tag => if style == .plain && nullNames.contains s then withName? name all tag else failure
    | none => withName? name all s
  | _ => failure

/-! ## Collections -/

/-- Is the value left out? -/
def isAbsent : Node → Bool
  | .scalar _ .plain "" => true
  | _ => false

/-- A list; a value that is left out is an empty one. -/
def list {α : Type} (item : NodeReader α) : NodeReader (List α) := fun d n => do
  match ← target d n with
  | .sequence _ items => items.mapM (item d)
  | node => if isAbsent node then return [] else failure

/-- The entries of a mapping; a value that is left out is an empty one. -/
def entries : NodeReader (List (String × Node)) := fun d n => do
  match ← target d n with
  | .mapping _ es => es.mapM (fun e => do return (← text d e.1, e.2))
  | node => if isAbsent node then return [] else failure

/-- The entries of a part of the settings. -/
structure Fields where
  document : Document
  entries : List (String × Node)

/-- The entries of the names given, each of which may come once. -/
def fields (names : List String) : NodeReader Fields := fun d n => do
  let es := (← entries d n).filter (fun e => names.contains e.1)
  if (es.map Prod.fst).Nodup then return ⟨d, es⟩ else failure

/-- The value of an entry that has to be there. -/
def Fields.required {α : Type} (f : Fields) (name : String) (reader : NodeReader α) : Reading α := do
  reader f.document (← f.entries.lookup name)

/-- The value of an entry, or the default if it is not there. -/
def Fields.value {α : Type} (f : Fields) (name : String) (reader : NodeReader α) (default : α) : Reading α :=
  match f.entries.lookup name with
  | none => pure default
  | some n => reader f.document n

/-! ## The parts of the settings -/

def listener : NodeReader ListenerSettings := fun d n => do
  let default : ListenerSettings := {}
  let f ← fields ["bind_address", "port", "max_datagram_size"] d n
  return {
    address := ← f.value "bind_address" address default.address
    port := ← f.value "port" (number UInt16.size) default.port
    maxDatagramSize := ← f.value "max_datagram_size" size default.maxDatagramSize }

def catalog : NodeReader CatalogSettings := fun d n => do
  let default : CatalogSettings := {}
  let f ← fields ["backend"] d n
  return { backend := ← f.value "backend" (choice Backend.name Backend.all) default.backend }

def conflation : NodeReader ConflationSettings := fun d n => do
  let default : ConflationSettings := {}
  let f ← fields ["enabled", "max_queue_size", "worker_threads", "conflation_period", "drain_interval"] d n
  return {
    enabled := ← f.value "enabled" flag default.enabled
    maxQueueSize := ← f.value "max_queue_size" size default.maxQueueSize
    workers := ← f.value "worker_threads" size default.workers
    period := ← f.value "conflation_period" duration default.period
    drainInterval := ← f.value "drain_interval" duration default.drainInterval }

def router : NodeReader RouterSettings := fun d n => do
  let default : RouterSettings := {}
  let f ← fields ["worker_threads", "queue_size"] d n
  return {
    workers := ← f.value "worker_threads" size default.workers
    queueSize := ← f.value "queue_size" size default.queueSize }

def ingest : NodeReader IngestSettings := fun d n => do
  let default : IngestSettings := {}
  let f ← fields ["reset_timeout", "channel_idle_timeout"] d n
  return {
    resetTimeout := ← f.value "reset_timeout" duration default.resetTimeout
    channelIdleTime := ← f.value "channel_idle_timeout" duration default.channelIdleTime }

def monitoring : NodeReader MonitoringSettings := fun d n => do
  let default : MonitoringSettings := {}
  let f ← fields ["stats_interval"] d n
  return { statsInterval := ← f.value "stats_interval" duration default.statsInterval }

def logging : NodeReader LoggingSettings := fun d n => do
  let default : LoggingSettings := {}
  let f ← fields ["level", "structured"] d n
  return {
    level := ← f.value "level" (choice LogLevel.name LogLevel.all) default.level
    structured := ← f.value "structured" flag default.structured }

def destination : NodeReader DestinationSettings := fun d n => do
  let default : DestinationSettings := { name := "", patterns := [] }
  let f ← fields ["name", "kind", "patterns", "inbox_capacity"] d n
  return {
    name := ← f.required "name" text
    kind := ← f.value "kind" (choice DestinationKind.name DestinationKind.all) default.kind
    patterns := ← f.required "patterns" (list text)
    inboxCapacity := ← f.value "inbox_capacity" size default.inboxCapacity }

def settings : NodeReader Settings := fun d n => do
  let default : Settings := {}
  let f ← fields ["server", "catalog", "conflation", "router", "ingest", "monitoring", "logging",
    "destinations"] d n
  return {
    listener := ← f.value "server" listener default.listener
    catalog := ← f.value "catalog" catalog default.catalog
    conflation := ← f.value "conflation" conflation default.conflation
    router := ← f.value "router" router default.router
    ingest := ← f.value "ingest" ingest default.ingest
    monitoring := ← f.value "monitoring" monitoring default.monitoring
    logging := ← f.value "logging" logging default.logging
    destinations := ← f.value "destinations" (list destination) default.destinations }

end NodeReader

namespace Settings

/-- The settings of a text, which may still have faults. -/
def ofYaml? (text : String) : Option Settings :=
  match Document.read text with
  | .error _ => none
  | .ok d => (NodeReader.settings d d.root d.aliasLimit).map Prod.fst

/-- The settings of a text; one that cannot be read is reported. -/
def ofYaml (text : String) : Except Failure Settings :=
  match ofYaml? text with
  | none => .error (.config "Failed to parse YAML config")
  | some s => .ok s

end Settings

end MetricRouter
