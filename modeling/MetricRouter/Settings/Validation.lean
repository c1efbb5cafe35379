import MetricRouter.Failure
import MetricRouter.Pattern.Compile
import MetricRouter.Settings.Basic
import MetricRouter.Text.Blank

/-!
# Sound settings

* `Settings.check` — reports the first fault of settings;
* `DestinationSettings.check` — the same for one destination.
-/

namespace MetricRouter

/-- A number that may not be zero, by its name. -/
structure Positive where
  name : String
  value : Nat

/-- Reports the first of these numbers that is zero. -/
def Positive.checkAll : List Positive → Except Failure Unit
  | [] => .ok ()
  | p :: rest => if p.value = 0 then .error (.config (p.name ++ " must be greater than 0")) else checkAll rest

/-- The numbers of settings that may not be zero. -/
def Settings.positives (s : Settings) : List Positive :=
  [⟨"max_datagram_size", s.listener.maxDatagramSize⟩,
   ⟨"conflation.max_queue_size", s.conflation.maxQueueSize⟩,
   ⟨"conflation.worker_threads", s.conflation.workers⟩,
   ⟨"conflation.conflation_period", s.conflation.period.nanos⟩,
   ⟨"conflation.drain_interval", s.conflation.drainInterval.nanos⟩,
   ⟨"ingest.channel_idle_timeout", s.ingest.channelIdleTime.nanos⟩,
   ⟨"router.worker_threads", s.router.workers⟩,
   ⟨"router.queue_size", s.router.queueSize⟩]

/-- Reports the first of these patterns that is no regular expression. -/
def checkPatterns : List String → Except Failure Unit
  | [] => .ok ()
  | p :: rest =>
    match Pattern.Regex.compile p with
    | .error _ => .error .invalidPattern
    | .ok _ => checkPatterns rest

namespace DestinationSettings

/-- Reports the first fault of a destination; `taken` are the names of those before it. -/
def check (taken : List String) (d : DestinationSettings) : Except Failure Unit :=
  if (Text.trim d.name).isEmpty then .error (.config "destination name cannot be empty")
  else if taken.contains d.name then
    .error (.config ("duplicate destination name '" ++ d.name ++ "'"))
  else if d.patterns.isEmpty then .error (.config ("destination '" ++ d.name ++ "' has no patterns"))
  else if d.inboxCapacity = 0 then
    .error (.config ("destination '" ++ d.name ++ "' inbox_capacity must be greater than 0"))
  else checkPatterns d.patterns

/-- Reports the first fault of destinations that come after those of the names `taken`. -/
def checkAll (taken : List String) : List DestinationSettings → Except Failure Unit
  | [] => .ok ()
  | d :: rest =>
    match d.check taken with
    | .error e => .error e
    | .ok _ => checkAll (d.name :: taken) rest

end DestinationSettings

namespace Settings

/-- Reports the first fault of settings. -/
def check (s : Settings) : Except Failure Unit :=
  match Positive.checkAll s.positives with
  | .error e => .error e
  | .ok _ => DestinationSettings.checkAll [] s.destinations

/-- The settings if they have no fault. -/
def checked (s : Settings) : Except Failure Settings := s.check.map (fun _ => s)

end Settings

end MetricRouter
