import MetricRouter.CommandLine.Arguments
import MetricRouter.Settings.File
import MetricRouter.Settings.Validation

/-!
# The command

* `Arguments.load` — the settings that a router is started with: defaults, then the file, then arguments
  and environment;
* `Settings.report` — what a check of the settings shows;
* `plan` — what the command does before any router runs.
-/

namespace MetricRouter

/-- A file of settings, and its text or the reason why it could not be read. -/
structure SettingsFile where
  path : String
  content : Except String String

/-! ## Reports -/

/-- The line of a destination. -/
def DestinationSettings.report (d : DestinationSettings) : String :=
  "  Destination " ++ d.name ++ " (" ++ d.kind.title ++ "): [" ++
    String.intercalate ", " (d.patterns.map Text.quoteText) ++ "]"

/-- What a check of settings shows, line by line. -/
def Settings.report (s : Settings) : List String :=
  ["Configuration is valid!",
   "  Listener: udp://" ++ s.listener.address.display ++ ":" ++ toString s.listener.port,
   "  Catalog: " ++ s.catalog.backend.title,
   if s.conflation.enabled then "  Conflation period: " ++ s.conflation.period.decimal
   else "  Conflation: disabled"] ++ s.destinations.map DestinationSettings.report

/-- The settings of a file. -/
def SettingsFile.settings (f : SettingsFile) : Except Failure Settings :=
  match f.content with
  | .ok text => Settings.ofYaml text
  | .error reason =>
    .error (.config ("Failed to read config file " ++ Text.quoteText f.path ++ ": " ++ reason))

/-- The failure of a start on a port that cannot be had. -/
def portFailure (port : Nat) (reason : String) : Failure :=
  .config ("Port " ++ toString port ++ " is not available: " ++ reason)

namespace CommandLine

/-- Settings with what the arguments say in place of what they said before. -/
def Arguments.override (a : Arguments) (s : Settings) : Settings :=
  { s with
    listener := { s.listener with
      address := a.bind.getD s.listener.address
      port := a.port.getD s.listener.port }
    conflation := { s.conflation with
      enabled := s.conflation.enabled && !a.noConflation
      period := a.conflationPeriodMillis.elim s.conflation.period Duration.ofMillis }
    debug := a.debug }

/-- The settings that a router is started with. -/
def Arguments.load (a : Arguments) (file : Option SettingsFile) : Except Failure Settings := do
  let s ← file.elim (.ok {}) SettingsFile.settings
  (a.override s).checked

/-- What the command says about itself. -/
def versionLines : List String := ["apmrouter 0.1.0", "Metrics ingestion and routing backbone"]

/-- What there is to do. -/
inductive Plan where
  /-- To print lines and to stop. -/
  | print (lines : List String)
  /-- To start a router. -/
  | start (settings : Settings)

/-- What the command does. -/
def plan (a : Arguments) (file : Option SettingsFile) : Except Failure Plan :=
  if a.version then .ok (.print versionLines)
  else do
    let s ← a.load file
    return if a.checkConfig then .print s.report else .start s

end CommandLine

end MetricRouter
