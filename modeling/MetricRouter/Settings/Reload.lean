import MetricRouter.Settings.File
import MetricRouter.Settings.Validation

/-!
# Reloading settings

A file of settings is watched. When it changes, sound settings take the place of the earlier ones; a file
that cannot be read or that has faults changes nothing.
-/

namespace MetricRouter

/-- How a reload came out. -/
inductive Reload where
  | unreadable (reason : String)
  | malformed
  | faulty (failure : Failure)
  | published (settings : Settings)

namespace Reload

/-- Reloads settings from the text of their file. What is set for one run only stays. -/
def ofFile (current : Settings) (content : Except String String) : Reload :=
  match content with
  | .error reason => .unreadable reason
  | .ok text =>
    match Settings.ofYaml? text with
    | none => .malformed
    | some s =>
      match s.check with
      | .error e => .faulty e
      | .ok _ => .published { s with debug := current.debug }

/-- The settings after a reload. -/
def settings (current : Settings) : Reload → Settings
  | published s => s
  | _ => current

/-- What is logged about a reload. -/
def headline : Reload → String
  | unreadable _ => "Failed to read configuration file"
  | malformed => "Failed to parse configuration"
  | faulty _ => "Invalid configuration"
  | published _ => "Configuration reloaded successfully"

/-- The reason of a reload that changed nothing. -/
def reason? : Reload → Option String
  | unreadable reason => some reason
  | malformed => none
  | faulty e => some e.message
  | published _ => none

end Reload

end MetricRouter
