import MetricRouter.Channels

/-!
# The outbox of a socket

Frames are put into the outbox, and whoever has the socket sends them. A fault that turned up when a frame
was sent is reported at the next frame for the same remote.
-/

namespace MetricRouter.CommandLine

/-- Frames on their way out. -/
structure Outbox where
  /-- The frames with their remotes, the first one put in first. -/
  frames : List (Net.Endpoint × List UInt8) := []
  /-- The faults that nobody was told yet. -/
  faults : List (Net.Endpoint × String) := []

namespace Outbox

/-- Puts in a frame, or tells the fault of an earlier one. -/
def put (remote : Net.Endpoint) (frame : List UInt8) (o : Outbox) : Option String × Outbox :=
  match o.faults.lookup remote with
  | some reason => (some reason, { o with faults := o.faults.filter (fun e => e.1 != remote) })
  | none => (none, { o with frames := o.frames ++ [(remote, frame)] })

/-- Takes all frames out. -/
def takeFrames (o : Outbox) : List (Net.Endpoint × List UInt8) × Outbox :=
  (o.frames, { o with frames := [] })

/-- Notes a fault. -/
def note (remote : Net.Endpoint) (reason : String) (o : Outbox) : Outbox :=
  { o with faults := (remote, reason) :: o.faults }

end Outbox

end MetricRouter.CommandLine
