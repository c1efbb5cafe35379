import MetricRouter.Net.Address
import MetricRouter.Wire.Incoming

/-!
# Frames of agents

A frame of metrics is an opcode, a number of metrics, and each metric's body after its length:

    opcode:1 count:4 (length:4 body)…

A body that cannot be read is skipped and counted. Where a length leads past the end of the frame, the
bodies from there on cannot be told apart, and all of them count as malformed.
-/

namespace MetricRouter.Wire

/-- What was read from one frame. -/
structure Batch where
  opcode : Opcode
  /-- The sender; none for metrics of the process itself. -/
  remote : Option Net.Endpoint
  metrics : List Incoming
  /-- The length of the frame. -/
  bytes : Nat
  /-- The number of bodies that could not be read. -/
  malformed : Nat
  deriving DecidableEq

namespace Batch

/-- A batch of metrics of the process itself. -/
def ofLocal (metrics : List Incoming) : Batch :=
  { opcode := .sendMetric, remote := none, metrics := metrics, bytes := 0, malformed := 0 }

/-- The metrics of a number of bodies, and how many bodies could not be read. -/
def readBodies : Nat → List UInt8 → List Incoming × Nat
  | 0, _ => ([], 0)
  | count + 1, bytes =>
    match readBlock .metricBody bytes with
    | .error _ => ([], count + 1)
    | .ok (body, rest) =>
      let (metrics, malformed) := readBodies count rest
      match Incoming.decode body with
      | .ok m => (m :: metrics, malformed)
      | .error _ => (metrics, malformed + 1)

/-- The batch of a frame from a remote. -/
def decode (frame : List UInt8) (remote : Option Net.Endpoint) : Except Fault Batch := do
  let (opcode, rest) ← readOpcode frame
  match opcode with
  | .resetConfirm =>
    return { opcode := opcode, remote := remote, metrics := [], bytes := frame.length, malformed := 0 }
  | .sendMetric | .sendMetricDirect =>
    let (count, rest) ← readNumber .metricCount 4 rest
    let (metrics, malformed) := readBodies count rest
    return { opcode := opcode, remote := remote, metrics := metrics, bytes := frame.length,
             malformed := malformed }
  | other => .error (.notInbound other)

/-- The frame of some metrics. -/
def encode (opcode : Opcode) (metrics : List Incoming) : List UInt8 :=
  opcode.byte :: bigEndian 4 metrics.length ++ metrics.flatMap (fun m => writeBlock m.encode)

end Batch

end MetricRouter.Wire
