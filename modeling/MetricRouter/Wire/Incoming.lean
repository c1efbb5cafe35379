import MetricRouter.Metric.Name
import MetricRouter.Wire.Reading

/-!
# Metrics on the wire

The body of a metric is a token, the number of its type, its names, a time and a value:

    token:8 type:1 [host agent segments:4 segment… name] time:8 value

The names in brackets are there exactly when the token is -1. Texts and blobs follow their length, longs
have eight bytes.

* `Incoming.encode` — the body of a metric;
* `Incoming.decode` — the metric of a body; what follows it is ignored;
* `Incoming.WellFormed` — the metrics that survive the trip.
-/

namespace MetricRouter.Wire

/-- The raw identifiers of a metric. -/
structure FullName where
  host : String
  agent : String
  segments : List String
  name : String
  deriving DecidableEq

/-- The name that the identifiers stand for, in its text form. -/
def FullName.fqn (n : FullName) : String := Fqn.render n.host n.agent n.name n.segments

/-- How an agent refers to a metric. -/
inductive Key where
  /-- By a token that it was given. -/
  | token (t : Int64)
  /-- By its names. -/
  | named (name : FullName)
  deriving DecidableEq

/-- A sample as an agent sends it. -/
structure Incoming where
  key : Key
  type : MetricType
  time : Int64
  value : Value
  deriving DecidableEq

namespace Incoming

/-- The token on the wire, -1 in front of names. -/
def token (m : Incoming) : Int64 :=
  match m.key with
  | .token t => t
  | .named _ => noToken

/-- Can the body of the metric be read back as the metric? Lengths have to fit in four bytes, and the
value has to be of the kind that the type carries. -/
structure WellFormed (m : Incoming) : Prop where
  key : match m.key with
    | .token t => t ≠ noToken
    | .named n =>
      (Text.utf8 n.host).length < UInt32.size ∧ (Text.utf8 n.agent).length < UInt32.size ∧
        n.segments.length < UInt32.size ∧ (∀ s ∈ n.segments, (Text.utf8 s).length < UInt32.size) ∧
        (Text.utf8 n.name).length < UInt32.size
  value : match m.value with
    | .long _ => True
    | .text s => (Text.utf8 s).length < UInt32.size
    | .blob bytes => bytes.length < UInt32.size
  accepted : m.type.accepts m.value = true

/-! ## Writing -/

/-- The bytes of names. -/
def encodeName (n : FullName) : List UInt8 :=
  writeText n.host ++ writeText n.agent ++ bigEndian 4 n.segments.length ++
    n.segments.flatMap writeText ++ writeText n.name

/-- The bytes of a value. -/
def encodeValue : Value → List UInt8
  | .long v => writeLong v
  | .text s => writeText s
  | .blob bytes => writeBlock bytes

/-- The body of a metric. -/
def encode (m : Incoming) : List UInt8 :=
  writeLong m.token ++ [m.type.ordinal] ++
    (match m.key with
      | .token _ => []
      | .named n => encodeName n) ++
    writeLong m.time ++ encodeValue m.value

/-! ## Reading -/

/-- A given number of texts. -/
def readSegments : Nat → List UInt8 → Except Fault (List String × List UInt8)
  | 0, bytes => .ok ([], bytes)
  | count + 1, bytes => do
    let (s, bytes) ← readText .segment bytes
    let (more, bytes) ← readSegments count bytes
    return (s :: more, bytes)

/-- Names. -/
def decodeName (bytes : List UInt8) : Except Fault (FullName × List UInt8) := do
  let (host, bytes) ← readText .host bytes
  let (agent, bytes) ← readText .agent bytes
  let (count, bytes) ← readNumber .namespaceCount 4 bytes
  let (segments, bytes) ← readSegments count bytes
  let (name, bytes) ← readText .name bytes
  return (⟨host, agent, segments, name⟩, bytes)

/-- The names or the token in front of which a token was read. -/
def decodeKey (token : Int64) (bytes : List UInt8) : Except Fault (Key × List UInt8) :=
  if token = noToken then do
    let (name, bytes) ← decodeName bytes
    return (.named name, bytes)
  else .ok (.token token, bytes)

/-- A value of the kind that a type carries. -/
def decodeValue (type : MetricType) (bytes : List UInt8) : Except Fault (Value × List UInt8) :=
  match type with
  | .gauge | .delta => do
    let (v, bytes) ← readLong .longValue bytes
    return (.long v, bytes)
  | .error | .text => do
    let (s, bytes) ← readText .textValue bytes
    return (.text s, bytes)
  | .blob => do
    let (raw, bytes) ← readBlock .blobValue bytes
    return (.blob raw, bytes)

/-- Token and type, nine bytes that are there together or not at all. -/
def decodeHeader (bytes : List UInt8) : Except Fault (Int64 × MetricType × List UInt8) := do
  let (raw, bytes) ← take .metricHeader 9 bytes
  let ordinal := UInt8.ofNat (number (raw.drop 8))
  match MetricType.ofOrdinal? ordinal with
  | none => .error (.unknownType ordinal)
  | some type => .ok ((UInt64.ofNat (number (raw.take 8))).toInt64, type, bytes)

/-- The metric of a body. -/
def decode (bytes : List UInt8) : Except Fault Incoming := do
  let (token, type, bytes) ← decodeHeader bytes
  let (key, bytes) ← decodeKey token bytes
  let (time, bytes) ← readLong .time bytes
  let (value, _) ← decodeValue type bytes
  return { key := key, type := type, time := time, value := value }

end Incoming

end MetricRouter.Wire
