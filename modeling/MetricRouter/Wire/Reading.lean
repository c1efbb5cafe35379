import MetricRouter.Failure
import MetricRouter.Text.Utf8
import MetricRouter.Wire.Bytes
import MetricRouter.Wire.Opcode

/-!
# Reading fields

A field is read from the front of some bytes and leaves the rest of them. Every read is checked against
the bytes that are left, so no read goes past them.

* `take` — a given number of bytes;
* `readNumber` — a number of a fixed width;
* `readBlock`, `readText` — bytes and texts that follow their length, a number of four bytes;
* `writeBlock`, `writeText` — what these two read.
-/

namespace MetricRouter.Wire

/-- What is being read. -/
inductive Field where
  | metricHeader
  | host
  | agent
  | namespaceCount
  | segment
  | name
  | time
  | longValue
  | textValue
  | blobValue
  | opcode
  | metricCount
  | metricBody
  | fqn
  | token
  | key
  deriving DecidableEq, Repr

/-- The name of a field in reports. -/
def Field.label : Field → String
  | metricHeader => "metric header"
  | host => "host"
  | agent => "agent"
  | namespaceCount => "namespace count"
  | segment => "namespace"
  | name => "name"
  | time => "time"
  | longValue => "long value"
  | textValue => "text value"
  | blobValue => "blob value"
  | opcode => "opcode"
  | metricCount => "metric count"
  | metricBody => "metric body"
  | fqn => "fqn"
  | token => "token"
  | key => "key"

/-- Why bytes could not be read. -/
inductive Fault where
  /-- Fewer bytes are left than the field needs. -/
  | truncated (field : Field) (need left : Nat)
  /-- No metric type has this number. -/
  | unknownType (ordinal : UInt8)
  /-- The bytes of a text are no text. -/
  | notUtf8 (field : Field) (fault : Text.Utf8Fault)
  /-- No opcode has this byte. -/
  | unknownOpcode (byte : UInt8)
  /-- Agents do not send frames of this kind. -/
  | notInbound (opcode : Opcode)
  /-- A frame of this kind is no reply. -/
  | notReply (opcode : Opcode)
  deriving DecidableEq

/-- The failure that a fault is. -/
def Fault.failure : Fault → Failure
  | truncated field need left =>
    .decode ("truncated " ++ field.label ++ ": need " ++ toString need ++ " bytes, " ++ toString left ++
      " left")
  | unknownType ordinal => .decode ("unknown metric type " ++ toString ordinal.toNat)
  | notUtf8 field fault => .decode (field.label ++ " is not UTF-8: " ++ fault.message)
  | unknownOpcode byte => .protocol ("unknown opcode " ++ toString byte.toNat)
  | notInbound opcode => .protocol (opcode.name ++ " is not accepted from agents")
  | notReply opcode => .protocol (opcode.name ++ " is not a reply")

/-- The first `n` bytes, and the rest. -/
def take (field : Field) (n : Nat) (bytes : List UInt8) : Except Fault (List UInt8 × List UInt8) :=
  if (bytes.take n).length = n then .ok (bytes.take n, bytes.drop n)
  else .error (.truncated field n bytes.length)

/-- A number of `width` bytes. -/
def readNumber (field : Field) (width : Nat) (bytes : List UInt8) : Except Fault (Nat × List UInt8) := do
  let (raw, rest) ← take field width bytes
  return (number raw, rest)

/-- A signed number of eight bytes. -/
def readLong (field : Field) (bytes : List UInt8) : Except Fault (Int64 × List UInt8) := do
  let (n, rest) ← readNumber field 8 bytes
  return ((UInt64.ofNat n).toInt64, rest)

/-- Bytes that follow their length. -/
def readBlock (field : Field) (bytes : List UInt8) : Except Fault (List UInt8 × List UInt8) := do
  let (length, rest) ← readNumber field 4 bytes
  take field length rest

/-- A text that follows its length in bytes. -/
def readText (field : Field) (bytes : List UInt8) : Except Fault (String × List UInt8) := do
  let (raw, rest) ← readBlock field bytes
  match Text.ofUtf8 raw with
  | .error fault => .error (.notUtf8 field fault)
  | .ok s => .ok (s, rest)

/-- The opcode of a frame. -/
def readOpcode (bytes : List UInt8) : Except Fault (Opcode × List UInt8) := do
  let (n, rest) ← readNumber .opcode 1 bytes
  match Opcode.ofByte? (UInt8.ofNat n) with
  | none => .error (.unknownOpcode (UInt8.ofNat n))
  | some o => .ok (o, rest)

/-! ## Writing -/

/-- The eight bytes of a signed number. -/
def writeLong (v : Int64) : List UInt8 := bigEndian 8 v.toUInt64.toNat

/-- Bytes after their length. -/
def writeBlock (bytes : List UInt8) : List UInt8 := bigEndian 4 bytes.length ++ bytes

/-- The bytes of a text after their number. -/
def writeText (s : String) : List UInt8 := writeBlock (Text.utf8 s)

end MetricRouter.Wire
