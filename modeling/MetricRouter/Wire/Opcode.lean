/-!
# Opcodes

The first byte of a frame says what the frame is for.
-/

namespace MetricRouter.Wire

/-- What a frame is for. -/
inductive Opcode where
  /-- From an agent: metrics. -/
  | sendMetric
  /-- From an agent: metrics, each to be confirmed. -/
  | sendMetricDirect
  /-- To an agent: a token for a name. -/
  | tokenAssign
  /-- To an agent: a metric was taken in. -/
  | confirm
  /-- To an agent: forget all tokens. -/
  | reset
  /-- From an agent: all tokens are forgotten. -/
  | resetConfirm
  deriving DecidableEq, Repr, Inhabited

namespace Opcode

/-- The opcodes in the order of their bytes. -/
def all : List Opcode := [sendMetric, sendMetricDirect, tokenAssign, confirm, reset, resetConfirm]

/-- The byte of an opcode. -/
def byte : Opcode → UInt8
  | sendMetric => 0
  | sendMetricDirect => 1
  | tokenAssign => 2
  | confirm => 3
  | reset => 4
  | resetConfirm => 5

/-- The opcode of a byte. -/
def ofByte? (b : UInt8) : Option Opcode := all[b.toNat]?

/-- The name of an opcode. -/
def name : Opcode → String
  | sendMetric => "SEND_METRIC"
  | sendMetricDirect => "SEND_METRIC_DIRECT"
  | tokenAssign => "TOKEN_ASSIGN"
  | confirm => "CONFIRM"
  | reset => "RESET"
  | resetConfirm => "RESET_CONFIRM"

/-- Does an agent send frames of this kind? -/
def isInbound : Opcode → Bool
  | sendMetric | sendMetricDirect | resetConfirm => true
  | _ => false

/-- Is every metric of the frame to be confirmed? -/
def wantsConfirm : Opcode → Bool
  | sendMetricDirect => true
  | _ => false

theorem ofByte?_byte (o : Opcode) : ofByte? o.byte = some o := by cases o <;> rfl

end Opcode

end MetricRouter.Wire
