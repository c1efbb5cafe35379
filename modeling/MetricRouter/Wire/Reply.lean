import MetricRouter.Wire.Reading

/-!
# Replies to agents

* `Reply.encode` — the frame of a reply;
* `Reply.decode` — the reply of a frame; what follows it is ignored.
-/

namespace MetricRouter.Wire

/-- What an agent is told. -/
inductive Reply where
  /-- From now on the token stands for the name. -/
  | tokenAssign (fqn : String) (token : Int64)
  /-- The sample with this key was taken in. -/
  | confirm (key : String)
  /-- Forget all tokens. -/
  | reset
  deriving DecidableEq

namespace Reply

/-- The opcode of a reply. -/
def opcode : Reply → Opcode
  | tokenAssign _ _ => .tokenAssign
  | confirm _ => .confirm
  | reset => .reset

/-- The frame of a reply. -/
def encode : Reply → List UInt8
  | tokenAssign fqn token => Opcode.tokenAssign.byte :: (writeText fqn ++ writeLong token)
  | confirm key => Opcode.confirm.byte :: writeText key
  | reset => [Opcode.reset.byte]

/-- The reply of a frame. -/
def decode (frame : List UInt8) : Except Fault Reply := do
  let (opcode, rest) ← readOpcode frame
  match opcode with
  | .tokenAssign =>
    let (fqn, rest) ← readText .fqn rest
    let (token, _) ← readLong .token rest
    return .tokenAssign fqn token
  | .confirm =>
    let (key, _) ← readText .key rest
    return .confirm key
  | .reset => return .reset
  | other => .error (.notReply other)

end Reply

end MetricRouter.Wire
