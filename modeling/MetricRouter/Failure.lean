import MetricRouter.Metric.Sample
import MetricRouter.Text.Quoted

/-!
# Failures

What can go wrong in the router, with the words in which it is reported.

* `Failure.message` — the report;
* `Failure.category` — the part of the router concerned;
* `Failure.isRecoverable` — whether trying again can help.
-/

namespace MetricRouter

/-- Kinds of failures of the operating system. -/
inductive IoKind where
  | wouldBlock
  | interrupted
  | timedOut
  | notFound
  | addressInUse
  | other
  deriving DecidableEq, Repr

/-- Two names that share a key of the catalog. -/
structure Collision where
  key : Nat
  /-- The newcomer. -/
  expected : String
  /-- The holder of the key. -/
  found : String
  deriving DecidableEq, Repr

/-- What can go wrong. -/
inductive Failure where
  | protocol (reason : String)
  | decode (reason : String)
  | config (reason : String)
  | invalidPattern
  | identityCollision (collision : Collision)
  | tokenConflict (token : Int64) (fqn : String)
  | conflation (reason : String)
  | destinationNotFound (name : String)
  | io (kind : IoKind) (reason : String)
  | yaml
  | serialization
  | channelClosed (remote : String)
  | network (reason : String)
  deriving DecidableEq

/-- The report of a collision. -/
def Collision.message (c : Collision) : String :=
  "Identity collision on key 0x" ++ Text.hexPadded 16 c.key ++ ": expected [" ++ c.expected ++
    "], found [" ++ c.found ++ "]"

/-- The report of a failure. -/
def Failure.message : Failure → String
  | protocol reason => "Agent protocol error: " ++ reason
  | decode reason => "Decode error: " ++ reason
  | config reason => "Configuration error: " ++ reason
  | invalidPattern => "Invalid routing pattern"
  | identityCollision c => c.message
  | tokenConflict token fqn =>
    "Token " ++ toString token.toInt ++ " is already assigned to [" ++ fqn ++ "]"
  | conflation reason => "Conflation error: " ++ reason
  | destinationNotFound name => "Destination not found: " ++ name
  | io _ reason => "IO error: " ++ reason
  | yaml => "YAML error"
  | serialization => "Serialization error"
  | channelClosed remote => "Channel closed: " ++ remote
  | network reason => "Network error: " ++ reason

/-- The part of the router that a failure concerns. -/
def Failure.category : Failure → String
  | protocol _ | decode _ => "protocol"
  | config _ | invalidPattern | yaml => "config"
  | identityCollision _ | tokenConflict _ _ => "catalog"
  | conflation _ => "conflation"
  | destinationNotFound _ => "not_found"
  | io _ _ => "io"
  | serialization => "serialization"
  | channelClosed _ => "channel"
  | network _ => "network"

/-- Can trying again help? -/
def Failure.isRecoverable : Failure → Bool
  | network _ => true
  | io kind _ => kind == .wouldBlock || kind == .interrupted || kind == .timedOut
  | _ => false

/-! ## Reports of refused merges -/

/-- A value as it is shown in a report. -/
def Value.quoted : Value → String
  | long v => "Long(" ++ toString v.toInt ++ ")"
  | text s => "Text(" ++ Text.quoteText s ++ ")"
  | blob bytes => "Blob(" ++ Text.quoteBytes bytes ++ ")"

/-- Why a sample was not absorbed, in words. -/
def MergeRefusal.message : MergeRefusal → String
  | notConflatable t => t.name ++ " values cannot be conflated"
  | notLong t current incoming =>
    "cannot merge " ++ incoming.quoted ++ " into " ++ current.quoted ++ " for type " ++ t.name
  | typesDiffer fqn t incoming =>
    "cannot conflate " ++ incoming.name ++ " into " ++ t.name ++ " for [" ++ fqn ++ "]"

/-- The failure that a refused merge is. -/
def MergeRefusal.failure (r : MergeRefusal) : Failure := .conflation r.message

/-- The failure that a malformed name is. -/
def NameFault.failure (f : NameFault) : Failure := .decode f.message

end MetricRouter
