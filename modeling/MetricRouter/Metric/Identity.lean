import MetricRouter.Metric.Name
import MetricRouter.Metric.Value
import MetricRouter.Table

/-!
# Identities and their tokens

An identity stands for one metric for as long as the process lives. Its names and its type never
change; its token is set at most once. Two identities are the same object exactly when they have the
same serial number, so the tokens are kept apart, in the `Tokens` of all identities.

* `Tokens.create` — a new identity from raw identifiers;
* `Tokens.token`, `Tokens.assign?` — reading a token, and setting it once.
-/

namespace MetricRouter

/-- One metric: its sanitized names, its type and its fully qualified name. -/
structure Identity where
  /-- The number of the identity among all that were created. -/
  serial : Nat
  host : String
  agent : String
  segments : List String
  name : String
  type : MetricType
  fqn : String
  deriving DecidableEq

/-- The mark of an identity without a token. -/
def noToken : Int64 := -1

/-- How many identities were created, and the token of each that has one. -/
structure Tokens where
  created : Nat
  held : Table Nat Int64

namespace Tokens

/-- No identity yet. -/
def empty : Tokens := ⟨0, Table.empty⟩

instance : Inhabited Tokens := ⟨empty⟩

/-- The token of an identity, `noToken` if it has none. -/
def token (ts : Tokens) (i : Identity) : Int64 := (ts.held.get? i.serial).getD noToken

/-- Has the identity a token? -/
def isTokenized (ts : Tokens) (i : Identity) : Bool := ts.token i != noToken

/-- A new identity without a token, from raw identifiers. -/
def create (ts : Tokens) (host agent name : String) (type : MetricType) (segments : List String) :
    Identity × Tokens :=
  let segments := Fqn.sanitizeNamespace segments
  ({ serial := ts.created, host := Fqn.sanitize host, agent := Fqn.sanitize agent,
     segments := segments, name := Fqn.sanitize name, type := type,
     fqn := Fqn.render host agent name segments },
   { ts with created := ts.created + 1 })

/-- Sets the token of an identity that has none; `none` if it has one already. -/
def assign? (ts : Tokens) (i : Identity) (token : Int64) : Option Tokens :=
  if ts.token i = noToken then some { ts with held := ts.held.insert i.serial token } else none

end Tokens

/-- The identity as people read it: name, type and token. -/
def Identity.display (i : Identity) (ts : Tokens) : String :=
  i.fqn ++ " (" ++ i.type.name ++ ", token=" ++ toString (ts.token i).toInt ++ ")"

end MetricRouter
