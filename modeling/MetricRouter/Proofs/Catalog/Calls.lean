import MetricRouter.Catalog.Basic
import MetricRouter.Proofs.Run
import MetricRouter.Wire.Incoming

/-!
# Calls on a catalog

Everything that can be asked of a catalog, as data, so that theorems can speak about all sequences of
calls.

* `Catalog.Call`, `Catalog.Answer` — what is asked, and what is answered;
* `Catalog.call` — one call;
* `Catalog.answers`, `Catalog.after` — calls that are made in order.

An answer with an identity also has the token that the identity holds at that moment. Equal identities are
the same object, since an identity carries its serial number.
-/

namespace MetricRouter

open Wire (FullName)

namespace Catalog

/-- What can be asked of a catalog. -/
inductive Call where
  /-- The identity of raw identifiers. -/
  | resolve (name : FullName) (type : MetricType)
  /-- The identity of a full name in its text form. -/
  | build (fqn : String) (type : MetricType)
  /-- The token of an identity that the catalog holds. -/
  | tokenize (i : Identity)
  /-- The token of raw identifiers. -/
  | assign (name : FullName) (type : MetricType)
  /-- A chosen token for raw identifiers. -/
  | assignWith (token : Int64) (name : FullName) (type : MetricType)
  /-- The token that raw identifiers have, if any. -/
  | isAssigned (name : FullName)
  /-- The identity that holds a token. -/
  | lookup (token : Int64)
  /-- How far a counter moved. -/
  | delta (value : Int64) (name : FullName)
  /-- The number of identities. -/
  | size
  /-- That everything be forgotten. -/
  | reset
  deriving DecidableEq

/-- What a catalog answers. -/
inductive Answer where
  | identity (i : Identity) (token : Int64)
  | malformed (fault : NameFault)
  | token (t : Int64)
  | refused (failure : Failure)
  | known (token : Option Int64)
  | holder (held : Option (Identity × Int64))
  | moved (difference : Option Int64)
  | size (n : Nat)
  | done
  deriving DecidableEq

/-- Is the identity filed in the catalog? -/
def Holds (c : Catalog) (i : Identity) : Prop := i ∈ c.primary.values ∨ i ∈ c.overflow.values

instance (c : Catalog) (i : Identity) : Decidable (c.Holds i) :=
  inferInstanceAs (Decidable (_ ∨ _))

/-- The identity of raw identifiers, and the catalog after it was asked for. -/
def sight (c : Catalog) (n : FullName) (type : MetricType) : Identity × Catalog :=
  c.resolve n.host n.agent n.name type n.segments

/-- The answer to a call, and the catalog after it. The token of an identity that the catalog does not hold
is not asked for. -/
def call (c : Catalog) : Call → Answer × Catalog
  | .resolve n type =>
    let (i, c) := c.sight n type
    (.identity i (c.token i), c)
  | .build fqn type =>
    match c.build fqn type with
    | .error fault => (.malformed fault, c)
    | .ok (i, c) => (.identity i (c.token i), c)
  | .tokenize i =>
    if c.Holds i then
      let (t, c) := c.tokenize i
      (.token t, c)
    else (.done, c)
  | .assign n type =>
    let (t, c) := c.assignToken n.host n.agent n.name type n.segments
    (.token t, c)
  | .assignWith token n type =>
    match c.assignTokenWith token n.host n.agent n.name type n.segments with
    | (.error failure, c) => (.refused failure, c)
    | (.ok t, c) => (.token t, c)
  | .isAssigned n => (.known (c.isAssigned n.host n.agent n.name n.segments), c)
  | .lookup t => (.holder ((c.lookupByToken t).map (fun i => (i, c.token i))), c)
  | .delta value n =>
    let (moved, c) := c.delta value n.host n.agent n.name n.segments
    (.moved moved, c)
  | .size => (.size c.size, c)
  | .reset => (.done, c.reset)

/-- The answers to calls that are made in order. -/
abbrev answers (c : Catalog) (calls : List Call) : List Answer := Run.answers call c calls

/-- The catalog after calls that are made in order. -/
abbrev after (c : Catalog) (calls : List Call) : Catalog := Run.after call c calls

theorem after_append (c : Catalog) (calls more : List Call) :
    c.after (calls ++ more) = (c.after calls).after more :=
  Run.after_append c calls more

/-! ## Sightings -/

/-- The metric that a call sights, by its full name and type. A name that has no identity gets one when it
is sighted. -/
def Call.sights : Call → Option (String × MetricType)
  | resolve n type | assign n type => some (n.fqn, type)
  | build fqn type =>
    match Fqn.parse fqn with
    | .error _ => none
    | .ok p => some (Fqn.render p.host p.agent p.name p.segments, type)
  | assignWith token n type => if isChoosable token then some (n.fqn, type) else none
  | _ => none

/-- The names and types that were sighted since the last reset, in order. -/
def sightings (calls : List Call) : List (String × MetricType) :=
  (calls.rtakeWhile (fun k => decide (k ≠ .reset))).filterMap Call.sights

/-- The type under which a name was first sighted since the last reset. -/
def firstType (calls : List Call) (fqn : String) : Option MetricType :=
  ((sightings calls).find? (fun s => decide (s.1 = fqn))).map Prod.snd

end Catalog

end MetricRouter
