import MetricRouter.Catalog.Keys
import MetricRouter.Failure
import MetricRouter.Table

/-!
# The catalog of identities

The catalog has one identity per full name. It hands out tokens, short numbers that agents may send in
place of a name, and it remembers the last reading of counters.

* `Catalog.resolve` — the identity of a name, created at its first sighting;
* `Catalog.tokenize`, `Catalog.assignToken`, `Catalog.assignTokenWith` — tokens, chosen by the catalog or
  by the caller;
* `Catalog.isAssigned`, `Catalog.lookupByToken` — from a name to its token and back;
* `Catalog.delta` — how far a counter moved since its last reading.

An identity is filed under the key of its name. A newcomer whose key is held by another name is filed
under its full name in `overflow`, so look-ups compare full names always.
-/

namespace MetricRouter

/-- The first token that a fresh catalog hands out. -/
def firstToken : Int64 := 1

/-- The identities of a process by name and by token, with the last readings of its counters. -/
structure Catalog where
  strategy : KeyStrategy
  /-- All identities of the process with their tokens. -/
  tokens : Tokens
  /-- The identities whose key was free when they came. -/
  primary : Table CatalogKey Identity
  /-- The identities whose key was held by another name. -/
  overflow : Table String Identity
  /-- The identities by token. -/
  index : Table Int64 Identity
  /-- The last reading of every counter. -/
  readings : Table String Int64
  /-- The next token to try. -/
  nextToken : Int64
  /-- How many newcomers found their key held. -/
  collisions : Nat
  /-- The reports on those newcomers, oldest first. -/
  reports : List Collision

namespace Catalog

/-- A catalog without an identity. -/
def fresh (strategy : KeyStrategy) (tokens : Tokens := .empty) : Catalog :=
  { strategy := strategy, tokens := tokens, primary := .empty, overflow := .empty, index := .empty,
    readings := .empty, nextToken := firstToken, collisions := 0, reports := [] }

/-- The identity of a full name, if there is one. -/
def find? (c : Catalog) (fqn : String) : Option Identity :=
  match c.primary.get? (c.strategy.key fqn) with
  | none => none
  | some holder => if holder.fqn = fqn then some holder else c.overflow.get? fqn

/-- The identity of raw identifiers, created at its first sighting. The type of the first sighting
stays. -/
def resolve (c : Catalog) (host agent name : String) (type : MetricType) (segments : List String) :
    Identity × Catalog :=
  let fqn := Fqn.render host agent name segments
  let key := c.strategy.key fqn
  match c.primary.get? key with
  | none =>
    let (identity, tokens) := c.tokens.create host agent name type segments
    (identity, { c with tokens := tokens, primary := c.primary.insert key identity })
  | some holder =>
    if holder.fqn = fqn then (holder, c)
    else
      match c.overflow.get? fqn with
      | some identity => (identity, c)
      | none =>
        let (identity, tokens) := c.tokens.create host agent name type segments
        (identity,
          { c with
            tokens := tokens
            overflow := c.overflow.insert fqn identity
            collisions := c.collisions + 1
            reports := c.reports ++ [⟨key.asNumber, fqn, holder.fqn⟩] })

/-- The identity of a full name in its text form. -/
def build (c : Catalog) (fqn : String) (type : MetricType) : Except NameFault (Identity × Catalog) :=
  (Fqn.parse fqn).map (fun p => c.resolve p.host p.agent p.name type p.segments)

/-- The token of an identity, `noToken` if it has none. -/
def token (c : Catalog) (i : Identity) : Int64 := c.tokens.token i

/-- The first of `steps + 1` successive numbers from `start` on that is no token yet. The numbers follow
one another around the range of 64 bits. -/
def firstFree (index : Table Int64 Identity) : Nat → Int64 → Int64
  | 0, start => start
  | steps + 1, start => if index.contains start then firstFree index steps (start + 1) else start

/-- The token of an identity; one that has none gets the first free number from the counter on. As many
steps as there are tokens find a free number. -/
def tokenize (c : Catalog) (i : Identity) : Int64 × Catalog :=
  if c.tokens.isTokenized i then (c.token i, c)
  else
    let token := firstFree c.index c.index.size c.nextToken
    (token,
      { c with
        tokens := (c.tokens.assign? i token).getD c.tokens
        index := c.index.insert token i
        nextToken := token + 1 })

/-- The token of the identity of raw identifiers; identity and token are created as needed. -/
def assignToken (c : Catalog) (host agent name : String) (type : MetricType)
    (segments : List String) : Int64 × Catalog :=
  let (i, c) := c.resolve host agent name type segments
  c.tokenize i

/-- May a caller choose this token? The greatest number is kept back, so that the counter can always
move past a chosen token. -/
def isChoosable (token : Int64) : Bool := firstToken ≤ token && token < Int64.maxValue

/-- Gives the identity of raw identifiers a token that the caller chose. An identity that has a token
keeps it; a token that is held by another identity is refused. -/
def assignTokenWith (c : Catalog) (token : Int64) (host agent name : String) (type : MetricType)
    (segments : List String) : Except Failure Int64 × Catalog :=
  if !isChoosable token then (.error (.protocol ("invalid token " ++ toString token.toInt)), c)
  else
    let (i, c) := c.resolve host agent name type segments
    if c.token i = token then (.ok token, c)
    else
      match c.index.get? token with
      | some holder => (.error (.tokenConflict token holder.fqn), c)
      | none =>
        match c.tokens.assign? i token with
        | none => (.ok (c.token i), c)
        | some tokens =>
          (.ok token,
            { c with
              tokens := tokens
              index := c.index.insert token i
              nextToken := max c.nextToken (token + 1) })

/-- The token of the identity of raw identifiers, if it exists and has one. -/
def isAssigned (c : Catalog) (host agent name : String) (segments : List String) : Option Int64 :=
  ((c.find? (Fqn.render host agent name segments)).map c.token).filter (fun t => t != noToken)

/-- The identity that holds a token. -/
def lookupByToken (c : Catalog) (token : Int64) : Option Identity := c.index.get? token

/-- Takes a reading of a counter and tells how far it moved since the last one: not at all at the first
reading, nor when the counter went back. -/
def delta (c : Catalog) (value : Int64) (host agent name : String) (segments : List String) :
    Option Int64 × Catalog :=
  let fqn := Fqn.render host agent name segments
  let moved :=
    match c.readings.get? fqn with
    | none => none
    | some previous => if value < previous then none else some (value - previous)
  (moved, { c with readings := c.readings.insert fqn value })

/-- The number of identities. -/
def size (c : Catalog) : Nat := c.primary.size + c.overflow.size

/-- The catalog as it was at first. Identities that were handed out live on, with their tokens. -/
def reset (c : Catalog) : Catalog := fresh c.strategy c.tokens

end Catalog

end MetricRouter
