/-!
# Sets of code points

A set of code points is a list of closed ranges in increasing order that neither overlap nor touch.

* `union`, `intersection`, `difference`, `symmetricDifference`, `complement` — set operations;
* `ofText` — a set written as hexadecimal ranges, the form in which tables are kept;
* `named?` — the set that a table of named sets lists under a name.
-/

namespace MetricRouter.Unicode

/-- A set of code points: closed ranges in increasing order that neither overlap nor touch. -/
abbrev RangeSet := List (Nat × Nat)

namespace RangeSet

/-- The greatest code point. -/
def lastCodePoint : Nat := 0x10FFFF

/-- All code points. -/
def full : RangeSet := [(0, lastCodePoint)]

/-- Is the code point in the set? -/
def contains (s : RangeSet) (n : Nat) : Bool := s.any (fun r => r.1 ≤ n && n ≤ r.2)

/-- The set with one more range; ranges that overlap or touch the new one are joined to it. -/
def insert (lo hi : Nat) : RangeSet → RangeSet
  | [] => [(lo, hi)]
  | (a, b) :: rest =>
    if hi + 1 < a then (lo, hi) :: (a, b) :: rest
    else if b + 1 < lo then (a, b) :: insert lo hi rest
    else insert (min lo a) (max hi b) rest

/-- The code points of either set. -/
def union (s t : RangeSet) : RangeSet := s.foldl (fun acc r => insert r.1 r.2 acc) t

/-- The code points from `start` on that are not in the set. -/
def gaps (start : Nat) : RangeSet → RangeSet
  | [] => if start ≤ lastCodePoint then [(start, lastCodePoint)] else []
  | (a, b) :: rest => if start < a then (start, a - 1) :: gaps (b + 1) rest else gaps (b + 1) rest

/-- The code points that are not in the set. -/
def complement (s : RangeSet) : RangeSet := gaps 0 s

/-- The common part of two ranges. -/
def overlap? (r q : Nat × Nat) : Option (Nat × Nat) :=
  if max r.1 q.1 ≤ min r.2 q.2 then some (max r.1 q.1, min r.2 q.2) else none

/-- The code points of both sets. -/
def intersection (s t : RangeSet) : RangeSet :=
  s.flatMap (fun r => t.filterMap (overlap? r))

/-- The code points of the first set that are not in the second. -/
def difference (s t : RangeSet) : RangeSet := intersection s (complement t)

/-- The code points of exactly one of the sets. -/
def symmetricDifference (s t : RangeSet) : RangeSet :=
  difference (union s t) (intersection s t)

/-! ## Written form -/

/-- The value of a hexadecimal digit. -/
def hexDigit? (c : Char) : Option Nat :=
  if '0' ≤ c ∧ c ≤ '9' then some (c.toNat - 48)
  else if 'A' ≤ c ∧ c ≤ 'F' then some (c.toNat - 55)
  else if 'a' ≤ c ∧ c ≤ 'f' then some (c.toNat - 87)
  else none

/-- The reading of a table so far: the number being read, the finished members of the current group and
the finished groups, both newest first. -/
structure Scan where
  number : Option Nat := none
  members : List Nat := []
  groups : List (List Nat) := []

/-- One character of a table: digits make up a number, `-` joins numbers, all else ends a group. -/
def Scan.step (s : Scan) (c : Char) : Scan :=
  match hexDigit? c with
  | some d => { s with number := some (s.number.getD 0 * 16 + d) }
  | none =>
    let members := s.number.toList ++ s.members
    if c = '-' then { s with number := none, members := members }
    else if members.isEmpty then s
    else ⟨none, [], members.reverse :: s.groups⟩

/-- The groups of numbers that a table lists: numbers joined by hyphens, groups set apart by blanks. -/
def groupsOfText (s : String) : List (List Nat) := ((s.push ' ').foldl Scan.step {}).groups.reverse

/-- A set written as hexadecimal ranges such as `41-5A 5F`. -/
def ofText (s : String) : RangeSet :=
  (groupsOfText s).filterMap fun group =>
    match group with
    | [a] => some (a, a)
    | [a, b] => some (a, b)
    | _ => none

/-- The set that a table of named sets lists under a name. -/
def named? (table : List (List String × String)) (name : String) : Option RangeSet :=
  (table.find? (fun e => e.1.contains name)).map (fun e => ofText e.2)

end RangeSet

end MetricRouter.Unicode
