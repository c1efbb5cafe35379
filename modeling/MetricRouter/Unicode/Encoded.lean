import MetricRouter.Unicode.RangeSet

/-!
# Sets of characters in UTF-8

A set of characters, seen through the bytes that encode its members.

* `utf8Bytes` — the bytes of a code point;
* `RangeSet.scalars` — the set without surrogates, which no text holds;
* `RangeSet.encodings` — sequences of byte ranges whose choices are just the encodings of the members.
-/

namespace MetricRouter.Unicode

/-- The bytes that encode a code point. -/
def utf8Bytes (n : Nat) : List Nat :=
  if n < 0x80 then [n]
  else if n < 0x800 then [0xC0 + n / 64, 0x80 + n % 64]
  else if n < 0x10000 then [0xE0 + n / 4096, 0x80 + n / 64 % 64, 0x80 + n % 64]
  else [0xF0 + n / 262144, 0x80 + n / 4096 % 64, 0x80 + n / 64 % 64, 0x80 + n % 64]

namespace RangeSet

/-! ## Without surrogates -/

/-- Is the code point a surrogate? -/
def isSurrogate (n : Nat) : Bool := 0xD800 ≤ n && n ≤ 0xDFFF

/-- The range without the surrogates at its ends. -/
def trimSurrogates? (r : Nat × Nat) : Option (Nat × Nat) :=
  let lo := if isSurrogate r.1 then 0xE000 else r.1
  let hi := if isSurrogate r.2 then 0xD7FF else r.2
  if lo ≤ hi then some (lo, hi) else none

/-- The character after a given one. -/
def nextScalar (n : Nat) : Nat := if n = 0xD7FF then 0xE000 else n + 1

/-- Puts a range in front of those that start later, joined to the first of them if no character stands
between the two. -/
def join (r : Nat × Nat) : RangeSet → RangeSet
  | [] => [r]
  | q :: rest => if q.1 ≤ nextScalar r.2 then (r.1, max r.2 q.2) :: rest else r :: q :: rest

/-- The set as few ranges of characters: surrogates neither belong to it nor keep two ranges apart. -/
def scalars (s : RangeSet) : RangeSet := (s.filterMap trimSurrogates?).foldr join []

/-! ## Encodings -/

/-- The parts of a range up to a code point and past it. -/
def splitAfter (n : Nat) (r : Nat × Nat) : List (Nat × Nat) :=
  if r.1 ≤ n ∧ n < r.2 then [(r.1, n), (n + 1, r.2)] else [r]

/-- The parts of a range within which all characters have the same number of bytes. -/
def splitByLength (r : Nat × Nat) : List (Nat × Nat) :=
  ([0x7F, 0x7FF, 0xD7FF, 0xDFFF, 0xFFFF].foldl (fun rs n => rs.flatMap (splitAfter n)) [r]).filter
    fun r => !isSurrogate r.1

/-- Splits a range, block size by block size, so that each part either lies in one block or is made up of
whole blocks; then the bytes of its members vary independently. -/
def splitByBlocks : List Nat → Nat → Nat → List (Nat × Nat)
  | [], lo, hi => [(lo, hi)]
  | block :: blocks, lo, hi =>
    if lo / block = hi / block then [(lo, hi)]
    else
      let first := (lo + (block - 1)) / block * block
      let last := (hi + 1) / block * block
      (if lo < first then [(lo, first - 1)] else [])
        ++ (if first < last then splitByBlocks blocks first (last - 1) else [])
        ++ (if last ≤ hi then [(last, hi)] else [])

/-- How many characters share all bytes but the last one, the last two, the last three. -/
def blockSizes : List Nat := [64, 4096, 262144]

/-- The parts of a range whose members are the choices from a sequence of byte ranges. -/
def splitByBytes (r : Nat × Nat) : List (Nat × Nat) :=
  (splitByLength r).flatMap fun r => if r.2 < 0x80 then [r] else splitByBlocks blockSizes r.1 r.2

/-- Sequences of byte ranges whose choices are the encodings of the members, in increasing order. -/
def encodings (s : RangeSet) : List (List (Nat × Nat)) :=
  (s.flatMap splitByBytes).map fun r => (utf8Bytes r.1).zip (utf8Bytes r.2)

end RangeSet

end MetricRouter.Unicode
