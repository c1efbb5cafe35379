import MetricRouter.Pattern.Compile

/-!
# Matching

What a regular expression matches, said twice.

* `Look.holds`, `Spans` — the meaning: a relation between an expression and two places of a text;
* `Regex.ends` — the search: all places at which a match can end that starts at one of given places.

A set of places is a natural number whose bit `i` says whether place `i` is in it, so the search treats
all places at once and its cost does not depend on how many ways there are to match.
-/

namespace MetricRouter.Pattern

open Unicode (RangeSet)

/-! ## The meaning -/

/-- Is the character part of a word? -/
def isWordChar (ascii : Bool) (c : Option Char) : Bool :=
  match c with
  | none => false
  | some c => (if ascii then AsciiKind.word.chars else Unicode.wordChars).contains c.toNat

/-- Does the condition hold between two neighbours? At an end of the text there is no neighbour. -/
def Look.holds (l : Look) (before after : Option Char) : Bool :=
  match l with
  | .startText => before.isNone
  | .endText => after.isNone
  | .startLine => before.isNone || before == some '\n'
  | .endLine => after.isNone || after == some '\n'
  | .startLineCrlf =>
    before.isNone || before == some '\n' || (before == some '\r' && after != some '\n')
  | .endLineCrlf =>
    after.isNone || after == some '\r' || (after == some '\n' && before != some '\r')
  | .wordBoundary a => isWordChar a before != isWordChar a after
  | .notWordBoundary a => isWordChar a before == isWordChar a after
  | .wordStart a => !isWordChar a before && isWordChar a after
  | .wordEnd a => isWordChar a before && !isWordChar a after
  | .wordStartHalf a => !isWordChar a before
  | .wordEndHalf a => !isWordChar a after

/-- The character in front of a place. -/
def charBefore (w : List Char) (i : Nat) : Option Char := if i = 0 then none else w[i - 1]?

mutual

/-- `Spans w r i j`: the expression matches the text `w` from place `i` to place `j`. -/
inductive Spans (w : List Char) : Regex → Nat → Nat → Prop where
  | empty {i : Nat} (inside : i ≤ w.length) : Spans w .empty i i
  | chars {set : RangeSet} {ascii : Bool} {i : Nat} {c : Char} (at_place : w[i]? = some c)
      (member : set.contains c.toNat = true) : Spans w (.chars set ascii) i (i + 1)
  | look {l : Look} {i : Nat} (inside : i ≤ w.length)
      (holds : l.holds (charBefore w i) w[i]? = true) : Spans w (.look l) i i
  | concat {a b : Regex} {i j k : Nat} (first : Spans w a i j) (second : Spans w b j k) :
      Spans w (.concat a b) i k
  | left {a b : Regex} {i j : Nat} (h : Spans w a i j) : Spans w (.alternate a b) i j
  | right {a b : Regex} {i j : Nat} (h : Spans w b i j) : Spans w (.alternate a b) i j
  | group {r : Regex} {captures : Bool} {i j : Nat} (h : Spans w r i j) :
      Spans w (.group captures r) i j
  | iterate {r : Regex} {least : Nat} {most : Option Nat} {greedy : Bool} {n i j : Nat}
      (enough : least ≤ n) (bounded : ∀ k, most = some k → n ≤ k) (run : Runs w r n i j) :
      Spans w (.iterate r least most greedy) i j

/-- `Runs w r n i j`: the expression matches `n` times in a row from place `i` to place `j`. -/
inductive Runs (w : List Char) : Regex → Nat → Nat → Nat → Prop where
  | none {r : Regex} {i : Nat} (inside : i ≤ w.length) : Runs w r 0 i i
  | more {r : Regex} {n i j k : Nat} (first : Spans w r i j) (rest : Runs w r n j k) :
      Runs w r (n + 1) i k

end

/-! ## The search -/

/-- The number whose bit `i` says whether the `i`-th element has the property. -/
def maskOf {α : Type} (p : α → Bool) : List α → Nat
  | [] => 0
  | x :: rest => 2 * maskOf p rest + (if p x then 1 else 0)

/-- The neighbours of every place of a text, from its start to its end. -/
def neighbours (before : Option Char) : List Char → List (Option Char × Option Char)
  | [] => [(before, none)]
  | c :: rest => (before, some c) :: neighbours (some c) rest

/-- An expression made ready for one text: sets and conditions are the places where they hold. -/
inductive Plan where
  | empty
  /-- One character, from any of the places. -/
  | step (places : Nat)
  /-- No character, at any of the places. -/
  | stay (places : Nat)
  | concat (first second : Plan)
  | alternate (left right : Plan)
  | iterate (body : Plan) (least : Nat) (most : Option Nat)

/-- The plan of an expression for a text. -/
def Regex.plan (w : List Char) : Regex → Plan
  | .empty => .empty
  | .chars set _ => .step (maskOf (fun c => set.contains c.toNat) w)
  | .look l => .stay (maskOf (fun p => l.holds p.1 p.2) (neighbours none w))
  | .concat a b => .concat (a.plan w) (b.plan w)
  | .alternate a b => .alternate (a.plan w) (b.plan w)
  | .group _ r => r.plan w
  | .iterate r least most _ => .iterate (r.plan w) least most

/-- A function applied `n` times; a fixed point ends it early. -/
def repeatExactly (f : Nat → Nat) : Nat → Nat → Nat
  | 0, s => s
  | n + 1, s => if f s = s then s else repeatExactly f n (f s)

/-- The union of what a function gives when applied up to `n` times; a fixed point ends it early. -/
def repeatUpTo (f : Nat → Nat) : Nat → Nat → Nat
  | 0, s => s
  | n + 1, s => if s ||| f s = s then s else repeatUpTo f n (s ||| f s)

/-- The places at which a match can end that starts at one of the given places, in a text of `length`
characters. Repeating an unbounded number of times reaches no place that `length + 1` times do not. -/
def Plan.ends (length : Nat) : Plan → Nat → Nat
  | .empty, s => s
  | .step places, s => (s &&& places) <<< 1
  | .stay places, s => s &&& places
  | .concat a b, s => b.ends length (a.ends length s)
  | .alternate a b, s => a.ends length s ||| b.ends length s
  | .iterate body least most, s =>
    let start := repeatExactly (body.ends length) least s
    match most with
    | none => repeatUpTo (body.ends length) (length + 1) start
    | some most => repeatUpTo (body.ends length) (most - least) start

/-- The places at which a match can end that starts at one of the given places. -/
def Regex.ends (r : Regex) (w : List Char) (s : Nat) : Nat := (r.plan w).ends w.length s

/-- Does the expression match anywhere in the text? -/
def Regex.isMatch (r : Regex) (text : String) : Bool :=
  let w := text.toList
  r.ends w ((1 <<< (w.length + 1)) - 1) != 0

/-- Does the expression match the whole of the text? -/
def Regex.matchesWhole (r : Regex) (text : String) : Bool :=
  let w := text.toList
  (r.ends w 1).testBit w.length

end MetricRouter.Pattern
