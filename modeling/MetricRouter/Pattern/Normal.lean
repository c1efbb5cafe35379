import MetricRouter.Pattern.Regex
import MetricRouter.Unicode.Encoded

/-!
# Expressions in normal form

A `Normal` is an expression simplified as it is built: sequences and choices are flat, neighbouring
characters make up one literal, a choice among single characters is a class, and what all alternatives
start with stands once in front of them.

* `Normal.ofSet`, `ofParts`, `ofAlternatives`, `repeated` — building with simplification;
* `Regex.normal` — the normal form of an expression;
* `Normal.onlyEmpty`, `leastLength?`, `startsText`, `endsText` — what all matches have in common.
-/

namespace MetricRouter.Pattern

open Unicode (RangeSet)

/-- A simplified expression. -/
inductive Normal where
  | empty
  /-- The characters of a text that is not empty. -/
  | literal (text : List Char)
  /-- One character of a set, which may be empty; any other has two members at least. -/
  | chars (set : RangeSet) (ascii : Bool)
  | look (condition : Look)
  | capture (body : Normal)
  | iterate (body : Normal) (least : Nat) (most : Option Nat) (greedy : Bool)
  /-- Two parts at least, of which none is a sequence and no two literals are neighbours. -/
  | sequence (parts : List Normal)
  /-- Two alternatives at least, of which none is a choice. -/
  | choice (alternatives : List Normal)
  deriving Repr

namespace Normal

mutual

/-- Are two expressions written alike? Two captures never are. -/
def same : Normal → Normal → Bool
  | .empty, .empty => true
  | .literal s, .literal t => s == t
  | .chars s a, .chars t b => s == t && a == b
  | .look k, .look l => k == l
  | .iterate r m n g, .iterate s k l h => m == k && n == l && g == h && r.same s
  | .sequence rs, .sequence ss => sameAll rs ss
  | .choice rs, .choice ss => sameAll rs ss
  | _, _ => false

/-- Are two lists of expressions written alike? -/
def sameAll : List Normal → List Normal → Bool
  | [], [] => true
  | r :: rs, s :: ss => r.same s && sameAll rs ss
  | _, _ => false

end

mutual

/-- Does the expression match the empty text only, if anything? One with an empty class does not count. -/
def onlyEmpty : Normal → Bool
  | .empty => true
  | .look _ => true
  | .literal _ => false
  | .chars _ _ => false
  | .capture body => body.onlyEmpty
  | .iterate body _ most _ => most.isSome && body.onlyEmpty
  | .sequence parts => allOnlyEmpty parts
  | .choice alternatives => allOnlyEmpty alternatives

/-- Does each of some expressions match the empty text only? -/
def allOnlyEmpty : List Normal → Bool
  | [] => true
  | r :: rest => r.onlyEmpty && allOnlyEmpty rest

end

mutual

/-- A lower bound of the number of characters in a match; `none` for an expression with an empty class. -/
def leastLength? : Normal → Option Nat
  | .empty => some 0
  | .look _ => some 0
  | .literal text => some text.length
  | .chars set _ => if set.isEmpty then none else some 1
  | .capture body => body.leastLength?
  | .iterate body least _ _ => body.leastLength?.map (· * least)
  | .sequence parts => sumOfLengths? parts
  | .choice alternatives => leastOfLengths? alternatives

/-- The lower bounds added up. -/
def sumOfLengths? : List Normal → Option Nat
  | [] => some 0
  | r :: rest =>
    match r.leastLength?, sumOfLengths? rest with
    | some m, some n => some (m + n)
    | _, _ => none

/-- The least of the lower bounds. -/
def leastOfLengths? : List Normal → Option Nat
  | [] => none
  | [r] => r.leastLength?
  | r :: rest =>
    match r.leastLength?, leastOfLengths? rest with
    | some m, some n => some (min m n)
    | _, _ => none

end

mutual

/-- Does every match start at the start of the text, by a condition that stands in front? -/
def startsText : Normal → Bool
  | .look l => l == .startText
  | .capture body => body.startsText
  | .iterate body least _ _ => 0 < least && body.startsText
  | .sequence parts => firstStartsText parts
  | .choice alternatives => allStartText alternatives
  | _ => false

/-- Does one of the parts start the text before any of them takes a character? -/
def firstStartsText : List Normal → Bool
  | [] => false
  | r :: rest => r.startsText || (r.onlyEmpty && firstStartsText rest)

/-- Does each of some expressions start the text? -/
def allStartText : List Normal → Bool
  | [] => true
  | r :: rest => r.startsText && allStartText rest

end

mutual

/-- Does every match end at the end of the text, by a condition that stands last? -/
def endsText : Normal → Bool
  | .look l => l == .endText
  | .capture body => body.endsText
  | .iterate body least _ _ => 0 < least && body.endsText
  | .sequence parts => lastEndsText parts
  | .choice alternatives => allEndText alternatives
  | _ => false

/-- Does one of the parts end the text after all of them have taken their characters? -/
def lastEndsText : List Normal → Bool
  | [] => false
  | r :: rest => lastEndsText rest || (allOnlyEmpty rest && r.endsText)

/-- Does each of some expressions end the text? -/
def allEndText : List Normal → Bool
  | [] => true
  | r :: rest => r.endsText && allEndText rest

end

/-! ## Building -/

/-- One character of a set. -/
def ofSet (set : RangeSet) (ascii : Bool) : Normal :=
  match set.scalars with
  | [] => .chars [] true
  | [(lo, hi)] => if lo = hi then .literal [Char.ofNat lo] else .chars [(lo, hi)] ascii
  | set => .chars set ascii

/-- An expression repeated. What takes no character need not be repeated more than once. -/
def repeated (body : Normal) (least : Nat) (most : Option Nat) (greedy : Bool) : Normal :=
  let (least, most) :=
    if body.onlyEmpty then (min least 1, some (min (most.getD 1) 1)) else (least, most)
  if most = some 0 then .empty
  else if least = 1 ∧ most = some 1 then body
  else .iterate body least most greedy

/-- The parts of a sequence; any other expression but the empty one is its only part. -/
def parts : Normal → List Normal
  | .empty => []
  | .sequence parts => parts
  | r => [r]

/-- Puts a part in front of others; two literals become one. -/
def consPart : Normal → List Normal → List Normal
  | .literal s, .literal t :: rest => .literal (s ++ t) :: rest
  | r, rest => r :: rest

/-- Some expressions in sequence. -/
def ofParts (rs : List Normal) : Normal :=
  match (rs.flatMap parts).foldr consPart [] with
  | [] => .empty
  | [r] => r
  | rs => .sequence rs

/-- The alternatives of a choice; any other expression is its only alternative. -/
def alternatives : Normal → List Normal
  | .choice alternatives => alternatives
  | r => [r]

/-- The character of an expression that matches just one. -/
def char? : Normal → Option Char
  | .literal [c] => some c
  | _ => none

/-- The set of an expression that matches one character of a set. -/
def set? : Normal → Option RangeSet
  | .chars set _ => some set
  | _ => none

/-- The parts that two sequences have in common at their start. -/
def commonParts : List Normal → List Normal → List Normal
  | r :: rs, s :: ss => if r.same s then r :: commonParts rs ss else []
  | _, _ => []

/-- The parts of an expression that is a sequence. -/
def sequence? : Normal → Option (List Normal)
  | .sequence parts => some parts
  | _ => none

/-- The parts that all of some expressions start with; there are none unless all are sequences. -/
def sharedParts (rs : List Normal) : List Normal :=
  match rs.mapM sequence? with
  | some (parts :: rest) => rest.foldl commonParts parts
  | _ => []

mutual

/-- The number of nodes of an expression. -/
def nodes : Normal → Nat
  | .capture body => body.nodes + 1
  | .iterate body _ _ _ => body.nodes + 1
  | .sequence parts => nodesOf parts + 1
  | .choice alternatives => nodesOf alternatives + 1
  | _ => 1

/-- The number of nodes of some expressions. -/
def nodesOf : List Normal → Nat
  | [] => 0
  | r :: rest => r.nodes + nodesOf rest

end

/-- A choice among flat alternatives. What they all start with is taken out, after which what is left of
them is a choice again; `fuel` bounds how often. -/
def choose : Nat → List Normal → Normal
  | _, [] => .chars [] true
  | _, [r] => r
  | 0, rs => .choice rs
  | fuel + 1, rs =>
    match rs.mapM char? with
    | some cs => .ofSet (cs.foldl (fun s c => s.insert c.toNat c.toNat) []) false
    | none =>
      match rs.mapM set? with
      | some sets => .ofSet (sets.foldl RangeSet.union []) false
      | none =>
        match sharedParts rs with
        | [] => .choice rs
        | shared =>
          let rests := rs.map (fun r => ofParts (r.parts.drop shared.length))
          ofParts (shared ++ [choose fuel (rests.flatMap alternatives)])

/-- One of some expressions. -/
def ofAlternatives (rs : List Normal) : Normal := choose (nodesOf rs) (rs.flatMap alternatives)

end Normal

/-! ## The normal form of an expression -/

/-- A run of parts or of alternatives on its way, newest first, or a whole expression. -/
inductive Draft where
  | whole (r : Normal)
  | parts (newestFirst : List Normal)
  | alternatives (newestFirst : List Normal)

namespace Draft

/-- The expression that a finished run stands for. -/
def finish : Draft → Normal
  | .whole r => r
  | .parts rs => .ofParts rs.reverse
  | .alternatives rs => .ofAlternatives rs.reverse

/-- The parts of a run of parts. -/
def toParts : Draft → List Normal
  | .parts rs => rs
  | d => [d.finish]

/-- The alternatives of a run of alternatives. -/
def toAlternatives : Draft → List Normal
  | .alternatives rs => rs
  | d => [d.finish]

end Draft

/-- The normal form of an expression whose last run may go on. -/
def Regex.draft : Regex → Draft
  | .empty => .whole .empty
  | .chars set ascii => .whole (.ofSet set ascii)
  | .look l => .whole (.look l)
  | .group captures body =>
    let r := body.draft.finish
    .whole (if captures then .capture r else r)
  | .concat a b => .parts (b.draft.finish :: a.draft.toParts)
  | .alternate a b => .alternatives (b.draft.finish :: a.draft.toAlternatives)
  | .iterate body least most greedy => .whole (body.draft.finish.repeated least most greedy)

/-- The normal form of an expression. -/
def Regex.normal (r : Regex) : Normal := r.draft.finish

end MetricRouter.Pattern
