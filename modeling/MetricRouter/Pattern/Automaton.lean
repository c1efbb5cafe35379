import MetricRouter.Pattern.Normal
import Std.Data.TreeMap

/-!
# The size of an automaton

An expression is refused if the automaton that would search for it is too large. No automaton is built
here: `Automaton` is only the count of its states and bytes, and an expression adds to it.

* `Automaton.addSet` — the states of a class, which share what the encodings of its members have in
  common;
* `Automaton.addLiterals` — the states of a choice among literals, which share their first bytes;
* `Normal.grow` — the states of an expression, stopped as soon as there are too many;
* `Normal.fits` — do both automata of an expression have few enough states, the one that reads forward and
  the one that reads backward?

A piece of an automaton starts in one state and ends in one. If it ends in a fork, a state that lists its
successors, every step from there takes room of its own.
-/

namespace MetricRouter.Pattern

open Unicode (RangeSet utf8Bytes)

/-- The size of an automaton. -/
structure Automaton where
  states : Nat
  bytes : Nat
  deriving DecidableEq, Repr

namespace Automaton

/-- What a state takes. -/
def stateBytes : Nat := 32

/-- What a byte range with its successor takes in a state that lists them. -/
def rangeBytes : Nat := 8

/-- What a successor takes in a fork. -/
def stepBytes : Nat := 4

/-- An automaton of more bytes is refused. -/
def byteLimit : Nat := 10 * 1024 * 1024

/-- The automaton with no states. -/
def empty : Automaton := ⟨0, 0⟩

/-- More states, and the room that they take beyond their own. -/
def add (a : Automaton) (states extra : Nat) : Automaton :=
  ⟨a.states + states, a.bytes + stateBytes * states + extra⟩

/-- Some steps out of forks. -/
def step (a : Automaton) (n : Nat) : Automaton := a.add 0 (stepBytes * n)

/-- A state with some byte ranges. -/
def addRanges (a : Automaton) (n : Nat) : Automaton := a.add 1 (rangeBytes * n)

/-- A step out of the end of a piece, which counts if the piece ends in a fork. -/
def link (a : Automaton) (fork : Bool) : Automaton := if fork then a.step 1 else a

/-! ## Classes -/

/-- A hash of numbers, number by number. -/
def hash (ns : List Nat) : UInt64 :=
  ns.foldl (fun h n => (h ^^^ UInt64.ofNat n) * 1099511628211) 14695981039346656037

/-- A byte range with the number of the state that it leads to. -/
structure Edge where
  low : Nat
  high : Nat
  next : Nat
  deriving DecidableEq, Repr

/-- A state that is still open: its edges, newest first, and the range whose end is not known yet. -/
structure OpenState where
  edges : List Edge
  last : Option (Nat × Nat)

/-- The edges of an open state, newest first, once its last range leads to a given state. -/
def OpenState.close (s : OpenState) (next : Nat) : List Edge :=
  match s.last with
  | none => s.edges
  | some r => ⟨r.1, r.2, next⟩ :: s.edges

/-- A class on its way into an automaton that reads forward. States with the same edges are one, as far as
they are remembered: a table keeps the latest state for each value of a hash. -/
structure ClassBuilder where
  automaton : Automaton
  known : Std.TreeMap Nat (List Edge × Nat)

/-- How many values the hash of a state's edges has. -/
def knownSlots : Nat := 10000

namespace ClassBuilder

/-- The state with given edges, newest first: a known one or a new one. -/
def state (b : ClassBuilder) (edges : List Edge) : Nat × ClassBuilder :=
  let slot := (hash (edges.reverse.flatMap (fun e => [e.low, e.high, e.next]))).toNat % knownSlots
  let new :=
    (b.automaton.states, ⟨b.automaton.addRanges edges.length,
      b.known.insert slot (edges, b.automaton.states)⟩)
  match b.known.get? slot with
  | some (known, n) => if known = edges then (n, b) else new
  | none => new

/-- The state that a path of open states becomes, innermost first; the path ends in `target`. -/
def closeAll (b : ClassBuilder) (target : Nat) : List OpenState → Nat × ClassBuilder
  | [] => (target, b)
  | s :: rest =>
    let (next, b) := b.closeAll target rest
    b.state (s.close next)

/-- One more sequence of byte ranges. The open states on whose ranges it agrees stay open, the others are
closed. -/
def insert (b : ClassBuilder) (target : Nat) :
    List OpenState → List (Nat × Nat) → List OpenState × ClassBuilder
  | s :: path, r :: seq =>
    if s.last = some r then
      let (path, b) := b.insert target path seq
      (s :: path, b)
    else
      let (next, b) := b.closeAll target path
      (⟨s.close next, some r⟩ :: seq.map (fun r => ⟨[], some r⟩), b)
  | path, _ => (path, b)

end ClassBuilder

/-- The states of a class in an automaton that reads forward. -/
def addSetForward (a : Automaton) (set : RangeSet) : Automaton :=
  let start : List OpenState × ClassBuilder := ([⟨[], none⟩], ⟨a.add 1 0, ∅⟩)
  let (path, b) := set.encodings.foldl (fun p seq => p.2.insert a.states p.1 seq) start
  (b.closeAll a.states path).2.automaton

/-- How many values the hash of a byte range with its successor has. -/
def suffixSlots : Nat := 1000

/-- The states of a class in an automaton that reads backward: for each sequence of byte ranges a chain of
states, which shares its beginning with earlier ones as far as those are remembered. -/
def addSetBackward (a : Automaton) (set : RangeSet) : Automaton :=
  let range (p : Nat × Automaton × Std.TreeMap Nat (Edge × Nat)) (r : Nat × Nat) :
      Nat × Automaton × Std.TreeMap Nat (Edge × Nat) :=
    let (next, a, known) := p
    let edge : Edge := ⟨r.1, r.2, next⟩
    let slot := (hash [next, r.1, r.2]).toNat % suffixSlots
    let new := (a.states, a.add 1 0, known.insert slot (edge, a.states))
    match known.get? slot with
    | some (e, n) => if e = edge then (n, a, known) else new
    | none => new
  let start : Automaton × Std.TreeMap Nat (Edge × Nat) := (a.add 2 0, ∅)
  (set.encodings.foldl
    (fun p seq =>
      let (_, b, known) := seq.foldl range (a.states + 1, p)
      (b.step 1, known)) start).1

/-- The states of a class. A class of ASCII characters is one state with its end. -/
def addSet (a : Automaton) (backward : Bool) (set : RangeSet) : Automaton :=
  if set.all (fun r => r.2 < 0x80) then (a.add 1 0).addRanges set.length
  else if backward then a.addSetBackward set
  else a.addSetForward set

/-! ## Choices among literals -/

/-- Cuts a list of texts where one of them is empty. -/
def cutAtEmpty : List (List Nat) → List (List (List Nat))
  | [] => [[]]
  | [] :: rest => [] :: cutAtEmpty rest
  | t :: rest =>
    match cutAtEmpty rest with
    | [] => [[t]]
    | run :: runs => (t :: run) :: runs

/-- The list of texts, where only one of those at its start that are empty counts. -/
def dropRepeatedEmpty : List (List Nat) → List (List Nat)
  | [] :: [] :: rest => dropRepeatedEmpty ([] :: rest)
  | ts => ts

/-- The bytes that some texts start with, each once. -/
def firstBytes (ts : List (List Nat)) : List Nat := (ts.filterMap List.head?).eraseDups

/-- What stands after a given first byte. -/
def restsAfter (n : Nat) (ts : List (List Nat)) : List (List Nat) :=
  ts.filterMap fun t =>
    match t with
    | [] => none
    | m :: rest => if m = n then some rest else none

/-- Adds the states that tell some texts apart, which are given in order of preference. A text that ends
is preferred to all later ones, so the first bytes are shared only between two such ends: each run of texts
between them has a state of its own, and a fork leads to the runs and the ends in turn. Texts that all end
here need no state. -/
def addTexts : Nat → Automaton → List (List Nat) → Automaton
  | 0, a, _ => a
  | _ + 1, a, [t] => a.add (2 * t.length) (stepBytes * t.length)
  | fuel + 1, a, ts =>
    if ts.all List.isEmpty then a
    else
      let runs := cutAtEmpty (dropRepeatedEmpty ts)
      let add (a : Automaton) (run : List (List Nat)) : Automaton :=
        let first := firstBytes run
        let a := first.foldl (fun a n => addTexts fuel a (restsAfter n run)) a
        match first with
        | [] => a
        | [_] => (a.add 1 0).step 1
        | _ => (a.addRanges first.length).step 1
      ((runs.foldl add a).add 1 0).step (runs.length - 1)

/-- The states of a choice among literals. -/
def addLiterals (a : Automaton) (backward : Bool) (texts : List (List Char)) : Automaton :=
  let bytes := texts.map fun text =>
    let bytes := text.flatMap (fun c => utf8Bytes c.toNat)
    if backward then bytes.reverse else bytes
  addTexts (bytes.foldl (fun n t => max n t.length) 0 + 1) (a.add 1 0) bytes

end Automaton

/-! ## Pieces -/

/-- Adds a piece and says whether it ends in a fork; `none` once the automaton is too large. -/
abbrev Growth := Automaton → Option (Bool × Automaton)

namespace Growth

/-- The automaton after a piece, unless it is too large. -/
def done (fork : Bool) (a : Automaton) : Option (Bool × Automaton) :=
  if a.bytes ≤ Automaton.byteLimit then some (fork, a) else none

/-- A piece `n` times more, after an end that may be a fork. -/
def more (piece : Growth) : Nat → Bool → Growth
  | 0, fork, a => some (fork, a)
  | n + 1, fork, a =>
    match piece a with
    | none => none
    | some (next, a) => more piece n next (a.link fork)

/-- A piece `n` times. -/
def exactly (piece : Growth) : Nat → Growth
  | 0, a => done false (a.add 1 0)
  | n + 1, a =>
    match piece a with
    | none => none
    | some (fork, a) => piece.more n fork a

/-- A piece or nothing. -/
def optional (piece : Growth) : Growth := fun a =>
  match piece (a.add 1 0) with
  | none => none
  | some (fork, a) => done false (((a.add 1 0).step 2).link fork)

/-- A piece `n` times or more. Where none is needed, a piece that may match the empty text is set apart
from the fork in front of it. -/
def atLeast (piece : Growth) (takesChar : Bool) : Nat → Growth
  | 0, a =>
    if takesChar then
      match piece (a.add 1 0) with
      | none => none
      | some (fork, a) => done true ((a.step 1).link fork)
    else
      match piece a with
      | none => none
      | some (fork, a) => done false (((a.add 3 0).step 4).link fork)
  | 1, a =>
    match piece a with
    | none => none
    | some (fork, a) => done true (((a.add 1 0).step 1).link fork)
  | n + 2, a =>
    match piece.exactly (n + 1) a with
    | none => none
    | some (fork, a) =>
      match piece a with
      | none => none
      | some (last, a) => done true ((((a.add 1 0).step 1).link fork).link last)

/-- A piece up to `n` times more, each time behind a fork that can end the run. -/
def upTo (piece : Growth) : Nat → Bool → Growth
  | 0, fork, a => done false (a.link fork)
  | n + 1, fork, a =>
    match piece (a.add 1 0) with
    | none => none
    | some (next, a) => upTo piece n next ((a.step 2).link fork)

/-- A piece `least` to `most` times. -/
def between (piece : Growth) (least most : Nat) : Growth := fun a =>
  match piece.exactly least a with
  | none => none
  | some (fork, a) => piece.upTo (most - least) fork (a.add 1 0)

/-- A piece repeated. -/
def repeated (piece : Growth) (takesChar : Bool) (least : Nat) (most : Option Nat) : Growth :=
  match most with
  | none => piece.atLeast takesChar least
  | some most =>
    if least = most then piece.exactly least
    else if least = 0 ∧ most = 1 then piece.optional
    else piece.between least most

end Growth

/-! ## Expressions -/

namespace Normal

/-- The text of a literal. -/
def literal? : Normal → Option (List Char)
  | .literal text => some text
  | _ => none

/-- Does every match take a character? -/
def takesChar (r : Normal) : Bool := r.leastLength?.any (0 < ·)

mutual

/-- The states of an expression. Captures are told apart by the automaton that reads forward only. -/
def grow (backward : Bool) : Normal → Growth
  | .empty, a => Growth.done false (a.add 1 0)
  | .look _, a => Growth.done false (a.add 1 0)
  | .literal text, a =>
    Growth.done false (a.add (text.flatMap (fun c => utf8Bytes c.toNat)).length 0)
  | .chars set _, a => Growth.done false (a.addSet backward set)
  | .capture body, a =>
    if backward then body.grow backward a
    else
      match body.grow backward (a.add 1 0) with
      | none => none
      | some (fork, a) => Growth.done false ((a.add 1 0).link fork)
  | .iterate body least most _, a =>
    Growth.repeated (body.grow backward) body.takesChar least most a
  | .sequence parts, a =>
    if backward then growBackward parts a
    else
      match parts with
      | [] => Growth.done false (a.add 1 0)
      | r :: rest =>
        match r.grow backward a with
        | none => none
        | some (fork, a) => growForward rest fork a
  | .choice alternatives, a =>
    match alternatives.mapM literal? with
    | some texts => Growth.done false (a.addLiterals backward texts)
    | none => growChoice backward alternatives a

/-- The states of the rest of a sequence, after a part that may end in a fork. -/
def growForward : List Normal → Bool → Growth
  | [], fork, a => some (fork, a)
  | r :: rest, fork, a =>
    match r.grow false a with
    | none => none
    | some (next, a) => growForward rest next (a.link fork)

/-- The states of a sequence that is read from its end. -/
def growBackward : List Normal → Growth
  | [], a => Growth.done false (a.add 1 0)
  | [r], a => r.grow true a
  | r :: rest, a =>
    match growBackward rest a with
    | none => none
    | some (fork, a) =>
      match r.grow true a with
      | none => none
      | some (next, a) => some (next, a.link fork)

/-- The states of a choice. The fork that leads to its alternatives is made after the second of them. -/
def growChoice (backward : Bool) : List Normal → Growth
  | [], a => Growth.done false (a.add 1 0)
  | [r], a => r.grow backward a
  | r :: s :: rest, a =>
    match r.grow backward a with
    | none => none
    | some (first, a) =>
      match s.grow backward a with
      | none => none
      | some (second, a) =>
        growAlternatives backward rest ((((a.add 2 0).step 2).link first).link second)

/-- The states of the alternatives after the second one. -/
def growAlternatives (backward : Bool) : List Normal → Growth
  | [], a => Growth.done false a
  | r :: rest, a =>
    match r.grow backward a with
    | none => none
    | some (fork, a) => growAlternatives backward rest ((a.step 1).link fork)

end

/-- Is one of the two automata of an expression small enough? In front of the expression stands a loop over
any bytes, unless the search can start in one place only; behind it stands the final state. -/
def fitsOneWay (backward : Bool) (r : Normal) : Bool :=
  let anchored := if backward then r.endsText else r.startsText
  let start := if anchored then Automaton.empty.add 1 0 else ((Automaton.empty.add 2 0).addRanges 1).step 2
  let piece : Normal := if backward then r else .capture r
  match piece.grow backward start with
  | none => false
  | some (fork, a) => (Growth.done false ((a.add 1 0).link fork)).isSome

/-- Is the expression nothing but a choice among very many literals? Those are searched for without an
automaton. -/
def isWordList : Normal → Bool
  | .choice alternatives =>
    3000 ≤ alternatives.length && alternatives.all (fun r => r.literal?.isSome)
  | _ => false

/-- Are both automata of an expression small enough? -/
def fits (r : Normal) : Bool := r.isWordList || (r.fitsOneWay false && r.fitsOneWay true)

end Normal

end MetricRouter.Pattern
