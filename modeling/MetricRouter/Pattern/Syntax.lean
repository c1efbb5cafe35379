/-!
# The syntax of regular expressions

The tree that the text of a regular expression stands for, before flags are resolved.

* `ClassSet`, `Node` — the tree of a character class, and of an expression;
* `Node.depth` — how deeply groups, repetitions, classes, sequences and alternatives are nested.

Sequences, alternatives and the members of a class are nested to the left; a run of them counts as one
level.
-/

namespace MetricRouter.Pattern

/-- A flag that changes how the text after it is read. -/
inductive Flag where
  /-- `i`: letters match without regard to case. -/
  | caseInsensitive
  /-- `m`: `^` and `$` match at line breaks too. -/
  | multiLine
  /-- `s`: `.` matches a line break too. -/
  | dotMatchesNewLine
  /-- `U`: repetitions are lazy, and `?` makes them greedy. -/
  | swapGreed
  /-- `u`: classes range over all characters, not ASCII alone. -/
  | unicode
  /-- `R`: a carriage return belongs to the line break. -/
  | crlf
  /-- `x`: blanks and comments in the text are ignored. -/
  | ignoreBlanks
  deriving DecidableEq, Repr

/-- Flags switched on and off, in the order of the text. -/
abbrev FlagChange := List (Flag × Bool)

/-- Whether a change switches a flag on or off, if it names the flag. -/
def FlagChange.state? (change : FlagChange) (f : Flag) : Option Bool :=
  (change.find? (fun e => e.1 == f)).map Prod.snd

/-- One character of the text, or one byte written with two hexadecimal digits. -/
structure Literal where
  char : Char
  /-- Written as `\xHH`. -/
  isByte : Bool
  deriving DecidableEq, Repr

/-- A class of characters with a one-letter escape. -/
inductive PerlKind where
  | digit
  | space
  | word
  deriving DecidableEq, Repr

/-- A class named within brackets, such as `[:alpha:]`; it holds ASCII characters only. -/
inductive AsciiKind where
  | alnum | alpha | ascii | blank | cntrl | digit | graph | lower | print | punct | space | upper
  | word | xdigit
  deriving DecidableEq, Repr

/-- A class of characters that share a Unicode property. -/
inductive PropertyQuery where
  /-- A property or a value named alone. -/
  | named (name : String)
  /-- A property named with its value. -/
  | valued (name value : String)
  deriving DecidableEq, Repr

/-- An operation on two classes. -/
inductive SetOp where
  | intersection
  | difference
  | symmetricDifference
  deriving DecidableEq, Repr

/-- What stands between the brackets of a class. -/
inductive ClassSet where
  | empty
  | literal (l : Literal)
  | range (first last : Literal)
  | ascii (kind : AsciiKind) (negated : Bool)
  | unicode (query : PropertyQuery) (negated : Bool)
  | perl (kind : PerlKind) (negated : Bool)
  | bracketed (negated : Bool) (set : ClassSet)
  /-- The members so far and one more. -/
  | union (members : ClassSet) (member : ClassSet)
  | op (kind : SetOp) (lhs rhs : ClassSet)
  deriving Repr

/-- A condition on a place of the text. -/
inductive Assertion where
  | startLine
  | endLine
  | startText
  | endText
  | wordBoundary
  | notWordBoundary
  | wordStart
  | wordEnd
  | wordStartHalf
  | wordEndHalf
  deriving DecidableEq, Repr

/-- A regular expression as it is written. -/
inductive Node where
  | empty
  /-- Flags set from here to the end of the group. -/
  | setFlags (change : FlagChange)
  | literal (l : Literal)
  | dot
  | assertion (kind : Assertion)
  | unicodeClass (query : PropertyQuery) (negated : Bool)
  | perlClass (kind : PerlKind) (negated : Bool)
  | bracketed (negated : Bool) (set : ClassSet)
  /-- A repetition that takes as many or, if it is lazy, as few as it can. -/
  | repetition (body : Node) (least : Nat) (most : Option Nat) (greedy : Bool)
  /-- A group, with the flags that hold in it; what it matches may be captured. -/
  | group (change : FlagChange) (captures : Bool) (body : Node)
  /-- The sequence so far and one more part. -/
  | concat (init : Node) (last : Node)
  /-- The alternatives so far and one more. -/
  | alternation (init : Node) (last : Node)
  deriving Repr

/-! ## Nesting -/

mutual

/-- The nesting of a set. -/
def ClassSet.depth : ClassSet → Nat
  | .bracketed _ set => set.depth + 1
  | .union members member => max members.unionDepth member.depth + 1
  | .op _ lhs rhs => max lhs.depth rhs.depth + 1
  | _ => 0

/-- The nesting within a run of members. -/
def ClassSet.unionDepth : ClassSet → Nat
  | .union members member => max members.unionDepth member.depth
  | .bracketed _ set => set.depth + 1
  | .op _ lhs rhs => max lhs.depth rhs.depth + 1
  | _ => 0

end

mutual

/-- The nesting of an expression. -/
def Node.depth : Node → Nat
  | .bracketed _ set => set.depth + 1
  | .repetition body _ _ _ => body.depth + 1
  | .group _ _ body => body.depth + 1
  | .concat init last => max init.concatDepth last.depth + 1
  | .alternation init last => max init.alternationDepth last.depth + 1
  | _ => 0

/-- The nesting within a sequence. -/
def Node.concatDepth : Node → Nat
  | .concat init last => max init.concatDepth last.depth
  | .bracketed _ set => set.depth + 1
  | .repetition body _ _ _ => body.depth + 1
  | .group _ _ body => body.depth + 1
  | .alternation init last => max init.alternationDepth last.depth + 1
  | _ => 0

/-- The nesting within a run of alternatives. -/
def Node.alternationDepth : Node → Nat
  | .alternation init last => max init.alternationDepth last.depth
  | .bracketed _ set => set.depth + 1
  | .repetition body _ _ _ => body.depth + 1
  | .group _ _ body => body.depth + 1
  | .concat init last => max init.concatDepth last.depth + 1
  | _ => 0

end

/-- A regular expression nested more deeply than this is refused. -/
def nestLimit : Nat := 250

end MetricRouter.Pattern
