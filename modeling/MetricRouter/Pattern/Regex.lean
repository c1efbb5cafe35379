import MetricRouter.Pattern.Reader
import MetricRouter.Unicode.Named

/-!
# Regular expressions

A `Regex` is an expression with its flags resolved: it is built from sets of characters and conditions
on places by sequence, choice and repetition.

* `Regex.ofNode` — the expression that a tree stands for under given flags.

Expressions range over text, so a class that could match part of a character only is refused.
-/

namespace MetricRouter.Pattern

open Unicode (RangeSet)

/-- A condition on a place between two characters. -/
inductive Look where
  | startText
  | endText
  | startLine
  | endLine
  /-- The start of a line whose break may have a carriage return. -/
  | startLineCrlf
  | endLineCrlf
  | wordBoundary (ascii : Bool)
  | notWordBoundary (ascii : Bool)
  | wordStart (ascii : Bool)
  | wordEnd (ascii : Bool)
  | wordStartHalf (ascii : Bool)
  | wordEndHalf (ascii : Bool)
  deriving DecidableEq, Repr

/-- A regular expression. -/
inductive Regex where
  /-- Matches the empty text. -/
  | empty
  /-- Matches one character of a set. `ascii` says that the set was made where classes are confined to
  ASCII. -/
  | chars (set : RangeSet) (ascii : Bool)
  /-- Matches the empty text where a condition holds. -/
  | look (condition : Look)
  | concat (first second : Regex)
  | alternate (left right : Regex)
  /-- Matches what its body matches. -/
  | group (captures : Bool) (body : Regex)
  /-- Matches at least `least` and, if there is a bound, at most `most` times. Greed decides which match is
  found first, not whether there is one. -/
  | iterate (body : Regex) (least : Nat) (most : Option Nat) (greedy : Bool)
  deriving Repr

/-- Why a text does not compile. -/
inductive CompileFault where
  | malformed (fault : SyntaxFault)
  /-- No property of that name. -/
  | propertyUnknown
  /-- A property or a character outside ASCII in a class that is confined to ASCII. -/
  | unicodeOff
  /-- The class could match a part of a character. -/
  | notText
  | tooLarge
  deriving DecidableEq, Repr

/-- The flags that decide what a part of an expression matches. -/
structure Flags where
  caseInsensitive : Bool := false
  multiLine : Bool := false
  dotMatchesNewLine : Bool := false
  swapGreed : Bool := false
  unicode : Bool := true
  crlf : Bool := false
  deriving DecidableEq, Repr

/-- The flags after a change. -/
def Flags.apply (f : Flags) (change : FlagChange) : Flags :=
  { caseInsensitive := (change.state? .caseInsensitive).getD f.caseInsensitive
    multiLine := (change.state? .multiLine).getD f.multiLine
    dotMatchesNewLine := (change.state? .dotMatchesNewLine).getD f.dotMatchesNewLine
    swapGreed := (change.state? .swapGreed).getD f.swapGreed
    unicode := (change.state? .unicode).getD f.unicode
    crlf := (change.state? .crlf).getD f.crlf }

/-! ## Classes -/

/-- The ASCII characters of a class. -/
def AsciiKind.chars : AsciiKind → RangeSet
  | alnum => [(0x30, 0x39), (0x41, 0x5A), (0x61, 0x7A)]
  | alpha => [(0x41, 0x5A), (0x61, 0x7A)]
  | ascii => [(0, 0x7F)]
  | blank => [(0x09, 0x09), (0x20, 0x20)]
  | cntrl => [(0, 0x1F), (0x7F, 0x7F)]
  | digit => [(0x30, 0x39)]
  | graph => [(0x21, 0x7E)]
  | lower => [(0x61, 0x7A)]
  | print => [(0x20, 0x7E)]
  | punct => [(0x21, 0x2F), (0x3A, 0x40), (0x5B, 0x60), (0x7B, 0x7E)]
  | space => [(0x09, 0x0D), (0x20, 0x20)]
  | upper => [(0x41, 0x5A)]
  | word => [(0x30, 0x39), (0x41, 0x5A), (0x5F, 0x5F), (0x61, 0x7A)]
  | xdigit => [(0x30, 0x39), (0x41, 0x46), (0x61, 0x66)]

/-- The ASCII characters of a one-letter class. -/
def PerlKind.asciiChars : PerlKind → RangeSet
  | digit => AsciiKind.digit.chars
  | space => AsciiKind.space.chars
  | word => AsciiKind.word.chars

/-- The characters of a one-letter class. -/
def PerlKind.chars : PerlKind → RangeSet
  | digit => Unicode.digitChars
  | space => Unicode.spaceChars
  | word => Unicode.wordChars

/-- A set closed under case where the flags ask for it. -/
def Flags.foldCase (f : Flags) (s : RangeSet) : RangeSet :=
  if !f.caseInsensitive then s
  else if f.unicode then Unicode.closeUnderCase s
  else Unicode.closeUnderAsciiCase s

/-- A set or its complement. Without the flag `unicode` the complement is taken among bytes, and the
result has to be ASCII. -/
def Flags.negate (f : Flags) (negated : Bool) (s : RangeSet) : Except CompileFault RangeSet :=
  if f.unicode then .ok (if negated then s.complement else s)
  else
    let s := if negated then s.complement.intersection [(0, 0xFF)] else s
    if s.all (fun r => r.2 ≤ 0x7F) then .ok s else .error .notText

/-- The characters of a one-letter class under the flags. -/
def Flags.perlClass (f : Flags) (kind : PerlKind) (negated : Bool) : Except CompileFault RangeSet :=
  f.negate negated (if f.unicode then kind.chars else kind.asciiChars)

/-- The characters that a property query names. -/
def PropertyQuery.chars : PropertyQuery → Except CompileFault RangeSet
  | named name => ((Unicode.ofName? name).map .ok).getD (.error .propertyUnknown)
  | valued name value => ((Unicode.ofValue? name value).map .ok).getD (.error .propertyUnknown)

/-- The characters with a property under the flags. -/
def Flags.propertyClass (f : Flags) (query : PropertyQuery) (negated : Bool) :
    Except CompileFault RangeSet :=
  if !f.unicode then .error .unicodeOff
  else
    match query.chars with
    | .error e => .error e
    | .ok s => f.negate negated (f.foldCase s)

/-- The code of a character that stands in a class. -/
def Flags.memberCode (f : Flags) (l : Literal) : Except CompileFault Nat :=
  let n := l.char.toNat
  if f.unicode || n ≤ 0x7F then .ok n
  else if l.isByte then .error .notText
  else .error .unicodeOff

/-- The set that an operation makes of two. -/
def SetOp.apply : SetOp → RangeSet → RangeSet → RangeSet
  | intersection, s, t => s.intersection t
  | difference, s, t => s.difference t
  | symmetricDifference, s, t => s.symmetricDifference t

/-- The characters of a class under the flags. -/
def ClassSet.resolve (f : Flags) : ClassSet → Except CompileFault RangeSet
  | .empty => .ok []
  | .literal l => (f.memberCode l).map (fun n => [(n, n)])
  | .range a b =>
    match f.memberCode a, f.memberCode b with
    | .ok m, .ok n => .ok [(m, n)]
    | .error e, _ => .error e
    | _, .error e => .error e
  | .ascii kind negated => f.negate negated (f.foldCase kind.chars)
  | .unicode query negated => f.propertyClass query negated
  | .perl kind negated => f.perlClass kind negated
  | .bracketed negated set =>
    match set.resolve f with
    | .error e => .error e
    | .ok s => f.negate negated (f.foldCase s)
  | .union members member =>
    match members.resolve f, member.resolve f with
    | .ok s, .ok t => .ok (t.union s)
    | .error e, _ => .error e
    | _, .error e => .error e
  | .op kind lhs rhs =>
    match lhs.resolve f, rhs.resolve f with
    | .ok s, .ok t => .ok (kind.apply (f.foldCase s) (f.foldCase t))
    | .error e, _ => .error e
    | _, .error e => .error e

/-! ## Expressions -/

/-- The expression that matches one given character. -/
def Flags.literal (f : Flags) (l : Literal) : Except CompileFault Regex :=
  let n := l.char.toNat
  if !f.unicode && l.isByte && 0x7F < n then .error .notText
  else .ok (.chars (f.foldCase [(n, n)]) !f.unicode)

/-- The expression that a dot stands for. -/
def Flags.dot (f : Flags) : Except CompileFault Regex :=
  if !f.unicode then .error .notText
  else if f.dotMatchesNewLine then .ok (.chars RangeSet.full false)
  else if f.crlf then .ok (.chars (RangeSet.complement [(0x0A, 0x0A), (0x0D, 0x0D)]) false)
  else .ok (.chars (RangeSet.complement [(0x0A, 0x0A)]) false)

/-- The condition that an assertion stands for. -/
def Flags.condition (f : Flags) : Assertion → Look
  | .startLine =>
    if f.multiLine then (if f.crlf then .startLineCrlf else .startLine) else .startText
  | .endLine => if f.multiLine then (if f.crlf then .endLineCrlf else .endLine) else .endText
  | .startText => .startText
  | .endText => .endText
  | .wordBoundary => .wordBoundary !f.unicode
  | .notWordBoundary => .notWordBoundary !f.unicode
  | .wordStart => .wordStart !f.unicode
  | .wordEnd => .wordEnd !f.unicode
  | .wordStartHalf => .wordStartHalf !f.unicode
  | .wordEndHalf => .wordEndHalf !f.unicode

/-- The expression that a tree stands for under the flags, and the flags after it. Flags set within a
group hold to its end, also in later alternatives. -/
def Regex.ofNode (f : Flags) : Node → Except CompileFault (Regex × Flags)
  | .empty => .ok (.empty, f)
  | .setFlags change => .ok (.empty, f.apply change)
  | .literal l => (f.literal l).map (fun r => (r, f))
  | .dot => f.dot.map (fun r => (r, f))
  | .assertion kind => .ok (.look (f.condition kind), f)
  | .unicodeClass query negated =>
    (f.propertyClass query negated).map (fun s => (.chars s !f.unicode, f))
  | .perlClass kind negated => (f.perlClass kind negated).map (fun s => (.chars s !f.unicode, f))
  | .bracketed negated set =>
    match set.resolve f with
    | .error e => .error e
    | .ok s => (f.negate negated (f.foldCase s)).map (fun s => (.chars s !f.unicode, f))
  | .repetition body least most greedy =>
    match ofNode f body with
    | .error e => .error e
    | .ok (r, f) => .ok (.iterate r least most (greedy != f.swapGreed), f)
  | .group change captures body =>
    match ofNode (f.apply change) body with
    | .error e => .error e
    | .ok (r, _) => .ok (.group captures r, f)
  | .concat init last =>
    match ofNode f init with
    | .error e => .error e
    | .ok (a, f) =>
      match ofNode f last with
      | .error e => .error e
      | .ok (b, f) => .ok (.concat a b, f)
  | .alternation init last =>
    match ofNode f init with
    | .error e => .error e
    | .ok (a, f) =>
      match ofNode f last with
      | .error e => .error e
      | .ok (b, f) => .ok (.alternate a b, f)

end MetricRouter.Pattern
