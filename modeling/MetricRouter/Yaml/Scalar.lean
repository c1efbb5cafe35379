import MetricRouter.Yaml.Cursor

/-!
# Scalars

The texts of a document: plain ones, quoted ones, and blocks of lines.

* `plain` — a text without quotes;
* `quoted` — a text between single or double quotes;
* `block` — lines that are indented under `|` or `>`.

In plain and quoted texts the lines are folded: a single break is a space, and of several ones all but the
first are kept.
-/

namespace MetricRouter.Yaml

/-! ## Gaps -/

/-- Blanks and breaks between two stretches of a text. -/
structure Gap where
  /-- The blanks before the first break. -/
  blanks : List Char := []
  breaks : List Char := []
  /-- Did an escape join the two lines? -/
  joined : Bool := false

namespace Gap

/-- Does the gap go over the end of a line? -/
def broken (g : Gap) : Bool := g.joined || !g.breaks.isEmpty

/-- Breaks, folded. -/
def fold : List Char → List Char
  | [] => []
  | b :: more => if b == '\n' then (if more.isEmpty then [' '] else more) else b :: more

/-- What a gap is in the text. -/
def text (g : Gap) : List Char :=
  if g.joined then g.breaks else if g.broken then fold g.breaks else g.blanks

/-- Goes on with a gap. A tab may not be among the first `least` columns of a line. -/
def read (least : Nat) : Nat → Gap → Cursor → Except Fault (Gap × Cursor)
  | 0, g, c => .ok (g, c)
  | n + 1, g, c =>
    match c.peek with
    | none => .ok (g, c)
    | some ch =>
      if isBlank ch then
        if g.broken && ch == '\t' && c.column < least then .error .tab
        else read least n (if g.broken then g else { g with blanks := g.blanks ++ [ch] }) (c.skip 1)
      else if isBreak ch then read least n { g with breaks := g.breaks ++ [breakText ch] } c.skipLine
      else .ok (g, c)

end Gap

/-! ## Plain texts -/

/-- The characters of a plain text up to the next gap or indicator. -/
def plainStretch (flow : Bool) : List Char → Except Fault (List Char)
  | [] => .ok []
  | c :: rest =>
    if isBlank c || isBreak c then .ok []
    else if c == ':' && flow && rest.head?.any [',', '?', '[', ']', '{', '}'].contains then
      .error .misplaced
    else if c == ':' && isGap rest.head? then .ok []
    else if flow && [',', '[', ']', '{', '}'].contains c then .ok []
    else (plainStretch flow rest).map (c :: ·)

/-- Goes on with a plain text. The mark tells whether a break was met after the text. -/
def plainFrom (flow : Bool) (least : Nat) : Nat → List Char → Gap → Cursor →
    Except Fault (List Char × Bool × Cursor)
  | 0, text, g, c => .ok (text, g.broken, c)
  | n + 1, text, g, c =>
    if c.atMarker || c.sees '#' then .ok (text, g.broken, c)
    else do
      let stretch ← plainStretch flow c.rest
      let c := c.skip stretch.length
      let (text, g) := if stretch.isEmpty then (text, g) else (text ++ g.text ++ stretch, {})
      if c.peek.isNone || !isGap c.peek then return (text, g.broken, c)
      let (g, c) ← Gap.read least c.rest.length g c
      if !flow && c.column < least then return (text, g.broken, c)
      plainFrom flow least n text g c

/-- A plain text. Outside of brackets its lines are indented by at least `least` columns. -/
def plain (flow : Bool) (least : Nat) (c : Cursor) : Except Fault (List Char × Bool × Cursor) :=
  plainFrom flow least (c.rest.length + 1) [] {} c

/-! ## Quoted texts -/

/-- The value of a digit of base 16. -/
def hexDigit? (c : Char) : Option Nat :=
  if '0' ≤ c && c ≤ '9' then some (c.toNat - 48)
  else if 'a' ≤ c && c ≤ 'f' then some (c.toNat - 87)
  else if 'A' ≤ c && c ≤ 'F' then some (c.toNat - 55)
  else none

/-- The character that so many digits of base 16 stand for. -/
def codePoint (width : Nat) (cs : List Char) : Except Fault Char :=
  match (cs.take width).mapM hexDigit? with
  | none => .error .badEscape
  | some digits =>
    let code := digits.foldl (fun n d => 16 * n + d) 0
    if digits.length = width ∧ code.isValidChar then .ok (Char.ofNat code) else .error .badEscape

/-- The escapes of one letter. -/
def letterEscapes : List (Char × Char) :=
  [('0', '\x00'), ('a', '\x07'), ('b', '\x08'), ('t', '\t'), ('\t', '\t'), ('n', '\n'), ('v', '\x0b'),
   ('f', '\x0c'), ('r', '\r'), ('e', '\x1b'), (' ', ' '), ('"', '"'), ('/', '/'), ('\\', '\\'),
   ('N', '\x85'), ('_', '\xa0'), ('L', '\u2028'), ('P', '\u2029')]

/-- The number of digits of the escapes that give a code point. -/
def codeEscapes : List (Char × Nat) := [('x', 2), ('u', 4), ('U', 8)]

/-- The character that an escape stands for, with the length of the escape after its backslash. -/
def unescape (letter : Char) (rest : List Char) : Except Fault (Char × Nat) :=
  match letterEscapes.lookup letter, codeEscapes.lookup letter with
  | some c, _ => .ok (c, 1)
  | none, some width => (codePoint width rest).map (fun c => (c, width + 1))
  | none, none => .error .badEscape

/-- A stretch of a quoted text: the text, the number of characters that it takes, and whether it ends
before an escaped break. -/
structure Stretch where
  text : List Char := []
  length : Nat := 0
  joins : Bool := false

/-- Puts a character that takes `n` characters in front of a stretch. -/
def Stretch.cons (c : Char) (n : Nat) (s : Stretch) : Stretch :=
  { s with text := c :: s.text, length := s.length + n }

/-- The characters between single quotes up to the next gap or the closing quote. -/
def singleStretch : List Char → Stretch
  | '\'' :: '\'' :: rest => (singleStretch rest).cons '\'' 2
  | c :: rest => if c == '\'' || isBlank c || isBreak c then {} else (singleStretch rest).cons c 1
  | [] => {}

/-- The characters between double quotes up to the next gap or the closing quote; `skipped` of them
belong to an escape. -/
def doubleStretch : Nat → List Char → Except Fault Stretch
  | _, [] => .ok {}
  | skipped + 1, _ :: rest => doubleStretch skipped rest
  | 0, c :: rest =>
    if c == '"' || isBlank c || isBreak c then .ok {}
    else if c != '\\' then (doubleStretch 0 rest).map (Stretch.cons c 1)
    else
      match rest with
      | [] => .error .badEscape
      | letter :: more =>
        if isBreak letter then .ok { joins := true }
        else
          match unescape letter more with
          | .error e => .error e
          | .ok (ch, n) => (doubleStretch n rest).map (Stretch.cons ch (n + 1))

/-- Goes on with a quoted text. -/
def quotedFrom (quote : Char) : Nat → List Char → Cursor → Except Fault (List Char × Cursor)
  | 0, _, _ => .error .unclosedQuote
  | n + 1, text, c =>
    if c.atMarker then .error .misplaced
    else if c.rest.isEmpty then .error .unclosedQuote
    else do
      let s ← if quote == '\'' then .ok (singleStretch c.rest) else doubleStretch 0 c.rest
      let c := c.skip s.length
      let c := if s.joins then (c.skip 1).skipLine else c
      let text := text ++ s.text
      if c.sees quote then return (text, c.skip 1)
      let (g, c) ← Gap.read 0 c.rest.length { joined := s.joins } c
      quotedFrom quote n (text ++ g.text) c

/-- A quoted text, from its opening quote on. -/
def quoted (quote : Char) (c : Cursor) : Except Fault (List Char × Cursor) :=
  quotedFrom quote (c.rest.length + 1) [] (c.skip 1)

/-! ## Blocks of lines -/

/-- What becomes of the breaks at the end of a block. -/
inductive Chomping where
  /-- All are dropped. -/
  | strip
  /-- One stays. -/
  | clip
  /-- All stay. -/
  | keep
  deriving DecidableEq

/-- A digit that says by how much a block is indented. -/
def indentation? (c : Option Char) : Except Fault (Option Nat) :=
  match c with
  | some '0' => .error .badHeader
  | some c => .ok (if c.isDigit then some (c.toNat - 48) else none)
  | none => .ok none

/-- A sign that says what becomes of the last breaks. -/
def chomping? : Option Char → Option Chomping
  | some '+' => some .keep
  | some '-' => some .strip
  | _ => none

/-- The sign and the digit at the start of a block, in either order. -/
def blockHeader (c : Cursor) : Except Fault (Chomping × Option Nat × Cursor) := do
  match chomping? c.peek with
  | some chomping =>
    let indent ← indentation? (c.ahead 1)
    return (chomping, indent, c.skip (if indent.isSome then 2 else 1))
  | none =>
    let indent ← indentation? c.peek
    match indent, chomping? (c.ahead 1) with
    | some _, some chomping => return (chomping, indent, c.skip 2)
    | some _, none => return (.clip, indent, c.skip 1)
    | none, _ => return (.clip, none, c)

/-- Goes over empty lines; the indentation of a block is not known yet as long as it is zero. The first
number is that of the widest line. -/
def emptyLines (indent : Nat) : Nat → Nat → List Char → Cursor → Except Fault (Nat × List Char × Cursor)
  | 0, widest, breaks, c => .ok (widest, breaks, c)
  | n + 1, widest, breaks, c =>
    let spaces := (c.rest.takeWhile (· == ' ')).length
    let c := c.skip (if indent = 0 then spaces else min spaces (indent - c.column))
    let widest := max widest c.column
    match c.peek with
    | none => .ok (widest, breaks, c)
    | some ch =>
      if (indent = 0 || c.column < indent) && ch == '\t' then .error .tab
      else if isBreak ch then emptyLines indent n widest (breaks ++ [breakText ch]) c.skipLine
      else .ok (widest, breaks, c)

/-- What was read of a block. -/
structure Lines where
  text : List Char := []
  /-- The break after the last line. -/
  last : List Char := []
  /-- The breaks of the empty lines after it. -/
  more : List Char := []
  /-- Did the last line start with a blank? -/
  blank : Bool := false

/-- A block with a further line. -/
def Lines.add (literal : Bool) (b : Lines) (line : List Char) : Lines :=
  let blank := line.head?.any isBlank
  let joint :=
    if !literal && b.last == ['\n'] && !b.blank && !blank then (if b.more.isEmpty then [' '] else [])
    else b.last
  { text := b.text ++ joint ++ b.more ++ line, blank := blank }

/-- Goes on with the lines of a block. -/
def linesFrom (literal : Bool) (indent : Nat) : Nat → Lines → Cursor → Except Fault (Lines × Cursor)
  | 0, b, c => .ok (b, c)
  | n + 1, b, c =>
    if c.column != indent || c.rest.isEmpty then .ok (b, c)
    else do
      let line := c.rest.takeWhile (fun ch => !isBreak ch)
      let c := c.skip line.length
      let last := (c.peek.map breakText).toList
      let (_, more, c) ← emptyLines indent c.rest.length 0 [] c.skipLine
      linesFrom literal indent n { b.add literal line with last := last, more := more } c

/-- A block, from its `|` or `>` on; `least` is the smallest number of columns by which it may be
indented. -/
def block (literal : Bool) (least : Nat) (c : Cursor) : Except Fault (List Char × Cursor) := do
  let (chomping, indent, c) ← blockHeader (c.skip 1)
  let c := c.skipWhile isBlank
  let c := if c.sees '#' then c.skipToLineEnd else c
  if !isLineEnd c.peek then throw .badHeader
  let c := c.skipLine
  let given := indent.elim 0 (fun i => least - 1 + i)
  let (widest, breaks, c) ← emptyLines given (c.rest.length + 1) 0 [] c
  let indent := if given = 0 then max widest (max least 1) else given
  let (b, c) ← linesFrom literal indent (c.rest.length + 1) { more := breaks } c
  let last := if chomping = .strip then [] else b.last
  let more := if chomping = .keep then b.more else []
  return (b.text ++ last ++ more, c)

end MetricRouter.Yaml
