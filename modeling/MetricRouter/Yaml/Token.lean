import MetricRouter.Text.Utf8
import MetricRouter.Yaml.Scalar

/-!
# Tokens

A text is cut into tokens. Blocks have no brackets: their tokens for start and end come from the columns
of the lines. A key has no sign in front of it either: its token is put in place once the `:` after it is
met.

* `Token.ofText` — the tokens of a text.
-/

namespace MetricRouter.Yaml

/-- How a scalar is written. -/
inductive Style where
  | plain
  | quoted
  | literal
  | folded
  deriving DecidableEq, Repr

/-- What says of which kind a value is. Escapes may spell any bytes in it. -/
abbrev Tag := List UInt8

/-- The parts of a text. -/
inductive Token where
  /-- The version that the text claims to follow. -/
  | version (major minor : Nat)
  /-- A short form of tags. -/
  | handle (name : String) (lead : Tag)
  | documentStart
  | documentEnd
  | blockSequence
  | blockMapping
  | blockEnd
  | flowSequence
  | flowSequenceEnd
  | flowMapping
  | flowMappingEnd
  /-- The `-` before an item of a block. -/
  | item
  | comma
  | key
  | value
  | reference (name : String)
  | anchor (name : String)
  | tag (handle : String) (suffix : Tag)
  | scalar (style : Style) (text : String)
  deriving DecidableEq, Repr

namespace Token

/-! ## The state of reading -/

/-- A place where a key may have started. -/
structure KeyPlace where
  cursor : Cursor
  /-- The number of tokens before it. -/
  before : Nat
  /-- Has there to be a key? -/
  required : Bool

/-- How far a text has been read. -/
structure Scan where
  cursor : Cursor
  tokens : Array Token
  /-- The columns of the open blocks, the innermost first. -/
  indents : List Nat
  /-- May a key start here? -/
  keyAllowed : Bool
  /-- Where a key may have started, outside of all brackets or inside the innermost ones. -/
  place : Option KeyPlace
  /-- The same for each pair of open brackets from inside out, as it is around them. -/
  outer : List (Option KeyPlace)

abbrev Step := Except Fault Scan

namespace Scan

/-- The start of a text. -/
def start (text : List Char) : Scan :=
  { cursor := .start text, tokens := #[], indents := [], keyAllowed := true, place := none, outer := [] }

/-- Is this place inside brackets? -/
def inFlow (s : Scan) : Bool := !s.outer.isEmpty

/-- The smallest column of what belongs to the innermost block. -/
def least (s : Scan) : Nat := s.indents.head?.elim 0 (· + 1)

/-- Adds a token and goes on by `n` characters. -/
def emit (s : Scan) (t : Token) (n : Nat) : Scan :=
  { s with tokens := s.tokens.push t, cursor := s.cursor.skip n }

/-- Adds a token that was read up to a cursor. -/
def emitTo (s : Scan) (t : Token) (c : Cursor) : Scan := { s with tokens := s.tokens.push t, cursor := c }

/-- Says whether a key may start next. -/
def allow (s : Scan) (b : Bool) : Scan := { s with keyAllowed := b }

/-! ## Blocks -/

/-- Ends the blocks that are indented deeper than a column; all of them if there is none. -/
def unroll (s : Scan) (column : Option Nat) : Scan :=
  if s.inFlow then s
  else
    let deeper := s.indents.takeWhile (fun i => column.all (· < i))
    { s with
      indents := s.indents.drop deeper.length
      tokens := s.tokens ++ Array.replicate deeper.length blockEnd }

/-- Starts a block at a column unless one is open there; its token goes before all but the first `before`
ones. -/
def roll (s : Scan) (column : Nat) (before : Nat) (t : Token) : Scan :=
  if s.inFlow || !s.indents.head?.all (· < column) then s
  else { s with indents := column :: s.indents, tokens := s.tokens.insertIdxIfInBounds before t }

/-- Starts a block at the cursor unless one is open there. -/
def rollHere (s : Scan) (t : Token) : Scan := s.roll s.cursor.column s.tokens.size t

/-! ## Keys -/

/-- Is a place too far away for a key? A key fits into a line and has at most 1024 bytes. -/
def isStale (c : Cursor) (k : KeyPlace) : Bool :=
  k.cursor.line < c.line || k.cursor.index + 1024 < c.index

/-- Gives up places of keys that are too far away. -/
def forget (s : Scan) : Step :=
  let stale := isStale s.cursor
  if (s.place :: s.outer).any (fun k => k.any (fun k => stale k && k.required)) then .error .missingColon
  else
    .ok { s with
      place := s.place.filter (fun k => !stale k)
      outer := s.outer.map (fun k => k.filter (fun k => !stale k)) }

/-- Gives up the latest place of a key. -/
def dropPlace (s : Scan) : Step :=
  if s.place.any KeyPlace.required then .error .missingColon else .ok { s with place := none }

/-- Notes that a key may start at the cursor. -/
def notePlace (s : Scan) : Step :=
  if s.keyAllowed then do
    let required := !s.inFlow && s.indents.head? == some s.cursor.column
    let s ← s.dropPlace
    return { s with place := some ⟨s.cursor, s.tokens.size, required⟩ }
  else .ok s

/-! ## Tokens of fixed length -/

/-- The start or the end of a document. -/
def marker (s : Scan) (t : Token) : Step := do
  let s ← (s.unroll none).dropPlace
  return (s.allow false).emit t 3

/-- An opening bracket. -/
def opening (s : Scan) (t : Token) : Step := do
  let s ← s.notePlace
  return ({ s with place := none, outer := s.place :: s.outer }.allow true).emit t 1

/-- A closing bracket. -/
def closing (s : Scan) (t : Token) : Step := do
  let s ← s.dropPlace
  let s := match s.outer with
    | [] => s
    | place :: outer => { s with place := place, outer := outer }
  return (s.allow false).emit t 1

/-- A comma between brackets. -/
def comma (s : Scan) : Step := do
  let s ← s.dropPlace
  return (s.allow true).emit .comma 1

/-- The `-` of an item. -/
def item (s : Scan) : Step := do
  if !s.inFlow && !s.keyAllowed then throw .misplaced
  let s ← (s.rollHere blockSequence).dropPlace
  return (s.allow true).emit .item 1

/-- The `?` of a key. -/
def key (s : Scan) : Step := do
  if !s.inFlow && !s.keyAllowed then throw .misplaced
  let s ← (s.rollHere blockMapping).dropPlace
  return (s.allow (!s.inFlow)).emit .key 1

/-- The `:` of a value. -/
def value (s : Scan) : Step :=
  match s.place with
  | some k =>
    let s := { s with tokens := s.tokens.insertIdxIfInBounds k.before .key, place := none }
    .ok (((s.roll k.cursor.column k.before blockMapping).allow false).emit .value 1)
  | none =>
    if !s.inFlow && !s.keyAllowed then .error .misplaced
    else .ok (((s.rollHere blockMapping).allow (!s.inFlow)).emit .value 1)

/-! ## Names and tags -/

/-- The name of an anchor or an alias. -/
def named (s : Scan) (t : String → Token) : Step := do
  let s ← s.notePlace
  let c := s.cursor.skip 1
  let name := c.rest.takeWhile isWord
  let c := c.skip name.length
  if name.isEmpty || !(isGap c.peek || c.peek.any ['?', ':', ',', ']', '}', '%', '@', '`'].contains) then
    throw .badName
  return (s.allow false).emitTo (t (String.ofList name)) c

/-- The handle of a tag: a `!`, or a word between two of them. The mark tells whether it is complete. -/
def tagHandle (c : Cursor) : Except Fault (List Char × Bool × Cursor) :=
  if c.sees '!' then
    let c := c.skip 1
    let word := c.rest.takeWhile isWord
    let c := c.skip word.length
    if c.sees '!' then .ok ('!' :: word ++ ['!'], true, c.skip 1) else .ok ('!' :: word, false, c)
  else .error .badName

/-- A character of a tag. -/
def isTagChar (brackets : Bool) (c : Char) : Bool :=
  isWord c || ";/?:@&=+$.!~*'()%".toList.contains c || (brackets && [',', '[', ']'].contains c)

/-- The number of bytes that a character has by the first of them. -/
def sequenceLength? (lead : UInt8) : Option Nat :=
  if lead < 0x80 then some 1
  else if lead < 0xC0 then none
  else if lead < 0xE0 then some 2
  else if lead < 0xF0 then some 3
  else if lead < 0xF8 then some 4
  else none

/-- The characters of a tag as bytes, its escapes undone; `left` bytes of a character are still to come.
Escapes spell a lead byte and as many bytes after it as it announces, whether or not they make up a
character. -/
def tagBytes : Nat → List Char → Except Fault Tag
  | 0, [] => .ok []
  | _ + 1, [] => .error .badName
  | left, '%' :: a :: b :: rest =>
    match hexDigit? a, hexDigit? b with
    | some a, some b =>
      let byte := UInt8.ofNat (16 * a + b)
      match left with
      | left + 1 =>
        if byte &&& 0xC0 == 0x80 then (tagBytes left rest).map (byte :: ·) else .error .badName
      | 0 =>
        match sequenceLength? byte with
        | some n => (tagBytes (n - 1) rest).map (byte :: ·)
        | none => .error .badName
    | _, _ => .error .badName
  | 0, c :: rest => if c == '%' then .error .badName else (tagBytes 0 rest).map (UInt8.ofNat c.toNat :: ·)
  | _ + 1, _ :: _ => .error .badName

/-- The rest of a tag after what was read of it. -/
def tagRest (brackets : Bool) (lead : List Char) (c : Cursor) : Except Fault (Tag × Cursor) := do
  let cs := c.rest.takeWhile (isTagChar brackets)
  if lead.isEmpty && cs.isEmpty then throw .badName
  return (← tagBytes 0 (lead.drop 1 ++ cs), c.skip cs.length)

/-- What counts of a tag or a part of one: it ends at a NUL. -/
def untilNul (t : Tag) : Tag := t.takeWhile (· != 0)

/-- A tag: `!<whole>`, `!handle!suffix` or `!suffix`. -/
def tagText (c : Cursor) : Except Fault (String × Tag × Cursor) :=
  if c.ahead 1 == some '<' then do
    let (text, c) ← tagRest true [] (c.skip 2)
    if c.sees '>' then return ("", untilNul text, c.skip 1) else throw .badName
  else do
    let (lead, complete, after) ← tagHandle c
    if complete then
      let (suffix, c) ← tagRest false [] after
      return (String.ofList lead, untilNul suffix, c)
    else
      let (suffix, c) ← tagRest false lead after
      let suffix := untilNul suffix
      return (if suffix.isEmpty then ("", Text.utf8 "!", c) else ("!", suffix, c))

/-- A tag before a value. -/
def tagged (s : Scan) : Step := do
  let s ← s.notePlace
  let (name, suffix, c) ← tagText s.cursor
  if !isGap c.peek && !(s.inFlow && c.sees ',') then throw .badName
  return (s.allow false).emitTo (.tag name suffix) c

/-! ## Directives -/

/-- A number of at most nine digits. -/
def versionNumber (c : Cursor) : Except Fault (Nat × Cursor) :=
  let digits := c.rest.takeWhile Char.isDigit
  if digits.isEmpty || 9 < digits.length then .error .badDirective
  else .ok (digits.foldl (fun n d => 10 * n + (d.toNat - 48)) 0, c.skip digits.length)

/-- The version that follows `%YAML`. -/
def versionValue (c : Cursor) : Except Fault (Token × Cursor) := do
  let (major, c) ← versionNumber (c.skipWhile isBlank)
  if !c.sees '.' then throw .badDirective
  let (minor, c) ← versionNumber (c.skip 1)
  return (.version major minor, c)

/-- The handle and what it stands for, after `%TAG`. -/
def handleValue (c : Cursor) : Except Fault (Token × Cursor) := do
  let (name, complete, c) ← tagHandle (c.skipWhile isBlank)
  if !(complete || name == ['!']) || !c.peek.any isBlank then throw .badDirective
  let (lead, c) ← tagRest true [] (c.skipWhile isBlank)
  if !isGap c.peek then throw .badDirective
  return (.handle (String.ofList name) (untilNul lead), c)

/-- A line that starts with `%`. -/
def directive (s : Scan) : Step := do
  let s ← (s.unroll none).dropPlace
  let c := s.cursor.skip 1
  let name := c.rest.takeWhile isWord
  let c := c.skip name.length
  if name.isEmpty || !isGap c.peek then throw .badDirective
  let (t, c) ←
    if name == "YAML".toList then versionValue c
    else if name == "TAG".toList then handleValue c
    else throw .badDirective
  let c := c.skipWhile isBlank
  let c := if c.sees '#' then c.skipToLineEnd else c
  if !isLineEnd c.peek then throw .badDirective
  return (s.allow false).emitTo t c.skipLine

/-! ## Scalars -/

/-- A plain text. -/
def plainScalar (s : Scan) : Step := do
  let s ← s.notePlace
  let (text, broken, c) ← Yaml.plain s.inFlow s.least s.cursor
  return (s.allow broken).emitTo (.scalar .plain (String.ofList text)) c

/-- A quoted text. -/
def quotedScalar (s : Scan) (quote : Char) : Step := do
  let s ← s.notePlace
  let (text, c) ← Yaml.quoted quote s.cursor
  return (s.allow false).emitTo (.scalar .quoted (String.ofList text)) c

/-- A block of lines. -/
def blockScalar (s : Scan) (literal : Bool) : Step := do
  let s ← s.dropPlace
  let (text, c) ← Yaml.block literal s.least s.cursor
  return (s.allow true).emitTo (.scalar (if literal then .literal else .folded) (String.ofList text)) c

/-! ## Reading on -/

/-- Goes over blanks, comments and empty lines. A tab counts as a blank only where no key may start. -/
def toToken : Nat → Scan → Scan
  | 0, s => s
  | n + 1, s =>
    let c := s.cursor
    let c := if c.column == 0 && c.sees '\uFEFF' then c.skip 1 else c
    let c := c.skipWhile (fun ch => ch == ' ' || ((s.inFlow || !s.keyAllowed) && ch == '\t'))
    let c := if c.sees '#' then c.skipToLineEnd else c
    if c.peek.any isBreak then toToken n { s with cursor := c.skipLine, keyAllowed := s.keyAllowed || !s.inFlow }
    else { s with cursor := c }

/-- The characters that mean something where a token starts. -/
def indicators : List Char := "-?:,[]{}#&*!|>'\"%@".toList ++ ['`']

/-- Can a plain text start with these characters? -/
def startsPlain (flow : Bool) (c : Char) (next : Option Char) : Bool :=
  !(isGap (some c) || indicators.contains c) || (c == '-' && !next.any isBlank) ||
    (!flow && (c == '?' || c == ':') && !isGap next)

/-- Reads the next token, which starts with `c`. -/
def next (s : Scan) (c : Char) : Step :=
  let gap := isGap (s.cursor.ahead 1)
  if s.cursor.column == 0 && c == '%' then s.directive
  else if s.cursor.seesMarker '-' then s.marker documentStart
  else if s.cursor.seesMarker '.' then s.marker documentEnd
  else if c == '[' then s.opening flowSequence
  else if c == '{' then s.opening flowMapping
  else if c == ']' then s.closing flowSequenceEnd
  else if c == '}' then s.closing flowMappingEnd
  else if c == ',' then s.comma
  else if c == '-' && gap then s.item
  else if c == '?' && (s.inFlow || gap) then s.key
  else if c == ':' && (s.inFlow || gap) then s.value
  else if c == '*' then s.named reference
  else if c == '&' then s.named anchor
  else if c == '!' then s.tagged
  else if c == '|' && !s.inFlow then s.blockScalar true
  else if c == '>' && !s.inFlow then s.blockScalar false
  else if c == '\'' || c == '"' then s.quotedScalar c
  else if startsPlain s.inFlow c (s.cursor.ahead 1) then s.plainScalar
  else .error .strayCharacter

/-- Reads up to the end of the text. Every token has a character, so a number greater than that of the
characters left stays so. -/
def toEnd : Nat → Scan → Step
  | 0, s => .ok s
  | n + 1, s => do
    let s ← (s.toToken (n + 1)).forget
    match s.cursor.peek with
    | none => (s.unroll none).dropPlace
    | some c => toEnd n (← (s.unroll (some s.cursor.column)).next c)

end Scan

/-- The text after the mark that says how it is encoded. -/
def dropEncodingMark : List Char → List Char
  | [] => []
  | c :: rest => if c == '\uFEFF' then rest else c :: rest

/-- The tokens of a text. -/
def ofText (text : List Char) : Except Fault (List Token) := do
  let text := dropEncodingMark text
  if !text.all isPrintable then throw .unprintable
  let s ← (Scan.start text).toEnd (text.length + 1)
  return s.tokens.toList

end Token

end MetricRouter.Yaml
