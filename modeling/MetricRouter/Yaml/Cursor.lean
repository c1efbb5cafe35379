/-!
# Places in a text

A YAML text is read from left to right. The cursor knows the line and the column, which decide what
belongs together.

* `Fault` — why a text is refused;
* `Cursor` — a place in a text with all that follows it.
-/

namespace MetricRouter.Yaml

/-- Why a text is not a YAML document. -/
inductive Fault where
  /-- A character that no text may hold. -/
  | unprintable
  /-- A character that starts no token. -/
  | strayCharacter
  /-- A tab where only spaces may be. -/
  | tab
  /-- A key on a line of its own that no `:` follows. -/
  | missingColon
  /-- An indicator where it has no meaning. -/
  | misplaced
  /-- A quoted text without an end. -/
  | unclosedQuote
  /-- An escape that stands for no character. -/
  | badEscape
  /-- A block of lines whose first line cannot be read. -/
  | badHeader
  /-- A malformed anchor, alias or tag. -/
  | badName
  /-- A malformed, unknown or repeated directive. -/
  | badDirective
  /-- A token that the structure has no place for. -/
  | unexpectedToken
  /-- An alias of an anchor that was not set before. -/
  | unknownAnchor
  /-- A tag whose handle was not declared. -/
  | unknownHandle
  /-- More than one document. -/
  | manyDocuments
  deriving DecidableEq, Repr

/-! ## Characters -/

/-- A space or a tab. -/
def isBlank (c : Char) : Bool := c == ' ' || c == '\t'

/-- A character that ends a line. -/
def isBreak (c : Char) : Bool :=
  c == '\n' || c == '\r' || c == '\x85' || c == '\u2028' || c == '\u2029'

/-- A blank, a break or the end of the text. -/
def isGap (c : Option Char) : Bool := c.all (fun c => isBlank c || isBreak c)

/-- A break or the end of the text. -/
def isLineEnd (c : Option Char) : Bool := c.all isBreak

/-- A letter, a digit, `_` or `-`. -/
def isWord (c : Char) : Bool := c.isAlphanum || c == '_' || c == '-'

/-- A character that a text may hold. -/
def isPrintable (c : Char) : Bool :=
  c == '\t' || c == '\n' || c == '\r' || c == '\x85' || (' ' ≤ c && c ≤ '~') ||
    (0xA0 ≤ c.toNat && c.toNat ≤ 0xFFFD) || 0x10000 ≤ c.toNat

/-- What a break is in the text of a scalar: the separators stay, all others are the same. -/
def breakText (c : Char) : Char := if c == '\u2028' || c == '\u2029' then c else '\n'

/-! ## Cursors -/

/-- A place in a text. -/
structure Cursor where
  /-- What follows it. -/
  rest : List Char
  /-- The number of bytes before it in UTF-8. -/
  index : Nat
  line : Nat
  column : Nat

namespace Cursor

/-- The start of a text. -/
def start (text : List Char) : Cursor := ⟨text, 0, 0, 0⟩

/-- The character right after the cursor. -/
def peek (c : Cursor) : Option Char := c.rest.head?

/-- The character `n` places after the next one. -/
def ahead (c : Cursor) (n : Nat) : Option Char := c.rest[n]?

/-- Is this the character right after the cursor? -/
def sees (c : Cursor) (ch : Char) : Bool := c.peek == some ch

/-- The length of a text in UTF-8. -/
def byteLength (cs : List Char) : Nat := cs.foldl (fun n c => n + c.utf8Size) 0

/-- Goes on by `n` characters of the line. -/
def skip (c : Cursor) (n : Nat) : Cursor :=
  { c with
    rest := c.rest.drop n
    index := c.index + byteLength (c.rest.take n)
    column := c.column + n }

/-- Goes on by the characters that pass a test; none of them may be a break. -/
def skipWhile (c : Cursor) (p : Char → Bool) : Cursor := c.skip (c.rest.takeWhile p).length

/-- Goes on by a break; a carriage return and a line feed are one. -/
def skipLine (c : Cursor) : Cursor :=
  match c.rest with
  | '\r' :: '\n' :: rest => ⟨rest, c.index + 2, c.line + 1, 0⟩
  | ch :: rest => ⟨rest, c.index + ch.utf8Size, c.line + 1, 0⟩
  | [] => c

/-- Goes on to the end of the line. -/
def skipToLineEnd (c : Cursor) : Cursor := c.skipWhile (fun ch => !isBreak ch)

/-- Is this the start of a line with the mark three times and nothing right after it? -/
def seesMarker (c : Cursor) (mark : Char) : Bool :=
  c.column == 0 && c.rest.take 3 == [mark, mark, mark] && isGap (c.ahead 3)

/-- Does a line start here that begins or ends a document? -/
def atMarker (c : Cursor) : Bool := c.seesMarker '-' || c.seesMarker '.'

end Cursor

end MetricRouter.Yaml
