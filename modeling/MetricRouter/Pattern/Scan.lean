import MetricRouter.Pattern.Syntax
import MetricRouter.Text.Blank
import MetricRouter.Unicode.Later

/-!
# The tokens of a regular expression

Functions that read one token from the front of a list of characters and return what it means with the
characters after it. Where blanks are ignored (`blanks = true`), blanks and comments from `#` to the end
of the line may stand between the characters of a token.

* `readEscape` — what stands after a backslash;
* `readCount` — the bounds of a counted repetition;
* `readGroupStart` — what an opening parenthesis opens.
-/

namespace MetricRouter.Pattern

open Text (isBlank)
open Unicode (isLetter isNumber)

/-- Why a text is no regular expression. -/
inductive SyntaxFault where
  | groupUnclosed
  | groupUnopened
  | groupName
  | lookaround
  | flagUnknown
  | flagRepeated
  | flagDangling
  | repetitionMissing
  | countUnclosed
  | countEmpty
  | countTooLarge
  | countReversed
  | escapeUnfinished
  | escapeUnknown
  | backreference
  | hexInvalid
  | boundaryUnknown
  | propertyUnfinished
  | classUnclosed
  | classMember
  | rangeReversed
  | nestedTooDeeply
  deriving DecidableEq, Repr

/-! ## Blanks and comments -/

/-- The text without the blanks and comments at its start. -/
def skipBlanks (inComment : Bool) : List Char → List Char
  | [] => []
  | c :: rest =>
    if inComment then skipBlanks (c != '\n') rest
    else if isBlank c then skipBlanks false rest
    else if c = '#' then skipBlanks true rest
    else c :: rest

/-- The text from the next character that counts. -/
def skip (blanks : Bool) (cs : List Char) : List Char := if blanks then skipBlanks false cs else cs

/-- The next character past blanks, looked up without moving on. A `#` and the blanks around it are
passed over, the rest of a comment is not. -/
def peekPast (inComment : Bool) : List Char → Option Char
  | [] => none
  | c :: rest =>
    if isBlank c then peekPast inComment rest
    else if !inComment && c = '#' then peekPast true rest
    else some c

/-- The character after the current one, past blanks where they are ignored. -/
def peek (blanks : Bool) (rest : List Char) : Option Char :=
  if blanks then (peekPast false rest).or rest.head? else rest.head?

/-! ## Numbers -/

/-- A character's value as a hexadecimal digit. -/
def hexValue? (c : Char) : Option Nat := Unicode.RangeSet.hexDigit? c

/-- The character with a given code point. -/
def charOfNat? (n : Nat) : Option Char := if n.isValidChar then some (Char.ofNat n) else none

/-- A number of hexadecimal digits. -/
def readHexDigits (blanks : Bool) : Nat → Nat → List Char → Except SyntaxFault (Nat × List Char)
  | 0, value, cs => .ok (value, cs)
  | _ + 1, _, [] => .error .escapeUnfinished
  | n + 1, value, c :: rest =>
    match hexValue? c with
    | none => .error .hexInvalid
    | some d => readHexDigits blanks n (value * 16 + d) (skip blanks rest)

/-- Hexadecimal digits up to a closing brace: how many, their value, and the text after the brace. -/
def readBracedHex (blanks inComment : Bool) (count value : Nat) :
    List Char → Except SyntaxFault (Nat × Nat × List Char)
  | [] => .error .escapeUnfinished
  | c :: rest =>
    if inComment then readBracedHex blanks (c != '\n') count value rest
    else if blanks && isBlank c then readBracedHex blanks false count value rest
    else if blanks && c = '#' then readBracedHex blanks true count value rest
    else if c = '}' then .ok (count, value, skip blanks rest)
    else
      match hexValue? c with
      | none => .error .hexInvalid
      | some d => readBracedHex blanks false (count + 1) (value * 16 + d) rest

/-- A character written in hexadecimal, from behind the letter that announces it. -/
def readHex (blanks : Bool) (digits : Nat) (cs : List Char) : Except SyntaxFault (Literal × List Char) :=
  match skip blanks cs with
  | [] => .error .escapeUnfinished
  | '{' :: rest =>
    match readBracedHex blanks false 0 0 rest with
    | .error e => .error e
    | .ok (0, _, _) => .error .hexInvalid
    | .ok (_, value, rest) =>
      match charOfNat? value with
      | none => .error .hexInvalid
      | some c => .ok (⟨c, false⟩, rest)
  | cs =>
    match readHexDigits blanks digits 0 cs with
    | .error e => .error e
    | .ok (value, rest) =>
      match charOfNat? value with
      | none => .error .hexInvalid
      | some c => .ok (⟨c, digits == 2⟩, rest)

/-- Decimal digits from the front of the text. -/
def readDigits (blanks inComment : Bool) (digits : List Char) : List Char → List Char × List Char
  | [] => (digits, [])
  | c :: rest =>
    if inComment then readDigits blanks (c != '\n') digits rest
    else if c.isDigit then readDigits blanks false (digits ++ [c]) rest
    else if blanks && isBlank c then readDigits blanks false digits rest
    else if blanks && c = '#' then readDigits blanks true digits rest
    else (digits, c :: rest)

/-- The value of decimal digits. -/
def decimalValue (digits : List Char) : Nat :=
  digits.foldl (fun n c => n * 10 + (c.toNat - 48)) 0

/-- A decimal number with blanks around it: its value, if there are digits and it fits in 32 bits. -/
def readDecimal (blanks : Bool) (cs : List Char) : Except SyntaxFault Nat × List Char :=
  let (digits, rest) := readDigits blanks false [] (cs.dropWhile isBlank)
  let rest := rest.dropWhile isBlank
  if digits.isEmpty then (.error .countEmpty, rest)
  else if decimalValue digits < UInt32.size then (.ok (decimalValue digits), rest)
  else (.error .countTooLarge, rest)

/-- The bounds of a counted repetition, from behind its opening brace, and the text after it. -/
def readCount (blanks : Bool) (cs : List Char) :
    Except SyntaxFault ((Nat × Option Nat) × List Char) :=
  match skip blanks cs with
  | [] => .error .countUnclosed
  | cs =>
    match readDecimal blanks cs with
    | (_, []) => .error .countUnclosed
    | (least, ',' :: rest) =>
      match skip blanks rest with
      | [] => .error .countUnclosed
      | '}' :: rest =>
        match least with
        | .error e => .error e
        | .ok least => .ok ((least, none), skip blanks rest)
      | rest =>
        match least with
        | .error e => .error e
        | .ok least =>
          match readDecimal blanks rest with
          | (.error e, _) => .error e
          | (.ok most, '}' :: rest) =>
            if least ≤ most then .ok ((least, some most), skip blanks rest)
            else .error .countReversed
          | (.ok _, _) => .error .countUnclosed
    | (least, '}' :: rest) =>
      match least with
      | .error e => .error e
      | .ok least => .ok ((least, some least), skip blanks rest)
    | (.error e, _) => .error e
    | (.ok _, _) => .error .countUnclosed

/-! ## Escapes -/

/-- A single token that stands for a character, a class or a condition. -/
inductive Atom where
  | literal (l : Literal)
  | dot
  | assertion (kind : Assertion)
  | unicodeClass (query : PropertyQuery) (negated : Bool)
  | perlClass (kind : PerlKind) (negated : Bool)
  deriving Repr

/-- The expression that the token alone stands for. -/
def Atom.node : Atom → Node
  | literal l => .literal l
  | dot => .dot
  | assertion k => .assertion k
  | unicodeClass q n => .unicodeClass q n
  | perlClass k n => .perlClass k n

/-- A character that has a meaning of its own in some place of an expression. -/
def isMeta (c : Char) : Bool := "\\.+*?()|[]{}^$#&-~".toList.contains c

/-- May a backslash stand in front of the character without changing it? -/
def isEscapable (c : Char) : Bool :=
  isMeta c || (c.toNat < 128 && !c.isAlphanum && c != '<' && c != '>')

/-- The text up to a closing brace, and the text after the brace. -/
def readBraced (blanks inComment : Bool) (name : List Char) :
    List Char → Except SyntaxFault (List Char × List Char)
  | [] => .error .propertyUnfinished
  | c :: rest =>
    if inComment then readBraced blanks (c != '\n') name rest
    else if blanks && isBlank c then readBraced blanks false name rest
    else if blanks && c = '#' then readBraced blanks true name rest
    else if c = '}' then .ok (name, rest)
    else readBraced blanks false (name ++ [c]) rest

/-- The text cut at the first occurrence of `sep`. -/
def cutAt? (sep : List Char) : List Char → Option (List Char × List Char)
  | [] => none
  | c :: rest =>
    if sep.isPrefixOf (c :: rest) then some ([], (c :: rest).drop sep.length)
    else (cutAt? sep rest).map (fun p => (c :: p.1, p.2))

/-- The query that a name between braces stands for, and whether it is turned round: `name!=value`,
`name:value`, `name=value`, or a name alone. -/
def PropertyQuery.ofName (name : List Char) : PropertyQuery × Bool :=
  let query (p : List Char × List Char) : PropertyQuery := .valued (String.ofList p.1) (String.ofList p.2)
  match cutAt? ['!', '='] name with
  | some p => (query p, true)
  | none =>
    match (cutAt? [':'] name).or (cutAt? ['='] name) with
    | some p => (query p, false)
    | none => (.named (String.ofList name), false)

/-- A class of characters with a property, from behind the letter `p` or `P`: the query, and whether it
is turned round. -/
def readProperty (blanks : Bool) (cs : List Char) :
    Except SyntaxFault ((PropertyQuery × Bool) × List Char) :=
  match skip blanks cs with
  | [] => .error .escapeUnfinished
  | '{' :: rest =>
    match readBraced blanks false [] rest with
    | .error e => .error e
    | .ok (name, rest) => .ok (PropertyQuery.ofName name, rest)
  | '\\' :: _ => .error .propertyUnfinished
  | c :: rest => .ok ((.named (String.singleton c), false), skip blanks rest)

/-- A character of the name of a word boundary. -/
def isBoundaryChar (c : Char) : Bool := c.isAlpha || c = '-'

/-- The name of a special word boundary up to its closing brace. -/
def readBoundaryName (blanks inComment : Bool) (name : List Char) :
    List Char → Except SyntaxFault (List Char × List Char)
  | [] => .error .boundaryUnknown
  | c :: rest =>
    if inComment then readBoundaryName blanks (c != '\n') name rest
    else if blanks && isBlank c then readBoundaryName blanks false name rest
    else if blanks && c = '#' then readBoundaryName blanks true name rest
    else if isBoundaryChar c then readBoundaryName blanks false (name ++ [c]) rest
    else if c = '}' then .ok (name, rest)
    else .error .boundaryUnknown

/-- A word boundary, from behind `\b`. Braces that start with a letter or a hyphen name a special one;
other braces are left to be read as a repetition. -/
def readBoundary (blanks : Bool) (cs : List Char) : Except SyntaxFault (Assertion × List Char) :=
  match cs with
  | '{' :: rest =>
    match skip blanks rest with
    | [] => .error .countUnclosed
    | c :: more =>
      if isBoundaryChar c then
        match readBoundaryName blanks false [] (c :: more) with
        | .error e => .error e
        | .ok (name, rest) =>
          match String.ofList name with
          | "start" => .ok (.wordStart, rest)
          | "end" => .ok (.wordEnd, rest)
          | "start-half" => .ok (.wordStartHalf, rest)
          | "end-half" => .ok (.wordEndHalf, rest)
          | _ => .error .boundaryUnknown
      else .ok (.wordBoundary, cs)
  | _ => .ok (.wordBoundary, cs)

/-- What stands after a backslash. -/
def readEscape (blanks : Bool) : List Char → Except SyntaxFault (Atom × List Char)
  | [] => .error .escapeUnfinished
  | c :: rest =>
    let hex (digits : Nat) : Except SyntaxFault (Atom × List Char) :=
      (readHex blanks digits rest).map (fun p => (.literal p.1, p.2))
    let property (negated : Bool) : Except SyntaxFault (Atom × List Char) :=
      (readProperty blanks rest).map (fun p => (.unicodeClass p.1.1 (p.1.2 != negated), p.2))
    let literal (c : Char) : Except SyntaxFault (Atom × List Char) := .ok (.literal ⟨c, false⟩, rest)
    if c.isDigit then .error .backreference
    else match c with
    | 'x' => hex 2
    | 'u' => hex 4
    | 'U' => hex 8
    | 'p' => property false
    | 'P' => property true
    | 'd' => .ok (.perlClass .digit false, rest)
    | 's' => .ok (.perlClass .space false, rest)
    | 'w' => .ok (.perlClass .word false, rest)
    | 'D' => .ok (.perlClass .digit true, rest)
    | 'S' => .ok (.perlClass .space true, rest)
    | 'W' => .ok (.perlClass .word true, rest)
    | 'a' => literal '\x07'
    | 'f' => literal '\x0c'
    | 't' => literal '\t'
    | 'n' => literal '\n'
    | 'r' => literal '\r'
    | 'v' => literal '\x0b'
    | 'A' => .ok (.assertion .startText, rest)
    | 'z' => .ok (.assertion .endText, rest)
    | 'b' => (readBoundary blanks rest).map (fun p => (.assertion p.1, p.2))
    | 'B' => .ok (.assertion .notWordBoundary, rest)
    | '<' => .ok (.assertion .wordStart, rest)
    | '>' => .ok (.assertion .wordEnd, rest)
    | c => if isEscapable c then literal c else .error .escapeUnknown

/-! ## Groups -/

/-- The flag that a letter stands for. -/
def Flag.ofChar? : Char → Option Flag
  | 'i' => some .caseInsensitive
  | 'm' => some .multiLine
  | 's' => some .dotMatchesNewLine
  | 'U' => some .swapGreed
  | 'u' => some .unicode
  | 'R' => some .crlf
  | 'x' => some .ignoreBlanks
  | _ => none

/-- Flags up to `:` or `)`: what they change, the closing character, and the text after it. The letters
after a hyphen are switched off; no flag and no hyphen may stand twice. -/
def readFlags (negated dangling : Bool) (change : FlagChange) :
    List Char → Except SyntaxFault (FlagChange × Char × List Char)
  | [] => .error .groupUnclosed
  | c :: rest =>
    if c = ':' ∨ c = ')' then
      if dangling then .error .flagDangling else .ok (change, c, rest)
    else if c = '-' then
      if negated then .error .flagRepeated else readFlags true true change rest
    else
      match Flag.ofChar? c with
      | none => .error .flagUnknown
      | some f =>
        if (change.state? f).isSome then .error .flagRepeated
        else readFlags negated false (change ++ [(f, !negated)]) rest

/-- May the character stand in the name of a group? A first character is a letter or `_`. -/
def isNameChar (first : Bool) (c : Char) : Bool :=
  if first then c = '_' || isLetter c
  else c = '_' || c = '.' || c = '[' || c = ']' || isLetter c || isNumber c

/-- The name of a group up to `>`. -/
def readGroupName (name : List Char) : List Char → Except SyntaxFault (String × List Char)
  | [] => .error .groupName
  | c :: rest =>
    if c = '>' then
      if name.isEmpty then .error .groupName else .ok (String.ofList name, rest)
    else if isNameChar name.isEmpty c then readGroupName (name ++ [c]) rest
    else .error .groupName

/-- What an opening parenthesis opens. -/
inductive GroupStart where
  /-- Flags for the rest of the surrounding group. -/
  | flags (change : FlagChange)
  /-- A group: the flags that hold in it, whether it captures, and its name if it has one. -/
  | group (change : FlagChange) (captures : Bool) (name : Option String)
  deriving Repr

/-- What an opening parenthesis opens, from behind the parenthesis. -/
def readGroupStart (blanks : Bool) (cs : List Char) : Except SyntaxFault (GroupStart × List Char) :=
  let named (rest : List Char) : Except SyntaxFault (GroupStart × List Char) :=
    (readGroupName [] rest).map (fun p => (.group [] true (some p.1), p.2))
  match skip blanks cs with
  | '?' :: '=' :: _ => .error .lookaround
  | '?' :: '!' :: _ => .error .lookaround
  | '?' :: '<' :: '=' :: _ => .error .lookaround
  | '?' :: '<' :: '!' :: _ => .error .lookaround
  | '?' :: 'P' :: '<' :: rest => named rest
  | '?' :: '<' :: rest => named rest
  | '?' :: rest =>
    match readFlags false false [] rest with
    | .error e => .error e
    | .ok (change, ')', rest) =>
      if change.isEmpty then .error .repetitionMissing else .ok (.flags change, rest)
    | .ok (change, _, rest) => .ok (.group change false none, rest)
  | cs => .ok (.group [] true none, cs)

end MetricRouter.Pattern
