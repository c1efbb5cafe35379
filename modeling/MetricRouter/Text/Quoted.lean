import MetricRouter.Unicode.Later

/-!
# Quoted texts and bytes

* `quoteText` — a text between quotes, with escapes for what cannot be shown as it is;
* `quoteBytes` — bytes between quotes after a `b`, printable ASCII as it is;
* `hexPadded` — a number in hexadecimal with zeros in front.
-/

namespace MetricRouter.Text

open Unicode (hiddenChars)

/-- A number in lower-case hexadecimal. -/
def hex (n : Nat) : String := String.ofList (Nat.toDigits 16 n)

/-- A number in hexadecimal with zeros in front up to a width. -/
def hexPadded (width n : Nat) : String :=
  String.ofList (List.replicate (width - (hex n).length) '0') ++ hex n

/-- A character between quotes. -/
def quoteChar (c : Char) : String :=
  match c with
  | '\x00' => "\\0"
  | '\t' => "\\t"
  | '\r' => "\\r"
  | '\n' => "\\n"
  | '"' => "\\\""
  | '\\' => "\\\\"
  | c => if hiddenChars.contains c.toNat then "\\u\x7b" ++ hex c.toNat ++ "\x7d" else String.singleton c

/-- A text between quotes. -/
def quoteText (s : String) : String := "\"" ++ String.join (s.toList.map quoteChar) ++ "\""

/-- A byte between quotes. -/
def quoteByte (b : UInt8) : String :=
  if b = 0 then "\\0"
  else if b = 0x09 then "\\t"
  else if b = 0x0A then "\\n"
  else if b = 0x0D then "\\r"
  else if b = 0x22 then "\\\""
  else if b = 0x5C then "\\\\"
  else if 0x20 ≤ b ∧ b < 0x7F then String.singleton (Char.ofNat b.toNat)
  else "\\x" ++ hexPadded 2 b.toNat

/-- Bytes between quotes. -/
def quoteBytes (bs : List UInt8) : String := "b\"" ++ String.join (bs.map quoteByte) ++ "\""

end MetricRouter.Text
