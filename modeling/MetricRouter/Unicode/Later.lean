import MetricRouter.Unicode.Category
import MetricRouter.Unicode.Property

/-!
# The characters of version 17.0

The tables of properties follow version 16.0 of the standard, the one by which patterns are read. Names of
groups and quoted texts follow version 17.0, which adds characters and changes none of what is asked here.

* `isLetter`, `isNumber` — letters of any alphabet, and numbers of any script;
* `hiddenChars` — the characters that cannot be shown as they are.
-/

namespace MetricRouter.Unicode

open RangeSet (named? union difference ofText)

/-- The characters that version 17.0 added. -/
def laterChars : String :=
  "88F C5C CDC 1ACF-1ADD 1AE0-1AEB 20C1 2B96 A7CE-A7CF A7D2 A7D4 A7F1 FBC3-FBD2 FD90-FD91
   FDC8-FDCE 10940-10959 10EC5-10EC7 10ED0-10ED8 10EFA-10EFB 11B60-11B67 11DB0-11DDB 11DE0-11DE9
   16EA0-16EB8 16EBB-16ED3 16FF2-16FF6 187F8-187FF 18D09-18D1E 18D80-18DF2 1CCFA-1CCFC
   1CEBA-1CED0 1CEE0-1CEF0 1E6C0-1E6DE 1E6E0-1E6F5 1E6FE-1E6FF 1F6D8 1F777-1F77A 1F8D0-1F8D8
   1FA54-1FA57 1FA8A 1FA8E 1FAC8 1FACD 1FAEA 1FAEF 1FBFA 2B73A-2B73F 2CEA2-2CEAD 323B0-33479"

/-- The letters among them, and the marks that count as letters. -/
def laterLetters : String :=
  "88F C5C CDC A7CE-A7CF A7D2 A7D4 A7F1 10940-10959 10EC5-10EC7 10EFA-10EFB 11B60-11B67
   11DB0-11DDB 16EA0-16EB8 16EBB-16ED3 16FF2-16FF6 187F8-187FF 18D09-18D1E 18D80-18DF2
   1E6C0-1E6DE 1E6E0-1E6F5 1E6FE-1E6FF 2B73A-2B73F 2CEA2-2CEAD 323B0-33479"

/-- The numbers among them. -/
def laterNumbers : String :=
  "11DE0-11DE9 16FF4-16FF6"

/-- The marks among them that belong to the character before them. -/
def laterMarks : String :=
  "1ACF-1ADD 1AE0-1AEB 10EFA-10EFB 11B60 11B62-11B64 11B66 1E6E3 1E6E6 1E6EE-1E6EF 1E6F5"

/-- Is the character a letter of some alphabet? -/
def isLetter (c : Char) : Bool :=
  ((named? binaryProperties "alphabetic").getD []).contains c.toNat || (ofText laterLetters).contains c.toNat

/-- Is the character a number of some script? -/
def isNumber (c : Char) : Bool :=
  (["nd", "nl", "no"].any fun name => ((named? categories name).getD []).contains c.toNat) ||
    (ofText laterNumbers).contains c.toNat

/-- The characters that cannot be shown: controls, formats, unassigned and private ones, separators other
than the space, marks that belong to the character before them, and all that is meant to stay invisible. -/
def hiddenChars : RangeSet :=
  let named (table : List (List String × String)) (acc : RangeSet) (names : List String) : RangeSet :=
    names.foldl (fun acc name => union ((named? table name).getD []) acc) acc
  let hidden := named categories [] ["cc", "cf", "co", "cn", "zl", "zp", "zs"]
  let assigned := difference (difference hidden [(0x20, 0x20)]) (ofText laterChars)
  named binaryProperties (union (ofText laterMarks) assigned) ["graphemeextend", "defaultignorablecodepoint"]

end MetricRouter.Unicode
