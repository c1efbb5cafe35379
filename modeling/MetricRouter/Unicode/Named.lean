import MetricRouter.Unicode.Age
import MetricRouter.Unicode.CaseFolding
import MetricRouter.Unicode.Category
import MetricRouter.Unicode.Property
import MetricRouter.Unicode.Script
import MetricRouter.Unicode.Segmentation

/-!
# Named sets of characters

* `digitChars`, `spaceChars`, `wordChars` — decimal digits, white space, and the characters of words;
* `closeUnderCase` — a set with all characters that differ from its members in case only;
* `ofName?`, `ofValue?` — the characters with a property that is named alone, or with its value.

Names are compared in lower case, without spaces, hyphens, underscores and a leading `is`.
-/

namespace MetricRouter.Unicode

open RangeSet (named? union insert complement)

/-! ## Character classes -/

/-- The characters of a general category or of a group of them. -/
def categoryChars? (name : String) : Option RangeSet :=
  match categoryGroups.find? (fun g => g.1.contains name) with
  | some (_, members) =>
    some (members.foldl (fun acc m => union ((named? categories m).getD []) acc) [])
  | none => named? categories name

/-- The decimal digits. -/
def digitChars : RangeSet := (named? categories "nd").getD []

/-- White space. -/
def spaceChars : RangeSet := (named? binaryProperties "whitespace").getD []

/-- The characters of words: letters, marks, decimal digits, connecting punctuation and the joiners. -/
def wordChars : RangeSet :=
  [categoryChars? "m", categoryChars? "nd", categoryChars? "pc",
    named? binaryProperties "joincontrol"].foldl (fun acc s => union (s.getD []) acc)
    ((named? binaryProperties "alphabetic").getD [])

/-! ## Case -/

/-- The sets of characters that differ in case only. -/
def orbits : List (List Nat) := RangeSet.groupsOfText foldingOrbits

/-- The set with all characters that differ from its members in case only. -/
def closeUnderCase (s : RangeSet) : RangeSet :=
  orbits.foldl (fun acc orbit =>
    if orbit.any s.contains then orbit.foldl (fun acc n => insert n n acc) acc else acc) s

/-- The set with the other case of its ASCII letters. -/
def closeUnderAsciiCase (s : RangeSet) : RangeSet :=
  (List.range 26).foldl (fun acc i =>
    if s.contains (0x41 + i) || s.contains (0x61 + i) then
      insert (0x41 + i) (0x41 + i) (insert (0x61 + i) (0x61 + i) acc)
    else acc) s

/-! ## Properties -/

/-- A name as it is compared. The name `isc` is kept whole, as it names a property of its own. -/
def foldName (name : String) : String :=
  let cs := name.toList
  let isLead := match cs with
    | a :: b :: _ => a.toLower == 'i' && b.toLower == 's'
    | _ => false
  let kept := ((if isLead then cs.drop 2 else cs).filter
    (fun c => c != ' ' && c != '_' && c != '-' && c.toNat < 128)).map Char.toLower
  if isLead && kept == ['c'] then "isc" else String.ofList kept

/-- The general category that a name stands for; `any`, `assigned` and `ascii` count as categories. -/
def category? (name : String) : Option RangeSet :=
  match name with
  | "any" => some RangeSet.full
  | "assigned" => (named? categories "cn").map complement
  | "ascii" => some [(0, 0x7F)]
  | _ => categoryChars? name

/-- The characters of a property that is named alone: a binary property, a general category or a
script. The names `cf`, `sc` and `lc` are categories first. -/
def ofName? (name : String) : Option RangeSet :=
  let name := foldName name
  let binary := if name == "cf" || name == "sc" || name == "lc" then none
    else named? binaryProperties name
  binary.or ((category? name).or (named? scripts name))

/-- The characters that were assigned by a version of the standard. -/
def assignedBy? (version : String) : Option RangeSet :=
  match ages.findIdx? (fun e => e.1.contains version) with
  | none => none
  | some i => some ((ages.take (i + 1)).foldl (fun acc e => union (RangeSet.ofText e.2) acc) [])

/-- The characters whose property has a given value. -/
def ofValue? (property value : String) : Option RangeSet :=
  let value := foldName value
  match foldName property with
  | "gc" | "generalcategory" => category? value
  | "sc" | "script" => named? scripts value
  | "scx" | "scriptextensions" => (named? scriptExtensions value).or (named? scripts value)
  | "age" => assignedBy? value
  | "gcb" | "graphemeclusterbreak" => named? graphemeBreaks value
  | "wb" | "wordbreak" => named? wordBreaks value
  | "sb" | "sentencebreak" => named? sentenceBreaks value
  | _ => none

end MetricRouter.Unicode
