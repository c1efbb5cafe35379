import MetricRouter.Text.Blank

/-!
# Metric types and values

Every metric has one of five types and every sample carries one value of three kinds: a long, a text
or a block of bytes.

* `MetricType.accepts` — which values a type carries;
* `MetricType.merge` — how a later value is absorbed by an earlier one.
-/

namespace MetricRouter

/-- What a metric measures. -/
inductive MetricType where
  /-- A long that stands for an instant. -/
  | gauge
  /-- A long that counts since the previous sample. -/
  | delta
  /-- The message of an error. -/
  | error
  /-- A free text. -/
  | text
  /-- A block of bytes. -/
  | blob
  deriving DecidableEq, Repr, Inhabited

/-- The value of one sample. -/
inductive Value where
  | long (v : Int64)
  | text (s : String)
  | blob (bytes : List UInt8)
  deriving DecidableEq, Inhabited

namespace MetricType

/-- The types in the order of their ordinals. -/
def all : List MetricType := [gauge, delta, error, text, blob]

/-- The number that stands for the type on the wire. -/
def ordinal : MetricType → UInt8
  | gauge => 0
  | delta => 1
  | error => 2
  | text => 3
  | blob => 4

/-- The type with a given ordinal. -/
def ofOrdinal? (n : UInt8) : Option MetricType := all[n.toNat]?

/-- The name of the type. -/
def name : MetricType → String
  | gauge => "gauge"
  | delta => "delta"
  | error => "error"
  | text => "text"
  | blob => "blob"

/-- The type with a given name. Blanks around the name and the case of ASCII letters are ignored. -/
def ofName? (s : String) : Option MetricType :=
  let wanted := (Text.trimBlank s.toList).map Char.toLower
  all.find? (fun t => t.name.toList == wanted)

/-- Do samples of the type carry a long? -/
def isLong : MetricType → Bool
  | gauge | delta => true
  | _ => false

/-- Do samples of the type add up? -/
def isCounter : MetricType → Bool
  | delta => true
  | _ => false

/-- May samples of the type be held back and merged? -/
def isConflatable (t : MetricType) : Bool := t.isLong

/-- Is the value of the kind that the type carries? -/
def accepts (t : MetricType) : Value → Bool
  | .long _ => t.isLong
  | .text _ => t == error || t == text
  | .blob _ => t == blob

end MetricType

namespace Value

/-- The long, if the value is one. -/
def long? : Value → Option Int64
  | long v => some v
  | _ => none

/-- The value as people read it: a long in decimal, a text as it is, bytes as their number. -/
def display : Value → String
  | long v => toString v.toInt
  | text s => s
  | blob bytes => "<" ++ toString bytes.length ++ " bytes>"

end Value

/-! ## Merging -/

/-- The sum of two longs, held at the nearer end of the range when it lies outside. -/
def saturatingAdd (a b : Int64) : Int64 :=
  Int64.ofInt (max Int64.minValue.toInt (min Int64.maxValue.toInt (a.toInt + b.toInt)))

/-- Why one sample could not absorb another. -/
inductive MergeRefusal where
  /-- Samples of the type are never merged. -/
  | notConflatable (type : MetricType)
  /-- One of the values is not a long. -/
  | notLong (type : MetricType) (current incoming : Value)
  /-- The samples are of different types. -/
  | typesDiffer (fqn : String) (type incoming : MetricType)
  deriving DecidableEq

/-- The value after a later one was absorbed: a gauge keeps the later value, a delta adds up. -/
def MetricType.merge (t : MetricType) (current incoming : Value) : Except MergeRefusal Value :=
  match t, current, incoming with
  | .gauge, .long _, .long b => .ok (.long b)
  | .delta, .long a, .long b => .ok (.long (saturatingAdd a b))
  | t, current, incoming =>
    if t.isConflatable then .error (.notLong t current incoming) else .error (.notConflatable t)

end MetricRouter
