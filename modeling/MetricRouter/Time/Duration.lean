import MetricRouter.Text.Blank

/-!
# Durations

Spans of time to the nanosecond, at most 2^64 seconds less one nanosecond.

* `Duration.read?` — a text such as `1m 30s`: numbers with units, which are added up. A number may have a
  decimal fraction, and blanks are free;
* `Duration.display` — the same form, from years down to nanoseconds;
* `Duration.decimal` — one number with the largest unit from seconds down that it fills;
* `Duration.millis` — the whole milliseconds, as far as they fit in 64 bits.
-/

namespace MetricRouter

/-- A span of time. -/
structure Duration where
  nanos : Nat
  deriving DecidableEq, Repr, Inhabited

namespace Duration

/-- The nanoseconds of a second. -/
def nanosPerSecond : Nat := 1000000000

/-- The nanoseconds of a millisecond. -/
def nanosPerMilli : Nat := 1000000

/-- The nanoseconds of a microsecond. -/
def nanosPerMicro : Nat := 1000

/-- So many seconds. -/
def ofSeconds (n : Nat) : Duration := ⟨n * nanosPerSecond⟩

/-- So many milliseconds. -/
def ofMillis (n : Nat) : Duration := ⟨n * nanosPerMilli⟩

/-- The whole seconds. -/
def seconds (d : Duration) : Nat := d.nanos / nanosPerSecond

/-- The nanoseconds beyond the whole seconds. -/
def subsecond (d : Duration) : Nat := d.nanos % nanosPerSecond

/-- The whole milliseconds, at most the largest number of 64 bits. -/
def millis (d : Duration) : UInt64 := UInt64.ofNat (min (d.nanos / nanosPerMilli) (UInt64.size - 1))

/-! ## Reading -/

/-- A unit of time. -/
inductive Scale where
  /-- So many nanoseconds, less than a second. -/
  | nanos (n : Nat)
  /-- So many seconds. -/
  | seconds (n : Nat)

/-- The units by their names. A month is 30.44 days and a year 365.25 days. -/
def scales : List (List String × Scale) :=
  [(["nanos", "nsec", "ns"], .nanos 1),
   (["usec", "us", "µs"], .nanos nanosPerMicro),
   (["millis", "msec", "ms"], .nanos nanosPerMilli),
   (["seconds", "second", "secs", "sec", "s"], .seconds 1),
   (["minutes", "minute", "min", "mins", "m"], .seconds 60),
   (["hours", "hour", "hrs", "hr", "h"], .seconds 3600),
   (["days", "day", "d"], .seconds 86400),
   (["weeks", "week", "wks", "wk", "w"], .seconds (7 * 86400)),
   (["months", "month", "M"], .seconds 2630016),
   (["years", "year", "yrs", "yr", "y"], .seconds 31557600)]

/-- The unit of a name. -/
def scale? (name : String) : Option Scale := (scales.find? (fun s => s.1.contains name)).map Prod.snd

/-- A number that fits in 64 bits. -/
def word? (n : Nat) : Option Nat := if n < UInt64.size then some n else none

/-- A letter of the name of a unit. -/
def isUnitLetter (c : Char) : Bool := c.isAlpha || c == 'µ'

/-- A digit, or a blank between digits. -/
def isDigitOrBlank (c : Char) : Bool := c.isDigit || Text.isBlank c

/-- The number that digits stand for, whatever the blanks between them. -/
def digitsValue (cs : List Char) : Nat :=
  (cs.filter Char.isDigit).foldl (fun n c => 10 * n + (c.toNat - 48)) 0

/-- Adds seconds and nanoseconds to a duration. -/
def add? (d : Duration) (seconds nanos : Nat) : Option Duration := do
  let nanos ← word? (d.subsecond + nanos)
  let seconds ← word? (d.seconds + seconds + nanos / nanosPerSecond)
  return ⟨seconds * nanosPerSecond + nanos % nanosPerSecond⟩

/-- Adds so many units to a duration. -/
def addWhole? (d : Duration) (n : Nat) : Scale → Option Duration
  | .nanos k => do d.add? 0 (← word? (n * k))
  | .seconds k => do d.add? (← word? (n * k)) 0

/-- The quotient of two numbers, if it is whole. -/
def quotient? (n den : Nat) : Option Nat := if n % den = 0 then some (n / den) else none

/-- Adds the fraction `n / den` of a unit to a duration. It has to be a whole number of nanoseconds for
units of up to a minute, and of seconds for larger ones. A nanosecond has no fractions. -/
def addFraction? (d : Duration) (n den : Nat) : Scale → Option Duration
  | .nanos k => if k = 1 then none else do d.add? 0 (← quotient? (← word? (n * k)) den)
  | .seconds k =>
    if k ≤ 60 then do d.add? 0 (← quotient? (← word? (n * (k * nanosPerSecond))) den)
    else do d.add? (← quotient? (← word? (n * k)) den) 0

/-- The digits after a decimal point, with the power of ten that they are divided by. -/
def fraction? (digits : List Char) : Option (Nat × Nat) := do
  let digits := digits.filter Char.isDigit
  let den ← word? (digits.foldl (fun den _ => 10 * den) 1)
  if digits.isEmpty then none else return (digitsValue digits, den)

/-- A fraction of a unit, if the text goes on with a decimal point. -/
def readFraction? (cs : List Char) : Option (Option (Nat × Nat) × List Char) :=
  match cs with
  | '.' :: cs => do return (some (← fraction? (cs.takeWhile isDigitOrBlank)), cs.dropWhile isDigitOrBlank)
  | cs => some (none, cs)

/-- Adds the numbers with units that a text holds to a duration. -/
def addParts? : Nat → Duration → List Char → Option Duration
  | 0, _, _ => none
  | fuel + 1, d, cs => do
    match cs.dropWhile Text.isBlank with
    | [] => return d
    | c :: rest =>
      if !c.isDigit then none
      let n ← word? (digitsValue (c :: rest.takeWhile isDigitOrBlank))
      let (fraction, rest) ← readFraction? (rest.dropWhile isDigitOrBlank)
      let scale ← scale? (String.ofList (rest.takeWhile isUnitLetter))
      let d ← d.addWhole? n scale
      let d ← fraction.elim (some d) (fun f => d.addFraction? f.1 f.2 scale)
      addParts? fuel d (rest.dropWhile isUnitLetter)

/-- A duration in words: at least one number with a unit, or a bare zero. -/
def read? (s : String) : Option Duration :=
  if s == "0" then some ⟨0⟩
  else if s.toList.all Text.isBlank then none
  else addParts? (s.length + 1) ⟨0⟩ s.toList

/-! ## Writing -/

/-- A number with a unit, unless it is zero. -/
def part (n : Nat) (unit : String) : List String := if n = 0 then [] else [toString n ++ unit]

/-- A number with a unit in the singular or the plural, unless it is zero. -/
def counted (n : Nat) (unit : String) : List String := part n (if n = 1 then unit else unit ++ "s")

/-- A duration in words. -/
def display (d : Duration) : String :=
  let ofYear := d.seconds % 31557600
  let ofMonth := ofYear % 2630016
  let ofDay := ofMonth % 86400
  let parts :=
    counted (d.seconds / 31557600) "year" ++ counted (ofYear / 2630016) "month" ++
    counted (ofMonth / 86400) "day" ++ part (ofDay / 3600) "h" ++ part (ofDay % 3600 / 60) "m" ++
    part (ofDay % 60) "s" ++ part (d.subsecond / nanosPerMilli) "ms" ++ part (d.subsecond % nanosPerMilli / nanosPerMicro) "us" ++
    part (d.subsecond % nanosPerMicro) "ns"
  if parts.isEmpty then "0s" else String.intercalate " " parts

/-- A number with `places` decimal places, less the zeros at its end. -/
def decimalText (whole fraction places : Nat) : String :=
  let digits := (toString fraction).toList
  let padded := List.replicate (places - digits.length) '0' ++ digits
  let kept := (padded.reverse.dropWhile (· == '0')).reverse
  toString whole ++ (if kept.isEmpty then "" else "." ++ String.ofList kept)

/-- A duration as one number. -/
def decimal (d : Duration) : String :=
  if 0 < d.seconds then decimalText d.seconds d.subsecond 9 ++ "s"
  else if nanosPerMilli ≤ d.nanos then
    decimalText (d.nanos / nanosPerMilli) (d.nanos % nanosPerMilli) 6 ++ "ms"
  else if nanosPerMicro ≤ d.nanos then
    decimalText (d.nanos / nanosPerMicro) (d.nanos % nanosPerMicro) 3 ++ "µs"
  else toString d.nanos ++ "ns"

end Duration

end MetricRouter
