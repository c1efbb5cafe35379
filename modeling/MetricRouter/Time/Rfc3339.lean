/-!
# Instants as RFC 3339 text

`format` writes an instant, given in milliseconds since the epoch, as a date and a time of day in
UTC with three places of the second. A year outside 0 to 9999 has a sign and at least four digits.
Instants before the year -262143 or after the year 262142 are written as the plain number.
-/

namespace MetricRouter.Time

/-- A day of the proleptic Gregorian calendar. -/
structure Date where
  year : Int
  month : Nat
  day : Nat
  deriving DecidableEq

/-- Milliseconds in a day. -/
def dayMillis : Int := 86400000

/-- The date of a day, counted from 1 January 1970.

Years are taken from March to February, so that the leap day is the last one; an era is 400 years,
146097 days. -/
def Date.ofDays (days : Int) : Date :=
  let shifted := days + 719468
  let era := shifted.fdiv 146097
  let dayOfEra := shifted - era * 146097
  let yearOfEra := (dayOfEra - dayOfEra / 1460 + dayOfEra / 36524 - dayOfEra / 146096) / 365
  let dayOfYear := dayOfEra - (365 * yearOfEra + yearOfEra / 4 - yearOfEra / 100)
  let monthIndex := (5 * dayOfYear + 2) / 153
  let month := if monthIndex < 10 then monthIndex + 3 else monthIndex - 9
  { year := yearOfEra + era * 400 + (if month ≤ 2 then 1 else 0)
    month := month.toNat
    day := (dayOfYear - (153 * monthIndex + 2) / 5 + 1).toNat }

/-- A number in decimal with zeros in front up to a width. -/
def padded (width n : Nat) : String :=
  let digits := toString n
  String.ofList (List.replicate (width - digits.length) '0') ++ digits

/-- The year of a date: four digits from 0 to 9999, otherwise a sign and at least four digits. -/
def yearText (year : Int) : String :=
  if 0 ≤ year ∧ year ≤ 9999 then padded 4 year.toNat
  else (if year < 0 then "-" else "+") ++ padded 4 year.natAbs

/-- The instant as RFC 3339 text, or as the plain number where there is no date for it. -/
def format (millis : Int) : String :=
  let date := Date.ofDays (millis.fdiv dayMillis)
  if date.year < -262143 ∨ 262142 < date.year then toString millis
  else
    let rest := (millis.fmod dayMillis).toNat
    yearText date.year ++ "-" ++ padded 2 date.month ++ "-" ++ padded 2 date.day ++ "T" ++
      padded 2 (rest / 3600000) ++ ":" ++ padded 2 (rest / 60000 % 60) ++ ":" ++
      padded 2 (rest / 1000 % 60) ++ "." ++ padded 3 (rest % 1000) ++ "Z"

end MetricRouter.Time
