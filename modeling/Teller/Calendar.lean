import Teller.Time

/-!
# Dates and times of day

The civil date of a timestamp in UTC, and its text by RFC 3339: the fraction of a second has three,
six or nine digits and is left out if it is zero. A year of more than four digits has a sign.

    2023-11-14T22:13:20Z    2023-11-14T22:13:20.500Z    +10000-01-01T00:00:00Z
-/

namespace Teller

/-- A day of the Gregorian calendar, which is taken back beyond its introduction. -/
structure CivilDate where
  year : Int
  month : Nat
  day : Nat
deriving DecidableEq

namespace CivilDate

/-- The date so many days after 1970-01-01. Years are counted from March, so that a leap day ends
its year; `era` counts spans of 400 years, which all have the same days. -/
def ofDays (days : Int) : CivilDate :=
  let shifted := days + 719468
  let era := shifted / 146097
  let dayOfEra := (shifted % 146097).toNat
  let yearOfEra := (dayOfEra - dayOfEra / 1460 + dayOfEra / 36524 - dayOfEra / 146096) / 365
  let dayOfYear := dayOfEra - (365 * yearOfEra + yearOfEra / 4 - yearOfEra / 100)
  let marchMonth := (5 * dayOfYear + 2) / 153
  let month := if marchMonth < 10 then marchMonth + 3 else marchMonth - 9
  let year := yearOfEra + era * 400
  ⟨if month ≤ 2 then year + 1 else year, month, dayOfYear - (153 * marchMonth + 2) / 5 + 1⟩

end CivilDate

/-- A number with leading zeros up to a width. -/
def padded (width n : Nat) : String :=
  let digits := toString n
  String.ofList (List.replicate (width - digits.length) '0') ++ digits

/-- A year that four digits cannot tell has its sign in front of them. -/
def yearText (year : Int) : String :=
  if 0 ≤ year ∧ year ≤ 9999 then padded 4 year.toNat
  else (if year < 0 then "-" else "+") ++ padded 4 year.natAbs

/-- The date as `2023-11-14`. -/
def CivilDate.text (d : CivilDate) : String :=
  yearText d.year ++ "-" ++ padded 2 d.month ++ "-" ++ padded 2 d.day

namespace Timestamp

/-- The day of the timestamp in UTC. -/
def date (t : Timestamp) : CivilDate := CivilDate.ofDays (t.second / 86400)

/-- Seconds since midnight. -/
def secondOfDay (t : Timestamp) : Nat := (t.second % 86400).toNat

def hour (t : Timestamp) : Nat := t.secondOfDay / 3600

/-- Hours, minutes and seconds. -/
def clockText (t : Timestamp) : String :=
  let parts := [t.hour, t.secondOfDay / 60 % 60, t.secondOfDay % 60]
  ":".intercalate (parts.map (padded 2))

/-- The fraction of a second in as few groups of three digits as it needs. -/
def fractionText (nanos : Nat) : String :=
  if nanos = 0 then ""
  else if nanos % 1000000 = 0 then "." ++ padded 3 (nanos / 1000000)
  else if nanos % 1000 = 0 then "." ++ padded 6 (nanos / 1000)
  else "." ++ padded 9 nanos

/-- The text of a timestamp by RFC 3339. -/
def text (t : Timestamp) : String :=
  t.date.text ++ "T" ++ t.clockText ++ fractionText t.subsecond.toNat ++ "Z"

end Timestamp

end Teller
