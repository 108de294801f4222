/-!
# Calendar days

`CivilDate.ofDays` is the Gregorian date of a day counted from 1970-01-01, before or after, and
`CivilDate.days` counts it back.  `Instant` is a moment as seconds and nanoseconds since the start of
1970 in UTC; `Instant.timestamp` writes it with as many digits of the second as are needed, in groups
of three.
-/

namespace AgentSandbox

/-- A date of the Gregorian calendar, extended to all years. -/
structure CivilDate where
  year : Int
  month : Nat
  day : Nat
  deriving DecidableEq

namespace CivilDate

/-- The days from the first of March of year zero to 1970-01-01. -/
def epoch : Int := 719468

/-- The date of a day counted from 1970-01-01.  Years are counted from March, so that a leap day ends
one, and in eras of 400 years, which all have the same number of days. -/
def ofDays (days : Int) : CivilDate :=
  let z := days + epoch
  let era := Int.fdiv z 146097
  let dayOfEra := (z - era * 146097).toNat
  let yearOfEra :=
    (dayOfEra - dayOfEra / 1460 + dayOfEra / 36524 - dayOfEra / 146096) / 365
  let dayOfYear := dayOfEra - (365 * yearOfEra + yearOfEra / 4 - yearOfEra / 100)
  let m := (5 * dayOfYear + 2) / 153
  let month := if m < 10 then m + 3 else m - 9
  ⟨era * 400 + yearOfEra + (if month ≤ 2 then 1 else 0), month,
    dayOfYear - (153 * m + 2) / 5 + 1⟩

/-- The day of a date counted from 1970-01-01. -/
def days (d : CivilDate) : Int :=
  let y := if d.month ≤ 2 then d.year - 1 else d.year
  let era := Int.fdiv y 400
  let yearOfEra := (y - era * 400).toNat
  let m := if 2 < d.month then d.month - 3 else d.month + 9
  let dayOfYear := (153 * m + 2) / 5 + d.day - 1
  let dayOfEra := yearOfEra * 365 + yearOfEra / 4 - yearOfEra / 100 + dayOfYear
  era * 146097 + dayOfEra - epoch

end CivilDate

/-- A number in decimal digits, with zeros in front up to a width. -/
def paddedNat (width n : Nat) : String :=
  let ds := Nat.toDigits 10 n
  String.ofList (List.replicate (width - ds.length) '0' ++ ds)

/-- A year in at least four digits, with a sign unless it is between 0 and 9999. -/
def yearText (y : Int) : String :=
  if 0 ≤ y ∧ y ≤ 9999 then paddedNat 4 y.toNat
  else (if y < 0 then "-" else "+") ++ paddedNat 4 y.natAbs

/-- A date as year, month and day with hyphens between them. -/
def CivilDate.text (d : CivilDate) : String :=
  yearText d.year ++ "-" ++ paddedNat 2 d.month ++ "-" ++ paddedNat 2 d.day

/-- A moment, counted from the start of 1970 in UTC. -/
structure Instant where
  seconds : Int
  nanoseconds : Nat
  deriving DecidableEq

namespace Instant

/-- The number of whole days from 1970-01-01 to the day of a moment. -/
def dayNumber (t : Instant) : Int := Int.fdiv t.seconds 86400

/-- The day of a moment in UTC. -/
def date (t : Instant) : CivilDate := .ofDays t.dayNumber

/-- The seconds since the start of the day. -/
def secondOfDay (t : Instant) : Nat := (t.seconds - t.dayNumber * 86400).toNat

/-- The fraction of a second in the fewest groups of three digits that are exact. -/
def fractionText (nanoseconds : Nat) : String :=
  if nanoseconds = 0 then ""
  else if nanoseconds % 1000000 = 0 then "." ++ paddedNat 3 (nanoseconds / 1000000)
  else if nanoseconds % 1000 = 0 then "." ++ paddedNat 6 (nanoseconds / 1000)
  else "." ++ paddedNat 9 nanoseconds

/-- The date and time of a moment in UTC. -/
def timestamp (t : Instant) : String :=
  let s := t.secondOfDay
  t.date.text ++ "T" ++ paddedNat 2 (s / 3600) ++ ":" ++ paddedNat 2 (s / 60 % 60) ++ ":" ++
    paddedNat 2 (s % 60) ++ fractionText t.nanoseconds ++ "+00:00"

end Instant

end AgentSandbox
