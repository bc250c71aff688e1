/-!
# Points in time

A point in time is a number of nanoseconds since the start of 1970 and is written in the zone of Greenwich, to
the microsecond.  Days are counted in years that start in March, so that a leap day is the last of its year.
-/

namespace Conformance.Report

/-- A day of the calendar. -/
structure Day where
  year : Nat
  month : Nat
  day : Nat
  deriving Repr, DecidableEq

namespace Day

/-- The days from the first of March of the year 0 to the start of 1970. -/
def epochOffset : Nat := 719468

/-- The days of 400 years. -/
def daysOfEra : Nat := 146097

/-- The day that is a number of days after the first of January of 1970. -/
def ofNumber (number : Nat) : Day :=
  let shifted := number + epochOffset
  let inEra := shifted % daysOfEra
  let yearOfEra := (inEra - inEra / 1460 + inEra / 36524 - inEra / 146096) / 365
  let inYear := inEra - (365 * yearOfEra + yearOfEra / 4 - yearOfEra / 100)
  let fromMarch := (5 * inYear + 2) / 153
  let month := if fromMarch < 10 then fromMarch + 3 else fromMarch - 9
  { year := yearOfEra + 400 * (shifted / daysOfEra) + (if month ≤ 2 then 1 else 0)
    month := month
    day := inYear - (153 * fromMarch + 2) / 5 + 1 }

example : ofNumber 0 = ⟨1970, 1, 1⟩ := by decide
example : ofNumber 11016 = ⟨2000, 2, 29⟩ := by decide
example : ofNumber 47540 = ⟨2100, 2, 28⟩ := by decide
example : ofNumber 47541 = ⟨2100, 3, 1⟩ := by decide

end Day

/-- A number with zeros in front of it. -/
def zeroPadded (width n : Nat) : String :=
  let digits := toString n
  String.ofList (List.replicate (width - digits.length) '0') ++ digits

/-- A point in time as reports bear it.  Microseconds are left out if there are none. -/
def timestamp (nanoseconds : Nat) : String :=
  let seconds := nanoseconds / 1000000000
  let micro := nanoseconds / 1000 % 1000000
  let day := Day.ofNumber (seconds / 86400)
  let time := [seconds / 3600 % 24, seconds / 60 % 60, seconds % 60]
  s!"{zeroPadded 4 day.year}-{zeroPadded 2 day.month}-{zeroPadded 2 day.day}T" ++
    String.intercalate ":" (time.map (zeroPadded 2)) ++
    (if micro = 0 then "" else s!".{zeroPadded 6 micro}") ++ "+00:00"

end Conformance.Report
