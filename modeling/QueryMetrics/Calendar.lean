/-!
# The calendar

Dates of the Gregorian calendar, extended to all years. A date may also be given by its week: week
1 of a year is the week, from Monday to Sunday, that holds the fourth of January, so the first and
the last days of a year may belong to weeks of its neighbours.
-/

namespace QueryMetrics

/-- The year has a leap day. -/
def isLeapYear (year : Nat) : Bool := year % 4 = 0 ∧ (year % 100 ≠ 0 ∨ year % 400 = 0)

/-- The days of a month. -/
def daysInMonth (year month : Nat) : Nat :=
  if month = 2 then if isLeapYear year then 29 else 28
  else if month = 4 ∨ month = 6 ∨ month = 9 ∨ month = 11 then 30 else 31

/-- The days of a year. -/
def daysInYear (year : Nat) : Nat := if isLeapYear year then 366 else 365

/-- The date exists; years go from 1 to 9999. -/
def isDate (year month day : Nat) : Bool :=
  1 ≤ year && year ≤ 9999 && 1 ≤ month && month ≤ 12 && 1 ≤ day && day ≤ daysInMonth year month

/-- The day of the week of the first of January, counted from Monday as 0. -/
def firstWeekday (year : Nat) : Nat :=
  let before := year - 1
  (365 * before + before / 4 - before / 100 + before / 400) % 7

/-- The number of weeks of a year: 53 if it begins on a Thursday, or on a Wednesday with a leap
day, and 52 otherwise. -/
def weeksInYear (year : Nat) : Nat :=
  if firstWeekday year = 3 ∨ (firstWeekday year = 2 ∧ isLeapYear year) then 53 else 52

/-- Month and day of a day counted from the first of a month as 0, that month being given together
with those that follow it. -/
def monthAndDay (year : Nat) : List Nat → Nat → Nat × Nat
  | [], day => (12, day + 1)
  | month :: months, day =>
    if day < daysInMonth year month then (month, day + 1)
    else monthAndDay year months (day - daysInMonth year month)

/-- The date of a day counted from the first of January as 0. The day may lie in a neighbouring
year. -/
def dateOfYearDay (year : Nat) (day : Int) : Nat × Nat × Nat :=
  let within (year day : Nat) : Nat × Nat × Nat :=
    (year, monthAndDay year ((List.range 12).map (· + 1)) day)
  if day < 0 then within (year - 1) (day + daysInYear (year - 1)).toNat
  else if day < daysInYear year then within year day.toNat
  else within (year + 1) (day - daysInYear year).toNat

/-- The date of a day of a week, counted from Monday as 1. -/
def dateOfWeek? (year week day : Nat) : Option (Nat × Nat × Nat) :=
  if 1 ≤ year ∧ year ≤ 9999 ∧ 1 ≤ week ∧ week ≤ weeksInYear year ∧ 1 ≤ day ∧ day ≤ 7 then
    let first := firstWeekday year
    let monday : Int := if first ≤ 3 then -first else 7 - first
    some (dateOfYearDay year (monday + 7 * (week - 1 : Nat) + (day - 1 : Nat)))
  else none

end QueryMetrics
