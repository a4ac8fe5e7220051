/-!
# The calendar

Days of the proleptic Gregorian calendar, counted from the first of January of the year one, and
what a date says about them: the weekday, the day of the year and the week of the ISO year.
-/

namespace Orchestration.Moment

/-- A date of the calendar. -/
structure Date where
  year : Int
  month : Nat
  day : Nat
deriving DecidableEq, Repr

/-- The year has a 29th of February. -/
def isLeap (year : Int) : Bool :=
  year % 4 = 0 && (year % 100 ≠ 0 || year % 400 = 0)

/-- The days of a month. -/
def daysInMonth (year : Int) (month : Nat) : Nat :=
  match month with
  | 2 => if isLeap year then 29 else 28
  | 4 | 6 | 9 | 11 => 30
  | _ => 31

/-- The days of the year before the month starts. -/
def daysBeforeMonth (year : Int) (month : Nat) : Nat :=
  (List.range (month - 1)).foldr (fun m days => daysInMonth year (m + 1) + days) 0

/-- The days before the year starts. -/
def daysBeforeYear (year : Int) : Int :=
  let past := year - 1
  past * 365 + past.fdiv 4 - past.fdiv 100 + past.fdiv 400

/-- The day's position in its year, from one. -/
def Date.dayOfYear (date : Date) : Nat :=
  daysBeforeMonth date.year date.month + date.day

/-- The days since the first of January of the year one. -/
def Date.toDays (date : Date) : Int :=
  daysBeforeYear date.year + date.dayOfYear - 1

/-- The month and day at a position in the year that counts from zero. -/
def monthAndDay (year : Int) (position : Nat) : Nat × Nat :=
  let month := ((List.range 12).filter fun m => daysBeforeMonth year (m + 1) ≤ position).length
  (month, position - daysBeforeMonth year month + 1)

/-- The date of a day. -/
def Date.ofDays (days : Int) : Date :=
  let era := days.fdiv 146097
  let inEra := days.fmod 146097
  let estimate := era * 400 + inEra.fdiv 366 + 1
  let later := [estimate + 2, estimate + 1].find? fun year => daysBeforeYear year ≤ days
  let year := later.getD estimate
  let (month, day) := monthAndDay year (days - daysBeforeYear year).toNat
  ⟨year, month, day⟩

/-- The weekday of a day, from Monday as zero. -/
def weekday (days : Int) : Nat :=
  (days.fmod 7).toNat

/-- The first day of an ISO year: the Monday of the week that holds its first Thursday. -/
def isoYearStart (year : Int) : Int :=
  let first := daysBeforeYear year
  let offset := weekday first
  if offset ≤ 3 then first - offset else first - offset + 7

/-- The ISO year of a day and the week in it, from one. -/
def isoWeek (days : Int) : Int × Nat :=
  let year := (Date.ofDays days).year
  let isoYear :=
    if days < isoYearStart year then year - 1
    else if isoYearStart (year + 1) ≤ days then year + 1
    else year
  (isoYear, ((days - isoYearStart isoYear) / 7).toNat + 1)

end Orchestration.Moment
