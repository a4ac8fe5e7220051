import Orchestration.Moment.Iso

/-!
# Parts of a moment

What a letter in a pattern stands for: a number, a text, or several parts together. Letters have a
meaning of their own each; a letter that has none stands for nothing.
-/

namespace Orchestration.Moment

/-! ## Names and figures -/

/-- The names of the weekdays, from Monday. -/
def weekdayNames : List String :=
  ["Monday", "Tuesday", "Wednesday", "Thursday", "Friday", "Saturday", "Sunday"]

/-- The names of the months. -/
def monthNames : List String :=
  ["January", "February", "March", "April", "May", "June", "July", "August", "September",
    "October", "November", "December"]

/-- The first three letters of a name. -/
def abbreviated (name : String) : String :=
  String.ofList (name.toList.take 3)

/-- The day that the clock shows. -/
def day (moment : Moment) : Int :=
  moment.micros.fdiv microsPerDay

/-- The name of the weekday. -/
def weekdayName (moment : Moment) : String :=
  weekdayNames.getD (weekday moment.day) ""

/-- The name of the month. -/
def monthName (moment : Moment) : String :=
  monthNames.getD (moment.date.month - 1) ""

/-- The week of the year when weeks start on the given weekday, from Monday as zero. -/
def weekOfYear (moment : Moment) (firstDay : Nat) : Nat :=
  let dayOfWeek := (weekday moment.day + 7 - firstDay) % 7
  (moment.date.dayOfYear - 1 + 7 - dayOfWeek) / 7

/-- The hour on a clock with twelve hours. -/
def hour12 (moment : Moment) : Nat :=
  if moment.hour % 12 = 0 then 12 else moment.hour % 12

/-- Before or after noon. -/
def halfDay (moment : Moment) : String :=
  if moment.hour < 12 then "AM" else "PM"

/-! ## Parts -/

/-- A part of a moment. -/
inductive Part where
  /-- A number with at least so many digits, filled up with zeros or with blanks. -/
  | number (digits : Nat) (blank : Bool) (value : Int)
  /-- A name, which can be changed to upper case. -/
  | name (s : String)
  /-- A mark, which can be changed to lower case. -/
  | mark (s : String)
  /-- A mark in lower case. -/
  | lowerMark (s : String)
  /-- A text that has no case. -/
  | plain (s : String)
  /-- Several parts. -/
  | whole (s : String)
  /-- No text, in any width. -/
  | absent

/-- The day, month and year, two digits each. -/
def shortDate (moment : Moment) : String :=
  zeroPadded 2 moment.date.month ++ "/" ++ zeroPadded 2 moment.date.day ++ "/" ++
    zeroPadded 2 (moment.date.year.fmod 100)

/-- The date with the year as it is. -/
def plainDate (moment : Moment) : String :=
  Decimal.integerText moment.date.year ++ "-" ++ zeroPadded 2 moment.date.month ++ "-" ++
    zeroPadded 2 moment.date.day

/-- The hour and the minute. -/
def shortTime (moment : Moment) : String :=
  zeroPadded 2 moment.hour ++ ":" ++ zeroPadded 2 moment.minute

/-- The time on a clock with twelve hours. -/
def time12 (moment : Moment) : String :=
  zeroPadded 2 moment.hour12 ++ ":" ++ zeroPadded 2 moment.minute ++ ":" ++
    zeroPadded 2 moment.second ++ " " ++ moment.halfDay

/-- The weekday, the date, the time and the year. -/
def full (moment : Moment) : String :=
  abbreviated moment.weekdayName ++ " " ++ abbreviated moment.monthName ++ " " ++
    padded ' ' 2 moment.date.day ++ " " ++ moment.isoTime ++ " " ++
    Decimal.integerText moment.date.year

/-- The whole seconds since the start of the year 1970. -/
def epochSeconds (moment : Moment) : Int :=
  (moment.micros - daysBeforeYear 1970 * microsPerDay).fdiv 1000000

/-- The number that a letter stands for. -/
def numberPart? (moment : Moment) (letter : Char) : Option Part :=
  let date := moment.date
  match letter with
  | 'Y' => some (.number 1 false date.year)
  | 'm' => some (.number 2 false date.month)
  | 'd' => some (.number 2 false date.day)
  | 'H' => some (.number 2 false moment.hour)
  | 'M' => some (.number 2 false moment.minute)
  | 'S' => some (.number 2 false moment.second)
  | 'I' => some (.number 2 false moment.hour12)
  | 'k' => some (.number 2 true moment.hour)
  | 'l' => some (.number 2 true moment.hour12)
  | 'e' => some (.number 2 true date.day)
  | 'y' => some (.number 2 false (date.year.fmod 100))
  | 'C' => some (.number 1 false (date.year.fdiv 100))
  | 'j' => some (.number 3 false date.dayOfYear)
  | 'U' => some (.number 2 false (moment.weekOfYear 6))
  | 'W' => some (.number 2 false (moment.weekOfYear 0))
  | 'w' => some (.number 1 false ((weekday moment.day + 1) % 7 : Nat))
  | 'u' => some (.number 1 false (weekday moment.day + 1 : Nat))
  | 'G' => some (.number 1 false (isoWeek moment.day).1)
  | 'g' => some (.number 2 false ((isoWeek moment.day).1.fmod 100))
  | 'V' => some (.number 2 false (isoWeek moment.day).2)
  | _ => none

/-- The text that a letter stands for. -/
def textPart? (moment : Moment) (letter : Char) : Option Part :=
  match letter with
  | 'a' => some (.name (abbreviated moment.weekdayName))
  | 'A' => some (.name moment.weekdayName)
  | 'b' | 'h' => some (.name (abbreviated moment.monthName))
  | 'B' => some (.name moment.monthName)
  | 'p' => some (.mark moment.halfDay)
  | 'P' => some (.lowerMark moment.halfDay)
  | 'D' | 'x' => some (.whole moment.shortDate)
  | 'F' => some (.whole moment.plainDate)
  | 'T' | 'X' => some (.whole moment.isoTime)
  | 'R' => some (.whole moment.shortTime)
  | 'r' => some (.whole moment.time12)
  | 'c' => some (.whole moment.full)
  | 'n' => some (.plain "\n")
  | 't' => some (.plain "\t")
  | '%' => some (.plain "%")
  | 's' => some (.plain (Decimal.integerText moment.epochSeconds))
  | 'Z' => some (.plain "")
  | 'z' => some .absent
  | _ => none

/-- The part of a moment that a letter stands for. -/
def part? (moment : Moment) (letter : Char) : Option Part :=
  moment.numberPart? letter <|> moment.textPart? letter

end Orchestration.Moment
