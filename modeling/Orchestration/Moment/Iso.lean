import Orchestration.Decimal.Layout
import Orchestration.Moment

/-!
# Moments in ISO form

The written form of a moment: date, `T`, time, six digits of a second when they are not all zero,
and the offset when it is known. The reader accepts more: a bare date, a space or an underscore in
place of the `T`, a time without seconds, a comma before the fraction, and offsets with or without
a colon.
-/

namespace Orchestration.Moment

/-- A number in decimal, padded on the left to the given width. -/
def padded (pad : Char) (width : Nat) (n : Int) : String :=
  let digits := Decimal.naturalDigits n.natAbs
  let digits := if n < 0 then '-' :: digits else digits
  String.ofList (List.replicate (width - digits.length) pad ++ digits)

/-- A number in decimal, padded with zeros. -/
def zeroPadded (width : Nat) (n : Int) : String :=
  padded '0' width n

/-- The date as year, month and day. -/
def isoDate (moment : Moment) : String :=
  let date := moment.date
  zeroPadded 4 date.year ++ "-" ++ zeroPadded 2 date.month ++ "-" ++ zeroPadded 2 date.day

/-- The time of day as hour, minute and second. -/
def isoTime (moment : Moment) : String :=
  zeroPadded 2 moment.hour ++ ":" ++ zeroPadded 2 moment.minute ++ ":" ++
    zeroPadded 2 moment.second

/-- An offset as a sign, hours and minutes, and seconds if there are any. -/
def isoOffset (offset : Int) : String :=
  let magnitude := offset.natAbs
  let seconds := magnitude % 60
  (if offset < 0 then "-" else "+") ++ zeroPadded 2 (magnitude / 3600 : Nat) ++ ":" ++
    zeroPadded 2 (magnitude / 60 % 60 : Nat) ++
    (if seconds = 0 then "" else ":" ++ zeroPadded 2 seconds)

/-- The moment in ISO form. -/
def iso (moment : Moment) : String :=
  moment.isoDate ++ "T" ++ moment.isoTime ++
    (if moment.microsecond = 0 then "" else "." ++ zeroPadded 6 moment.microsecond) ++
    (moment.offset.map isoOffset).getD ""

end Orchestration.Moment
