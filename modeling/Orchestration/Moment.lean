import Orchestration.Moment.Calendar

/-!
# Moments

A moment is a reading of a clock in microseconds, with the clock's offset from universal time where
it is known. Moments with an offset are compared and subtracted as instants, moments without one by
what the clock shows; a moment of one sort cannot be compared with one of the other.
-/

namespace Orchestration

/-- A reading of a clock. -/
structure Moment where
  /-- What the clock shows, in microseconds since the start of the year one. -/
  micros : Int
  /-- How far the clock is ahead of universal time, in seconds. The offset goes with the reading: it
  is that of a fixed zone, without the rules of a place for summer and winter. -/
  offset : Option Int
deriving DecidableEq, Repr, Inhabited

namespace Moment

/-- The microseconds of a second. -/
def microsPerSecond : Int := 1000000

/-- The microseconds of a day. -/
def microsPerDay : Int := 86400 * microsPerSecond

/-- The first microsecond after the last year that the calendar can show. -/
def horizon : Int :=
  daysBeforeYear 10000 * microsPerDay

/-- A reading of a clock that shows universal time. -/
def utc (micros : Int) : Moment :=
  ⟨micros, some 0⟩

/-- The microseconds in universal time; what the clock shows when its offset is unknown. -/
def instant (moment : Moment) : Int :=
  moment.micros - moment.offset.getD 0 * microsPerSecond

/-- The two moments can be compared with each other. -/
def Comparable (a b : Moment) : Prop :=
  a.offset.isSome = b.offset.isSome

instance (a b : Moment) : Decidable (Comparable a b) := by
  unfold Comparable
  infer_instance

/-- The microseconds from `earlier` to `later`. -/
def elapsed (earlier later : Moment) : Int :=
  later.instant - earlier.instant

/-- The clock shows a time in the years one to 9999. -/
def InCalendar (moment : Moment) : Prop :=
  0 ≤ moment.micros ∧ moment.micros < horizon

instance (moment : Moment) : Decidable moment.InCalendar := by
  unfold InCalendar
  infer_instance

/-- The moment after the given number of microseconds. -/
def plus (moment : Moment) (micros : Int) : Moment :=
  { moment with micros := moment.micros + micros }

/-- The date that the clock shows. -/
def date (moment : Moment) : Date :=
  Date.ofDays (moment.micros.fdiv microsPerDay)

/-- The microseconds since midnight. -/
def timeOfDay (moment : Moment) : Nat :=
  (moment.micros.fmod microsPerDay).toNat

/-- The hour that the clock shows. -/
def hour (moment : Moment) : Nat :=
  moment.timeOfDay / 3600000000

/-- The minute that the clock shows. -/
def minute (moment : Moment) : Nat :=
  moment.timeOfDay / 60000000 % 60

/-- The second that the clock shows. -/
def second (moment : Moment) : Nat :=
  moment.timeOfDay / 1000000 % 60

/-- The microsecond that the clock shows. -/
def microsecond (moment : Moment) : Nat :=
  moment.timeOfDay % 1000000

/-- A date and a time of day. -/
def ofParts (date : Date) (hour minute second micros : Nat) (offset : Option Int) : Moment :=
  ⟨date.toDays * microsPerDay + ((hour * 3600 + minute * 60 + second : Nat) : Int) * microsPerSecond
    + micros, offset⟩

end Moment

end Orchestration
