import Orchestration.Decimal.Binary
import Orchestration.Value

/-!
# Time

Work is bounded by a monotonic clock and dated by a wall clock. Spans of time and readings of the
monotonic clock are numbers of seconds; the definitions that use them do so through the class
`Time`, so that they run with the numbers of the program and mean the same with exact ones.
-/

namespace Orchestration

/-- Numbers of seconds: spans of time and readings of a monotonic clock. -/
class Time (τ : Type) where
  /-- No time at all, and the first reading of a clock. -/
  zero : τ
  /-- The shortest time that a call to a backend is given. -/
  least : τ
  /-- The later reading. -/
  plus : τ → τ → τ
  /-- The time from the second reading to the first one. -/
  minus : τ → τ → τ
  /-- The first one is less than the second one. -/
  before : τ → τ → Bool
  /-- The first one is not more than the second one. -/
  upTo : τ → τ → Bool
  /-- The number of milliseconds. -/
  millis : τ → Float
  /-- The nearest number of microseconds. -/
  micros : τ → Int

/-- A number that was given as an integer or as a binary number. -/
inductive Number where
  | int (n : Int)
  | float (x : Float)

namespace Number

/-- The nearest binary number. -/
def toFloat : Number → Float
  | .int n => Decimal.ofInteger n
  | .float x => x

/-- The number as a value. -/
def toValue : Number → Value
  | .int n => .int n
  | .float x => .float x

/-- The number that a value is. -/
def ofValue? : Value → Option Number
  | .int n => some (.int n)
  | .bool b => some (.int b.toInt)
  | .float x => some (.float x)
  | _ => none

/-- A finite number of seconds, in microseconds: the whole seconds count exactly, and the rest is
rounded after it was multiplied; a tie goes to the even microsecond. -/
def micros : Number → Int
  | .int n => 1000000 * n
  | .float x =>
    match Decimal.truncate? x with
    | none => 0
    | some whole =>
      let rest := (x - Decimal.ofInteger whole) * 1000000.0
      match Decimal.Reading.ofFloat rest with
      | .finite value =>
        let rounded : Int := Decimal.roundDiv value.fraction.1 value.fraction.2 .toEven
        1000000 * whole + (if value.negative then -rounded else rounded)
      | _ => 1000000 * whole

/-- A number, or nothing. -/
def toValue? (n : Option Number) : Value :=
  (n.map toValue).getD .null

end Number

/-- The numbers of the program: sums and differences are binary numbers. -/
instance : Time Number where
  zero := .float 0.0
  least := .float 0.001
  plus a b := .float (a.toFloat + b.toFloat)
  minus a b := .float (a.toFloat - b.toFloat)
  before a b := a.toFloat < b.toFloat
  upTo a b := a.toFloat ≤ b.toFloat
  millis a := a.toFloat * 1000.0
  micros := Number.micros

/-- The binary number nearest to a fraction. -/
def binaryOfRat (q : Rat) : Float :=
  Decimal.ofInteger q.num / Decimal.ofInteger q.den

/-- Exact numbers. -/
instance : Time Rat where
  zero := 0
  least := mkRat 1 1000
  plus a b := a + b
  minus a b := a - b
  before a b := decide (a < b)
  upTo a b := decide (a ≤ b)
  millis a := binaryOfRat (a * 1000)
  micros a := (a * 1000000 + mkRat 1 2).floor

end Orchestration
