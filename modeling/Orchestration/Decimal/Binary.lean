/-!
# Binary numbers, exactly

A finite binary64 number is a sign, a natural mantissa and a power of two. Everything that is
decided about such a number (its decimal digits, its integral part, how it compares with an
integer) is decided on these parts in exact integer arithmetic.
-/

namespace Orchestration.Decimal

/-- The finite number `mantissa * 2 ^ exponent`. -/
structure Binary where
  /-- The sign bit. -/
  negative : Bool
  /-- The natural mantissa; zero for both zeros. -/
  mantissa : Nat
  /-- The power of two that the mantissa is scaled by. -/
  exponent : Int
  /-- The gap to the neighbour below is half the gap to the neighbour above. -/
  narrowBelow : Bool

/-- What a binary64 number is. -/
inductive Reading where
  /-- Not a number. -/
  | nan
  /-- One of the infinities. -/
  | infinite (negative : Bool)
  /-- A finite number. -/
  | finite (value : Binary)

/-- Reads the bits of a binary64 number. -/
def Reading.ofFloat (x : Float) : Reading :=
  let bits := x.toBits
  let negative := bits >>> 63 == 1
  let field := ((bits >>> 52) &&& 0x7FF).toNat
  let fraction := (bits &&& 0xFFFFFFFFFFFFF).toNat
  if field = 0x7FF then
    if fraction = 0 then .infinite negative else .nan
  else if field = 0 then
    -- Zeros and numbers close to them have no leading bit of their own.
    .finite ⟨negative, fraction, -1074, false⟩
  else
    .finite ⟨negative, Nat.pow 2 52 + fraction, (field : Int) - 1075, fraction = 0 && field > 1⟩

/-- The number is neither infinite nor undefined. -/
def isFinite (x : Float) : Bool :=
  match Reading.ofFloat x with
  | .finite _ => true
  | _ => false

/-- The magnitude as a fraction. -/
def Binary.fraction (x : Binary) : Nat × Nat :=
  (x.mantissa * Nat.pow 2 x.exponent.toNat, Nat.pow 2 (-x.exponent).toNat)

/-- The magnitude without its fractional part. -/
def Binary.wholePart (x : Binary) : Nat :=
  x.fraction.1 / x.fraction.2

/-- The number has no fractional part. -/
def Binary.isIntegral (x : Binary) : Bool :=
  x.fraction.1 % x.fraction.2 = 0

/-- The number rounded toward zero. -/
def Binary.truncated (x : Binary) : Int :=
  if x.negative then -(x.wholePart : Int) else x.wholePart

/-- A finite number rounded toward zero; nothing for the others. -/
def truncate? (x : Float) : Option Int :=
  match Reading.ofFloat x with
  | .finite value => some value.truncated
  | _ => none

/-- The integer that a finite number is equal to, if it is integral. -/
def integer? (x : Float) : Option Int :=
  match Reading.ofFloat x with
  | .finite value => if value.isIntegral then some value.truncated else none
  | _ => none

/-- Which way an exact tie between two neighbours goes. -/
inductive Tie where
  /-- To the neighbour that is even. -/
  | toEven
  /-- To the neighbour of larger magnitude. -/
  | away

/-- `num / den` rounded to a natural number. -/
def roundDiv (num den : Nat) (tie : Tie) : Nat :=
  let quotient := num / den
  match compare (2 * (num % den)) den, tie with
  | .lt, _ => quotient
  | .gt, _ => quotient + 1
  | .eq, .away => quotient + 1
  | .eq, .toEven => if quotient % 2 = 0 then quotient else quotient + 1

/-- Positive infinity. -/
def infinity : Float :=
  1.0 / 0.0

/-- The undefined number. -/
def undefined : Float :=
  0.0 / 0.0

/-- `mantissa * 10 ^ exponent`, rounded to the nearest binary64 number. Exponents that are out of
reach for the mantissa give infinity or zero at once. -/
def ofDecimal (negative : Bool) (mantissa : Nat) (exponent : Int) : Float :=
  -- Ten lies between the third and the fourth power of two.
  let bits : Int := mantissa.log2
  let magnitude :=
    if mantissa = 0 ∨ bits + 3 * exponent < -1200 ∧ bits + 4 * exponent < -1200 then 0.0
    else if 1100 < bits + 3 * exponent ∧ 1100 < bits + 4 * exponent then infinity
    else Float.ofScientific mantissa (exponent < 0) exponent.natAbs
  if negative then -magnitude else magnitude

/-- An integer, rounded to the nearest binary64 number; infinite when it is out of range. -/
def ofInteger (n : Int) : Float :=
  ofDecimal (n < 0) n.natAbs 0

end Orchestration.Decimal
