import Orchestration.Decimal.Layout

/-!
# A set number of digits

Numbers written with a set number of decimal places or of significant digits. The exact value of
the binary number is rounded, and ties go to the even digit.
-/

namespace Orchestration.Decimal

/-- The magnitude in units of `10 ^ -places`, rounded. -/
def Binary.units (x : Binary) (places : Int) : Nat :=
  let (num, den) := x.fraction
  roundDiv (num * Nat.pow 10 places.toNat) (den * Nat.pow 10 (-places).toNat) .toEven

/-- A count of units of `10 ^ -places`, with its point. -/
def unitsText (units places : Nat) : List Char :=
  if places = 0 then naturalDigits units
  else
    let digits := naturalDigits units
    let padded := List.replicate (places + 1 - digits.length) '0' ++ digits
    padded.take (padded.length - places) ++ '.' :: padded.drop (padded.length - places)

/-- The magnitude with a set number of decimal places. -/
def Binary.fixedText (x : Binary) (places : Nat) : List Char :=
  unitsText (x.units places) places

/-- The magnitude rounded to `count + 1` significant digits, and the exponent of the first one. -/
def Binary.significant (x : Binary) (count : Nat) : Nat × Int :=
  if x.mantissa = 0 then (0, 0)
  else
    let lead := x.scale - 1
    let units := x.units (count - lead)
    if units < Nat.pow 10 (count + 1) then (units, lead) else (units / 10, lead + 1)

/-- The magnitude with one digit before the point, `places` after it, and an exponent. -/
def Binary.scientificText (x : Binary) (places : Nat) : List Char :=
  let (units, lead) := x.significant places
  unitsText units places ++ 'e' :: exponentText lead

/-- The text without the zeros at its end and without a point that they leave bare. -/
def dropTrailingZeros (text : List Char) : List Char :=
  if text.contains '.' then
    ((text.reverse.dropWhile (· = '0')).dropWhile (· = '.')).reverse
  else text

/-- The magnitude with `precision` significant digits: positionally while the exponent lies between
`-4` and the precision, and without trailing zeros unless they are kept. -/
def Binary.generalText (x : Binary) (precision : Nat) (keepZeros : Bool) : List Char :=
  let precision := max precision 1
  let (units, lead) := x.significant (precision - 1)
  if -4 ≤ lead ∧ lead < precision then
    let text := unitsText (x.units (precision - 1 - lead)) (precision - 1 - lead).toNat
    if keepZeros then text else dropTrailingZeros text
  else
    let mantissa := unitsText units (precision - 1)
    (if keepZeros then mantissa else dropTrailingZeros mantissa) ++ 'e' :: exponentText lead

/-- A number with a set number of decimal places. -/
def fixedText (x : Float) (places : Nat) : String :=
  match Reading.ofFloat x with
  | .nan => "nan"
  | .infinite negative => if negative then "-inf" else "inf"
  | .finite value =>
    let digits := value.fixedText places
    String.ofList (if value.negative then '-' :: digits else digits)

/-- The number nearest to the decimal with the given places that is nearest to `x`. -/
def roundTo (x : Float) (places : Nat) : Float :=
  match Reading.ofFloat x with
  | .finite value => ofDecimal value.negative (value.units places) (-(places : Int))
  | _ => x

end Orchestration.Decimal
