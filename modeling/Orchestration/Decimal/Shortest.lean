import Orchestration.Decimal.Binary

/-!
# The fewest digits that identify a number

The reals that round to a binary64 number form an interval, which holds its ends exactly when the
mantissa is even. `Binary.shortest` takes the decimals with one, two, … seventeen digits in turn
and returns the first one that lies in the interval: of the two neighbours of the number on that
decimal grid the nearer, and on a tie the even one.
-/

namespace Orchestration.Decimal

/-- The decimal `digits * 10 ^ exponent`. -/
structure Digits where
  /-- The digits, read as a natural number. -/
  digits : Nat
  /-- The power of ten that they are scaled by. -/
  exponent : Int

/-- Compares `a * 10 ^ i` with `n * 2 ^ j`. -/
def compareScaled (a : Nat) (i : Int) (n : Nat) (j : Int) : Ordering :=
  compare (a * Nat.pow 10 i.toNat * Nat.pow 2 (-j).toNat)
    (n * Nat.pow 2 j.toNat * Nat.pow 10 (-i).toNat)

/-- The decimal lies among the reals that round to the number. -/
def Binary.readsBack (x : Binary) (d : Digits) : Bool :=
  -- The ends of the interval, in quarters of the last place.
  let low := if x.narrowBelow then 4 * x.mantissa - 1 else 4 * x.mantissa - 2
  let high := 4 * x.mantissa + 2
  let closed := x.mantissa % 2 = 0
  let atLow := compareScaled d.digits d.exponent low (x.exponent - 2)
  let atHigh := compareScaled d.digits d.exponent high (x.exponent - 2)
  (atLow == .gt || (closed && atLow == .eq)) && (atHigh == .lt || (closed && atHigh == .eq))

/-- The least power of ten above a positive number. -/
def Binary.scale (x : Binary) : Int :=
  let bits : Int := x.mantissa.log2 + x.exponent
  -- The logarithm of two to base ten is 0.30103, a little rounded up.
  let estimate := (bits * 30103).fdiv 100000
  let candidates := [estimate - 1, estimate, estimate + 1, estimate + 2]
  (candidates.find? fun k => compareScaled 1 k x.mantissa x.exponent == .gt).getD (estimate + 3)

/-- The neighbours of a number on the grid of multiples of `10 ^ grid`, the preferred one first. -/
def Binary.neighbours (x : Binary) (grid : Int) : List Digits :=
  let (num, den) := x.fraction
  let num := num * Nat.pow 10 (-grid).toNat
  let den := den * Nat.pow 10 grid.toNat
  let below := num / den
  let nearest := roundDiv num den .toEven
  let other := if nearest = below then below + 1 else below
  [⟨nearest, grid⟩, ⟨other, grid⟩]

/-- Moves the trailing zeros of the digits into the exponent, at most `fuel` of them. -/
def Digits.strip : (fuel : Nat) → Digits → Digits
  | 0, d => d
  | fuel + 1, d =>
    if d.digits ≠ 0 ∧ d.digits % 10 = 0 then strip fuel ⟨d.digits / 10, d.exponent + 1⟩ else d

/-- The number itself as a decimal with all its digits. -/
def Binary.exactDigits (x : Binary) : Digits :=
  ⟨x.mantissa * Nat.pow 2 x.exponent.toNat * Nat.pow 5 (-x.exponent).toNat, min x.exponent 0⟩

/-- The shortest decimal that reads back as the number. -/
def Binary.shortest (x : Binary) : Digits :=
  if x.mantissa = 0 then ⟨0, 0⟩
  else
    let scale := x.scale
    -- Seventeen digits identify every number, so a hit is found.
    let hit := (List.range 17).findSome? fun (n : Nat) =>
      (x.neighbours (scale - (n + 1))).find? x.readsBack
    (hit.getD x.exactDigits).strip 800

end Orchestration.Decimal
