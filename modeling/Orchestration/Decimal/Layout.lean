import Orchestration.Decimal.Shortest

/-!
# How numbers are written

A number is written with the fewest digits that identify it: positionally, with at least one digit
after the point, when its leading digit stands for `10 ^ e` with `-4 ≤ e < 16`, and otherwise with
one digit before the point and a signed exponent of at least two digits.
-/

namespace Orchestration.Decimal

/-- The decimal digits of a natural number. -/
def naturalDigits (n : Nat) : List Char :=
  Nat.toDigits 10 n

/-- An integer in decimal. -/
def integerText (n : Int) : String :=
  if n < 0 then String.ofList ('-' :: naturalDigits n.natAbs)
  else String.ofList (naturalDigits n.natAbs)

theorem integerText_natCast (n : Nat) : integerText n = String.ofList (naturalDigits n) :=
  if_neg (Int.not_lt.mpr (Int.natCast_nonneg n))

/-- Different numbers are written differently. -/
theorem integerText_natCast_inj {m n : Nat} (h : integerText m = integerText n) : m = n := by
  rw [integerText_natCast, integerText_natCast, String.ofList_inj, naturalDigits,
    naturalDigits] at h
  have hread := congrArg (Nat.ofDigitChars 10 · 0) h
  simpa only [Nat.ofDigitChars_ten_toDigits] using hread

/-- A signed exponent of at least two digits. -/
def exponentText (e : Int) : List Char :=
  let digits := naturalDigits e.natAbs
  (if e < 0 then '-' else '+') :: (if digits.length < 2 then '0' :: digits else digits)

/-- The digits with a point, where the leading digit stands for `10 ^ lead`. -/
def positional (digits : List Char) (lead : Int) : List Char :=
  if lead < 0 then
    '0' :: '.' :: (List.replicate (-lead - 1).toNat '0' ++ digits)
  else
    let whole := lead.toNat + 1
    if digits.length ≤ whole then
      digits ++ List.replicate (whole - digits.length) '0' ++ ['.', '0']
    else
      digits.take whole ++ '.' :: digits.drop whole

/-- The digits with an exponent, where the leading digit stands for `10 ^ lead`. -/
def scientific (digits : List Char) (lead : Int) : List Char :=
  let mantissa := match digits with
    | first :: second :: rest => first :: '.' :: second :: rest
    | short => short
  mantissa ++ 'e' :: exponentText lead

/-- A selected decimal, laid out. -/
def Digits.layout (d : Digits) : List Char :=
  let digits := naturalDigits d.digits
  let lead := d.exponent + digits.length - 1
  if -4 ≤ lead ∧ lead < 16 then positional digits lead else scientific digits lead

/-- A number in its shortest form. -/
def floatText (x : Float) : String :=
  match Reading.ofFloat x with
  | .nan => "nan"
  | .infinite negative => if negative then "-inf" else "inf"
  | .finite value =>
    let digits := value.shortest.layout
    String.ofList (if value.negative then '-' :: digits else digits)

end Orchestration.Decimal
