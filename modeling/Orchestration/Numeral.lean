import Orchestration.Decimal.Binary
import Orchestration.Text.Blank
import Orchestration.Text.DecimalDigit

/-!
# Numerals

How numbers are read from text. Blanks around a numeral are ignored, digits may belong to any
script, and a single underscore may stand between two digits. An integer is an optional sign and
digits. A number may also have a point, with digits on at least one side, and an exponent; the
words for infinity and for the undefined number are read in any letter case.
-/

namespace Orchestration.Numeral

open Orchestration.Text

/-- The blanks that may surround a numeral. Among the ASCII characters these are the space and the
characters from tab to carriage return. -/
def isPadding (c : Char) : Bool :=
  if c.toNat < 0x7F then c = ' ' || ('\t' ≤ c && c ≤ '\r') else isBlank c

/-- The text without its padding. -/
def unpadded (text : List Char) : List Char :=
  ((text.dropWhile isPadding).reverse.dropWhile isPadding).reverse

/-- The text starts with a digit. -/
def startsWithDigit : List Char → Bool
  | c :: _ => isDecimalDigit c
  | [] => false

/-- The text without its underscores, each of which must stand between two digits. -/
def withoutSeparators? (afterDigit : Bool) : List Char → Option (List Char)
  | [] => some []
  | c :: rest =>
    if c = '_' then
      if afterDigit && startsWithDigit rest then withoutSeparators? false rest else none
    else
      (c :: ·) <$> withoutSeparators? (isDecimalDigit c) rest

/-- A sign, if there is one, and the rest. -/
def splitSign : List Char → Bool × List Char
  | '-' :: rest => (true, rest)
  | '+' :: rest => (false, rest)
  | rest => (false, rest)

/-- The longest run of digits and the rest. -/
def splitDigits (text : List Char) : List Char × List Char :=
  (text.takeWhile isDecimalDigit, text.dropWhile isDecimalDigit)

/-- The value of a run of digits. -/
def digitsValue (digits : List Char) : Nat :=
  digits.foldl (fun value c => 10 * value + (digitValue? c).getD 0) 0

/-- Reads digits that fill the whole text. -/
def readDigits? (text : List Char) : Option Nat :=
  match splitDigits text with
  | ([], _) => none
  | (digits, []) => some (digitsValue digits)
  | _ => none

/-- Reads an integer. -/
def integer? (text : List Char) : Option Int := do
  let plain ← withoutSeparators? false (unpadded text)
  let (negative, rest) := splitSign plain
  let magnitude ← readDigits? rest
  return if negative then -(magnitude : Int) else magnitude

/-- The exponent part of a number: absent, or a mark, an optional sign and digits. -/
def exponent? : List Char → Option Int
  | [] => some 0
  | c :: rest =>
    if c = 'e' ∨ c = 'E' then
      let (negative, digits) := splitSign rest
      (readDigits? digits).map fun n => if negative then -(n : Int) else n
    else none

/-- An unsigned decimal as a mantissa and a power of ten. -/
def decimal? (text : List Char) : Option (Nat × Int) :=
  let (whole, rest) := splitDigits text
  let (fraction, rest) := match rest with
    | '.' :: rest => splitDigits rest
    | rest => ([], rest)
  if whole.isEmpty && fraction.isEmpty then none
  else (exponent? rest).map fun e => (digitsValue (whole ++ fraction), e - fraction.length)

/-- An unsigned number. -/
def magnitude? (text : List Char) : Option Float :=
  match String.ofList (text.map Char.toLower) with
  | "inf" | "infinity" => some Decimal.infinity
  | "nan" => some Decimal.undefined
  | _ => (decimal? text).map fun (mantissa, e) => Decimal.ofDecimal false mantissa e

/-- Reads a number. -/
def number? (text : List Char) : Option Float := do
  let plain ← withoutSeparators? false (unpadded text)
  let (negative, rest) := splitSign plain
  let magnitude ← magnitude? rest
  return if negative then -magnitude else magnitude

/-- How many digits an integer may have when it is read from text, or written as one. -/
def digitLimit : Nat := 4300

/-- The number of digits in a text. -/
def digitCount (text : List Char) : Nat :=
  (text.filter isDecimalDigit).length

end Orchestration.Numeral
