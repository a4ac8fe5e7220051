import Orchestration.Fault
import Orchestration.Numeral
import Orchestration.Text.Case

/-!
# Sizes

A size is a number of bytes, written as a number and a unit. Blanks may surround it and stand before
the unit, the digits may belong to any script, and the unit may be in any letter case. The sign of
the kelvin counts as a letter K where letters are matched, but names no unit.
-/

namespace Orchestration.Log

/-- The units with the bytes that they stand for. -/
def sizeUnits : List (String × Nat) :=
  [("B", 1), ("KB", 1024), ("MB", Nat.pow 1024 2), ("GB", Nat.pow 1024 3)]

/-- The letter that a character is matched as. -/
def unitLetter (c : Char) : Char :=
  if c = '\u212a' then 'K' else c.toUpper

/-- The digits and the unit of a size. -/
def splitSize? (text : List Char) : Option (List Char × String) :=
  let digits := text.takeWhile Text.isDecimalDigit
  let unit := (text.dropWhile Text.isDecimalDigit).dropWhile Text.isBlank
  if digits.isEmpty then none
  else if sizeUnits.any fun (name, _) => name.toList = unit.map unitLetter then
    some (digits, String.ofList unit)
  else none

/-- The size in bytes. -/
def parseSize (text : String) : Except Fault Nat :=
  match splitSize? (Text.trim text.toList) with
  | none =>
    .error (.foreign .value ("Invalid size format: " ++ Text.quoted text ++ ". Use e.g. '10MB'."))
  | some (digits, unit) =>
    if digits.length > Numeral.digitLimit then
      .error (.tooManyDigits digits.length)
    else
      let name := Text.upper unit
      match sizeUnits.lookup name with
      | some bytes => .ok (Numeral.digitsValue digits * bytes)
      | none => .error (Fault.unknownKey name)

end Orchestration.Log
