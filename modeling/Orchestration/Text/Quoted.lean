import Orchestration.Text.PrintableTable

/-!
# Quoted text

How a text is shown inside a message: between single quotes, or between double quotes when it
holds single quotes and no double ones. The delimiter and the backslash are escaped, line feed,
carriage return and tab have letters of their own, and every other character that is not printable
is written by its code point with two, four or eight hexadecimal digits.
-/

namespace Orchestration.Text

/-- The character is shown as itself in quoted text. -/
def isPrintable (c : Char) : Bool :=
  printableRanges.contains c.toNat

/-- The hexadecimal digit of a value below sixteen. -/
def hexDigit (value : Nat) : Char :=
  if value < 10 then Char.ofNat (48 + value) else Char.ofNat (87 + value)

/-- The last `width` hexadecimal digits of a number, padded with zeros. -/
def hexPadded : (width : Nat) → (value : Nat) → List Char
  | 0, _ => []
  | width + 1, value => hexPadded width (value / 16) ++ [hexDigit (value % 16)]

/-- The delimiter that a quoted text uses. -/
def quoteMark (text : List Char) : Char :=
  if text.contains '\'' && !text.contains '"' then '"' else '\''

/-- A character as it stands between the given delimiters. -/
def quoteChar (mark c : Char) : List Char :=
  if c = mark ∨ c = '\\' then ['\\', c]
  else if c = '\n' then ['\\', 'n']
  else if c = '\r' then ['\\', 'r']
  else if c = '\t' then ['\\', 't']
  else if isPrintable c then [c]
  else if c.toNat < 0x100 then '\\' :: 'x' :: hexPadded 2 c.toNat
  else if c.toNat < 0x10000 then '\\' :: 'u' :: hexPadded 4 c.toNat
  else '\\' :: 'U' :: hexPadded 8 c.toNat

/-- The text between its delimiters. -/
def quoteChars (text : List Char) : List Char :=
  let mark := quoteMark text
  mark :: (text.flatMap (quoteChar mark) ++ [mark])

/-- The text between its delimiters. -/
def quoted (text : String) : String :=
  String.ofList (quoteChars text.toList)

end Orchestration.Text
