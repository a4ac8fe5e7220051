import Orchestration.Numeral
import Orchestration.Value

/-!
# Reading JSON text

A JSON text is one value with blanks around its parts. Inside a string, quotes, backslashes and
control characters are written as escapes, and every other character may be. An escape with four
hexadecimal digits stands for a 16-bit unit: a surrogate and the one that belongs to it are one
character beyond the basic plane, and a surrogate that stands alone is none. A number with neither
a fraction nor an exponent is an integer. Of several entries of a mapping under one name, the last
one counts.
-/

namespace Orchestration.Json

/-- The character is blank between the parts of a JSON text. -/
def isBlank (c : Char) : Bool :=
  c = ' ' || c = '\t' || c = '\n' || c = '\r'

/-! ## Strings -/

/-- The value of a hexadecimal digit. -/
def hexValue? (c : Char) : Option Nat :=
  if '0' ≤ c ∧ c ≤ '9' then some (c.toNat - '0'.toNat)
  else if 'a' ≤ c ∧ c ≤ 'f' then some (c.toNat - 'a'.toNat + 10)
  else if 'A' ≤ c ∧ c ≤ 'F' then some (c.toNat - 'A'.toNat + 10)
  else none

/-- The 16-bit unit that four hexadecimal digits stand for. -/
def hexUnit? (a b c d : Char) : Option Nat := do
  return 4096 * (← hexValue? a) + 256 * (← hexValue? b) + 16 * (← hexValue? c) + (← hexValue? d)

/-- The characters that may stand for themselves or for another one behind a backslash. -/
def shortEscapes : List (Char × Char) :=
  [('"', '"'), ('\\', '\\'), ('/', '/'), ('b', '\x08'), ('f', '\x0c'), ('n', '\n'), ('r', '\r'),
    ('t', '\t')]

/-- The units of a string up to its closing quote, and the text behind it. A character that is not
escaped is a unit of its own. -/
def readUnits : List Char → Option (List Nat × List Char)
  | [] => none
  | '"' :: rest => some ([], rest)
  | '\\' :: 'u' :: a :: b :: c :: d :: rest => do
    let unit ← hexUnit? a b c d
    let (units, rest) ← readUnits rest
    return (unit :: units, rest)
  | '\\' :: letter :: rest => do
    let image ← shortEscapes.lookup letter
    let (units, rest) ← readUnits rest
    return (image.toNat :: units, rest)
  | c :: rest =>
    if c < ' ' then none
    else do
      let (units, rest) ← readUnits rest
      return (c.toNat :: units, rest)

/-- The unit is the first one of a pair. -/
def isHighSurrogate (unit : Nat) : Bool :=
  0xD800 ≤ unit && unit < 0xDC00

/-- The unit is the second one of a pair. -/
def isLowSurrogate (unit : Nat) : Bool :=
  0xDC00 ≤ unit && unit < 0xE000

/-- The character that a unit stands for on its own. -/
def charOf? (unit : Nat) : Option Char :=
  if isHighSurrogate unit || isLowSurrogate unit then none else some (Char.ofNat unit)

/-- The character that a pair of surrogates stands for. -/
def charOfPair (high low : Nat) : Char :=
  Char.ofNat (0x10000 + (high - 0xD800) * 0x400 + (low - 0xDC00))

/-- The characters that units stand for. -/
def charsOf? : List Nat → Option (List Char)
  | [] => some []
  | [unit] => (charOf? unit).map ([·])
  | unit :: next :: rest =>
    if isHighSurrogate unit && isLowSurrogate next then
      (charOfPair unit next :: ·) <$> charsOf? rest
    else do
      let c ← charOf? unit
      (c :: ·) <$> charsOf? (next :: rest)

/-- A string behind its opening quote, and the text behind it. -/
def readString (text : List Char) : Option (String × List Char) := do
  let (units, rest) ← readUnits text
  let chars ← charsOf? units
  return (String.ofList chars, rest)

/-! ## Numbers -/

/-- The digits of a fraction, if there is one, and the text behind it. -/
def readFraction : List Char → Option (Option (List Char) × List Char)
  | '.' :: rest =>
    let digits := rest.takeWhile Char.isDigit
    if digits.isEmpty then none else some (some digits, rest.dropWhile Char.isDigit)
  | text => some (none, text)

/-- An exponent, if there is one, and the text behind it. -/
def readExponent (text : List Char) : Option (Option Int × List Char) :=
  match text with
  | c :: rest =>
    if c = 'e' ∨ c = 'E' then
      let (negative, rest) := Numeral.splitSign rest
      let digits := rest.takeWhile Char.isDigit
      let magnitude : Int := Nat.ofDigitChars 10 digits 0
      if digits.isEmpty then none
      else some (some (if negative then -magnitude else magnitude), rest.dropWhile Char.isDigit)
    else some (none, text)
  | [] => some (none, [])

/-- A number without its sign, and the text behind it. -/
def readMagnitude (negative : Bool) (text : List Char) : Option (Value × List Char) := do
  let whole := text.takeWhile Char.isDigit
  -- No number but zero itself starts with a zero before its point.
  guard (whole = ['0'] ∨ whole ≠ [] ∧ whole.head? ≠ some '0')
  let (fraction, text) ← readFraction (text.dropWhile Char.isDigit)
  let (exponent, text) ← readExponent text
  let mantissa := Nat.ofDigitChars 10 (whole ++ fraction.getD []) 0
  match fraction, exponent with
  | none, none => return (.int (if negative then -(mantissa : Int) else mantissa), text)
  | _, _ =>
    let places := (fraction.getD []).length
    return (.float (Decimal.ofDecimal negative mantissa (exponent.getD 0 - places)), text)

/-- A number, and the text behind it. -/
def readNumber : List Char → Option (Value × List Char)
  | '-' :: rest => readMagnitude true rest
  | text => readMagnitude false text

/-! ## Values -/

/-- A value that has no parts, and the text behind it. -/
def readScalar : List Char → Option (Value × List Char)
  | 'n' :: 'u' :: 'l' :: 'l' :: rest => some (.null, rest)
  | 't' :: 'r' :: 'u' :: 'e' :: rest => some (.bool true, rest)
  | 'f' :: 'a' :: 'l' :: 's' :: 'e' :: rest => some (.bool false, rest)
  | '"' :: rest => (readString rest).map fun (text, rest) => (.text text, rest)
  | text => readNumber text

/-- The name of an entry with the colon behind it, and the text behind that. -/
def readName (text : List Char) : Option (Key × List Char) :=
  match text.dropWhile isBlank with
  | '"' :: rest => do
    let (name, rest) ← readString rest
    match rest.dropWhile isBlank with
    | ':' :: rest => return (.text name, rest)
    | _ => none
  | _ => none

mutual

/-- A value, and the text behind it; `fuel` bounds how deep its parts are and how many. -/
def readValue : (fuel : Nat) → List Char → Option (Value × List Char)
  | 0, _ => none
  | fuel + 1, text =>
    match text.dropWhile isBlank with
    | '[' :: rest =>
      match rest.dropWhile isBlank with
      | ']' :: rest => some (.list [], rest)
      | _ => (readItems fuel rest).map fun (items, rest) => (.list items, rest)
    | '\x7b' :: rest =>
      match rest.dropWhile isBlank with
      | '\x7d' :: rest => some (.map [], rest)
      | _ => (readEntries fuel rest).map fun (entries, rest) => (Value.ofEntries entries, rest)
    | text => readScalar text

/-- The items of a list up to its closing bracket, and the text behind it. -/
def readItems : (fuel : Nat) → List Char → Option (List Value × List Char)
  | 0, _ => none
  | fuel + 1, text => do
    let (item, rest) ← readValue fuel text
    match rest.dropWhile isBlank with
    | ',' :: rest =>
      let (items, rest) ← readItems fuel rest
      return (item :: items, rest)
    | ']' :: rest => return ([item], rest)
    | _ => none

/-- The entries of a mapping up to its closing brace, and the text behind it. -/
def readEntries : (fuel : Nat) → List Char → Option (List (Key × Value) × List Char)
  | 0, _ => none
  | fuel + 1, text => do
    let (key, rest) ← readName text
    let (value, rest) ← readValue fuel rest
    match rest.dropWhile isBlank with
    | ',' :: rest =>
      let (entries, rest) ← readEntries fuel rest
      return ((key, value) :: entries, rest)
    | '\x7d' :: rest => return ([(key, value)], rest)
    | _ => none

end

/-- The value that a JSON text stands for. -/
def read? (text : String) : Option Value :=
  -- Each part of a value takes a character at least.
  match readValue text.length text.toList with
  | some (v, rest) => if rest.all isBlank then some v else none
  | none => none

end Orchestration.Json
