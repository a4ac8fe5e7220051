import Orchestration.Value.Display

/-!
# Values as JSON text

One line of JSON in ASCII. Characters outside the range from space to tilde are written as 16-bit
units with four hexadecimal digits, a character beyond the basic plane as two of them; quotes,
backslashes and the five control characters with a letter of their own have short escapes. Numbers
that are not finite are written as `NaN`, `Infinity` and `-Infinity`. As in other texts, an integer
with too many digits cannot be written, and neither can what it is part of.
-/

namespace Orchestration.Json

/-- A 16-bit unit as an escape. -/
def unitEscape (unit : Nat) : List Char :=
  '\\' :: 'u' :: Text.hexPadded 4 unit

/-- A character inside a JSON string. -/
def escapeChar (c : Char) : List Char :=
  if c = '"' then ['\\', '"']
  else if c = '\\' then ['\\', '\\']
  else if c = '\n' then ['\\', 'n']
  else if c = '\r' then ['\\', 'r']
  else if c = '\t' then ['\\', 't']
  else if c.toNat = 0x08 then ['\\', 'b']
  else if c.toNat = 0x0C then ['\\', 'f']
  else if ' ' ≤ c ∧ c ≤ '~' then [c]
  else if c.toNat < 0x10000 then unitEscape c.toNat
  else
    unitEscape (0xD800 + (c.toNat - 0x10000) / 0x400) ++
      unitEscape (0xDC00 + (c.toNat - 0x10000) % 0x400)

/-- A JSON string. -/
def stringChars (text : List Char) : List Char :=
  '"' :: (text.flatMap escapeChar ++ ['"'])

/-- A JSON string. -/
def string (text : String) : String :=
  String.ofList (stringChars text.toList)

/-- A JSON number, or the word for a number that is not finite. -/
def number (x : Float) : String :=
  match Decimal.Reading.ofFloat x with
  | .nan => "NaN"
  | .infinite negative => if negative then "-Infinity" else "Infinity"
  | .finite _ => Decimal.floatText x

/-- A truth value. -/
def bool (b : Bool) : String :=
  if b then "true" else "false"

/-- The text of a mapping's key. -/
def keyText : Key → Except Fault String
  | .null => .ok "null"
  | .bool b => .ok (bool b)
  | .int n => integerShown n
  | .float x => .ok (number x)
  | .text s => .ok s
  | .kind k => .ok k.label

mutual

/-- A value as JSON. -/
def write : Value → Except Fault String
  | .null => .ok "null"
  | .bool b => .ok (bool b)
  | .int n => integerShown n
  | .float x => .ok (number x)
  | .text s => .ok (string s)
  | .kind k => .ok (string k.label)
  | .list items => do
    return "[" ++ commaSeparated (← writeItems items) ++ "]"
  | .map entries => do
    return "\x7b" ++ commaSeparated (← writeEntries entries) ++ "\x7d"
  | .toolCall name parameters => do
    return string (← (Value.toolCall name parameters).display)

/-- The items of a list as JSON. -/
def writeItems : List Value → Except Fault (List String)
  | [] => .ok []
  | v :: rest => do
    let first ← write v
    return first :: (← writeItems rest)

/-- The entries of a mapping as JSON. -/
def writeEntries : List (Key × Value) → Except Fault (List String)
  | [] => .ok []
  | (k, v) :: rest => do
    let key ← keyText k
    let value ← write v
    return (string key ++ ": " ++ value) :: (← writeEntries rest)

end

theorem writtenUnless_keyText (key : Key) : WrittenUnless key.overlong (keyText key) := by
  cases key with
  | int n => exact writtenUnless_integerShown n
  | null | bool | float | text | kind => exact writtenUnless_ok _

mutual

/-- A value has a JSON text unless an integer in it is overlong. -/
theorem writtenUnless_write : (v : Value) → WrittenUnless v.overlong (write v)
  | .null | .bool _ | .float _ | .text _ | .kind _ => writtenUnless_ok _
  | .int n => writtenUnless_integerShown n
  | .list items => (writtenUnless_writeItems items).map _
  | .map entries => (writtenUnless_writeEntries entries).map _
  | .toolCall name parameters => (Value.toolCall name parameters).writtenUnless_display.map _

theorem writtenUnless_writeItems :
    (items : List Value) → WrittenUnless (Value.overlongItems items) (writeItems items)
  | [] => writtenUnless_ok _
  | v :: rest => (writtenUnless_write v).bind fun _ => (writtenUnless_writeItems rest).map _

theorem writtenUnless_writeEntries : (entries : List (Key × Value)) →
    WrittenUnless (Value.overlongEntries entries) (writeEntries entries)
  | [] => writtenUnless_ok _
  | (k, v) :: rest =>
    (writtenUnless_keyText k).bind fun _ => (writtenUnless_write v).bind fun _ =>
      (writtenUnless_writeEntries rest).map _

end

end Orchestration.Json
