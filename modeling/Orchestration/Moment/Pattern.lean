import Orchestration.Moment.Part
import Orchestration.Text.Case

/-!
# Moments by pattern

A pattern is a text with directives. A directive is a percent sign, flags, a width, a modifier and a
letter; all but the sign and the letter may be missing. The flags `-`, `_` and `0` say how a number
is filled up: not at all, with blanks, or with zeros, and the last of them counts; `^` asks for
upper case, and `#` for the other case. The modifiers `E` and `O` change nothing, and not every
letter takes them. What is no directive stands for itself. A result that is far longer than the
pattern has no room and is empty.

The zone, its offset and the microseconds are put in first, and only where nothing stands between
the percent sign and their letter. What they are replaced by is then read as a part of the pattern.
-/

namespace Orchestration.Moment

/-! ## The zone -/

/-- The offset from universal time without a colon. -/
def plainOffset (moment : Moment) : String :=
  match moment.offset with
  | none => ""
  | some offset => String.ofList ((isoOffset offset).toList.filter (· ≠ ':'))

/-- The name of the clock's zone. -/
def zoneName (moment : Moment) : String :=
  match moment.offset with
  | none => ""
  | some offset => if offset = 0 then "UTC" else "UTC" ++ isoOffset offset

/-- The pattern with the zone, its offset and the microseconds put in. -/
def localized (moment : Moment) : List Char → List Char
  | [] => []
  | '%' :: 'z' :: rest => moment.plainOffset.toList ++ localized moment rest
  | '%' :: 'Z' :: rest => moment.zoneName.toList ++ localized moment rest
  | '%' :: 'f' :: rest => (zeroPadded 6 moment.microsecond).toList ++ localized moment rest
  | '%' :: c :: rest => '%' :: c :: localized moment rest
  | c :: rest => c :: localized moment rest

/-! ## Directives -/

/-- What stands between the percent sign and the letter of a directive. -/
structure Directive where
  /-- The flag for filling up. -/
  pad : Option Char := none
  upper : Bool := false
  otherCase : Bool := false
  width : Nat := 0
  modifier : Option Char := none

/-- The character is a flag. -/
def isFlag (c : Char) : Bool :=
  c = '-' || c = '_' || c = '0' || c = '^' || c = '#'

/-- The character is a modifier. -/
def isModifier (c : Char) : Bool :=
  c = 'E' || c = 'O'

/-- The directive with another flag. -/
def Directive.flag (directive : Directive) (c : Char) : Directive :=
  if c = '^' then { directive with upper := true }
  else if c = '#' then { directive with otherCase := true }
  else { directive with pad := some c }

/-- The letters that do not take a modifier. -/
def refusing (modifier : Char) : List Char :=
  if modifier = 'E' then "aADFbhBdegjklmwGHIMSUVW".toList else "aADFcxXY".toList

/-- The letter takes the modifier of the directive. -/
def Directive.accepts (directive : Directive) (letter : Char) : Bool :=
  directive.modifier.all fun modifier => !(refusing modifier).contains letter

/-- A text in the width of the directive. -/
def Directive.widened (directive : Directive) (text : String) : String :=
  if text = "" ∧ directive.pad = some '-' then text
  else
    let blank := if directive.pad = some '0' then '0' else ' '
    String.ofList (List.replicate (directive.width - text.length) blank ++ text.toList)

/-- A number with at least so many digits, in the width of the directive. -/
def Directive.number (directive : Directive) (digits : Nat) (blank : Bool) (value : Int) : String :=
  let text := Decimal.integerText value
  -- A width only makes a number longer, and it never cuts off digits.
  let digits := max digits directive.width
  match directive.pad with
  | some '-' => directive.widened text
  | some '_' => padded ' ' digits value
  | some _ => padded '0' digits value
  | none => padded (if blank then ' ' else '0') digits value

/-- A part as the directive shows it. -/
def Directive.show (directive : Directive) : Part → String
  | .number digits blank value => directive.number digits blank value
  | .name s =>
    directive.widened (if directive.upper || directive.otherCase then s.map Char.toUpper else s)
  | .mark s => directive.widened (if directive.otherCase then s.map Char.toLower else s)
  | .lowerMark s => directive.widened (s.map Char.toLower)
  | .plain s => directive.widened s
  | .absent => ""
  | .whole s => (directive.widened s).map fun c => if directive.upper then c.toUpper else c

/-- The upper case of a character, if that is one character. -/
def upperChar (c : Char) : Char :=
  match Text.upperMap.image c with
  | [upper] => upper
  | _ => c

/-- A text that is no directive, in the width that it asks for. The other case of a short month's
letter is upper case here too. -/
def Directive.showSource (directive : Directive) (source : List Char) : String :=
  let upper := directive.upper || directive.otherCase &&
    (source.getLast? = some 'b' || source.getLast? = some 'h')
  directive.widened (String.ofList (if upper then source.map upperChar else source))

/-! ## Patterns -/

/-- What stands between a percent sign and a letter, as it is written and as it is meant, and the
rest of the pattern. A width beyond the room is as good as the room. -/
def leadingDirective (room : Nat) (text : List Char) : List Char × Directive × List Char :=
  let flags := text.takeWhile isFlag
  let text := text.dropWhile isFlag
  let digits := text.takeWhile Char.isDigit
  let text := text.dropWhile Char.isDigit
  let modifier := (text.takeWhile isModifier).take 1
  let directive : Directive := flags.foldl Directive.flag {
    width := min room ((String.ofList digits).toNat?.getD 0)
    modifier := modifier.head? }
  (flags ++ digits ++ modifier, directive, text.drop modifier.length)

/-- The directive after a percent sign, as text, and the rest of the pattern. -/
def leadingText (moment : Moment) (room : Nat) (text : List Char) : String × List Char :=
  let (source, directive, rest) := leadingDirective room text
  match rest with
  | [] => (directive.showSource ('%' :: source), [])
  | letter :: rest =>
    match (moment.part? letter).filter fun _ => directive.accepts letter with
    | some part => (directive.show part, rest)
    | none => (directive.showSource ('%' :: (source ++ [letter])), rest)

/-- The pattern with its first directives replaced; each has at least one of `fuel` characters. -/
def formatFrom (moment : Moment) (room : Nat) : (fuel : Nat) → List Char → String
  | 0, _ => ""
  | _, [] => ""
  | fuel + 1, '%' :: rest =>
    let (text, rest) := leadingText moment room rest
    text ++ formatFrom moment room fuel rest
  | fuel + 1, c :: rest => String.ofList [c] ++ formatFrom moment room fuel rest

/-- The first of the sizes 1024, 2048, 4096 and so on that has room 256 times for a pattern. -/
def room (patternLength : Nat) : Nat :=
  if patternLength ≤ 4 then 1024 else Nat.pow 2 ((256 * patternLength - 1).log2 + 1)

/-- The moment in the form that a pattern asks for, or nothing where it has no room. -/
def format (moment : Moment) (pattern : String) : String :=
  let pattern := moment.localized pattern.toList
  let room := room pattern.length
  let text := formatFrom moment room pattern.length pattern
  if text.length < room then text else ""

end Orchestration.Moment
