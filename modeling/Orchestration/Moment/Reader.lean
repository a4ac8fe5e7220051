import Orchestration.Moment

/-!
# Reading moments

A moment is read from text in ISO form: a date, a separator, a time of day and an optional offset.
The separator is a letter `T` of either case, a space or an underscore; seconds and their fraction
may be missing, and of a fraction the first six digits count. A bare date is its midnight. A number
of seconds since 1970 is a moment in universal time, from the year 1600 on; a magnitude above the
watershed counts milliseconds instead.
-/

namespace Orchestration.Moment

/-- The value of an ASCII digit. -/
def digit? (c : Char) : Option Nat :=
  if '0' ≤ c ∧ c ≤ '9' then some (c.toNat - '0'.toNat) else none

/-- Reads a number of exactly `width` digits. -/
def number? : (width : Nat) → List Char → (value : Nat) → Option (Nat × List Char)
  | 0, rest, value => some (value, rest)
  | _ + 1, [], _ => none
  | width + 1, c :: rest, value =>
    match digit? c with
    | some d => number? width rest (10 * value + d)
    | none => none

/-- Reads one of the given characters. -/
def oneOf? (marks : List Char) : List Char → Option (List Char)
  | c :: rest => if marks.contains c then some rest else none
  | [] => none

/-- Reads a date of the calendar. -/
def date? (text : List Char) : Option (Date × List Char) := do
  let (year, rest) ← number? 4 text 0
  let rest ← oneOf? ['-'] rest
  let (month, rest) ← number? 2 rest 0
  let rest ← oneOf? ['-'] rest
  let (day, rest) ← number? 2 rest 0
  guard (1 ≤ year ∧ 1 ≤ month ∧ month ≤ 12 ∧ 1 ≤ day ∧ day ≤ daysInMonth year month)
  return (⟨year, month, day⟩, rest)

/-- Reads the digits of a fraction of a second as microseconds. -/
def fraction? (text : List Char) : Option (Nat × List Char) :=
  let digits := text.takeWhile Char.isDigit
  let rest := text.dropWhile Char.isDigit
  if digits.isEmpty then none
  else (number? 6 (digits ++ List.replicate 6 '0') 0).map fun (value, _) => (value, rest)

/-- Reads a second with its fraction, if they are there. -/
def second? (text : List Char) : Option (Nat × Nat × List Char) :=
  match oneOf? [':'] text with
  | none => some (0, 0, text)
  | some rest => do
    let (second, rest) ← number? 2 rest 0
    guard (second ≤ 59)
    match oneOf? ['.', ','] rest with
    | none => return (second, 0, rest)
    | some rest =>
      let (micros, rest) ← fraction? rest
      return (second, micros, rest)

/-- Reads an offset from universal time that fills the rest of the text. -/
def offset? : List Char → Option (Option Int)
  | [] => some none
  | c :: rest =>
    if c = 'Z' ∨ c = 'z' then
      if rest.isEmpty then some (some 0) else none
    else if c = '+' ∨ c = '-' ∨ c = '−' then do
      let (hours, rest) ← number? 2 rest 0
      let rest := (oneOf? [':'] rest).getD rest
      let (minutes, rest) ← number? 2 rest 0
      guard (rest.isEmpty ∧ hours ≤ 23 ∧ minutes ≤ 59)
      let seconds : Int := hours * 3600 + minutes * 60
      return some (if c = '+' then seconds else -seconds)
    else none

/-- Reads a date with a time of day. -/
def dateTime? (text : List Char) : Option Moment := do
  let (date, rest) ← date? text
  let rest ← oneOf? ['T', 't', ' ', '_'] rest
  let (hour, rest) ← number? 2 rest 0
  let rest ← oneOf? [':'] rest
  let (minute, rest) ← number? 2 rest 0
  guard (hour ≤ 23 ∧ minute ≤ 59)
  let (second, micros, rest) ← second? rest
  let offset ← offset? rest
  return Moment.ofParts date hour minute second micros offset

/-- Reads a bare date. -/
def midnight? (text : List Char) : Option Moment := do
  let (date, rest) ← date? text
  guard rest.isEmpty
  return Moment.ofParts date 0 0 0 0 none

/-- The microseconds from the start of the year one to the start of 1970. -/
def epoch : Int :=
  daysBeforeYear 1970 * microsPerDay

/-- The largest magnitude that counts seconds; above it a timestamp counts milliseconds. -/
def watershed : Nat := 20000000000

/-- The moment of a timestamp, given by its whole part and the microseconds to add to it. -/
def ofTimestamp? (whole micros : Int) : Option Moment :=
  let base := if whole.natAbs ≤ watershed then whole * 1000000 else whole * 1000
  let moment := utc (epoch + base + micros)
  if 1600 ≤ moment.date.year ∧ moment.InCalendar then some moment else none

/-- Reads a timestamp: a signed number in plain digits, perhaps with a fraction. -/
def timestamp? (text : List Char) : Option Moment :=
  let (negative, digits) := match text with
    | '-' :: rest => (true, rest)
    | '+' :: rest => (false, rest)
    | rest => (false, rest)
  let whole := digits.takeWhile Char.isDigit
  let rest := digits.dropWhile Char.isDigit
  let sign : Int := if negative then -1 else 1
  match number? whole.length whole 0, whole, rest with
  | none, _, _ => none
  | _, [], _ => none
  | some (value, _), _, [] => ofTimestamp? (sign * value) 0
  | some (value, _), _, '.' :: fraction =>
    if fraction.all Char.isDigit then
      match number? 6 (fraction ++ List.replicate 6 '0') 0 with
      | some (micros, _) => ofTimestamp? (sign * value) (sign * micros)
      | none => none
    else none
  | _, _, _ => none

/-- Reads a moment from any of its written forms. -/
def read? (text : String) : Option Moment :=
  let chars := text.toList
  dateTime? chars <|> timestamp? chars <|> midnight? chars

end Orchestration.Moment
