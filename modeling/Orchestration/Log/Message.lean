import Orchestration.Decimal.Fixed
import Orchestration.Value.Display

/-!
# Messages with arguments

A log message may come with arguments, which take the place of its directives. A directive is a
percent sign, a name in parentheses if the argument is a mapping, flags, a width, a precision and a
letter; two percent signs stand for one. A message without arguments is taken as it is. Every
directive needs an argument of its own, and every argument a directive.
-/

namespace Orchestration.Log

/-! ## Arguments and directives -/

/-- What the directives of a message draw on. -/
inductive Arguments where
  /-- One argument for each directive. -/
  | positional (values : List Value)
  /-- A mapping, whose entries are chosen by name. What was chosen last is the next argument; at
  first it is the mapping itself. -/
  | named (entries : List (Key × Value)) (chosen : Option Value)

/-- A directive. -/
structure Directive where
  leftAligned : Bool := false
  signed : Bool := false
  spaced : Bool := false
  alternate : Bool := false
  zeroPadded : Bool := false
  width : Nat := 0
  precision : Option Nat := none

/-- The next argument. -/
def Arguments.next : Arguments → Except Fault (Value × Arguments)
  | .positional (v :: rest) => .ok (v, .positional rest)
  | .named entries (some v) => .ok (v, .named entries none)
  | _ => .error (.wrongType "not enough arguments for format string")

/-- Makes the argument with a name the next one. -/
def Arguments.choose (arguments : Arguments) (name : String) : Except Fault Arguments :=
  match arguments with
  | .positional _ => .error (.wrongType "format requires a mapping")
  | .named entries _ =>
    match Value.entry? entries name with
    | some v => .ok (.named entries (some v))
    | none => .error (Fault.unknownKey name)

/-- Every argument had its directive. -/
def Arguments.exhausted : Arguments → Bool
  | .positional rest => rest.isEmpty
  | .named _ _ => true

/-! ## Padding -/

/-- Pads a text without a sign of its own to the width of the directive. -/
def Directive.pad (d : Directive) (text : List Char) : List Char :=
  let blanks := List.replicate (d.width - text.length) ' '
  if d.leftAligned then text ++ blanks else blanks ++ text

/-- The sign of a number. -/
def Directive.sign (d : Directive) (negative : Bool) : List Char :=
  if negative then ['-'] else if d.signed then ['+'] else if d.spaced then [' '] else []

/-- Pads a number to the width of the directive, with zeros after the sign if it asks for them. -/
def Directive.padNumber (d : Directive) (negative : Bool) (mark digits : List Char) : List Char :=
  let head := d.sign negative ++ mark
  if d.zeroPadded && !d.leftAligned then
    head ++ List.replicate (d.width - head.length - digits.length) '0' ++ digits
  else d.pad (head ++ digits)

/-! ## Numbers -/

/-- The digits of a number in a base, at least as many as the precision asks for. -/
def Directive.digits (d : Directive) (base n : Nat) : List Char :=
  let digits := Nat.toDigits base n
  List.replicate (d.precision.getD 0 - digits.length) '0' ++ digits

/-- An integer. -/
def Directive.integer (d : Directive) (letter : Char) (n : Int) : List Char :=
  match letter with
  | 'o' => d.padNumber (n < 0) (if d.alternate then ['0', 'o'] else []) (d.digits 8 n.natAbs)
  | 'x' => d.padNumber (n < 0) (if d.alternate then ['0', 'x'] else []) (d.digits 16 n.natAbs)
  | 'X' =>
    d.padNumber (n < 0) (if d.alternate then ['0', 'X'] else [])
      ((d.digits 16 n.natAbs).map Char.toUpper)
  | _ => d.padNumber (n < 0) [] (d.digits 10 n.natAbs)

/-- A number with a point, which stands before the exponent if there is no fraction. -/
def pointed (digits : List Char) : List Char :=
  let whole := digits.takeWhile Char.isDigit
  if digits.contains '.' then digits else whole ++ '.' :: digits.drop whole.length

/-- A number with a point or an exponent. -/
def Directive.number (d : Directive) (letter : Char) (x : Float) : List Char :=
  let places := d.precision.getD 6
  let (negative, digits) := match Decimal.Reading.ofFloat x with
    | .nan => (false, ['n', 'a', 'n'])
    | .infinite negative => (negative, ['i', 'n', 'f'])
    | .finite value =>
      let digits := match letter.toLower with
        | 'e' => value.scientificText places
        | 'f' => value.fixedText places
        | _ => value.generalText places d.alternate
      (value.negative, if d.alternate then pointed digits else digits)
  d.padNumber negative [] (if letter.isUpper then digits.map Char.toUpper else digits)

/-! ## What an argument stands for -/

/-- The directive writes integers in base eight or sixteen, where they may have any number of
digits. -/
def isStrict (letter : Char) : Bool :=
  letter = 'o' || letter = 'x' || letter = 'X'

/-- The integer that a value stands for in a directive for integers. -/
def integerArgument (letter : Char) (v : Value) : Except Fault Int :=
  let wrong (expected : String) : Except Fault Int :=
    .error (.wrongType ("%" ++ String.ofList [letter] ++ " format: " ++ expected ++
      " is required, not " ++ v.typeName))
  match v with
  | .int n => .ok n
  | .bool b => .ok b.toInt
  | .float x =>
    if isStrict letter then wrong "an integer"
    else
      match Decimal.Reading.ofFloat x with
      | .nan => .error (.foreign .value "cannot convert float NaN to integer")
      | .infinite _ => .error (.foreign .overflow "cannot convert float infinity to integer")
      | .finite value => .ok value.truncated
  | _ => wrong (if isStrict letter then "an integer" else "a real number")

/-- The integer that a value stands for, if a directive for integers can write it. -/
def writableArgument (letter : Char) (v : Value) : Except Fault Int := do
  let n ← integerArgument letter v
  if isStrict letter then return n else writable n

/-- The number that a value stands for in a directive for numbers. -/
def numberArgument (v : Value) : Except Fault Float :=
  match v with
  | .float x => .ok x
  | .bool b => .ok (if b then 1.0 else 0.0)
  | .int n =>
    let x := Decimal.ofInteger n
    if Decimal.isFinite x then .ok x
    else .error (.foreign .overflow "int too large to convert to float")
  | _ => .error (.wrongType ("must be real number, not " ++ v.typeName))

/-- The character that a value stands for. -/
def charArgument (v : Value) : Except Fault Char :=
  match v with
  | .bool b => .ok (Char.ofNat b.toNat)
  | .int n =>
    if 0 ≤ n ∧ n < 0x110000 then .ok (Char.ofNat n.toNat)
    else .error (.foreign .overflow "%c arg not in range(0x110000)")
  | .text s =>
    match s.toList with
    | [c] => .ok c
    | _ => .error (.wrongType "%c requires int or char")
  | _ => .error (.wrongType "%c requires int or char")

/-- The text without characters beyond ASCII, which are written by their code points. -/
def asciiOnly (text : List Char) : List Char :=
  text.flatMap fun c =>
    if c.toNat < 0x80 then [c]
    else if c.toNat < 0x100 then '\\' :: 'x' :: Text.hexPadded 2 c.toNat
    else if c.toNat < 0x10000 then '\\' :: 'u' :: Text.hexPadded 4 c.toNat
    else '\\' :: 'U' :: Text.hexPadded 8 c.toNat

/-- A text, cut to the precision. -/
def Directive.text (d : Directive) (text : String) : List Char :=
  let chars := text.toList
  d.pad (match d.precision with
    | some n => chars.take n
    | none => chars)

/-- A value in the form that a directive asks for; `none` if no directive has this letter. -/
def Directive.apply? (d : Directive) (letter : Char) (v : Value) :
    Option (Except Fault (List Char)) :=
  match letter with
  | 's' => some (v.display.map d.text)
  | 'r' => some (v.shown.map d.text)
  | 'a' => some (v.shown.map fun text => d.text (String.ofList (asciiOnly text.toList)))
  | 'd' | 'i' | 'u' | 'o' | 'x' | 'X' => some ((writableArgument letter v).map (d.integer letter))
  | 'e' | 'E' | 'f' | 'F' | 'g' | 'G' => some ((numberArgument v).map (d.number letter))
  | 'c' => some ((charArgument v).map fun c => d.pad [c])
  | _ => none

/-! ## Reading directives -/

/-- Reads the flags of a directive. -/
def readFlags (d : Directive) : List Char → Directive × List Char
  | '-' :: rest => readFlags { d with leftAligned := true } rest
  | '+' :: rest => readFlags { d with signed := true } rest
  | ' ' :: rest => readFlags { d with spaced := true } rest
  | '#' :: rest => readFlags { d with alternate := true } rest
  | '0' :: rest => readFlags { d with zeroPadded := true } rest
  | rest => (d, rest)

/-- The fault of a directive that ends too early. -/
def incomplete : Fault :=
  .foreign .value "incomplete format"

/-- A width or a precision: what it is called, and the largest one. -/
structure Measure where
  name : String
  limit : Nat

/-- The width of a directive. -/
def width : Measure :=
  ⟨"width", Nat.pow 2 63 - 1⟩

/-- The precision of a directive. -/
def precision : Measure :=
  ⟨"precision", Nat.pow 2 31 - 1⟩

/-- A number as a measure, unless it is too large. -/
def Measure.bounded (measure : Measure) (n : Int) : Except Fault Int :=
  if n.natAbs ≤ measure.limit then .ok n
  else .error (.foreign .value (measure.name ++ " too big"))

/-- The number that an argument stands for in a measure. -/
def Measure.argument (measure : Measure) (v : Value) : Except Fault Int :=
  match v with
  | .int n => measure.bounded n
  | .bool b => .ok b.toInt
  | _ => .error (.wrongType "* wants int")

/-- Reads a measure, or takes it from the arguments. -/
def Measure.read (measure : Measure) (arguments : Arguments) (text : List Char) :
    Except Fault (Option Int × Arguments × List Char) :=
  match text with
  | '*' :: rest => do
    let (v, arguments) ← arguments.next
    return (some (← measure.argument v), arguments, rest)
  | text =>
    let digits := text.takeWhile Char.isDigit
    if digits.isEmpty then .ok (none, arguments, text)
    else do
      let n ← measure.bounded (Numeral.digitsValue digits)
      return (some n, arguments, text.dropWhile Char.isDigit)

/-- Reads the name of a directive, with nested parentheses, and the rest. -/
def readName : (depth : Nat) → (name : List Char) → List Char → Option (List Char × List Char)
  | _, _, [] => none
  | depth, name, c :: rest =>
    if c = ')' then
      match depth with
      | 0 => some (name.reverse, rest)
      | depth + 1 => readName depth (c :: name) rest
    else if c = '(' then readName (depth + 1) (c :: name) rest
    else readName depth (c :: name) rest

/-- Reads the name of a directive, if it has one, and chooses its argument. -/
def readChoice (arguments : Arguments) (text : List Char) : Except Fault (Arguments × List Char) :=
  match text, arguments with
  | '(' :: _, .positional _ => .error (.wrongType "format requires a mapping")
  | '(' :: rest, arguments =>
    match readName 0 [] rest with
    | none => .error (.foreign .value "incomplete format key")
    | some (name, rest) => (arguments.choose (String.ofList name)).map fun chosen => (chosen, rest)
  | text, arguments => .ok (arguments, text)

/-- Reads a precision after a point. -/
def readPrecision (arguments : Arguments) (text : List Char) :
    Except Fault (Option Nat × Arguments × List Char) :=
  match text with
  | '.' :: rest => do
    let (places, arguments, rest) ← precision.read arguments rest
    return (some (places.getD 0).toNat, arguments, rest)
  | text => .ok (none, arguments, text)

/-- The fault of a letter at a position that no directive has. -/
def unsupported (letter : Char) (position : Nat) : Fault :=
  let shown := if '\x1f' ≤ letter ∧ letter ≤ '~' then letter else '?'
  .foreign .value ("unsupported format character " ++ "'" ++ String.ofList [shown] ++ "' (0x" ++
    String.ofList (Nat.toDigits 16 letter.toNat) ++ ") at index " ++ Decimal.integerText position)

/-- The text without a letter that only says how large a number is. -/
def afterLength : List Char → List Char
  | 'h' :: rest | 'l' :: rest | 'L' :: rest => rest
  | text => text

/-- Carries out the directive after a percent sign, in a message of the given length. -/
def directive (length : Nat) (arguments : Arguments) (text : List Char) :
    Except Fault (List Char × Arguments × List Char) := do
  let (arguments, text) ← readChoice arguments text
  let (d, text) := readFlags {} text
  let (columns, arguments, text) ← width.read arguments text
  let (precision, arguments, text) ← readPrecision arguments text
  -- A negative width is a width with text on the left.
  let columns := columns.getD 0
  let d := { d with
    width := columns.natAbs, leftAligned := d.leftAligned || decide (columns < 0), precision }
  match afterLength text with
  | [] => throw incomplete
  | letter :: rest =>
    let (v, arguments) ← arguments.next
    match d.apply? letter v with
    | some result => return (← result, arguments, rest)
    | none => throw (unsupported letter (length - rest.length - 1))

/-! ## Messages -/

/-- The message with its directives carried out, `fuel` characters or directives at most. -/
def interpolateFrom (length : Nat) :
    (fuel : Nat) → Arguments → List Char → Except Fault (List Char)
  | 0, arguments, _ | _, arguments, [] =>
    if arguments.exhausted then .ok []
    else .error (.wrongType "not all arguments converted during string formatting")
  | fuel + 1, arguments, '%' :: '%' :: rest => do
    return '%' :: (← interpolateFrom length fuel arguments rest)
  | fuel + 1, arguments, '%' :: rest => do
    let (text, arguments, rest) ← directive length arguments rest
    return text ++ (← interpolateFrom length fuel arguments rest)
  | fuel + 1, arguments, c :: rest => do
    return c :: (← interpolateFrom length fuel arguments rest)

/-- What the directives of a message draw on: a single mapping that is not empty by name, all other
arguments by position. -/
def Arguments.ofValues : List Value → Arguments
  | [.map (entry :: rest)] => .named (entry :: rest) (some (.map (entry :: rest)))
  | values => .positional values

/-- The message with its arguments. -/
def interpolate (message : String) (values : List Value) : Except Fault String :=
  if values.isEmpty then .ok message
  else
    let chars := message.toList
    (interpolateFrom chars.length (chars.length + 1) (.ofValues values) chars).map String.ofList

end Orchestration.Log
