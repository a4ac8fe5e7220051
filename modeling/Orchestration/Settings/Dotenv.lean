import Orchestration.Table
import Orchestration.Text.Blank

/-!
# Files of variables

A file of variables holds one binding a line: a name, an equals sign and a value. The word `export`
may stand before the name, a comment may follow the value, and a value in quotes may contain line
breaks and escapes. A line that is no binding is skipped. Inside a value a name between a dollar
sign with an opening brace and a closing brace stands for the variable of that name; a default may
follow the name after a colon and a minus sign.
-/

namespace Orchestration.Dotenv

/-! ## Lines -/

/-- The character is blank and does not end a line. -/
def isInlineBlank (c : Char) : Bool :=
  Text.isBlank c && c ≠ '\n' && c ≠ '\r'

/-- The character ends a line. -/
def isLineEnd (c : Char) : Bool :=
  c = '\n' || c = '\r'

/-- The text after one line break, at its end, or nothing if it does not start with either. -/
def lineEnd? : List Char → Option (List Char)
  | [] => some []
  | '\r' :: '\n' :: rest => some rest
  | c :: rest => if isLineEnd c then some rest else none

/-- The text after the current line. -/
def nextLine (text : List Char) : List Char :=
  (text.dropWhile (!isLineEnd ·)).drop 1

/-- The text after the word that marks an exported variable. -/
def afterExport (text : List Char) : List Char :=
  let word := "export".toList
  if word.isPrefixOf text then
    match text.drop word.length with
    | c :: rest => if isInlineBlank c then rest.dropWhile isInlineBlank else text
    | [] => text
  else text

/-! ## Names and values -/

/-- A name: quoted, plain, or absent before a comment. -/
def name? (text : List Char) : Option (Option (List Char) × List Char) :=
  match text with
  | '#' :: _ => some (none, text)
  | '\'' :: rest =>
    let name := rest.takeWhile (· ≠ '\'')
    match rest.dropWhile (· ≠ '\'') with
    | _ :: rest => if name.isEmpty then none else some (some name, rest)
    | [] => none
  | text =>
    let isNameChar := fun c => c ≠ '=' && c ≠ '#' && !Text.isBlank c
    let name := text.takeWhile isNameChar
    if name.isEmpty then none else some (some name, text.dropWhile isNameChar)

/-- The text up to a closing quote, which no backslash stands before, and the text after it. -/
def untilQuote? (quote : Char) (afterBackslash : Bool) :
    List Char → Option (List Char × List Char)
  | [] => none
  | c :: rest =>
    if c = quote && !afterBackslash then some ([], rest)
    else (untilQuote? quote (c = '\\') rest).map fun (value, rest) => (c :: value, rest)

/-- The text up to the last quote and the text after it. -/
def untilLastQuote? (quote : Char) : List Char → Option (List Char × List Char)
  | [] => none
  | c :: rest =>
    match untilLastQuote? quote rest with
    | some (value, rest) => some (c :: value, rest)
    | none => if c = quote then some ([], rest) else none

/-- The letters that may follow a backslash in a value between double quotes, and what they stand
for. -/
def escapes : List (Char × Char) :=
  [('\\', '\\'), ('\'', '\''), ('"', '"'), ('a', '\x07'), ('b', '\x08'), ('f', '\x0c'),
    ('n', '\n'), ('r', '\r'), ('t', '\t'), ('v', '\x0b')]

/-- The text with its escapes replaced. -/
def unescape (table : List (Char × Char)) : List Char → List Char
  | '\\' :: c :: rest =>
    match table.lookup c with
    | some image => image :: unescape table rest
    | none => '\\' :: unescape table (c :: rest)
  | c :: rest => c :: unescape table rest
  | [] => []

/-- A value between quotes. -/
def quotedValue? (quote : Char) (text : List Char) : Option (List Char × List Char) :=
  let table := if quote = '"' then escapes else escapes.take 2
  -- Where every quote has a backslash before it, the last one closes the value.
  (untilQuote? quote false text <|> untilLastQuote? quote text).map fun (value, rest) =>
    (unescape table value, rest)

/-- The text starts with a comment after at least one blank. -/
def startsComment (text : List Char) : Bool :=
  match text with
  | c :: _ => Text.isBlank c && (text.dropWhile Text.isBlank).head? = some '#'
  | [] => false

/-- The text before a comment. -/
def withoutComment : List Char → List Char
  | [] => []
  | c :: rest => if startsComment (c :: rest) then [] else c :: withoutComment rest

/-- A value and the text after it. -/
def value? (text : List Char) : Option (List Char × List Char) :=
  match text with
  | '\'' :: rest => quotedValue? '\'' rest
  | '"' :: rest => quotedValue? '"' rest
  | text =>
    some (Text.trimRight (withoutComment (text.takeWhile (!isLineEnd ·))),
      text.dropWhile (!isLineEnd ·))

/-! ## Bindings -/

/-- The text after blanks, a comment and a line break. -/
def lineRest? (text : List Char) : Option (List Char) :=
  match text.dropWhile isInlineBlank with
  | '#' :: rest => lineEnd? (rest.dropWhile (!isLineEnd ·))
  | rest => lineEnd? rest

/-- What is read of the text at its start: a binding, and the text after it. The binding lacks its
name where there is only a comment, and its value where there is no equals sign. -/
structure Reading where
  name : Option (List Char)
  value : Option (List Char)
  rest : List Char

/-- Reads a binding; where there is none, gives the place at which that was found. -/
def binding (text : List Char) : Except (List Char) Reading := do
  let text := afterExport text
  match name? text with
  | none => throw text
  | some (name, text) =>
    let text := text.dropWhile isInlineBlank
    let (value, text) ← match text with
      | '=' :: rest =>
        let rest := rest.dropWhile isInlineBlank
        match value? rest with
        | some (value, rest) => pure (some value, rest)
        | none => throw rest
      | text => pure (none, text)
    match lineRest? text with
    | some rest => return ⟨name, value, rest⟩
    | none => throw text

/-- The first `fuel` bindings of a text. -/
def bindingsFrom : (fuel : Nat) → List Char → List (String × Option String)
  | 0, _ => []
  | fuel + 1, text =>
    match text.dropWhile Text.isBlank with
    | [] => []
    | text =>
      match binding text with
      -- Reading goes on after the line in which the binding broke off.
      | .error place => bindingsFrom fuel (nextLine place)
      | .ok ⟨some name, value, rest⟩ =>
        (String.ofList name, value.map String.ofList) :: bindingsFrom fuel rest
      | .ok ⟨none, _, rest⟩ => bindingsFrom fuel rest

/-- The bindings of a text. -/
def bindings (text : String) : List (String × Option String) :=
  bindingsFrom (text.length + 1) text.toList

/-! ## References -/

/-- The text of a reference to a variable up to its closing brace: the name, the default, and the
rest. -/
def reference? (text : List Char) : Option (List Char × Option (List Char) × List Char) :=
  let name := text.takeWhile fun c => c ≠ '\x7d' && c ≠ ':'
  match text.dropWhile fun c => c ≠ '\x7d' && c ≠ ':' with
  | '\x7d' :: rest => some (name, none, rest)
  | ':' :: '-' :: rest =>
    match rest.dropWhile (· ≠ '\x7d') with
    | _ :: after => some (name, some (rest.takeWhile (· ≠ '\x7d')), after)
    | [] => none
  | _ => none

/-- The value with its references to variables replaced. -/
def expandFrom (known : Table (Option String)) : (fuel : Nat) → List Char → List Char
  | 0, text => text
  | _, [] => []
  | fuel + 1, c :: rest =>
    let reference := match c, rest with
      | '$', '\x7b' :: rest => reference? rest
      | _, _ => none
    match reference with
    | some (name, fallback, rest) =>
      let value := match Table.find? known (String.ofList name) with
        | some value => (value.getD "").toList
        | none => fallback.getD []
      value ++ expandFrom known fuel rest
    | none => c :: expandFrom known fuel rest

/-- The value with its references to variables replaced. -/
def expand (known : Table (Option String)) (value : String) : String :=
  String.ofList (expandFrom known (value.length + 1) value.toList)

/-- The variables that a file defines on top of the given environment. -/
def definitions (environment : Table String) (text : String) : Table (Option String) :=
  let outside := environment.map fun (name, value) => (name, some value)
  -- A value may refer to the variables above it, which hide those of the environment.
  (bindings text).foldl (fun defined (name, value) =>
    Table.insert defined name (value.map (expand (Table.merge outside defined)))) []

end Orchestration.Dotenv
