import Orchestration.Value.Display

/-!
# Templates

A template is a text with placeholders: a name between two opening and two closing braces, where
the name is not empty and holds no brace. `segments` splits a template into its placeholders and the
characters between them, from left to right; `render` puts the text of a value in the place of each
placeholder that has one and leaves the others as they are. What is put in is not looked at again. A
template that needs a value which cannot be written has no text.
-/

namespace Orchestration.Template

/-- A part of a template. -/
inductive Segment where
  | char (c : Char)
  | placeholder (name : List Char)
deriving DecidableEq, Repr

/-- The character may stand in the name of a placeholder. -/
def isNameChar (c : Char) : Bool :=
  c ≠ '\x7b' && c ≠ '\x7d'

/-- The name of the placeholder that the text starts with. -/
def leadingName? : List Char → Option (List Char)
  | '\x7b' :: '\x7b' :: rest =>
    let name := rest.takeWhile isNameChar
    match rest.dropWhile isNameChar with
    | '\x7d' :: '\x7d' :: _ => if name.isEmpty then none else some name
    | _ => none
  | _ => none

/-- The parts of a template after `skip` characters that belong to a placeholder before it. -/
def segmentsFrom : (skip : Nat) → List Char → List Segment
  | _, [] => []
  | skip + 1, _ :: rest => segmentsFrom skip rest
  | 0, c :: rest =>
    match leadingName? (c :: rest) with
    -- Of the four braces, one is the character that was just taken.
    | some name => .placeholder name :: segmentsFrom (name.length + 3) rest
    | none => .char c :: segmentsFrom 0 rest

/-- The parts of a template. -/
def segments (template : List Char) : List Segment :=
  segmentsFrom 0 template

/-- A part as it stands in the template. -/
def Segment.source : Segment → List Char
  | .char c => [c]
  | .placeholder name => '\x7b' :: '\x7b' :: (name ++ ['\x7d', '\x7d'])

/-- A part with the placeholder filled in, if there is a value for it. -/
def Segment.fill (values : Fields) (segment : Segment) : Except Fault (List Char) :=
  match segment with
  | .char c => .ok [c]
  | .placeholder name =>
    match Table.find? values (String.ofList name) with
    | some value => return (← value.display).toList
    | none => .ok segment.source

/-- The template with its placeholders filled in. -/
def render (values : Fields) (template : String) : Except Fault String := do
  let parts ← (segments template.toList).mapM (Segment.fill values)
  return String.ofList parts.flatten

end Orchestration.Template
