/-!
# Runs of characters

The maximal runs of characters that have a property, from left to right. Words are the runs of word
characters of a text, and sentences are runs of characters that do not end a sentence.
-/

namespace Orchestration.Text

/-- The maximal runs of characters with a property, where `current` is the end of a run that the
text continues, given from right to left. -/
def runsFrom (p : Char → Bool) (current : List Char) : (text : List Char) → List (List Char)
  | [] => if current.isEmpty then [] else [current.reverse]
  | c :: rest =>
    if p c then runsFrom p (c :: current) rest
    else if current.isEmpty then runsFrom p [] rest
    else current.reverse :: runsFrom p [] rest

/-- The maximal runs of characters with a property. -/
def runs (p : Char → Bool) (text : List Char) : List (List Char) :=
  runsFrom p [] text

end Orchestration.Text
