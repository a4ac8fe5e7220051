/-!
# Finding a text in another one
-/

namespace Orchestration.Text

/-- The pattern occurs in the text. -/
def occursIn (pattern : List Char) : (text : List Char) → Bool
  | [] => pattern.isEmpty
  | c :: rest => pattern.isPrefixOf (c :: rest) || occursIn pattern rest

/-- The pattern occurs in the text. -/
def contains (text pattern : String) : Bool :=
  occursIn pattern.toList text.toList

end Orchestration.Text
