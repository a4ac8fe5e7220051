import Orchestration.Capability
import Orchestration.Text.Blank
import Orchestration.Text.Case
import Orchestration.Value.Display

/-!
# Text transformation

A plugin that changes the letter case of a text, turns it around, or trims it.
-/

namespace Orchestration.Transformation

/-- The function that a mode stands for. -/
def ofMode? (mode : String) : Option (String → String) :=
  match mode with
  | "upper" => some Text.upper
  | "lower" => some Text.lower
  | "title" => some Text.title
  | "reverse" => some fun text => String.ofList text.toList.reverse
  | "strip" => some Text.stripped
  | _ => none

/-- Answers a call. -/
def execute (text : String) (parameters : Fields) : Except Fault Value := do
  let mode ← ((Table.find? parameters "mode").getD (.text "strip")).display
  match ofMode? mode with
  | some transform => .ok (.text (transform text))
  | none => .error (.foreign .value ("unsupported transform mode: " ++ Text.quoted mode))

/-- The transformation. -/
def plugin : Plugin where
  name := "text_transform"
  description := "Transform input text: mode=upper | lower | title | reverse | strip"
  execute _ text parameters := execute text parameters

end Orchestration.Transformation
