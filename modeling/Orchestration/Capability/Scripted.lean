import Orchestration.Capability
import Orchestration.Fault.Description

/-!
# Scripted capabilities

Tools and plugins whose answers are laid down beforehand by a description: a fault, a repetition of
what they are called with, or a fixed answer.
-/

namespace Orchestration

/-- How a scripted capability answers. -/
inductive ScriptedAnswer where
  | fail (fault : Fault)
  /-- Gives back what it is called with. -/
  | echo
  | fixed

/-- The way to answer that a description asks for. -/
def ScriptedAnswer.ofDescription (v : Value) : ScriptedAnswer :=
  match v.field? "raise" with
  | some fault => .fail (.described fault)
  | none => if v.flagAt "echo" then .echo else .fixed

/-- The fixed answer of a scripted tool. -/
def ToolResult.described (v : Value) : Except Fault ToolResult :=
  let result := ToolResult.read (.record [("success", (v.field? "success").getD (.bool true)),
    ("output", v.field "output"), ("error", v.field "error")])
  result.orFault "ToolResult"

/-- The tool that a description means. -/
def Tool.described (v : Value) : Tool where
  name := v.textAt "name"
  description := v.textAt "description"
  call _ parameters :=
    match ScriptedAnswer.ofDescription v with
    | .fail fault => .error fault
    | .echo => .ok (.done (.record parameters))
    | .fixed => ToolResult.described v

/-- The plugin that a description means. -/
def Plugin.described (v : Value) : Plugin where
  name := v.textAt "name"
  description := v.textAt "description"
  execute _ input parameters :=
    match ScriptedAnswer.ofDescription v with
    | .fail fault => .error fault
    | .echo => .ok (.list [.text input, .record parameters])
    | .fixed => .ok (v.field "value")

end Orchestration
