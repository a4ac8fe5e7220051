import Orchestration.Call
import Orchestration.Fault

/-!
# Capabilities

A tool is a narrow capability with parameters, which reports what goes wrong in its result. A plugin
takes a text and parameters, gives any value, and fails if it cannot. What a capability answers
depends on what it is called with and on the occasion alone. It does nothing else: it leaves its
parameters as they are, and it does not call back into the engine while it runs.
-/

namespace Orchestration

/-- A call of a tool, as a task asks for it. -/
structure ToolCall where
  name : String := ""
  parameters : Fields := []

/-- What a tool answers. -/
structure ToolResult where
  success : Bool
  output : Value := .null
  error : Option String := none

/-- A tool. It is given its parameters by value, and answers without any effect of its own. -/
structure Tool where
  name : String
  description : String
  call : Occasion → Fields → Except Fault ToolResult

/-- A plugin. Like a tool, it is given its text and its parameters by value, and answers without any
effect of its own. -/
structure Plugin where
  name : String
  description : String
  execute : Occasion → String → Fields → Except Fault Value

namespace ToolCall

/-- The call as a record. -/
def toValue (call : ToolCall) : Value :=
  .record [("name", .text call.name), ("parameters", .record call.parameters)]

/-- Reads a call. -/
def read (v : Value) : Checked ToolCall :=
  match Schema.record v with
  | .failed issues => .failed issues
  | .ok es =>
    ToolCall.mk <$> Schema.optional es "name" Schema.text ""
      <*> Schema.optional es "parameters" Schema.fields []

end ToolCall

namespace ToolResult

/-- The answer of a tool that has done its work. -/
def done (output : Value) : ToolResult :=
  { success := true, output }

/-- The answer of a tool that could not do its work. -/
def refused (error : String) : ToolResult :=
  { success := false, error := some error }

/-- The answer as a record. -/
def toValue (result : ToolResult) : Value :=
  .record [("success", .bool result.success), ("output", result.output),
    ("error", .ofText? result.error)]

/-- Reads an answer. -/
def read (v : Value) : Checked ToolResult :=
  match Schema.record v with
  | .failed issues => .failed issues
  | .ok es =>
    ToolResult.mk <$> Schema.required es "success" Schema.bool
      <*> Schema.optional es "output" Schema.any .null
      <*> Schema.optional es "error" (Schema.nullable Schema.text) none

end ToolResult

end Orchestration
