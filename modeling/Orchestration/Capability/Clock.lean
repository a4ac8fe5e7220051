import Orchestration.Capability
import Orchestration.Moment.Pattern
import Orchestration.Value.Display

/-!
# Clock

A tool that tells the time in universal time, in ISO form or in the form that a pattern asks for.
-/

namespace Orchestration.Clock

/-- Answers a call. -/
def call (now : Moment) (parameters : Fields) : Except Fault ToolResult := do
  let pattern := (Table.find? parameters "format").getD .null
  let text ← if pattern.truthy then now.format <$> pattern.display else .ok now.iso
  return .done (.text text)

/-- The clock. -/
def tool : Tool where
  name := "clock"
  description := "Current UTC time, ISO-8601 or a strftime \x60format\x60"
  call occasion parameters := call occasion.now parameters

end Orchestration.Clock
