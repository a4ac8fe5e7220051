import Orchestration.Moment.Description
import Orchestration.Schema

/-!
# System status

A snapshot of an engine for display: its health, its coherence, and the numbers of what it holds.
-/

namespace Orchestration

/-- A snapshot for display. -/
structure SystemStatus where
  health : String := "healthy"
  coherence : Float := 1.0
  counters : Table Int := []
  updatedAt : Moment

namespace SystemStatus

/-- The status as a record. -/
def toValue (status : SystemStatus) : Value :=
  .record [("health", .text status.health), ("coherence", .float status.coherence),
    ("counters", .record (status.counters.map fun (key, n) => (key, .int n))),
    ("updated_at", status.updatedAt.toValue)]

/-- Reads a status; it was updated now unless that is given. -/
def read (now : Moment) (v : Value) : Checked SystemStatus :=
  match Schema.record v with
  | .failed issues => .failed issues
  | .ok es =>
    SystemStatus.mk <$> Schema.optional es "health" Schema.text "healthy"
      <*> Schema.optional es "coherence" Schema.float 1.0
      <*> Schema.optional es "counters" (Schema.table Schema.int) []
      <*> Schema.optional es "updated_at" Schema.moment now

end SystemStatus

end Orchestration
