import Orchestration.Fault
import Orchestration.Value.Access

/-!
# Faults as data

A fault as a record: its class and its text with what else it says, or the issues of data with the
places where they are. A description of a fault gives a class and a text, either of which may be
missing.
-/

namespace Orchestration

/-- A step on the way to a place in the data. -/
def Locus.toValue : Locus → Value
  | .field name => .text name
  | .index position => .int position

/-- The issue as a record. -/
def Issue.toValue (issue : Issue) : Value :=
  .record [("loc", .list (issue.loc.map Locus.toValue)), ("type", .text issue.defect.code)]

namespace Fault

/-- The fields of a fault. -/
def fields (fault : Fault) : Fields :=
  match fault with
  | .schema _ issues =>
    [("error", .text fault.className), ("errors", .list (issues.map Issue.toValue))]
  | fault =>
    [("error", .text fault.className), ("message", .text fault.message)] ++ fault.attributes

/-- The fault as a record. -/
def toValue (fault : Fault) : Value :=
  .record fault.fields

/-- The fault that a description means. -/
def described (v : Value) : Fault :=
  let text := (v.textAt? "message").getD "boom"
  (ofClass? ((v.textAt? "kind").getD "RuntimeError") text).getD (.foreign .runtime text)

end Fault

end Orchestration
