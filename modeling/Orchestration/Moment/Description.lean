import Orchestration.Moment.Iso
import Orchestration.Value

/-!
# Moments as data

A moment is described by its ISO form.
-/

namespace Orchestration

/-- A moment in ISO form. -/
def Moment.toValue (moment : Moment) : Value :=
  .text moment.iso

/-- A moment in ISO form, or nothing. -/
def Moment.toValue? (moment : Option Moment) : Value :=
  (moment.map Moment.toValue).getD .null

end Orchestration
