import Orchestration.CallContext
import Orchestration.Value.Access

/-!
# Descriptions of call contexts

A call context as data: a mapping with the time that the call has left or with its deadline, either
of which may be missing, and with a mark if it is cancelled at once.
-/

namespace Orchestration

/-- The number of seconds that a value stands for. -/
def Number.described (v : Value) : Number :=
  (Number.ofValue? v).getD (.int 0)

/-- A time in a mapping. -/
def Value.secondsAt? (v : Value) (name : String) : Option Number :=
  (v.field? name).bind Number.ofValue?

namespace CallContext

/-- The context that a description means at the given time; none if there is no description. -/
def described? (now : Number) : Value → Option (CallContext Number)
  | .null => none
  | v =>
    let context : CallContext Number :=
      match v.secondsAt? "timeout" with
      | some timeout => .withTimeout now timeout
      | none => { deadline := v.secondsAt? "deadline" }
    some (if v.flagAt "cancelled" then context.cancel else context)

/-- The deadline of a context, if it has one. -/
def deadlineValue (context : CallContext Number) : Value :=
  Number.toValue? context.deadline

/-- The time that a context has left, if that is bounded. -/
def remainingValue (context : CallContext Number) (now : Number) : Value :=
  Number.toValue? (context.remaining now)

end CallContext

end Orchestration
