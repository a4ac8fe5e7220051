import Orchestration.Fault
import Orchestration.Time

/-!
# Call contexts

A call context says whether the work done on its behalf should stop: it may be cancelled, and it may
have a deadline on the monotonic clock. Both are final. Cancellation is cooperative; the work looks
at its context before it starts and between the pieces of a streamed reply.
-/

namespace Orchestration

/-- A signal to stop, and a point in time after which to stop. -/
structure CallContext (τ : Type) where
  cancelled : Bool := false
  /-- The reading of the monotonic clock at which the call has run out of time. -/
  deadline : Option τ := none

namespace CallContext

variable {τ : Type} [Time τ]

/-- The context of a call that may take as long as it likes. -/
def background : CallContext τ :=
  {}

/-- The context of a call that has the given time left. -/
def withTimeout (now timeout : τ) : CallContext τ :=
  { deadline := some (Time.plus now timeout) }

/-- The deadline has passed. -/
def expired (context : CallContext τ) (now : τ) : Bool :=
  match context.deadline with
  | none => false
  | some deadline => Time.upTo deadline now

/-- The work should stop. -/
def stopped (context : CallContext τ) (now : τ) : Bool :=
  context.cancelled || context.expired now

/-- The context after it was cancelled. -/
def cancel (context : CallContext τ) : CallContext τ :=
  { context with cancelled := true }

/-- The time left: none once the deadline has passed, and without a deadline no bound at all. -/
def remaining (context : CallContext τ) (now : τ) : Option τ :=
  context.deadline.map fun deadline =>
    let left := Time.minus deadline now
    if !context.expired now && Time.before Time.zero left then left else Time.zero

/-- Fails if the work should stop; a cancelled call is reported as such also after its deadline. -/
def check (context : CallContext τ) (now : τ) (taskId : Option String) : Except Fault Unit :=
  if context.cancelled then .error (.execution .cancelled "call cancelled" taskId)
  else if context.expired now then
    .error (.execution .cancelled "call deadline exceeded" taskId)
  else .ok ()

end CallContext

end Orchestration
