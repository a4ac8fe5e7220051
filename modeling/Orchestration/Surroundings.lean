import Orchestration.CallContext
import Orchestration.Moment
import Orchestration.Table

/-!
# Surroundings

What the engine shares with the outside: the clocks, and the call contexts that callers hold. A
backend that is called may take time and may cancel contexts; it can do nothing else to its
surroundings. So time only goes on, and a cancelled context stays cancelled.
-/

namespace Orchestration

/-- The clocks. -/
structure Clock (τ : Type) where
  /-- The wall clock in universal time: microseconds since the start of the year one. -/
  wall : Int
  /-- The reading of the monotonic clock. -/
  reading : τ

/-- The clocks, and the call contexts under the names by which callers know them. -/
structure Surroundings (τ : Type) where
  clock : Clock τ
  contexts : Table (CallContext τ) := []

/-- What a backend can do to its surroundings. -/
inductive Effect (τ : Type) where
  /-- Time passes. -/
  | pass (seconds : τ)
  /-- A context is cancelled. -/
  | cancel (context : String)

variable {τ : Type} [Time τ]

/-- The time that the wall clock shows. -/
def Clock.now (clock : Clock τ) : Moment :=
  .utc clock.wall

/-- The clocks after some time. -/
def Clock.pass (clock : Clock τ) (seconds : τ) : Clock τ :=
  ⟨clock.wall + Time.micros seconds, Time.plus clock.reading seconds⟩

namespace Surroundings

/-- The call context of a call that names one; a call that names none is never stopped. -/
def context (s : Surroundings τ) (name : Option String) : CallContext τ :=
  (name.bind (Table.find? s.contexts)).getD .background

/-- Fails if work on behalf of the context should stop. -/
def check (s : Surroundings τ) (name : Option String) (taskId : Option String) :
    Except Fault Unit :=
  (s.context name).check s.clock.reading taskId

/-- The surroundings in which a context is known under a name. -/
def withContext (s : Surroundings τ) (name : String) (context : CallContext τ) :
    Surroundings τ :=
  { s with contexts := Table.insert s.contexts name context }

/-- The surroundings after an effect. -/
def apply (s : Surroundings τ) : Effect τ → Surroundings τ
  | .pass seconds => { s with clock := s.clock.pass seconds }
  | .cancel name =>
    match Table.find? s.contexts name with
    | some context => s.withContext name context.cancel
    | none => s

/-- The surroundings after some effects. -/
def applyAll (s : Surroundings τ) (effects : List (Effect τ)) : Surroundings τ :=
  effects.foldl apply s

end Surroundings

end Orchestration
