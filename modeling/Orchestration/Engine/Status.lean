import Orchestration.Engine.World
import Orchestration.SystemStatus

/-!
# The status of an engine

A status is a snapshot for display; nothing depends on it. It comes from a provider, which sees the
engine and changes nothing. The provider that comes with the engine reports the numbers of what the
engine holds.
-/

namespace Orchestration

/-- The numbers of what an engine holds. -/
def World.counters {σ τ : Type} (w : World σ τ) : Table Int :=
  [("agents", w.agents.all.length), ("tasks", w.tasks.index.length),
    ("conversations", w.conversations.length), ("tools", w.registry.toolNames.length),
    ("plugins", w.registry.pluginNames.length)]

/-- Where snapshots come from. -/
structure StatusProvider (σ τ : Type) where
  name : String
  snapshot : World σ τ → Except Fault SystemStatus

namespace StatusProvider

variable {σ τ : Type} [Time τ]

/-- The provider that comes with the engine. -/
def engine : StatusProvider σ τ where
  name := "engine"
  snapshot w := .ok { counters := w.counters, updatedAt := w.surroundings.clock.now }

/-- A provider that reports given fields, and the time of the snapshot if they have none. -/
def fixed (fields : Value) : StatusProvider σ τ where
  name := "fixed"
  snapshot w := (SystemStatus.read w.surroundings.clock.now fields).orFault "SystemStatus"

end StatusProvider

/-- The status that a provider reports. -/
def Engine.status {σ τ : Type} (provider : StatusProvider σ τ) : Engine.Run σ τ SystemStatus := do
  Engine.lift (provider.snapshot (← get))

end Orchestration
