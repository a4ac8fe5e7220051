import Orchestration.Capability.ClassPath
import Orchestration.Engine.World

/-!
# How an engine starts

An engine registers the capabilities that come with it, if its settings say so, and reports that it
is ready. Callers register their own capabilities in the same way.
-/

namespace Orchestration

/-- The registry with another capability, and what is said of it. -/
def Registry.register (registry : Registry) (loaded : ClassPath.Loaded) :
    Registry × List (Log.Level × String) :=
  match loaded with
  | .tool tool => (registry.registerTool tool, registry.toolNotes tool)
  | .plugin plugin => (registry.registerPlugin plugin, registry.pluginNotes plugin)

namespace Engine

variable {σ τ : Type} [Time τ]

/-- Registers a capability. -/
def register (loaded : ClassPath.Loaded) : Run σ τ Unit := do
  let (registry, notes) := (← get).registry.register loaded
  modify fun w => { w with registry }
  notes.forM fun (level, message) => log level Registry.logger message

/-- Registers the capabilities that come with the engine. -/
def registerBuiltins : Run σ τ Unit := do
  (← lift ClassPath.loadBuiltins).forM register

/-- Logs which provider the inference client is made for. -/
def noteClient (provider : String) : Run σ τ Unit :=
  log .debug "agentweave.llm.client_factory" ("Creating inference client: provider=" ++ provider)

/-- What is logged when an engine is ready. -/
def readyNote (provider : String) (registry : Registry) : String :=
  "Engine ready: provider=" ++ provider ++ ", tools=" ++ shownTexts registry.toolNames ++
    ", plugins=" ++ shownTexts registry.pluginNames

/-- Starts an engine. -/
def start [Backend σ τ] : Run σ τ Unit := do
  if (← get).settings.registerBuiltins then registerBuiltins
  -- The names are read after the registration.
  let w ← get
  log .info "agentweave.engine.orchestrator" (readyNote (Backend.name τ w.backend) w.registry)

end Engine

end Orchestration
