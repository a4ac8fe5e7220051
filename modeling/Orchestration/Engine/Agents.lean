import Orchestration.AgentProfile
import Orchestration.Engine.World

/-!
# Operations on agents

Callers register, change and remove agents, and have agents made for them: a default one, which has
the configured models and every tool, and specialised ones, which have the profile of their flavour
for a domain. A call whose context says stop does nothing.
-/

namespace Orchestration.Engine

/-- The logger of the store of agents. -/
def agentLogger : String :=
  "agentweave.engine.agent_store"

/-- An agent as a log names it. -/
def agentLabel (agent : Agent) : String :=
  agent.id ++ " (" ++ agent.name ++ ")"

/-- The default agent. -/
def defaultAgent (settings : Settings) (registry : Registry) : Agent where
  name := "default-agent"
  description := "Default general-purpose agent"
  models := settings.modelList
  tools := registry.toolNames
  config := [("default_model", .text settings.defaultModel),
    ("max_concurrent_tasks", .int settings.maxConcurrentTasks),
    ("timeout_seconds", .float settings.inferenceTimeout)]

/-- The agent of a flavour for a domain. -/
def specializedAgent (settings : Settings) (registry : Registry) (type : AgentType)
    (domain : String) (now : Moment) : Agent :=
  let profile := (AgentProfile.ofType type).specialized domain
  { name := profile.name
    description := profile.description
    type
    models := settings.modelList
    tools := profile.tools.filter fun name => (registry.tool? name).isSome
    config := [("default_model", .text settings.defaultModel), ("domain", .text domain),
      ("max_concurrent_tasks", .int settings.maxConcurrentTasks)]
    state := some { AgentState.fresh now with
      goals := profile.goals
      capabilities := profile.capabilities } }

/-- The flavour that a value names, or the fault that it names none. -/
def flavourOf (type : Value) : Except Fault AgentType :=
  match type.text?.bind AgentType.ofLabel? with
  | some type => .ok type
  | none => type.shown >>= fun shown => .error (.invalidRequest ("unknown agent type: " ++ shown))

/-- The domain without blanks around it, or the fault that nothing is left. -/
def domainOf (domain : String) : Except Fault String :=
  match Text.stripped domain with
  | "" => .error (.invalidRequest "specialized agent requires a domain")
  | domain => .ok domain

variable {σ τ : Type} [Time τ]

/-- Registers an agent. -/
def createAgent (ref : Ref Agent) (context : Option String) : Run σ τ Unit := do
  check context none
  let fresh ← freshId
  let agents ← lift ((← get).agents.create ref fresh (← now))
  modify fun w => { w with agents }
  log .info agentLogger ("Created agent " ++ agentLabel (agents.agent ref))

/-- The agent that is registered under an id. -/
def getAgent (id : String) (context : Option String) : Run σ τ (Ref Agent) := do
  check context none
  lift ((← get).agents.get id)

/-- All registered agents. -/
def listAgents (context : Option String) : Run σ τ (List (Ref Agent)) := do
  check context none
  return (← get).agents.all

/-- Replaces the agent with the same id. -/
def updateAgent (ref : Ref Agent) (context : Option String) : Run σ τ Unit := do
  check context none
  let agents ← lift ((← get).agents.update ref (← now))
  modify fun w => { w with agents }
  log .info agentLogger ("Updated agent " ++ agentLabel (agents.agent ref))

/-- Removes an agent. -/
def deleteAgent (id : String) (context : Option String) : Run σ τ Unit := do
  check context none
  let agents ← lift ((← get).agents.delete id)
  modify fun w => { w with agents }
  log .info agentLogger ("Deleted agent " ++ id)

/-- Registers the default agent. -/
def createDefaultAgent (context : Option String) : Run σ τ (Ref Agent) := do
  let w ← get
  let ref ← newAgent (defaultAgent w.settings w.registry)
  createAgent ref context
  return ref

/-- Registers an agent of a flavour for a domain. -/
def createSpecializedAgent (type : Value) (domain : String) (context : Option String) :
    Run σ τ (Ref Agent) := do
  let type ← lift (flavourOf type)
  let domain ← lift (domainOf domain)
  let w ← get
  let ref ← newAgent (specializedAgent w.settings w.registry type domain w.surroundings.clock.now)
  createAgent ref context
  return ref

end Orchestration.Engine
