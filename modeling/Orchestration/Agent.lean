import Orchestration.Moment.Description
import Orchestration.Schema

/-!
# Agents

An agent is a named actor with its own models, tools and configuration. Its state is a memory, which
keeps the latest value under each key, and a context window, which keeps the most recent
interactions.
-/

namespace Orchestration

/-- The flavours of an agent. -/
inductive AgentType where
  | general
  | specialist
  | orchestrator
  | reflective
deriving DecidableEq, Repr, Inhabited

namespace AgentType

/-- The label of a flavour. -/
def label : AgentType → String
  | .general => "general"
  | .specialist => "specialist"
  | .orchestrator => "orchestrator"
  | .reflective => "reflective"

/-- The flavour with the given label. -/
def ofLabel? (label : String) : Option AgentType :=
  [general, specialist, orchestrator, reflective].find? (·.label = label)

end AgentType

/-- One entry of a context window. -/
structure ContextItem where
  key : String
  value : Value
  timestamp : Moment
  relevance : Float

/-- The memory of an agent. It is held by value: it belongs to the one agent that it is the memory
of, and no two agents remember in the same one. -/
structure AgentState where
  /-- The latest value under each key. -/
  memory : Fields
  /-- The most recent interactions, oldest first. -/
  context : List ContextItem
  goals : List String
  capabilities : List String
  lastInteraction : Moment

/-- A named actor. -/
structure Agent where
  id : String := ""
  name : String := ""
  description : String := ""
  type : AgentType := .general
  /-- The models that the agent may use, in order of preference. -/
  models : List String := []
  tools : List String := []
  config : Fields := []
  state : Option AgentState := none
  createdAt : Option Moment := none
  updatedAt : Option Moment := none
deriving Inhabited

/-- How many interactions a context window keeps. -/
def contextLimit : Nat := 10

namespace AgentState

/-- A state without memories. -/
def fresh (now : Moment) : AgentState :=
  ⟨[], [], [], [], now⟩

/-- The last interactions of a list, as many as a context window keeps. -/
def window (context : List ContextItem) : List ContextItem :=
  context.drop (context.length - contextLimit)

/-- Stores a value under a key and adds the interaction to the context window. -/
def record (state : AgentState) (now : Moment) (key : String) (value : Value)
    (relevance : Float) : AgentState :=
  { state with
    memory := Table.insert state.memory key value
    lastInteraction := now
    context := window (state.context ++ [⟨key, value, now, relevance⟩]) }

end AgentState

namespace Agent

/-- The first model of the agent; empty if it has none. -/
def defaultModel (agent : Agent) : String :=
  agent.models.headD ""

/-- The state of the agent; a fresh one if it has none. -/
def stateOr (agent : Agent) (now : Moment) : AgentState :=
  agent.state.getD (.fresh now)

/-- The agent with a state. -/
def ensureState (agent : Agent) (now : Moment) : Agent :=
  { agent with state := some (agent.stateOr now) }

/-- The agent after an interaction. -/
def record (agent : Agent) (now : Moment) (key : String) (value : Value) : Agent :=
  { agent with state := some ((agent.stateOr now).record now key value 1.0) }

/-- What the agent is called: its name, or its id if it has none. -/
def title (agent : Agent) : String :=
  if agent.name = "" then agent.id else agent.name

/-- The context window of the agent. -/
def context (agent : Agent) : List ContextItem :=
  (agent.state.map (·.context)).getD []

end Agent

/-! ## Records -/

namespace ContextItem

/-- The entry as a record. -/
def toValue (item : ContextItem) : Value :=
  .record [("key", .text item.key), ("value", item.value), ("timestamp", item.timestamp.toValue),
    ("relevance", .float item.relevance)]

/-- Reads an entry; its time is now unless it is given. -/
def read (now : Moment) (v : Value) : Checked ContextItem :=
  match Schema.record v with
  | .failed issues => .failed issues
  | .ok es =>
    ContextItem.mk <$> Schema.required es "key" Schema.text
      <*> Schema.optional es "value" Schema.any .null
      <*> Schema.optional es "timestamp" Schema.moment now
      <*> Schema.optional es "relevance" Schema.float 1.0

end ContextItem

namespace AgentState

/-- The state as a record. -/
def toValue (state : AgentState) : Value :=
  .record [("memory", .record state.memory),
    ("context", .list (state.context.map ContextItem.toValue)), ("goals", .texts state.goals),
    ("capabilities", .texts state.capabilities),
    ("last_interaction", state.lastInteraction.toValue)]

/-- Reads a state; its times are now unless they are given. -/
def read (now : Moment) (v : Value) : Checked AgentState :=
  match Schema.record v with
  | .failed issues => .failed issues
  | .ok es =>
    AgentState.mk <$> Schema.optional es "memory" Schema.fields []
      <*> Schema.optional es "context" (Schema.list (ContextItem.read now)) []
      <*> Schema.optional es "goals" (Schema.list Schema.text) []
      <*> Schema.optional es "capabilities" (Schema.list Schema.text) []
      <*> Schema.optional es "last_interaction" Schema.moment now

end AgentState

namespace Agent

/-- The agent as a record. -/
def toValue (agent : Agent) : Value :=
  .record [("id", .text agent.id), ("name", .text agent.name),
    ("description", .text agent.description), ("type", .text agent.type.label),
    ("models", .texts agent.models), ("tools", .texts agent.tools),
    ("config", .record agent.config),
    ("state", (agent.state.map AgentState.toValue).getD .null),
    ("created_at", Moment.toValue? agent.createdAt),
    ("updated_at", Moment.toValue? agent.updatedAt)]

/-- Reads an agent. -/
def read (now : Moment) (v : Value) : Checked Agent :=
  match Schema.record v with
  | .failed issues => .failed issues
  | .ok es =>
    Agent.mk <$> Schema.optional es "id" Schema.text ""
      <*> Schema.optional es "name" Schema.text ""
      <*> Schema.optional es "description" Schema.text ""
      <*> Schema.optional es "type" (Schema.labelled AgentType.ofLabel? .enumeration) .general
      <*> Schema.optional es "models" (Schema.list Schema.text) []
      <*> Schema.optional es "tools" (Schema.list Schema.text) []
      <*> Schema.optional es "config" Schema.fields []
      <*> Schema.optional es "state" (Schema.nullable (AgentState.read now)) none
      <*> Schema.optional es "created_at" (Schema.nullable Schema.moment) none
      <*> Schema.optional es "updated_at" (Schema.nullable Schema.moment) none

end Agent

end Orchestration
