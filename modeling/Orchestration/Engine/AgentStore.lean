import Orchestration.Agent
import Orchestration.Fault
import Orchestration.Live

/-!
# The store of agents

The store keeps live agents under their ids. An agent gets an id when it has none, a state, and the
times of its creation and of its latest update. Each update of an agent is dated strictly later than
the one before, whatever the clock says. What an operation refuses leaves the store as it was.
-/

namespace Orchestration

/-- The live agents, and the ones that are registered. -/
structure AgentStore where
  live : Live Agent := {}
  index : Table (Ref Agent) := []

namespace AgentStore

/-- A registered agent. -/
def find? (store : AgentStore) (id : String) : Option (Ref Agent) :=
  Table.find? store.index id

/-- A registered agent, or the fault that there is none. -/
def get (store : AgentStore) (id : String) : Except Fault (Ref Agent) :=
  match store.find? id with
  | some ref => .ok ref
  | none => .error (.missing .agent id)

/-- An agent in its latest state. -/
def agent (store : AgentStore) (ref : Ref Agent) : Agent :=
  store.live.get ref

/-- The agent that is registered under an id. -/
def stored? (store : AgentStore) (id : String) : Option Agent :=
  (store.find? id).map store.agent

/-- Makes an agent live without registering it. -/
def add (store : AgentStore) (agent : Agent) : AgentStore :=
  { store with live := store.live.add agent }

/-- Gives a live agent another state. -/
def set (store : AgentStore) (ref : Ref Agent) (agent : Agent) : AgentStore :=
  { store with live := store.live.set ref agent }

/-- Gives a live agent another state and registers it under its id. -/
def put (store : AgentStore) (ref : Ref Agent) (agent : Agent) : AgentStore where
  live := store.live.set ref agent
  index := Table.insert store.index agent.id ref

/-- The agents in the order of their registration. -/
def all (store : AgentStore) : List (Ref Agent) :=
  Table.values store.index

/-- An agent as it is registered for the first time. -/
def created (agent : Agent) (id : String) (now : Moment) : Agent :=
  { agent.ensureState now with id, createdAt := some now, updatedAt := some now }

/-- Registers an agent. If it has no id, it gets the fresh one. -/
def create (store : AgentStore) (ref : Ref Agent) (fresh : String) (now : Moment) :
    Except Fault AgentStore :=
  let agent := store.agent ref
  if agent.id = "" then .ok (store.put ref (created agent fresh now))
  else if Table.contains store.index agent.id then
    .error (.invalidRequest ("agent already exists: " ++ agent.id))
  else .ok (store.put ref (created agent agent.id now))

/-- The time of an update: now, but strictly later than the update before. -/
def updateTime (previous : Option Moment) (now : Moment) : Except Fault Moment :=
  match previous with
  | none => .ok now
  | some previous =>
    if ¬ Moment.Comparable now previous then
      .error (.wrongType "can't compare offset-naive and offset-aware datetimes")
    else if now.instant ≤ previous.instant then
      -- The clock stood still or went back, so the time is one microsecond after the last update.
      let next := previous.plus 1
      if next.InCalendar then .ok next
      else .error (.foreign .overflow "date value out of range")
    else .ok now

/-- Replaces the agent with the same id. -/
def update (store : AgentStore) (ref : Ref Agent) (now : Moment) : Except Fault AgentStore := do
  let agent := store.agent ref
  let previous := store.agent (← store.get agent.id)
  let time ← updateTime previous.updatedAt now
  return store.put ref { agent.ensureState now with
    createdAt := agent.createdAt <|> previous.createdAt
    updatedAt := some time }

/-- Removes an agent from the register. -/
def delete (store : AgentStore) (id : String) : Except Fault AgentStore :=
  if Table.contains store.index id then .ok { store with index := Table.erase store.index id }
  else .error (.missing .agent id)

/-- Records an interaction in the memory of a live agent. -/
def record (store : AgentStore) (ref : Ref Agent) (now : Moment) (key : String) (value : Value) :
    AgentStore :=
  store.set ref ((store.agent ref).record now key value)

end AgentStore

end Orchestration
