import Orchestration.Agent
import Orchestration.Value.Display

/-!
# Reflections

The text in which an agent looks back on its recent interactions.
-/

namespace Orchestration

/-- The closing sentence that belongs to a flavour of agent. -/
def AgentType.reflectionClause : AgentType → String
  | .general => ""
  | .specialist =>
    " Domain expertise application demonstrates specialized knowledge utilization."
  | .orchestrator =>
    " Coordination patterns show effective multi-agent task distribution."
  | .reflective =>
    " Advanced self-analysis indicates opportunities for optimization and learning."

/-- The keys of the last interactions, oldest first. -/
def recentKeys (context : List ContextItem) : List String :=
  (context.drop (context.length - 3)).map (·.key)

/-- What a reflection says of the context window. -/
def contextReview (context : List ContextItem) : String :=
  if context.isEmpty then ". No recent interactions to review."
  else
    ". Recent context includes " ++ Decimal.integerText context.length ++
      " interactions (latest: " ++ commaSeparated (recentKeys context) ++ ")." ++
      (if context.length ≥ 3 then
        " Pattern analysis suggests consistent performance across multiple tasks."
      else "")

/-- The reflection of an agent on a topic. -/
def Agent.reflection (agent : Agent) (topic : String) : String :=
  "Agent '" ++ agent.title ++ "' reflecting on: " ++ topic ++ contextReview agent.context ++
    agent.type.reflectionClause

end Orchestration
