import Orchestration.Agent
import Orchestration.Template

/-!
# Agent profiles

What an agent of each flavour is like when it is made for a domain. The name of the domain takes the
place of the mark for it in the texts of a profile.
-/

namespace Orchestration

/-- What an agent of a flavour is like. -/
structure AgentProfile where
  name : String
  description : String
  goals : List String
  capabilities : List String
  tools : List String

namespace AgentProfile

/-- The mark that stands for the domain. -/
def mark : String :=
  "\x7bdomain\x7d"

/-- A text with the domain in place of its mark. -/
def inDomain (domain text : String) : String :=
  domain.intercalate (text.splitOn mark)

/-- The profile of a flavour. -/
def ofType : AgentType → AgentProfile
  | .general => {
      name := mark ++ "-agent"
      description := "General-purpose agent for " ++ mark ++ " tasks"
      goals := ["complete assigned " ++ mark ++ " tasks"]
      capabilities := ["generate", "chat"]
      tools := ["clock"] }
  | .specialist => {
      name := mark ++ "-specialist"
      description := "Specialist agent with domain expertise in " ++ mark
      goals := ["apply " ++ mark ++ " expertise", "produce precise answers"]
      capabilities := ["generate", "chat", "tool"]
      tools := ["calculator", "clock"] }
  | .orchestrator => {
      name := mark ++ "-orchestrator"
      description := "Orchestrator agent coordinating " ++ mark ++ " work across agents"
      goals := ["distribute " ++ mark ++ " work", "collect results from other agents"]
      capabilities := ["chat", "plugin", "delegate"]
      tools := ["clock"] }
  | .reflective => {
      name := mark ++ "-reflector"
      description := "Reflective agent analysing its own " ++ mark ++ " performance"
      goals := ["review recent " ++ mark ++ " interactions", "suggest improvements"]
      capabilities := ["reflect", "plugin", "chat"]
      tools := [] }

/-- The profile for a domain. -/
def specialized (profile : AgentProfile) (domain : String) : AgentProfile :=
  { profile with
    name := inDomain domain profile.name
    description := inDomain domain profile.description
    goals := profile.goals.map (inDomain domain) }

/-- The profile as a record. -/
def toValue (profile : AgentProfile) : Value :=
  .record [("name", .text profile.name), ("description", .text profile.description),
    ("goals", .texts profile.goals), ("capabilities", .texts profile.capabilities),
    ("tools", .texts profile.tools)]

end AgentProfile

/-- The version of the engine. -/
def version : String :=
  "0.1.0"

end Orchestration
