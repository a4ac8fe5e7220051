import Orchestration.Capability.Registry
import Orchestration.Conversation
import Orchestration.Engine.AgentStore
import Orchestration.Engine.TaskStore
import Orchestration.Identifier
import Orchestration.Inference
import Orchestration.Settings

/-!
# The world of an engine

Everything that an operation of the engine can read and change: the surroundings that it shares with
its callers and its backend, its stores, the queue of workers that were started and have not run
yet, and what it has noted. An operation is a step in this world; one that fails leaves the world as
it was when it failed.
-/

namespace Orchestration

/-- A worker that carries out a delegated task and posts its output. Once it has begun it runs to
its end without others in between. -/
structure Delegation where
  conversationId : String
  /-- The message that delegates the task, as it was sent. -/
  message : Message
  receiver : Ref Agent
  task : Ref Task

/-- The state of an engine and of what it shares with others. -/
structure World (σ τ : Type) where
  surroundings : Surroundings τ
  backend : σ
  settings : Settings := {}
  registry : Registry := {}
  agents : AgentStore := {}
  tasks : TaskStore := {}
  messages : Live Message := {}
  conversations : Table Conversation := []
  /-- The workers that have not run yet, in the order in which they were started. -/
  workers : List Delegation := []
  /-- The number of identifiers that were issued. -/
  issued : Nat := 0
  /-- The scope of the log in the running thread. -/
  scope : Log.Scope := {}
  /-- The name of the running thread. -/
  thread : String := "MainThread"
  /-- What was logged, oldest first. -/
  journal : List Log.Record := []
  /-- The calls to the backend, to tools and to plugins, oldest first. -/
  history : List Call := []

namespace Engine

/-- An operation of the engine. -/
abbrev Run (σ τ : Type) := EStateM Fault (World σ τ)

variable {σ τ α : Type} [Time τ]

/-- Fails as a pure operation does. -/
def lift (result : Except Fault α) : Run σ τ α :=
  match result with
  | .ok a => pure a
  | .error fault => throw fault

/-- The outcome of an operation. -/
def attempt (run : Run σ τ α) : Run σ τ (Except Fault α) := fun w =>
  match run w with
  | .ok a w => .ok (.ok a) w
  | .error fault w => .ok (.error fault) w

/-- The time on the wall clock. -/
def now : Run σ τ Moment := do
  return (← get).surroundings.clock.now

/-- The reading of the monotonic clock. -/
def reading : Run σ τ τ := do
  return (← get).surroundings.clock.reading

/-- Issues an identifier. -/
def freshId : Run σ τ String :=
  modifyGet fun w => (Identifier.issue w.issued, { w with issued := w.issued + 1 })

/-- Logs a message. -/
def log (level : Log.Level) (logger message : String) : Run σ τ Unit :=
  modify fun w => { w with
    journal := w.journal ++ [{
      moment := w.surroundings.clock.now
      rank := level.rank
      logger
      thread := w.thread
      message
      scope := w.scope }] }

/-- Runs an operation in a scope of its own. -/
def within (given : Log.Scope) (run : Run σ τ α) : Run σ τ α := fun w =>
  let opened := w.scope.opened given
  match run { w with scope := opened.1 } with
  | .ok a w' => .ok a { w' with scope := w'.scope.reset opened.2 }
  | .error fault w' => .error fault { w' with scope := w'.scope.reset opened.2 }

/-- Runs an operation in a thread of its own, which starts without a scope. -/
def inThread (name : String) (run : Run σ τ α) : Run σ τ α := fun w =>
  match run { w with scope := {}, thread := name } with
  | .ok a w' => .ok a { w' with scope := w.scope, thread := w.thread }
  | .error fault w' => .error fault { w' with scope := w.scope, thread := w.thread }

/-- Makes a context known under a name. -/
def setContext (name : String) (context : CallContext τ) : Run σ τ Unit :=
  modify fun w => { w with surroundings := w.surroundings.withContext name context }

/-- Fails if work on behalf of the context should stop. -/
def check (context : Option String) (taskId : Option String) : Run σ τ Unit := do
  lift ((← get).surroundings.check context taskId)

/-- Notes a call to the outside. -/
def noteCall (call : Call) : Run σ τ Unit :=
  modify fun w => { w with history := w.history ++ [call] }

/-- What a capability can see of the world. -/
def occasion : Run σ τ Occasion := do
  let w ← get
  return ⟨w.surroundings.clock.now, w.history⟩

/-- Calls the backend, which may change its state and the surroundings. -/
def ask (call : Call) (answer : σ → Surroundings τ → Answer σ τ α) : Run σ τ α := do
  noteCall call
  modifyGet fun w =>
    let answer := answer w.backend w.surroundings
    (answer.value, { w with
      backend := answer.backend
      surroundings := w.surroundings.applyAll answer.effects })

/-- A live agent. -/
def agent (ref : Ref Agent) : Run σ τ Agent := do
  return (← get).agents.agent ref

/-- A live task. -/
def task (ref : Ref Task) : Run σ τ Task := do
  return (← get).tasks.task ref

/-- Makes an agent live. -/
def newAgent (agent : Agent) : Run σ τ (Ref Agent) :=
  modifyGet fun w => (w.agents.live.next, { w with agents := w.agents.add agent })

/-- Makes a task live. -/
def newTask (task : Task) : Run σ τ (Ref Task) :=
  modifyGet fun w => (w.tasks.live.next, { w with tasks := w.tasks.add task })

/-- Makes a message live. -/
def newMessage (message : Message) : Run σ τ (Ref Message) :=
  modifyGet fun w => (w.messages.next, { w with messages := w.messages.add message })

/-- Changes a live task. -/
def changeTask (ref : Ref Task) (change : Task → Task) : Run σ τ Unit :=
  modify fun w => { w with tasks := w.tasks.modify ref change }

/-- Records an interaction in the memory of a live agent. -/
def recordInteraction (ref : Ref Agent) (key : String) (value : Value) : Run σ τ Unit :=
  modify fun w => { w with agents := w.agents.record ref w.surroundings.clock.now key value }

end Engine

end Orchestration
