import Orchestration.Fault
import Orchestration.Task

/-!
# Task statistics

What the tasks of each agent have come to: how many there are, how many of each stage and label, and
how long they took from their creation to their completion. The figures are computed in any number
type that durations can be expressed in; the program runs with binary numbers, and the same
definitions give exact figures over the rationals.
-/

namespace Orchestration

/-- Numbers that durations are expressed in. -/
class Duration (δ : Type) extends Add δ where
  /-- No time at all. -/
  zero : δ
  /-- A number of microseconds, in milliseconds. -/
  ofMicros : Int → δ
  /-- A count of something. -/
  ofCount : Int → δ
  /-- The quotient of two numbers. -/
  quotient : δ → δ → δ
  /-- The larger of two numbers. -/
  larger : δ → δ → δ

/-- Binary numbers: seconds are rounded first, and milliseconds are a thousand times as many. -/
instance : Duration Float where
  zero := 0.0
  ofMicros micros := Decimal.ofDecimal (micros < 0) micros.natAbs (-6) * 1000.0
  ofCount := Decimal.ofInteger
  quotient a b := a / b
  larger a b := if a < b then b else a

/-- Exact numbers. -/
instance : Duration Rat where
  zero := 0
  ofMicros micros := mkRat micros 1000
  ofCount n := n
  quotient a b := a / b
  larger a b := if a < b then b else a

/-- The figures of one agent. -/
structure AgentTaskStats (δ : Type) where
  agentId : String
  totalTasks : Int
  completed : Int
  failed : Int
  inProgress : Int
  /-- How many tasks there are of each label. -/
  byType : Table Int
  avgDurationMs : δ
  maxDurationMs : δ

namespace AgentTaskStats

variable {δ : Type} [Duration δ]

/-- The share of failed tasks among those that came to an end. -/
def failureRate (stats : AgentTaskStats δ) : δ :=
  let finished := stats.completed + stats.failed
  if finished = 0 then Duration.zero
  else Duration.quotient (Duration.ofCount stats.failed) (Duration.ofCount finished)

/-- The sum of durations, from the first to the last. -/
def total (durations : List δ) : δ :=
  durations.foldl (· + ·) Duration.zero

/-- The mean of durations; zero if there are none. -/
def average (durations : List δ) : δ :=
  if durations.isEmpty then Duration.zero
  else Duration.quotient (total durations) (Duration.ofCount durations.length)

/-- The longest of durations; zero if there are none. -/
def longest : List δ → δ
  | [] => Duration.zero
  | first :: rest => rest.foldl Duration.larger first

/-- How long a task took, if it is complete. -/
def duration? (task : Task) : Except Fault (Option δ) :=
  match task.completedAt with
  | none => .ok none
  | some completed =>
    -- Two moments have a distance only if both or neither of them know their offset.
    if Moment.Comparable completed task.createdAt then
      .ok (some (Duration.ofMicros (Moment.elapsed task.createdAt completed)))
    else
      .error (.wrongType "can't subtract offset-naive and offset-aware datetimes")

/-- How many of the tasks are at the given stage. -/
def countStatus (tasks : List Task) (status : TaskStatus) : Nat :=
  tasks.countP (·.status = status)

/-- The figures of an agent with the given tasks. -/
def ofTasks (agentId : String) (tasks : List Task) : Except Fault (AgentTaskStats δ) := do
  let durations ← tasks.filterMapM duration?
  return {
    agentId
    totalTasks := tasks.length
    completed := countStatus tasks .completed
    failed := countStatus tasks .failed
    inProgress := countStatus tasks .pending + countStatus tasks .running
    byType := (Table.countAll (tasks.map (·.label))).map fun (label, n) => (label, (n : Int))
    avgDurationMs := average durations
    maxDurationMs := longest durations }

/-- The agents that the tasks belong to, in order of first appearance. -/
def agentIds (tasks : List Task) : List String :=
  (Table.countAll (tasks.map (·.agentId))).keys

/-- The figures of all agents that the tasks belong to. -/
def aggregate (tasks : List Task) : Except Fault (Table (AgentTaskStats δ)) :=
  (agentIds tasks).mapM fun agentId => do
    return (agentId, ← ofTasks agentId (tasks.filter (·.agentId = agentId)))

end AgentTaskStats

namespace AgentTaskStats

/-- The figures as a record. -/
def toValue (stats : AgentTaskStats Float) : Value :=
  .record [("agent_id", .text stats.agentId), ("total_tasks", .int stats.totalTasks),
    ("completed", .int stats.completed), ("failed", .int stats.failed),
    ("in_progress", .int stats.inProgress),
    ("by_type", .record (stats.byType.map fun (label, n) => (label, .int n))),
    ("avg_duration_ms", .float stats.avgDurationMs),
    ("max_duration_ms", .float stats.maxDurationMs)]

/-- Reads figures. -/
def read (v : Value) : Checked (AgentTaskStats Float) :=
  match Schema.record v with
  | .failed issues => .failed issues
  | .ok es =>
    AgentTaskStats.mk <$> Schema.required es "agent_id" Schema.text
      <*> Schema.optional es "total_tasks" Schema.int 0
      <*> Schema.optional es "completed" Schema.int 0
      <*> Schema.optional es "failed" Schema.int 0
      <*> Schema.optional es "in_progress" Schema.int 0
      <*> Schema.optional es "by_type" (Schema.table Schema.int) []
      <*> Schema.optional es "avg_duration_ms" Schema.float 0.0
      <*> Schema.optional es "max_duration_ms" Schema.float 0.0

/-- The figures of all agents as a record, each with the share of failed tasks. -/
def tableValue (stats : Table (AgentTaskStats Float)) : Value :=
  .record (stats.map fun (agentId, figures) =>
    (agentId, .list [figures.toValue, .float figures.failureRate]))

end AgentTaskStats

end Orchestration
