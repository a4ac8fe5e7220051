import Orchestration.Fault
import Orchestration.Live
import Orchestration.Task

/-!
# The store of tasks

Every task that was carried out is kept under its id. Who asks for a task gets it as it is at that
time.
-/

namespace Orchestration

namespace Task

/-- The task when it is given to an agent. A task that belongs to one already stays with it. -/
def assignedTo (agentId : String) (task : Task) : Task :=
  if task.agentId = "" then { task with agentId } else task

/-- The task when it is taken up. -/
def afterStart (task : Task) : Task :=
  { task with status := .running, error := "" }

/-- The task when it has failed. -/
def afterFailure (fault : Fault) (task : Task) : Task :=
  { task with status := .failed, error := fault.message }

/-- The task when it is complete. -/
def afterCompletion (time : Moment) (output : String) (task : Task) : Task :=
  { task with status := .completed, completedAt := some time, output }

end Task

/-- The live tasks, and the ones that were carried out. -/
structure TaskStore where
  live : Live Task := {}
  index : Table (Ref Task) := []

namespace TaskStore

/-- A task in its latest state. -/
def task (store : TaskStore) (ref : Ref Task) : Task :=
  store.live.get ref

/-- Makes a task live without recording it. -/
def add (store : TaskStore) (task : Task) : TaskStore :=
  { store with live := store.live.add task }

/-- Changes a live task. -/
def modify (store : TaskStore) (ref : Ref Task) (change : Task → Task) : TaskStore :=
  { store with live := store.live.modify ref change }

/-- Records a task under its id. -/
def put (store : TaskStore) (ref : Ref Task) : TaskStore :=
  { store with index := Table.insert store.index (store.task ref).id ref }

section

variable {store : TaskStore} {ref other : Ref Task} {change : Task → Task}

@[simp]
theorem has_modify : (store.modify ref change).live.Has other ↔ store.live.Has other :=
  Live.has_modify

@[simp]
theorem has_put : (store.put ref).live.Has other ↔ store.live.Has other := Iff.rfl

@[simp]
theorem task_put : (store.put ref).task other = store.task other := rfl

/-- A live task that was changed is found changed. -/
theorem task_modify_self (h : store.live.Has ref) :
    (store.modify ref change).task ref = change (store.task ref) :=
  Live.get_modify_self store.live change h

/-- Changing one task leaves the others alone. -/
theorem task_modify_of_ne (h : other ≠ ref) :
    (store.modify ref change).task other = store.task other :=
  Live.get_modify_of_ne store.live change h

end

/-- The recorded tasks, in the order in which their ids were first recorded. -/
def recorded (store : TaskStore) : List Task :=
  (Table.values store.index).map store.task

/-- A recorded task. -/
def get (store : TaskStore) (id : String) : Except Fault Task :=
  match Table.find? store.index id with
  | some ref => .ok (store.task ref)
  | none => .error (.missing .task id)

/-- The times of creation can be compared with each other. -/
def allComparable : List Task → Bool
  | [] => true
  | first :: rest => rest.all fun task => decide (Moment.Comparable task.createdAt first.createdAt)

/-- The tasks from the oldest to the newest one; tasks of the same age keep their order. -/
def oldestFirst (tasks : List Task) : Except Fault (List Task) :=
  if allComparable tasks then
    -- The sort is stable.
    .ok (tasks.mergeSort fun a b => decide (a.createdAt.instant ≤ b.createdAt.instant))
  else .error (.wrongType "can't compare offset-naive and offset-aware datetimes")

/-- The recorded tasks, or those of one agent, oldest first. -/
def list (store : TaskStore) (agentId : Option String) : Except Fault (List Task) :=
  oldestFirst (store.recorded.filter fun task => agentId.all (task.agentId = ·))

end TaskStore

end Orchestration
