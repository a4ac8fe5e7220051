import Mathlib.Data.List.Nodup
import Orchestration.Proofs.Execution

/-!
# Tasks that are carried out in turn

Whether a batch carries its tasks out in its own thread or with a worker each, they are executed one
after the other, each in the world that the one before it left (`InTurn`). What that leaves of the
tasks follows from the law of a single execution: each task has ended as its outcome says, it is
recorded under its id, and no other task is touched.
-/

namespace Orchestration.Engine

variable {σ τ : Type} {agent : Ref Agent}

/-- Tasks are executed by an agent one after the other, with the given outcomes. -/
inductive InTurn (agent : Ref Agent) :
    World σ τ → List (Ref Task) → List (Except Fault TaskResult) → World σ τ → Prop
  | done (w : World σ τ) : InTurn agent w [] [] w
  | next {w w₁ w₂ : World σ τ} {task : Ref Task} {outcome : Except Fault TaskResult}
      {rest : List (Ref Task)} {outcomes : List (Except Fault TaskResult)}
      (hfirst : Executed w task agent true outcome w₁) (hrest : InTurn agent w₁ rest outcomes w₂) :
      InTurn agent w (task :: rest) (outcome :: outcomes) w₂

/-- What comes later in a list of different things does not come before. -/
theorem notMem_take {α : Type} {items : List α} (hnodup : items.Nodup) {count position : Nat}
    (hcount : count ≤ position) {item : α} (hitem : items[position]? = some item) :
    item ∉ items.take count := by
  intro hmem
  obtain ⟨earlier, hearlier, heq⟩ := List.mem_take_iff_getElem.mp hmem
  obtain ⟨hbound, rfl⟩ := List.getElem?_eq_some_iff.mp hitem
  have hsame := (hnodup.getElem_inj_iff).mp heq
  omega

/-- What the record of a task says of the outcome of the task. -/
def Settled (outcome : Except Fault TaskResult) (record : Task) : Prop :=
  match outcome with
  | .ok result =>
    record.status = .completed ∧ record.id = result.taskId ∧ record.output = result.output
  | .error fault => record.status = .failed ∧ record.error = fault.message

/-- An execution leaves all tasks their ids. -/
theorem Executed.map_id {w w' : World σ τ} {task : Ref Task} {outcome : Except Fault TaskResult}
    (h : Executed w task agent true outcome w') (others : List (Ref Task)) :
    (others.map fun other => (w'.tasks.task other).id) =
      others.map fun other => (w.tasks.task other).id :=
  List.map_congr_left fun other _ => (h.sameWork other).id

namespace InTurn

variable {w w₁ w₂ w' : World σ τ} {tasks : List (Ref Task)}
  {outcomes : List (Except Fault TaskResult)}

/-- There is one outcome for each task. -/
theorem length_outcomes (h : InTurn agent w tasks outcomes w') :
    outcomes.length = tasks.length := by
  induction h with
  | done w => rfl
  | next hfirst hrest ih => rw [List.length_cons, List.length_cons, ih]

/-- Another task comes after those that were executed. -/
theorem concat (h : InTurn agent w tasks outcomes w₁) {task : Ref Task}
    {outcome : Except Fault TaskResult} (hlast : Executed w₁ task agent true outcome w₂) :
    InTurn agent w (tasks ++ [task]) (outcomes ++ [outcome]) w₂ := by
  induction h with
  | done w => exact .next hlast (.done w₂)
  | next hfirst _ ih => exact .next hfirst (ih hlast)

theorem has (h : InTurn agent w tasks outcomes w') {other : Ref Task}
    (hother : w.tasks.live.Has other) : w'.tasks.live.Has other := by
  induction h with
  | done w => exact hother
  | next hfirst hrest ih => exact ih (hfirst.has hother)

theorem sameWork (h : InTurn agent w tasks outcomes w') (other : Ref Task) :
    SameWork (w.tasks.task other) (w'.tasks.task other) := by
  induction h with
  | done w => exact Std.Refl.refl _
  | next hfirst hrest ih => exact IsTrans.trans _ _ _ (hfirst.sameWork other) ih

/-- A task that is not among them is not touched. -/
theorem task_of_notMem (h : InTurn agent w tasks outcomes w') {other : Ref Task}
    (hother : other ∉ tasks) : w'.tasks.task other = w.tasks.task other := by
  induction h with
  | done w => rfl
  | next hfirst hrest ih =>
    rw [List.mem_cons, not_or] at hother
    rw [ih hother.2, hfirst.task_of_ne hother.1]

/-- Of different tasks, each is left as its execution has made it. -/
theorem task_of_getElem? (h : InTurn agent w tasks outcomes w') (hnodup : tasks.Nodup)
    (hlive : ∀ task ∈ tasks, w.tasks.live.Has task) {position : Nat} {task : Ref Task}
    {outcome : Except Fault TaskResult} (htask : tasks[position]? = some task)
    (houtcome : outcomes[position]? = some outcome) :
    ∃ time, w'.tasks.task task = ended time outcome
      ((w.tasks.task task).assignedTo (w.agents.agent agent).id).afterStart := by
  induction h generalizing position with
  | done w => cases htask
  | @next w w₁ w₂ first _ rest _ hfirst hrest ih =>
    rw [List.nodup_cons] at hnodup
    cases position with
    | zero =>
      -- The tasks after it have left it alone.
      cases htask
      cases houtcome
      rw [hrest.task_of_notMem hnodup.1, hfirst.task_self (hlive _ List.mem_cons_self)]
      exact ⟨_, rfl⟩
    | succ position =>
      have hmem : task ∈ rest := List.mem_of_getElem? htask
      have hne : task ≠ first := fun heq => hnodup.1 (heq ▸ hmem)
      obtain ⟨time, hended⟩ := ih hnodup.2
        (fun other hother => hfirst.has (hlive other (List.mem_cons_of_mem _ hother)))
        htask houtcome
      rw [hfirst.task_of_ne hne, hfirst.books.agents.id] at hended
      exact ⟨time, hended⟩

/-- A result bears the id of the task that it is the result of. -/
theorem taskId (h : InTurn agent w tasks outcomes w') {position : Nat} {task : Ref Task}
    {result : TaskResult} (htask : tasks[position]? = some task)
    (hresult : outcomes[position]? = some (.ok result)) :
    result.taskId = (w.tasks.task task).id := by
  induction h generalizing position with
  | done w => cases htask
  | next hfirst hrest ih =>
    cases position with
    | zero =>
      cases htask
      cases hresult
      exact hfirst.taskId _ rfl
    | succ position => rw [ih htask hresult, (hfirst.sameWork task).id]

/-- Of different tasks, each has ended as its outcome says. -/
theorem settled (h : InTurn agent w tasks outcomes w') (hnodup : tasks.Nodup)
    (hlive : ∀ task ∈ tasks, w.tasks.live.Has task) {position : Nat} {task : Ref Task}
    {outcome : Except Fault TaskResult} (htask : tasks[position]? = some task)
    (houtcome : outcomes[position]? = some outcome) : Settled outcome (w'.tasks.task task) := by
  obtain ⟨time, hended⟩ := h.task_of_getElem? hnodup hlive htask houtcome
  cases outcome with
  | ok result =>
    have hid := (h.taskId htask houtcome).symm
    rw [← (h.sameWork task).id] at hid
    rw [hended] at hid ⊢
    exact ⟨rfl, hid, rfl⟩
  | error fault =>
    rw [hended]
    exact ⟨rfl, rfl⟩

/-- Faults belong to the taxonomy. -/
theorem taxonomy (h : InTurn agent w tasks outcomes w') :
    ∀ fault, .error fault ∈ outcomes → fault.isOrchestration = true := by
  induction h with
  | done w => exact fun _ hmem => nomatch hmem
  | next hfirst hrest ih =>
    intro fault hmem
    rcases List.mem_cons.mp hmem with rfl | hmem
    · exact hfirst.taxonomy fault rfl
    · exact ih fault hmem

/-- What is recorded under an id that belongs to none of the tasks stays as it is. -/
theorem index_of_notMem (h : InTurn agent w tasks outcomes w') {id : String}
    (hid : id ∉ tasks.map fun task => (w.tasks.task task).id) :
    Table.find? w'.tasks.index id = Table.find? w.tasks.index id := by
  induction h with
  | done w => rfl
  | @next w w₁ w₂ task outcome rest outcomes hfirst hrest ih =>
    rw [List.map_cons, List.mem_cons, not_or, ← hfirst.map_id rest] at hid
    rw [ih hid.2, hfirst.index, Table.find?_insert_of_ne _ _ hid.1]

/-- Each of the tasks is recorded under its id, if no other one has that id. -/
theorem index_of_mem (h : InTurn agent w tasks outcomes w')
    (hids : (tasks.map fun task => (w.tasks.task task).id).Nodup) {task : Ref Task}
    (hmem : task ∈ tasks) :
    Table.find? w'.tasks.index (w.tasks.task task).id = some task := by
  induction h with
  | done w => cases hmem
  | @next w w₁ w₂ first outcome rest outcomes hfirst hrest ih =>
    rw [List.map_cons, List.nodup_cons, ← hfirst.map_id rest] at hids
    rcases List.mem_cons.mp hmem with rfl | hmem
    · rw [hrest.index_of_notMem hids.1, hfirst.index, Table.find?_insert_self]
    · rw [← (hfirst.sameWork task).id]
      exact ih hids.2 hmem

/-! ### The first tasks of a list -/

section Take

variable {count position : Nat} {task : Ref Task}

/-- The tasks that were executed have ended as their outcomes say. -/
theorem settled_take (h : InTurn agent w (tasks.take count) outcomes w') (hnodup : tasks.Nodup)
    (hlive : ∀ task ∈ tasks, w.tasks.live.Has task) {outcome : Except Fault TaskResult}
    (htask : tasks[position]? = some task) (houtcome : outcomes[position]? = some outcome) :
    Settled outcome (w'.tasks.task task) := by
  have hbound : position < (tasks.take count).length :=
    h.length_outcomes ▸ (List.getElem?_eq_some_iff.mp houtcome).1
  rw [List.length_take, Nat.lt_min] at hbound
  refine h.settled (hnodup.sublist (List.take_sublist _ _))
    (fun other hother => hlive other (List.mem_of_mem_take hother)) ?_ houtcome
  rwa [List.getElem?_take_of_lt hbound.1]

/-- Behind the tasks that were executed, no task is touched. -/
theorem task_of_le (h : InTurn agent w (tasks.take count) outcomes w') (hnodup : tasks.Nodup)
    (hcount : count ≤ position) (htask : tasks[position]? = some task) :
    w'.tasks.task task = w.tasks.task task :=
  h.task_of_notMem (notMem_take hnodup hcount htask)

/-- Behind the tasks that were executed, no task is recorded. -/
theorem index_of_le (h : InTurn agent w (tasks.take count) outcomes w')
    (hids : (tasks.map fun task => (w.tasks.task task).id).Nodup)
    (hcount : count ≤ position) (htask : tasks[position]? = some task) :
    Table.find? w'.tasks.index (w.tasks.task task).id =
      Table.find? w.tasks.index (w.tasks.task task).id := by
  refine h.index_of_notMem ?_
  rw [List.map_take]
  refine notMem_take hids hcount ?_
  rw [List.getElem?_map, htask, Option.map_some]

end Take

end InTurn

end Orchestration.Engine
