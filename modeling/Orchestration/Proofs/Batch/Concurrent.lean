import Orchestration.Engine.Batch
import Orchestration.Proofs.Batch.Turns

/-!
# Concurrent batches

The workers of a concurrent batch may run in any order. What a batch comes to is said by the list of
its executions: the worker, and what came of its task (`WorkersRun`). Each worker writes to the
place of its own task, or brings a fault that only counts if it is the first one, so the batch can
be read off the executions (`run_runWorkers`, `results_noted`, `error_noted`).

The main statement is `runConcurrentIn_of_perm`.
-/

namespace Orchestration.Engine

variable {σ τ : Type}

/-! ## Executions -/

/-- What came of the task of a worker. -/
structure Execution where
  position : Nat
  task : Ref Task
  outcome : Except Fault TaskResult

namespace Execution

/-- The worker that carried the task out. -/
def worker (execution : Execution) : Nat × Ref Task :=
  (execution.position, execution.task)

/-- The result that the execution returned, if it returned one. -/
def result? (execution : Execution) : Option TaskResult :=
  execution.outcome.toOption

/-- The fault that the execution ended with, if it ended with one. -/
def fault? (execution : Execution) : Option Fault :=
  match execution.outcome with
  | .ok _ => none
  | .error fault => some fault

/-- An execution gives a result or a fault. -/
theorem result?_isSome_iff (execution : Execution) :
    execution.result?.isSome ↔ execution.fault? = none := by
  obtain ⟨position, task, outcome⟩ := execution
  cases outcome <;> simp [result?, fault?, Except.toOption]

end Execution

/-- The batch when an execution has been noted. -/
def noted (batch : BatchResult) (execution : Execution) : BatchResult :=
  batch.note execution.position execution.outcome

/-- All faults of the executions belong to the taxonomy. -/
def InTaxonomy (executions : List Execution) : Prop :=
  ∀ execution ∈ executions, ∀ fault, execution.outcome = .error fault →
    fault.isOrchestration = true

/-! ## What is noted of the executions -/

/-- The first fault is the fault of the batch. -/
theorem error_noted (executions : List Execution) (htaxonomy : InTaxonomy executions)
    (batch : BatchResult) :
    (executions.foldl noted batch).error =
      (batch.error <|> executions.findSome? Execution.fault?) := by
  induction executions generalizing batch with
  | nil => simp
  | cons execution rest ih =>
    have hrest : InTaxonomy rest := fun other hmem => htaxonomy other (by simp [hmem])
    obtain ⟨position, task, outcome⟩ := execution
    rw [List.foldl_cons, ih hrest, List.findSome?_cons]
    cases outcome with
    | ok result => rfl
    | error fault =>
      -- A fault from outside the taxonomy would vanish, and leave an empty place without a reason.
      have hfault : fault.isOrchestration = true := htaxonomy _ List.mem_cons_self fault rfl
      cases herror : batch.error <;>
        simp [noted, BatchResult.note, Execution.fault?, hfault, herror]

theorem sequential_noted (executions : List Execution) (batch : BatchResult) :
    (executions.foldl noted batch).sequential = batch.sequential := by
  have hnote : ∀ (batch : BatchResult) execution,
      (noted batch execution).sequential = batch.sequential := by
    intro batch execution
    unfold noted BatchResult.note
    split
    · rfl
    · split <;> rfl
  induction executions generalizing batch with
  | nil => rfl
  | cons execution rest ih => rw [List.foldl_cons, ih, hnote]

/-- Noting an execution writes its result to the place of its worker. -/
theorem results_note (batch : BatchResult) (execution : Execution) :
    (noted batch execution).results = match execution.result? with
      | some result => batch.results.set execution.position (some result)
      | none => batch.results := by
  obtain ⟨position, task, outcome⟩ := execution
  cases outcome with
  | ok result => rfl
  | error fault =>
    unfold noted BatchResult.note
    dsimp only
    split <;> rfl

theorem length_results_noted (executions : List Execution) (batch : BatchResult) :
    (executions.foldl noted batch).results.length = batch.results.length := by
  induction executions generalizing batch with
  | nil => rfl
  | cons execution rest ih =>
    rw [List.foldl_cons, ih, results_note]
    split
    · exact List.length_set
    · rfl

/-- A place that belongs to none of the workers stays as it is. -/
theorem results_noted_of_notMem (executions : List Execution) (batch : BatchResult) {position : Nat}
    (hposition : position ∉ executions.map Execution.position) :
    (executions.foldl noted batch).results[position]? = batch.results[position]? := by
  induction executions generalizing batch with
  | nil => rfl
  | cons execution rest ih =>
    simp only [List.map_cons, List.mem_cons, not_or] at hposition
    rw [List.foldl_cons, ih _ hposition.2, results_note]
    split
    · exact List.getElem?_set_ne (Ne.symm hposition.1)
    · rfl

/-- If the workers have different places, which are empty at first, then each of them leaves the
result of its task in its own place, and the place empty if there is no result. -/
theorem results_noted (executions : List Execution) (batch : BatchResult)
    (hnodup : (executions.map Execution.position).Nodup)
    (hempty : ∀ execution ∈ executions, batch.results[execution.position]? = some none)
    (execution : Execution) (hmem : execution ∈ executions) :
    (executions.foldl noted batch).results[execution.position]? = some execution.result? := by
  induction executions generalizing batch with
  | nil => cases hmem
  | cons first rest ih =>
    simp only [List.map_cons, List.nodup_cons] at hnodup
    have hfirst : batch.results[first.position]? = some none := hempty first (by simp)
    have hbound : first.position < batch.results.length := (List.getElem?_eq_some_iff.mp hfirst).1
    rw [List.foldl_cons]
    rcases List.mem_cons.mp hmem with rfl | hmem
    · -- No worker after this one has its place.
      rw [results_noted_of_notMem _ _ hnodup.1, results_note]
      cases hresult : execution.result? with
      | none => exact hfirst
      | some result => exact List.getElem?_set_self hbound
    · -- The first worker has left the places of the others empty.
      refine ih _ hnodup.2 (fun other hother => ?_) hmem
      have hne : first.position ≠ other.position := by
        intro heq
        exact hnodup.1 (heq ▸ List.mem_map_of_mem hother)
      rw [results_note]
      split
      · rw [List.getElem?_set_ne hne]
        exact hempty other (by simp [hother])
      · exact hempty other (by simp [hother])

/-! ## Runs of the workers -/

section Runs

variable [Time τ] [Backend σ τ]

/-- Workers run one after the other, each to its end and in the world that the one before it left.
Each carries out the task that it is given, in a thread of its own. -/
inductive WorkersRun (agent : Ref Agent) (context : Option String) :
    World σ τ → List Execution → World σ τ → Prop
  | done (w : World σ τ) : WorkersRun agent context w [] w
  | next {w w₁ w₂ : World σ τ} {execution : Execution} {rest : List Execution}
      (hworker : (inThread (workerName execution.position)
        (attempt (execute execution.task agent context true))).run w = .ok execution.outcome w₁)
      (hrest : WorkersRun agent context w₁ rest w₂) :
      WorkersRun agent context w (execution :: rest) w₂

/-- A worker runs to its end whatever comes of its task, and does to the engine what the execution
of its task does. -/
theorem run_worker (name : String) (task : Ref Task) (agent : Ref Agent) (context : Option String)
    (w : World σ τ) :
    ∃ outcome w', (inThread name (attempt (execute task agent context true))).run w =
      .ok outcome w' ∧ Executed w task agent true outcome w' := by
  have h := executed task agent context true { w with scope := {}, thread := name }
  refine ⟨_, _, by rw [run_inThread, run_attempt], ?_⟩
  -- The thread and its scope belong to neither the books nor the tasks.
  have books : SameBooks { w with scope := {}, thread := name } _ := h.books
  exact ⟨⟨books.settings, books.registry, books.messages, books.conversations, books.workers,
    books.issued, books.agents⟩, h.tasks, h.taskId, h.taxonomy⟩

/-- The workers of a batch run to their ends, whatever comes of their tasks, and the batch is made
up of their executions in the order in which they ran. -/
theorem run_runWorkers (agent : Ref Agent) (context : Option String)
    (workers : List (Nat × Ref Task)) (batch : BatchResult) (w : World σ τ) :
    ∃ executions w', executions.map Execution.worker = workers ∧
      WorkersRun agent context w executions w' ∧
      (runWorkers agent context batch workers).run w = .ok (executions.foldl noted batch) w' := by
  induction workers generalizing batch w with
  | nil => exact ⟨[], w, rfl, .done w, rfl⟩
  | cons worker rest ih =>
    obtain ⟨outcome, w₁, hworker, -⟩ :=
      run_worker (workerName worker.1) worker.2 agent context w
    obtain ⟨executions, w₂, hworkers, hruns, hrest⟩ := ih (batch.note worker.1 outcome) w₁
    refine ⟨⟨worker.1, worker.2, outcome⟩ :: executions, w₂, ?_, .next hworker hruns, ?_⟩
    · rw [List.map_cons, hworkers]
      rfl
    · unfold runWorkers at hrest ⊢
      rw [List.foldlM_cons, EStateM.run_bind, runWorker, EStateM.run_bind, hworker]
      exact hrest

variable {agent : Ref Agent} {context : Option String} {w w' : World σ τ}
  {executions : List Execution}

/-- What a worker does to the engine is what the execution of its task does. -/
theorem executed_of_worker {name : String} {task : Ref Task} {outcome : Except Fault TaskResult}
    (h : (inThread name (attempt (execute task agent context true))).run w = .ok outcome w') :
    Executed w task agent true outcome w' := by
  obtain ⟨found, w₁, hrun, hexecuted⟩ := run_worker name task agent context w
  rw [h] at hrun
  cases hrun
  exact hexecuted

/-- The tasks of the workers are executed in turn. -/
theorem WorkersRun.inTurn (h : WorkersRun agent context w executions w') :
    InTurn agent w (executions.map Execution.task) (executions.map Execution.outcome) w' := by
  induction h with
  | done w => exact .done w
  | next hworker _ ih => exact .next (executed_of_worker hworker) ih

/-- All faults that workers end with belong to the taxonomy. -/
theorem WorkersRun.inTaxonomy (h : WorkersRun agent context w executions w') :
    InTaxonomy executions :=
  fun _ hmem fault hfault =>
    h.inTurn.taxonomy fault (hfault ▸ List.mem_map_of_mem (f := Execution.outcome) hmem)

/-- Each result bears the id of the task that it belongs to. -/
theorem WorkersRun.taskId (h : WorkersRun agent context w executions w') (execution : Execution)
    (hmem : execution ∈ executions) (result : TaskResult)
    (hresult : execution.outcome = .ok result) :
    result.taskId = (w.tasks.task execution.task).id := by
  obtain ⟨position, hposition⟩ := List.mem_iff_getElem?.mp hmem
  have houtcome : (executions.map Execution.outcome)[position]? = some (.ok result) := by
    rw [List.getElem?_map, hposition, Option.map_some, hresult]
  refine h.inTurn.taskId ?_ houtcome
  rw [List.getElem?_map, hposition, Option.map_some]

end Runs

/-! ## Batches -/

/-- The workers have the positions of the tasks. -/
theorem map_fst_workersOf (tasks : List (Ref Task)) :
    (workersOf tasks).map Prod.fst = List.range tasks.length := by
  have hfst : (workersOf tasks).map Prod.fst = tasks.zipIdx.map Prod.snd := List.map_map
  rw [hfst, List.zipIdx_map_snd, List.range_eq_range']

/-- The workers have the tasks in their order. -/
theorem map_snd_workersOf (tasks : List (Ref Task)) : (workersOf tasks).map Prod.snd = tasks := by
  have hsnd : (workersOf tasks).map Prod.snd = tasks.zipIdx.map Prod.fst := List.map_map
  rw [hsnd, List.zipIdx_map_fst]

/-- There is a worker for each task of a batch. -/
theorem mem_workersOf {tasks : List (Ref Task)} {position : Nat} {task : Ref Task} :
    (position, task) ∈ workersOf tasks ↔ tasks[position]? = some task := by
  rw [workersOf, List.mem_map]
  constructor
  · rintro ⟨⟨_, _⟩, hmem, ⟨⟩⟩
    exact List.mem_zipIdx_iff_getElem?.mp hmem
  · intro h
    exact ⟨(task, position), List.mem_zipIdx_iff_getElem?.mpr h, rfl⟩

/-- What a concurrent batch comes to when its tasks, which were found in the world `w`, are carried
out by the executions in their order. -/
structure ConcurrentlyDone (tasks : List (Ref Task)) (w : World σ τ) (executions : List Execution)
    (batch : BatchResult) : Prop where
  sequential : batch.sequential = false
  /-- There is one place for each task. -/
  places : batch.results.length = tasks.length
  /-- Each task was carried out. Its place has the result if one was returned, and is empty if the
  task has failed. -/
  place : ∀ position (h : position < tasks.length), ∃ outcome,
    ⟨position, tasks[position], outcome⟩ ∈ executions ∧
    batch.results[position]? = some outcome.toOption ∧
    ∀ result, outcome = .ok result → result.taskId = (w.tasks.task tasks[position]).id
  /-- The fault of the batch is the first one that a worker recorded. -/
  error : batch.error = executions.findSome? Execution.fault?
  /-- There is no fault exactly if all places are filled. -/
  success : batch.error = none ↔ ∀ result ∈ batch.results, result.isSome

/-- What was noted of executions with a place each makes up a concurrent batch. -/
theorem concurrentlyDone_noted [Time τ] [Backend σ τ] {tasks : List (Ref Task)}
    {executions : List Execution} {agent : Ref Agent} {context : Option String} {w w' : World σ τ}
    (hperm : (executions.map Execution.worker).Perm (workersOf tasks))
    (hruns : WorkersRun agent context w executions w') :
    ConcurrentlyDone tasks w executions
      (executions.foldl noted { results := executions.map fun _ => none }) := by
  set empty : BatchResult := { results := executions.map fun _ => none }
  have hlength : executions.length = tasks.length := by
    simpa [workersOf] using hperm.length_eq
  -- Whatever the order is, each position belongs to one execution.
  have hpositions : (executions.map Execution.position).Perm (List.range tasks.length) := by
    have h := hperm.map Prod.fst
    rw [map_fst_workersOf, List.map_map] at h
    exact h
  have hempty : ∀ position, position < tasks.length → empty.results[position]? = some none := by
    intro position hbound
    simp [empty, hlength, hbound]
  have hbound : ∀ execution ∈ executions, execution.position < tasks.length := by
    intro execution hmem
    exact List.mem_range.mp (hpositions.mem_iff.mp (List.mem_map_of_mem hmem))
  have hplace := results_noted executions empty (hpositions.nodup_iff.mpr List.nodup_range)
    fun execution hmem => hempty _ (hbound execution hmem)
  have herror : (executions.foldl noted empty).error = executions.findSome? Execution.fault? :=
    error_noted executions hruns.inTaxonomy empty
  have hplaces : (executions.foldl noted empty).results.length = tasks.length := by
    rw [length_results_noted, List.length_map, hlength]
  have hworker : ∀ worker ∈ workersOf tasks, ∃ outcome,
      ⟨worker.1, worker.2, outcome⟩ ∈ executions := by
    intro worker hworker
    obtain ⟨execution, hmem, rfl⟩ := List.mem_map.mp (hperm.mem_iff.mpr hworker)
    exact ⟨execution.outcome, hmem⟩
  have hexecution : ∀ position (h : position < tasks.length), ∃ outcome,
      ⟨position, tasks[position], outcome⟩ ∈ executions := by
    intro position h
    exact hworker _ (mem_workersOf.mpr (List.getElem?_eq_getElem h))
  refine ⟨sequential_noted _ _, hplaces, ?_, herror, ?_⟩
  · intro position h
    obtain ⟨outcome, hmem⟩ := hexecution position h
    exact ⟨outcome, hmem, hplace _ hmem, hruns.taskId _ hmem⟩
  · -- Every place belongs to an execution, and every execution to a place.
    rw [herror, List.findSome?_eq_none_iff]
    constructor
    · intro hfaults result hresult
      obtain ⟨position, hposition, rfl⟩ := List.mem_iff_getElem.mp hresult
      obtain ⟨outcome, hmem⟩ := hexecution position (hplaces ▸ hposition)
      have hfilled := hplace _ hmem
      rw [List.getElem?_eq_getElem hposition, Option.some.injEq] at hfilled
      rw [hfilled, Execution.result?_isSome_iff]
      exact hfaults _ hmem
    · intro hfilled execution hmem
      rw [← Execution.result?_isSome_iff]
      exact hfilled _ (List.mem_of_getElem? (hplace execution hmem))

section

variable [Time τ] [Backend σ τ]

/-- A concurrent batch is what was noted of the executions of its workers. The rest of the run at
most logs that some tasks have failed. -/
theorem run_runConcurrentIn (agent : Ref Agent) (context : Option String)
    (order : List (Nat × Ref Task)) (w : World σ τ) :
    ∃ executions w' journal, executions.map Execution.worker = order ∧
      WorkersRun agent context w executions w' ∧
      (runConcurrentIn order agent context).run w =
        .ok (executions.foldl noted { results := executions.map fun _ => none })
          { w' with journal } := by
  obtain ⟨executions, w', rfl, hruns, hrun⟩ :=
    run_runWorkers agent context order { results := order.map fun _ => none } w
  rw [List.map_map] at hrun
  have hlogged : ∃ journal,
      (runConcurrentIn (executions.map Execution.worker) agent context).run w =
        .ok (executions.foldl noted { results := executions.map fun _ => none })
          { w' with journal } := by
    rw [runConcurrentIn, List.map_map, EStateM.run_bind, hrun]
    dsimp only
    split
    · exact ⟨_, rfl⟩
    · exact ⟨_, rfl⟩
  obtain ⟨journal, hlogged⟩ := hlogged
  exact ⟨executions, w', journal, rfl, hruns, hlogged⟩

/-- **Concurrent batches.** In whatever order the workers run to their ends, a concurrent batch
returns. Each of its tasks was carried out exactly once, in the world that the worker before had
left, and what came of the executions is what the batch says. -/
theorem runConcurrentIn_of_perm (tasks : List (Ref Task)) (order : List (Nat × Ref Task))
    (horder : order.Perm (workersOf tasks)) (agent : Ref Agent) (context : Option String)
    (w : World σ τ) :
    ∃ executions batch w' journal,
      (runConcurrentIn order agent context).run w = .ok batch { w' with journal } ∧
      executions.map Execution.worker = order ∧
      WorkersRun agent context w executions w' ∧
      ConcurrentlyDone tasks w executions batch := by
  obtain ⟨executions, w', journal, rfl, hruns, hrun⟩ := run_runConcurrentIn agent context order w
  have hdone := concurrentlyDone_noted horder hruns
  exact ⟨executions, _, w', journal, hrun, rfl, hruns, hdone⟩

end

/-- The second of two workers may be the first one to run. -/
theorem runConcurrentIn_swapped :
    [(1, ⟨1⟩), (0, ⟨0⟩)].Perm (workersOf [⟨0⟩, ⟨1⟩]) ∧
      ∃ executions batch w' journal,
        (runConcurrentIn [(1, ⟨1⟩), (0, ⟨0⟩)] ⟨0⟩ none).run smallEngine =
          .ok batch { w' with journal } ∧
        executions.map Execution.worker = [(1, ⟨1⟩), (0, ⟨0⟩)] ∧
        WorkersRun ⟨0⟩ none smallEngine executions w' ∧
        ConcurrentlyDone [⟨0⟩, ⟨1⟩] smallEngine executions batch := by
  have horder : [(1, ⟨1⟩), (0, ⟨0⟩)].Perm (workersOf [⟨0⟩, ⟨1⟩]) :=
    .swap _ _ []
  exact ⟨horder, runConcurrentIn_of_perm [⟨0⟩, ⟨1⟩] _ horder ⟨0⟩ none smallEngine⟩

end Orchestration.Engine
