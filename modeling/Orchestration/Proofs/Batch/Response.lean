import Mathlib.Data.List.Forall2
import Orchestration.Engine.Requests
import Orchestration.Proofs.Batch.Concurrent
import Orchestration.Proofs.Batch.Sequential
import Orchestration.Proofs.Identifier
import Orchestration.Proofs.Workflow.Steps

/-!
# What the answer to a batch request says

A request for a batch makes a task for each of its entries and carries them out. The answer shows
the tasks, their results, and whether the batch was a success; the engine has recorded those tasks
that were carried out. All of this is read off one list, that of the outcomes of the tasks which
were carried out in turn (`run_runBatch`): a sequential batch has the outcomes up to the first
fault, a concurrent one has those of all its tasks.

The main statement is `orchestrate_answers`.
-/

namespace Orchestration.Engine

variable {σ τ : Type}

/-! ## What a batch tells of its outcomes -/

/-- The fault of an outcome, if it is one. -/
def faultOf (outcome : Except Fault TaskResult) : Option Fault :=
  match outcome with
  | .ok _ => none
  | .error fault => some fault

/-- What a batch tells of the outcomes of those tasks that were carried out. -/
structure Tells (batch : BatchResult) (outcomes : List (Except Fault TaskResult)) : Prop where
  results : ∀ position : Nat,
    batch.results[position]?.join = outcomes[position]?.bind Except.toOption
  error : batch.error = outcomes.findSome? faultOf

/-- How far a batch of so many tasks has come: a sequential one has the results of the tasks before
the first fault, and a concurrent one has a place for each task. -/
def ComesTo (sequential : Bool) (count : Nat) (outcomes : List (Except Fault TaskResult))
    (batch : BatchResult) : Prop :=
  if sequential then
    ∃ results : List TaskResult, batch.results = results.map some ∧
      outcomes = results.map .ok ++ batch.error.toList.map .error ∧
      (batch.error = none → results.length = count)
  else outcomes.length = count ∧ batch.results.length = count

/-- There is no fault among results. -/
theorem findSome?_faultOf_map_ok (results : List TaskResult) :
    (results.map (Except.ok : TaskResult → Except Fault TaskResult)).findSome? faultOf = none := by
  rw [List.findSome?_eq_none_iff]
  intro outcome hmem
  obtain ⟨result, -, rfl⟩ := List.mem_map.mp hmem
  rfl

/-- The results before a fault, and the fault, are told by a sequential batch. -/
theorem tells_sequential (results : List TaskResult) (error : Option Fault) :
    Tells { results := results.map some, error, sequential := true }
      (results.map .ok ++ error.toList.map .error) where
  results position := by
    rcases Nat.lt_or_ge position results.length with hlt | hge
    · rw [List.getElem?_append_left (by rwa [List.length_map])]
      simp [hlt, Except.toOption]
    · -- Behind the results, there is at most the fault.
      have hfault : ∀ outcome ∈ error.toList.map (Except.error : Fault → Except Fault TaskResult),
          outcome.toOption = none := by
        intro outcome hmem
        obtain ⟨fault, -, rfl⟩ := List.mem_map.mp hmem
        rfl
      rw [List.getElem?_append_right (by rwa [List.length_map]),
        List.getElem?_eq_none (by rwa [List.length_map])]
      exact (Option.bind_eq_none_iff.mpr fun outcome hsome =>
        hfault outcome (List.mem_of_getElem? hsome)).symm
  error := by
    rw [List.findSome?_append, findSome?_faultOf_map_ok]
    cases error <;> rfl

/-- The executions of workers in the order of the tasks have the positions of the list. -/
theorem position_of_getElem? {tasks : List (Ref Task)} {executions : List Execution}
    (hworkers : executions.map Execution.worker = workersOf tasks) {position : Nat}
    {execution : Execution} (hexecution : executions[position]? = some execution) :
    execution.position = position := by
  have hworker := congrArg (·[position]?) hworkers
  simp only [List.getElem?_map, hexecution, workersOf, List.getElem?_zipIdx, Option.map_some,
    Option.map_map] at hworker
  obtain ⟨task, -, hsame⟩ := Option.map_eq_some_iff.mp hworker.symm
  have hpair : (0 + position, task) = execution.worker := hsame
  have hfst := congrArg Prod.fst hpair
  rw [Nat.zero_add] at hfst
  exact hfst.symm

/-- A place for the result of each execution, and the first fault, are told by a concurrent
batch. -/
theorem tells_concurrent {tasks : List (Ref Task)} {executions : List Execution}
    {batch : BatchResult} {w : World σ τ}
    (hworkers : executions.map Execution.worker = workersOf tasks)
    (hdone : ConcurrentlyDone tasks w executions batch) :
    Tells batch (executions.map Execution.outcome) where
  results position := by
    have hlength : executions.length = tasks.length := by
      simpa [workersOf] using congrArg List.length hworkers
    rcases Nat.lt_or_ge position tasks.length with hlt | hge
    · obtain ⟨outcome, hmem, hplace, -⟩ := hdone.place position hlt
      obtain ⟨other, hother⟩ := List.mem_iff_getElem?.mp hmem
      obtain rfl : position = other := position_of_getElem? hworkers hother
      rw [hplace, List.getElem?_map, hother]
      rfl
    · rw [List.getElem?_eq_none (hdone.places ▸ hge), List.getElem?_eq_none]
      · rfl
      · rwa [List.length_map, hlength]
  error := by
    have hfault : faultOf ∘ Execution.outcome = Execution.fault? := by
      funext execution
      obtain ⟨position, task, outcome⟩ := execution
      cases outcome <;> rfl
    rw [hdone.error, List.findSome?_map, hfault]

section

variable [Time τ] [Backend σ τ]

/-- A batch returns. It has carried out its first tasks in turn, and tells of their outcomes. -/
theorem run_runBatch (tasks : List (Ref Task)) (agent : Ref Agent) (sequential : Bool)
    (context : Option String) (w : World σ τ) :
    ∃ outcomes batch w₁ journal,
      (runBatch tasks agent sequential context).run w = .ok batch { w₁ with journal } ∧
      InTurn agent w (tasks.take outcomes.length) outcomes w₁ ∧ Tells batch outcomes ∧
      ComesTo sequential tasks.length outcomes batch := by
  cases sequential with
  | true =>
    obtain ⟨before, results, w₁, hbefore, hend⟩ :=
      run_runSequentialFrom agent context tasks.length 0 tasks w
    have hlength := hbefore.length_results
    rcases hend with ⟨rfl, hrun⟩ | ⟨task, after, fault, w₂, journal, rfl, hfault, hrun⟩
    · refine ⟨results.map .ok, _, w₁, w₁.journal, hrun, ?_, ?_, results, rfl, ?_, fun _ => hlength⟩
      · rw [List.length_map, hlength, List.take_length]
        exact hbefore.inTurn
      · have htells := tells_sequential results none
        rwa [Option.toList_none, List.map_nil, List.append_nil] at htells
      · exact (List.append_nil _).symm
    · refine ⟨results.map .ok ++ [.error fault], _, w₂, journal, hrun, ?_,
        tells_sequential results (some fault), results, rfl, rfl, nofun⟩
      rw [List.length_append, List.length_map, hlength, List.length_singleton]
      exact hbefore.inTurn_take hfault after
  | false =>
    obtain ⟨executions, w₁, journal, hworkers, hruns, hrun⟩ :=
      run_runConcurrentIn agent context (workersOf tasks) w
    have hperm : (executions.map Execution.worker).Perm (workersOf tasks) := by rw [hworkers]
    have hdone := concurrentlyDone_noted hperm hruns
    have htasks : executions.map Execution.task = tasks := by
      have htasks := congrArg (List.map Prod.snd) hworkers
      rw [List.map_map, map_snd_workersOf] at htasks
      exact htasks
    have hlength : (executions.map Execution.outcome).length = tasks.length := by
      rw [List.length_map, ← htasks, List.length_map]
    refine ⟨executions.map Execution.outcome, _, w₁, journal, hrun, ?_,
      tells_concurrent hworkers hdone, hlength, hdone.places⟩
    rw [hlength, List.take_length, ← htasks]
    exact hruns.inTurn

end

/-! ## What the records of the tasks say -/

/-- The results, the fault and the records of the tasks agree with each other. -/
structure Agree (results : List (Option TaskResult)) (error : Option Fault)
    (records : List Task) : Prop where
  /-- A task has a result exactly if it is complete, -/
  present : ∀ {position : Nat} {record : Task}, records[position]? = some record →
    (results[position]?.join.isSome ↔ record.status = .completed)
  /-- and then it is its own. -/
  result : ∀ {position : Nat} {record : Task} {result : TaskResult},
    records[position]? = some record →
    results[position]?.join = some result →
    result.taskId = record.id ∧ result.output = record.output
  /-- There is no fault exactly if all tasks are complete, -/
  success : error = none ↔ ∀ record ∈ records, record.status = .completed
  /-- and otherwise it is that of the first one that has failed. -/
  error : ∀ fault, error = some fault →
    (records.find? (·.status = .failed)).map Task.error = some fault.message

/-- If there is a result in each place, the tasks that are complete are those that have a place. -/
theorem Agree.completed_iff {results : List TaskResult} {error : Option Fault} {records : List Task}
    (h : Agree (results.map some) error records) {position : Nat} {record : Task}
    (hrecord : records[position]? = some record) :
    record.status = .completed ↔ position < results.length := by
  have hplace : (results.map some)[position]?.join = results[position]? := by
    rw [List.getElem?_map]
    cases results[position]? <;> rfl
  rw [← h.present hrecord, hplace, Option.isSome_iff_ne_none, ne_eq, List.getElem?_eq_none_iff,
    Nat.not_le]

/-- What the record of a task says of its outcome. A task without an outcome is still pending. -/
def Shows (outcome : Option (Except Fault TaskResult)) (record : Task) : Prop :=
  match outcome with
  | some outcome => Settled outcome record
  | none => record.status = .pending

/-- A task that was carried out is complete if its outcome is no fault. -/
theorem Settled.completed_iff {outcome : Except Fault TaskResult} {record : Task}
    (h : Settled outcome record) : record.status = .completed ↔ faultOf outcome = none := by
  cases outcome with
  | ok result => exact iff_of_true h.1 rfl
  | error fault =>
    refine iff_of_false (fun hcompleted => ?_) (Option.some_ne_none fault)
    cases h.1.symm.trans hcompleted

/-- A task that was carried out is not pending any more. -/
theorem Settled.status_ne_pending {outcome : Except Fault TaskResult} {record : Task}
    (h : Settled outcome record) : record.status ≠ .pending := by
  intro hpending
  cases outcome with
  | ok result => cases h.1.symm.trans hpending
  | error fault => cases h.1.symm.trans hpending

/-- The first record that has failed is that of the first fault. -/
theorem find?_failed {outcomes : List (Except Fault TaskResult)} {records : List Task}
    (hshows : ∀ {position : Nat} {record : Task}, records[position]? = some record →
      Shows outcomes[position]? record)
    (hlength : outcomes.length ≤ records.length) {fault : Fault}
    (hfault : outcomes.findSome? faultOf = some fault) :
    (records.find? (·.status = .failed)).map Task.error = some fault.message := by
  obtain ⟨before, outcome, after, rfl, houtcome, hbefore⟩ := List.findSome?_eq_some_iff.mp hfault
  rw [List.length_append, List.length_cons] at hlength
  have hbound : before.length < records.length := by omega
  have hlast := hshows (List.getElem?_eq_getElem hbound)
  rw [List.getElem?_append_right (Nat.le_refl _), Nat.sub_self, List.getElem?_cons_zero] at hlast
  cases outcome with
  | ok result => cases houtcome
  | error cause =>
    cases houtcome
    -- Those before it were carried out, too, and without a fault.
    have hearlier : ∀ position (h : position < before.length),
        records[position].status = .completed := by
      intro position h
      have hshown := hshows (List.getElem?_eq_getElem (Nat.lt_trans h hbound))
      rw [List.getElem?_append_left h, List.getElem?_eq_getElem h] at hshown
      exact (Settled.completed_iff hshown).mpr (hbefore _ (List.getElem_mem h))
    have hfirst : records.find? (·.status = .failed) = some records[before.length] := by
      rw [List.find?_eq_some_iff_getElem]
      refine ⟨decide_eq_true hlast.1, before.length, hbound, rfl, fun position h => ?_⟩
      simp [hearlier position h]
    rw [hfirst, Option.map_some, hlast.2]

/-- What a batch tells agrees with records that show the outcomes. -/
theorem agree_of_shows {batch : BatchResult} {outcomes : List (Except Fault TaskResult)}
    {records : List Task} (htells : Tells batch outcomes)
    (hshows : ∀ {position : Nat} {record : Task}, records[position]? = some record →
      Shows outcomes[position]? record)
    (hlength : outcomes.length ≤ records.length)
    (hall : batch.error = none → outcomes.length = records.length) :
    Agree batch.results batch.error records where
  present {position record} hrecord := by
    have hshown := hshows hrecord
    rw [htells.results]
    -- A task without an outcome is still pending; one with an outcome has settled.
    cases houtcome : outcomes[position]? with
    | none =>
      rw [houtcome] at hshown
      have hpending : record.status = .pending := hshown
      simp [hpending]
    | some outcome =>
      rw [houtcome] at hshown
      cases outcome with
      | ok result => exact iff_of_true rfl hshown.1
      | error fault =>
        refine iff_of_false Bool.false_ne_true fun hcompleted => ?_
        cases hshown.1.symm.trans hcompleted
  result {position record result} hrecord hresult := by
    have hshown := hshows hrecord
    rw [htells.results] at hresult
    obtain ⟨outcome, houtcome, hok⟩ := Option.bind_eq_some_iff.mp hresult
    rw [houtcome] at hshown
    cases outcome with
    | ok found =>
      cases hok
      exact ⟨hshown.2.1.symm, hshown.2.2.symm⟩
    | error fault => cases hok
  success := by
    rw [htells.error] at hall ⊢
    constructor
    -- Without a fault every task has an outcome, and all of these are results.
    · intro hnone record hmem
      obtain ⟨position, hrecord⟩ := List.mem_iff_getElem?.mp hmem
      have hbound : position < outcomes.length :=
        hall hnone ▸ (List.getElem?_eq_some_iff.mp hrecord).1
      have hshown := hshows hrecord
      rw [List.getElem?_eq_getElem hbound] at hshown
      exact (Settled.completed_iff hshown).mpr
        (List.findSome?_eq_none_iff.mp hnone _ (List.getElem_mem hbound))
    · intro hcompleted
      refine List.findSome?_eq_none_iff.mpr fun outcome hmem => ?_
      obtain ⟨position, houtcome⟩ := List.mem_iff_getElem?.mp hmem
      have hbound : position < records.length :=
        Nat.lt_of_lt_of_le (List.getElem?_eq_some_iff.mp houtcome).1 hlength
      have hshown := hshows (List.getElem?_eq_getElem hbound)
      rw [houtcome] at hshown
      exact (Settled.completed_iff hshown).mp (hcompleted _ (List.getElem_mem hbound))
  error _ hfault := find?_failed hshows hlength (htells.error ▸ hfault)

section

variable {agent : Ref Agent} {w w₁ : World σ τ} {tasks : List (Ref Task)}
  {outcomes : List (Except Fault TaskResult)}

/-- The tasks of a batch show the outcomes of those that were carried out, if all of them were
pending before. -/
theorem InTurn.shows (hturns : InTurn agent w (tasks.take outcomes.length) outcomes w₁)
    (hnodup : tasks.Nodup) (hlive : ∀ task ∈ tasks, w.tasks.live.Has task)
    (hpending : ∀ task ∈ tasks, (w.tasks.task task).status = .pending) {position : Nat}
    {record : Task} (hrecord : (tasks.map w₁.tasks.task)[position]? = some record) :
    Shows outcomes[position]? record := by
  rw [List.getElem?_map, Option.map_eq_some_iff] at hrecord
  obtain ⟨task, htask, rfl⟩ := hrecord
  cases houtcome : outcomes[position]? with
  | none =>
    have hbehind : outcomes.length ≤ position := List.getElem?_eq_none_iff.mp houtcome
    rw [Shows, hturns.task_of_le hnodup hbehind htask]
    exact hpending task (List.mem_of_getElem? htask)
  | some outcome => exact hturns.settled_take hnodup hlive htask houtcome

/-- No more tasks have outcomes than there are. -/
theorem InTurn.length_le (hturns : InTurn agent w (tasks.take outcomes.length) outcomes w₁) :
    outcomes.length ≤ tasks.length := by
  have hlength := hturns.length_outcomes
  rw [List.length_take] at hlength
  omega

end

/-! ## The tasks of a request -/

/-- The tasks that are made for the entries of a request. -/
def tasksFor (request : OrchestrationRequest) (agentId : String) (w : World σ τ)
    (entries : List TaskRequest) : List Task :=
  (entries.zipIdx w.issued).map fun entry =>
    request.taskFor entry.1 (Identifier.issue entry.2) agentId w.surroundings.clock.now

/-- The world when some tasks were made, an identifier for each of them. -/
def withTasks (w : World σ τ) (tasks : List Task) : World σ τ :=
  { w with
    issued := w.issued + tasks.length
    tasks := { w.tasks with live := ⟨w.tasks.live.values ++ tasks⟩ } }

/-- The numbers of the next live tasks. -/
def nextTasks (w : World σ τ) (count : Nat) : List (Ref Task) :=
  (List.range' w.tasks.live.values.length count).map Ref.mk

/-- The world in which the tasks of a request are ready to be carried out. -/
def prepared (request : OrchestrationRequest) (agentId : String) (w : World σ τ) : World σ τ :=
  withTasks w (tasksFor request agentId w request.tasks)

/-- The tasks of a request. -/
def requested (request : OrchestrationRequest) (w : World σ τ) : List (Ref Task) :=
  nextTasks w request.tasks.length

section Making

variable {request : OrchestrationRequest} {agentId : String} {w : World σ τ}
  {entries : List TaskRequest}

/-- There is one task for each entry. -/
theorem length_tasksFor : (tasksFor request agentId w entries).length = entries.length := by
  rw [tasksFor, List.length_map, List.length_zipIdx]

/-- Tasks can be made in one go or in two. -/
theorem withTasks_withTasks (first second : List Task) :
    withTasks (withTasks w first) second = withTasks w (first ++ second) := by
  simp only [withTasks, List.length_append, Nat.add_assoc, List.append_assoc]

/-- A task is made for each entry, in their order. -/
theorem run_requestTasks (request : OrchestrationRequest) (agentId : String) (w : World σ τ) :
    (requestTasks request agentId).run w =
      .ok (requested request w) (prepared request agentId w) := by
  have hmade : ∀ (entries : List TaskRequest) (w : World σ τ),
      (entries.mapM fun entry => do
        newTask (request.taskFor entry (← freshId) agentId (← now)) :
          Run σ τ (List (Ref Task))).run w =
        .ok (nextTasks w entries.length) (withTasks w (tasksFor request agentId w entries)) := by
    intro entries
    -- The world is another one for each entry, since an identifier is issued and a task is made.
    induction entries with
    | nil =>
      intro w
      simp [List.mapM_nil, nextTasks, withTasks, tasksFor]
    | cons entry rest ih =>
      intro w
      set task := request.taskFor entry (Identifier.issue w.issued) agentId w.surroundings.clock.now
      have hfirst : (do
          newTask (request.taskFor entry (← freshId) agentId (← now)) : Run σ τ (Ref Task)).run w =
        .ok w.tasks.live.next (withTasks w [task]) := rfl
      have hnumbers : nextTasks w (rest.length + 1) =
          w.tasks.live.next :: nextTasks (withTasks w [task]) rest.length := by
        simp [nextTasks, withTasks, List.range'_succ, Live.next]
      have htasks : tasksFor request agentId w (entry :: rest) =
          [task] ++ tasksFor request agentId (withTasks w [task]) rest := rfl
      rw [List.mapM_cons, EStateM.run_bind, hfirst]
      simp only [EStateM.run_bind, ih]
      rw [List.length_cons, hnumbers, htasks, ← withTasks_withTasks]
      rfl
  exact hmade request.tasks w

/-- The tasks that were made are found under the next numbers. -/
theorem map_task_nextTasks (w : World σ τ) (made : List Task) :
    (nextTasks w made.length).map (withTasks w made).tasks.task = made := by
  apply List.ext_getElem?
  intro position
  rw [nextTasks, List.map_map, List.getElem?_map]
  rcases Nat.lt_or_ge position made.length with hlt | hge
  · rw [List.getElem?_range' hlt]
    simp [withTasks, TaskStore.task, Live.get, hlt]
  · rw [List.getElem?_eq_none (by rwa [List.length_range']), List.getElem?_eq_none hge]
    rfl

/-- The tasks that were made are live. -/
theorem has_nextTasks (w : World σ τ) (made : List Task) :
    ∀ ref ∈ nextTasks w made.length, (withTasks w made).tasks.live.Has ref := by
  intro ref hmem
  obtain ⟨number, hnumber, rfl⟩ := List.mem_map.mp hmem
  have hbound := (List.mem_range'_1.mp hnumber).2
  rw [Live.Has, withTasks, List.length_append]
  exact hbound

/-- The task at a position is made for the entry there, and bears the identifier of its turn. -/
theorem getElem?_tasksFor (position : Nat) :
    (tasksFor request agentId w entries)[position]? = entries[position]?.map fun entry =>
      request.taskFor entry (Identifier.issue (w.issued + position)) agentId
        w.surroundings.clock.now := by
  rw [tasksFor, List.getElem?_map, List.getElem?_zipIdx, Option.map_map]
  rfl

/-- The tasks that are made have different identifiers. -/
theorem nodup_ids_tasksFor : ((tasksFor request agentId w entries).map Task.id).Nodup := by
  have hids : (tasksFor request agentId w entries).map Task.id =
      (List.range' w.issued entries.length).map Identifier.issue := by
    rw [tasksFor, List.map_map, ← List.zipIdx_map_snd w.issued entries, List.map_map]
    rfl
  rw [hids]
  exact List.Nodup.map (fun _ _ heq => Identifier.issue_injective heq) List.nodup_range'

/-- Tasks are made pending. -/
theorem pending_tasksFor {task : Task} (hmem : task ∈ tasksFor request agentId w entries) :
    task.status = .pending := by
  obtain ⟨entry, -, rfl⟩ := List.mem_map.mp hmem
  rfl

end Making

section Prepared

variable (request : OrchestrationRequest) (agentId : String) (w : World σ τ)

theorem length_requested : (requested request w).length = request.tasks.length := by
  rw [requested, nextTasks, List.length_map, List.length_range']

/-- The tasks of a request are those that were made for its entries. -/
theorem map_task_requested :
    (requested request w).map (prepared request agentId w).tasks.task =
      tasksFor request agentId w request.tasks := by
  have hmap := map_task_nextTasks w (tasksFor request agentId w request.tasks)
  rwa [length_tasksFor] at hmap

theorem has_requested :
    ∀ ref ∈ requested request w, (prepared request agentId w).tasks.live.Has ref := by
  have hlive := has_nextTasks w (tasksFor request agentId w request.tasks)
  rwa [length_tasksFor] at hlive

theorem pending_requested :
    ∀ ref ∈ requested request w,
      ((prepared request agentId w).tasks.task ref).status = .pending := by
  intro ref hmem
  have hmade : (prepared request agentId w).tasks.task ref ∈
      tasksFor request agentId w request.tasks := by
    rw [← map_task_requested]
    exact List.mem_map_of_mem hmem
  exact pending_tasksFor hmade

/-- The tasks of a request have different ids. -/
theorem nodup_ids_requested :
    ((requested request w).map fun ref =>
      ((prepared request agentId w).tasks.task ref).id).Nodup := by
  have hnodup : ((tasksFor request agentId w request.tasks).map Task.id).Nodup :=
    nodup_ids_tasksFor
  rwa [← map_task_requested, List.map_map] at hnodup

/-- The tasks of a request are different ones. -/
theorem nodup_requested : (requested request w).Nodup :=
  List.Nodup.of_map _ (nodup_ids_requested request "" w)

end Prepared

/-! ## The answer -/

/-- A task was made for an entry of a request: its parameters are those of the entry before those of
the request. -/
structure MadeFor (request : OrchestrationRequest) (entry : TaskRequest) (task : Task) : Prop where
  label : task.label = entry.label
  input : task.input = entry.input
  modelName : task.modelName = entry.modelName
  parameters : ∀ key, Table.find? task.parameters key =
    (Table.find? (Table.ofEntries entry.parameters) key).or (Table.find? request.parameters key)

/-- The answer to a request agrees with the request, and in itself. -/
structure Accurate (request : OrchestrationRequest) (response : OrchestrationResponse) : Prop where
  /-- There is one task for each entry, in their order. -/
  tasks : List.Forall₂ (MadeFor request) request.tasks response.tasks
  /-- A task has a result exactly if it is complete, -/
  present : ∀ {position : Nat} {task : Task}, response.tasks[position]? = some task →
    (response.results[position]?.join.isSome ↔ task.status = .completed)
  /-- and then it is its own. -/
  result : ∀ {position : Nat} {task : Task} {result : TaskResult},
    response.tasks[position]? = some task → response.results[position]?.join = some result →
    result.taskId = task.id ∧ result.output = task.output
  /-- The request is completed exactly if all tasks are, -/
  status : response.status = "completed" ↔ ∀ task ∈ response.tasks, task.status = .completed
  /-- and otherwise the error is that of the first task that has failed. -/
  error : response.status ≠ "completed" →
    (response.tasks.find? (·.status = .failed)).map Task.error = some response.error

/-- The tasks of the answer were carried out one after the other, up to the first that has
failed. -/
structure Sequentially (w : World σ τ) (response : OrchestrationResponse) (w' : World σ τ) :
    Prop where
  /-- There are results for the tasks that are complete before the first one that is not. -/
  results : response.results.length =
    (response.tasks.takeWhile (·.status = .completed)).length
  /-- The tasks after one that has failed are still to be done, and are not recorded. -/
  behind : ∀ {stop position : Nat} {failed task : Task}, response.tasks[stop]? = some failed →
    failed.status = .failed → stop < position → response.tasks[position]? = some task →
    task.status = .pending ∧
      Table.find? w'.tasks.index task.id = Table.find? w.tasks.index task.id ∧
      (NoneForeseen w → w'.tasks.get task.id = .error (.missing .task task.id))

/-- All tasks of the answer were carried out, with a place each for the result, and are recorded. -/
structure Concurrently (response : OrchestrationResponse) (w' : World σ τ) : Prop where
  results : response.results.length = response.tasks.length
  recorded : ∀ task ∈ response.tasks,
    task.status ≠ .pending ∧ w'.tasks.get task.id = .ok task

section

variable [Time τ] [Backend σ τ] {request : OrchestrationRequest} {ref : Ref Agent}
  {context : Option String} {w : World σ τ}

/-- A request is answered when its batch has returned. -/
theorem run_orchestrate (hknown : w.agents.find? request.agentId = some ref)
    {batch : BatchResult} {w₁ : World σ τ}
    (hbatch : (runBatch (requested request w) ref request.sequential context).run
      (prepared request (w.agents.agent ref).id w) = .ok batch w₁) :
    ∃ response w', (orchestrate request context).run w = .ok response w' ∧
      response.tasks = (requested request w).map w₁.tasks.task ∧
      response.results = batch.results ∧
      response.status = (if batch.success then "completed" else "failed") ∧
      response.error = (batch.error.map Fault.message).getD "" ∧ w'.tasks = w₁.tasks := by
  rw [orchestrate, EStateM.run_bind, EStateM.run_get]
  simp only [EStateM.run_bind, run_lift, AgentStore.get_of_find? hknown, run_agent,
    run_requestTasks, hbatch]
  exact ⟨_, _, rfl, rfl, rfl, rfl, rfl, rfl⟩

end

/-! ## What the batch of a request leaves -/

/-- Without a fault, all tasks were carried out. -/
theorem ComesTo.length_of_none {sequential : Bool} {count : Nat}
    {outcomes : List (Except Fault TaskResult)} {batch : BatchResult}
    (h : ComesTo sequential count outcomes batch) (hnone : batch.error = none) :
    outcomes.length = count := by
  cases sequential with
  | true =>
    obtain ⟨results, -, houtcomes, hall⟩ := h
    rw [houtcomes, hnone, Option.toList_none, List.map_nil, List.append_nil, List.length_map,
      hall hnone]
  | false => exact h.1

/-- The batch of a request has run: it has carried out the first of the tasks that were made, and
tells of their outcomes. -/
structure Handled (request : OrchestrationRequest) (agent : Ref Agent) (w : World σ τ)
    (outcomes : List (Except Fault TaskResult)) (batch : BatchResult) (w₁ : World σ τ) : Prop where
  inTurn : InTurn agent (prepared request (w.agents.agent agent).id w)
    ((requested request w).take outcomes.length) outcomes w₁
  tells : Tells batch outcomes
  comesTo : ComesTo request.sequential request.tasks.length outcomes batch

namespace Handled

variable {request : OrchestrationRequest} {agent : Ref Agent} {w w₁ : World σ τ}
  {outcomes : List (Except Fault TaskResult)} {batch : BatchResult} {position : Nat}
  {record : Task}

/-- The records of the tasks show the outcomes. -/
theorem shows (h : Handled request agent w outcomes batch w₁)
    (hrecord : ((requested request w).map w₁.tasks.task)[position]? = some record) :
    Shows outcomes[position]? record :=
  h.inTurn.shows (nodup_requested request w) (has_requested request _ w)
    (pending_requested request _ w) hrecord

/-- The records of the tasks agree with what the batch tells. -/
theorem agree (h : Handled request agent w outcomes batch w₁) :
    Agree batch.results batch.error ((requested request w).map w₁.tasks.task) := by
  refine agree_of_shows h.tells h.shows ?_ fun hnone => ?_
  · rw [List.length_map]
    exact h.inTurn.length_le
  · rw [h.comesTo.length_of_none hnone, List.length_map, length_requested]

/-- The task at a position was made for the entry at that position. -/
theorem sameWork (h : Handled request agent w outcomes batch w₁) {ref : Ref Task}
    (href : (requested request w)[position]? = some ref) :
    ∃ entry, request.tasks[position]? = some entry ∧
      (prepared request (w.agents.agent agent).id w).tasks.task ref =
        request.taskFor entry (Identifier.issue (w.issued + position)) (w.agents.agent agent).id
          w.surroundings.clock.now ∧
      SameWork ((prepared request (w.agents.agent agent).id w).tasks.task ref)
        (w₁.tasks.task ref) := by
  have hmade := congrArg (·[position]?) (map_task_requested request (w.agents.agent agent).id w)
  rw [List.getElem?_map, href, getElem?_tasksFor, Option.map_some] at hmade
  obtain ⟨entry, hentry, htask⟩ := Option.map_eq_some_iff.mp hmade.symm
  exact ⟨entry, hentry, htask.symm, h.inTurn.sameWork ref⟩

/-- The tasks were made for the entries of the request, in their order. -/
theorem madeFor (h : Handled request agent w outcomes batch w₁) :
    List.Forall₂ (MadeFor request) request.tasks ((requested request w).map w₁.tasks.task) := by
  have hlength : request.tasks.length = ((requested request w).map w₁.tasks.task).length := by
    rw [List.length_map, length_requested]
  refine List.forall₂_iff_get.mpr ⟨hlength, fun position hentry hrecord => ?_⟩
  have hbound : position < (requested request w).length := by rwa [List.length_map] at hrecord
  obtain ⟨entry, hfound, hmade, hsame⟩ := h.sameWork (List.getElem?_eq_getElem hbound)
  rw [List.getElem?_eq_getElem hentry, Option.some.injEq] at hfound
  rw [hmade] at hsame
  rw [List.get_eq_getElem, List.get_eq_getElem, List.getElem_map, hfound]
  refine ⟨hsame.label, hsame.input, hsame.modelName, fun key => ?_⟩
  rw [hsame.parameters]
  exact Table.find?_merge _ _ key

/-- The tasks of the answer have the identifiers under which they were made. -/
theorem ref_of_getElem? (h : Handled request agent w outcomes batch w₁)
    (hrecord : ((requested request w).map w₁.tasks.task)[position]? = some record) :
    ∃ ref, (requested request w)[position]? = some ref ∧ w₁.tasks.task ref = record ∧
      ((prepared request (w.agents.agent agent).id w).tasks.task ref).id = record.id ∧
      record.id = Identifier.issue (w.issued + position) := by
  rw [List.getElem?_map, Option.map_eq_some_iff] at hrecord
  obtain ⟨ref, href, rfl⟩ := hrecord
  obtain ⟨entry, -, hmade, hsame⟩ := h.sameWork href
  refine ⟨ref, href, rfl, hsame.id.symm, ?_⟩
  rw [hsame.id, hmade]
  rfl

end Handled

/-- If the first things of a list, and no others, have a property, they are those that are taken
while the property holds. -/
theorem length_takeWhile_of_iff {α : Type} {p : α → Bool} {items : List α} {count : Nat}
    (hcount : count ≤ items.length)
    (h : ∀ position item, items[position]? = some item →
      (p item = true ↔ position < count)) : (items.takeWhile p).length = count := by
  induction items generalizing count with
  | nil => exact (Nat.le_zero.mp hcount).symm
  | cons first rest ih =>
    have hfirst : p first = true ↔ 0 < count := h 0 first List.getElem?_cons_zero
    cases count with
    | zero =>
      have hnot : ¬ p first = true := fun hp => Nat.lt_irrefl _ (hfirst.mp hp)
      rw [List.takeWhile_cons_of_neg hnot]
      rfl
    | succ count =>
      have hrest : (rest.takeWhile p).length = count := by
        refine ih (Nat.le_of_succ_le_succ hcount) fun position item hitem => ?_
        rw [h (position + 1) item hitem, Nat.add_lt_add_iff_right]
      rw [List.takeWhile_cons_of_pos (hfirst.mpr (Nat.succ_pos count)), List.length_cons, hrest]

section

variable {request : OrchestrationRequest} {agent : Ref Agent} {w w₁ w' : World σ τ}
  {outcomes : List (Except Fault TaskResult)} {batch : BatchResult}
  {response : OrchestrationResponse}

/-- The answer to a request shows the tasks and the results of its batch. -/
structure ShownBy (request : OrchestrationRequest) (w : World σ τ) (batch : BatchResult)
    (w₁ : World σ τ) (response : OrchestrationResponse) : Prop where
  tasks : response.tasks = (requested request w).map w₁.tasks.task
  results : response.results = batch.results
  status : response.status = (if batch.success then "completed" else "failed")
  error : response.error = (batch.error.map Fault.message).getD ""

/-- An answer that shows what was handled is accurate. -/
theorem Handled.accurate (h : Handled request agent w outcomes batch w₁)
    (hshown : ShownBy request w batch w₁ response) : Accurate request response := by
  have hagree := h.agree
  rw [← hshown.tasks, ← hshown.results] at hagree
  have hcompleted : response.status = "completed" ↔ batch.error = none := by
    rw [hshown.status, BatchResult.success]
    cases batch.error with
    | none => exact iff_of_true rfl rfl
    | some fault =>
      have hdifferent : "failed" ≠ "completed" := by decide
      exact iff_of_false hdifferent (Option.some_ne_none fault)
  refine ⟨?_, hagree.present, hagree.result, hcompleted.trans hagree.success, fun hfailed => ?_⟩
  · rw [hshown.tasks]
    exact h.madeFor
  · obtain ⟨fault, hfault⟩ := Option.ne_none_iff_exists'.mp (mt hcompleted.mpr hfailed)
    rw [hagree.error fault hfault, hshown.error, hfault]
    rfl

/-- What the answer to a sequential request says of its tasks. -/
theorem Handled.sequentially (h : Handled request agent w outcomes batch w₁)
    (hshown : ShownBy request w batch w₁ response) (hsequential : request.sequential = true)
    (htasks : w'.tasks = w₁.tasks) : Sequentially w response w' := by
  have hcomes := h.comesTo
  rw [hsequential] at hcomes
  obtain ⟨results, hresults, houtcomes, -⟩ := hcomes
  have hagree := h.agree
  rw [← hshown.tasks] at hagree
  have hbound := h.inTurn.length_le
  -- At most one task more was carried out than there are results: the one that has failed.
  have hlength : outcomes.length ≤ results.length + 1 := by
    rw [houtcomes]
    cases batch.error <;> simp
  have hcompleted : ∀ {position : Nat} {task : Task}, response.tasks[position]? = some task →
      (task.status = .completed ↔ position < results.length) :=
    fun htask => (hresults ▸ hagree).completed_iff htask
  constructor
  · rw [hshown.results, hresults, List.length_map]
    refine (length_takeWhile_of_iff ?_ fun position task htask => ?_).symm
    · rw [hshown.tasks, List.length_map]
      refine Nat.le_trans ?_ hbound
      rw [houtcomes, List.length_append, List.length_map]
      exact Nat.le_add_right _ _
    · rw [decide_eq_true_iff]
      exact hcompleted htask
  -- A task behind the one that has failed was not carried out.
  · intro stop position failed task hstop hfailed hbehind htask
    have hnot : ¬ stop < results.length := by
      rw [← hcompleted hstop, hfailed]
      exact nofun
    have hnone : outcomes.length ≤ position := by omega
    obtain ⟨ref, href, hrecord, hid, hissued⟩ := h.ref_of_getElem? (hshown.tasks ▸ htask)
    have hunrecorded := h.inTurn.index_of_le (nodup_ids_requested request _ w) hnone href
    rw [hid, ← htasks] at hunrecorded
    refine ⟨?_, hunrecorded, fun hforeseen => ?_⟩
    · have hshows := h.shows (hshown.tasks ▸ htask)
      rwa [List.getElem?_eq_none hnone] at hshows
    · have hbefore : Table.find? w.tasks.index task.id = none := by
        rw [hissued]
        exact hforeseen _ (Nat.le_add_right _ _)
      rw [TaskStore.get, hunrecorded.trans hbefore]

/-- What the answer to a concurrent request says of its tasks. -/
theorem Handled.concurrently (h : Handled request agent w outcomes batch w₁)
    (hshown : ShownBy request w batch w₁ response) (hconcurrent : request.sequential = false)
    (htasks : w'.tasks = w₁.tasks) : Concurrently response w' := by
  have hcomes := h.comesTo
  rw [hconcurrent] at hcomes
  obtain ⟨hlength, hplaces⟩ := hcomes
  have hcount := length_requested request w
  constructor
  · rw [hshown.results, hshown.tasks, hplaces, List.length_map, hcount]
  · intro task hmem
    obtain ⟨position, htask⟩ := List.mem_iff_getElem?.mp hmem
    rw [hshown.tasks] at htask
    obtain ⟨ref, href, hrecord, hid, -⟩ := h.ref_of_getElem? htask
    -- There is an outcome for each task of the request.
    have hbound : position < outcomes.length := by
      rw [hlength, ← hcount]
      exact (List.getElem?_eq_some_iff.mp href).1
    constructor
    · have hshows := h.shows htask
      rw [List.getElem?_eq_getElem hbound] at hshows
      exact Settled.status_ne_pending hshows
    · have hturns := h.inTurn
      rw [List.take_of_length_le (Nat.le_of_eq (hcount.trans hlength.symm))] at hturns
      have hfound := hturns.index_of_mem (nodup_ids_requested request _ w)
        (List.mem_of_getElem? href)
      rw [hid, ← htasks] at hfound
      rw [TaskStore.get, hfound, ← hrecord, htasks]

end

/-- **Batch requests.** A request on a registered agent is answered, whatever the context and the
backend are, and whatever comes of its tasks. The answer agrees with the request and in itself. If
the request is sequential, its tasks were carried out up to the first that has failed, and
otherwise all of them were. -/
theorem orchestrate_answers [Time τ] [Backend σ τ] {request : OrchestrationRequest}
    {agent : Ref Agent} {w : World σ τ} (hknown : w.agents.find? request.agentId = some agent)
    (context : Option String) :
    ∃ response w', (orchestrate request context).run w = .ok response w' ∧
      Accurate request response ∧
      (request.sequential = true → Sequentially w response w') ∧
      (request.sequential = false → Concurrently response w') := by
  obtain ⟨outcomes, batch, w₁, journal, hbatch, hinTurn, htells, hcomesTo⟩ :=
    run_runBatch (requested request w) agent request.sequential context
      (prepared request (w.agents.agent agent).id w)
  obtain ⟨response, w', hrun, htasks, hresults, hstatus, herror, hleft⟩ :=
    run_orchestrate hknown hbatch
  rw [length_requested] at hcomesTo
  have hhandled : Handled request agent w outcomes batch w₁ := ⟨hinTurn, htells, hcomesTo⟩
  have hshown : ShownBy request w batch w₁ response := ⟨htasks, hresults, hstatus, herror⟩
  exact ⟨response, w', hrun, hhandled.accurate hshown,
    fun hsequential => hhandled.sequentially hshown hsequential hleft,
    fun hconcurrent => hhandled.concurrently hshown hconcurrent hleft⟩

/-- Three tasks, the second of which the agent of the small engine cannot carry out. -/
def threeErrands (sequential : Bool) : OrchestrationRequest where
  agentId := "helper"
  tasks := [{ label := "custom" }, { label := "generate" }, { label := "custom" }]
  sequential := sequential
  parameters := [("tone", .text "dry")]

/-- The agent of the small engine is known to it, and the engine has recorded no task yet. -/
theorem orchestrate_answers_threeErrands :
    smallEngine.agents.find? (threeErrands true).agentId = some ⟨0⟩ ∧ NoneForeseen smallEngine ∧
      ∃ response w', (orchestrate (threeErrands true) none).run smallEngine = .ok response w' ∧
        Accurate (threeErrands true) response ∧
        ((threeErrands true).sequential = true → Sequentially smallEngine response w') ∧
        ((threeErrands true).sequential = false → Concurrently response w') := by
  have hknown : smallEngine.agents.find? (threeErrands true).agentId = some ⟨0⟩ := rfl
  exact ⟨hknown, fun _ _ => rfl, orchestrate_answers hknown none⟩

/-- What becomes of the three tasks. -/
def statusesOf (sequential : Bool) : List TaskStatus :=
  match outcomeOf (orchestrate (threeErrands sequential) none) smallEngine with
  | .ok response => response.tasks.map Task.status
  | .error _ => []

-- A sequential batch stops at the task that fails, and a concurrent one goes on.
example : statusesOf true = [.completed, .failed, .pending] ∧
    statusesOf false = [.completed, .failed, .completed] := by
  decide +kernel

end Orchestration.Engine
