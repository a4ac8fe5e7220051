import Mathlib.Data.List.Nodup
import Orchestration.Engine.Batch
import Orchestration.Proofs.Batch.Turns

/-!
# Sequential batches

A sequential batch carries out its tasks one after the other. The tasks before the first one that
fails have succeeded, each in the world that the one before it left (`Succeed`); that one has
failed; and the tasks after it were not touched. A run of the loop is taken apart in
`run_runSequentialFrom`, and what that means for the tasks themselves is said in terms of the law of
a single execution.

The main statement is `runBatch_sequential`.
-/

namespace Orchestration.Engine

variable {σ τ : Type} [Time τ] [Backend σ τ] {agent : Ref Agent} {context : Option String}

/-! ## Tasks that succeed -/

/-- Tasks are carried out one after the other, each in the world that the one before it left, and
all of them succeed with the given results. -/
inductive Succeed (agent : Ref Agent) (context : Option String) :
    World σ τ → List (Ref Task) → List TaskResult → World σ τ → Prop
  | done (w : World σ τ) : Succeed agent context w [] [] w
  | next {w w₁ w₂ : World σ τ} {task : Ref Task} {result : TaskResult} {rest : List (Ref Task)}
      {results : List TaskResult} (hfirst : (execute task agent context true).run w = .ok result w₁)
      (hrest : Succeed agent context w₁ rest results w₂) :
      Succeed agent context w (task :: rest) (result :: results) w₂

namespace Succeed

variable {w w' : World σ τ} {tasks : List (Ref Task)} {results : List TaskResult}

/-- The tasks are executed in turn. -/
theorem inTurn (h : Succeed agent context w tasks results w') :
    InTurn agent w tasks (results.map .ok) w' := by
  induction h with
  | done w => exact .done w
  | next hfirst _ ih => exact .next (executed_of_run_ok hfirst) ih

/-- There is one result for each task. -/
theorem length_results (h : Succeed agent context w tasks results w') :
    results.length = tasks.length := by
  rw [← h.inTurn.length_outcomes, List.length_map]

/-- The results are those of the tasks, in the same order. -/
theorem map_taskId (h : Succeed agent context w tasks results w') :
    results.map (·.taskId) = tasks.map fun task => (w.tasks.task task).id := by
  induction h with
  | done w => rfl
  | next hfirst hrest ih =>
    have hexecuted := executed_of_run_ok hfirst
    rw [List.map_cons, List.map_cons, ih, hexecuted.taskId _ rfl, hexecuted.map_id]

/-- Different tasks that succeed are complete in the end. -/
theorem completed (h : Succeed agent context w tasks results w') (hnodup : tasks.Nodup)
    (hlive : ∀ task ∈ tasks, w.tasks.live.Has task) (task : Ref Task) (hmem : task ∈ tasks) :
    (w'.tasks.task task).status = .completed := by
  obtain ⟨position, hposition, rfl⟩ := List.mem_iff_getElem.mp hmem
  have hbound : position < results.length := h.length_results ▸ hposition
  have houtcome : (results.map Except.ok)[position]? =
      some (.ok results[position] : Except Fault TaskResult) := by
    rw [List.getElem?_map, List.getElem?_eq_getElem hbound]
    rfl
  exact (h.inTurn.settled hnodup hlive (List.getElem?_eq_getElem hposition) houtcome).1

/-- A task that fails has its turn after those that succeed. -/
theorem inTurn_take {w₁ w₂ : World σ τ} {task : Ref Task} {fault : Fault}
    (h : Succeed agent context w tasks results w₁)
    (hfault : (execute task agent context true).run w₁ = .error fault w₂)
    (after : List (Ref Task)) :
    InTurn agent w ((tasks ++ task :: after).take (tasks.length + 1))
      (results.map .ok ++ [.error fault]) w₂ := by
  rw [List.take_length_add_append]
  exact h.inTurn.concat (executed_of_run_error hfault)

end Succeed

/-! ## The loop -/

section

variable {w w₁ : World σ τ} {total done : Nat} {task : Ref Task} {rest : List (Ref Task)}

/-- A task that succeeds puts its result before those of the tasks after it. -/
theorem run_runSequentialFrom_of_ok {w₂ : World σ τ} {result : TaskResult} {batch : BatchResult}
    (hfirst : (execute task agent context true).run w = .ok result w₁)
    (hrest : (runSequentialFrom agent context total (done + 1) rest).run w₁ = .ok batch w₂) :
    (runSequentialFrom agent context total done (task :: rest)).run w =
      .ok { batch with results := some result :: batch.results } w₂ := by
  obtain ⟨houtcome, hworld⟩ := run_eq_ok_iff.mp hfirst
  rw [runSequentialFrom, EStateM.run_bind, run_attempt, houtcome, hworld]
  dsimp only
  rw [EStateM.run_bind, hrest]
  rfl

/-- A task that fails ends the batch. -/
theorem run_runSequentialFrom_of_error {fault : Fault}
    (hfirst : (execute task agent context true).run w = .error fault w₁) :
    ∃ journal, (runSequentialFrom agent context total done (task :: rest)).run w =
      .ok { error := some fault, sequential := true } { w₁ with journal } := by
  obtain ⟨houtcome, hworld⟩ := run_eq_error_iff.mp hfirst
  have htaxonomy := (executed_of_run_error hfirst).taxonomy fault rfl
  rw [runSequentialFrom, EStateM.run_bind, run_attempt, houtcome, hworld]
  dsimp only
  rw [if_pos htaxonomy]
  exact ⟨_, rfl⟩

end

/-- The loop carries out all tasks, or those before the first one that fails and that one. -/
theorem run_runSequentialFrom (agent : Ref Agent) (context : Option String) (total done : Nat)
    (tasks : List (Ref Task)) (w : World σ τ) :
    ∃ before results w₁, Succeed agent context w before results w₁ ∧
      ((before = tasks ∧ (runSequentialFrom agent context total done tasks).run w =
          .ok { results := results.map some, sequential := true } w₁) ∨
        ∃ task after fault w₂ journal, before ++ task :: after = tasks ∧
          (execute task agent context true).run w₁ = .error fault w₂ ∧
          (runSequentialFrom agent context total done tasks).run w =
            .ok { results := results.map some, error := some fault, sequential := true }
              { w₂ with journal }) := by
  induction tasks generalizing done w with
  | nil => exact ⟨[], [], w, .done w, .inl ⟨rfl, rfl⟩⟩
  | cons first rest ih =>
    cases hfirst : (execute first agent context true).run w with
    | ok result w₁ =>
      obtain ⟨before, results, w₂, hbefore, hend⟩ := ih (done + 1) w₁
      refine ⟨first :: before, result :: results, w₂, .next hfirst hbefore, ?_⟩
      rcases hend with ⟨rfl, hrest⟩ | ⟨task, after, fault, w₃, journal, rfl, hfault, hrest⟩
      · exact .inl ⟨rfl, run_runSequentialFrom_of_ok hfirst hrest⟩
      · exact .inr ⟨task, after, fault, w₃, journal, rfl, hfault,
          run_runSequentialFrom_of_ok hfirst hrest⟩
    | error fault w₁ =>
      -- The loop stops here: the tasks of `rest` are never looked at.
      obtain ⟨journal, hrun⟩ := run_runSequentialFrom_of_error hfirst
      exact ⟨[], [], w, .done w, .inr ⟨first, rest, fault, w₁, journal, rfl, hfirst, hrun⟩⟩

/-! ## What a batch leaves of its tasks -/

/-- The tasks after a batch that has stopped at a position. If that is the end of the list, then no
task has failed. -/
structure HaltedAt (tasks : List (Ref Task)) (stop : Nat) (w w' : World σ τ) : Prop where
  completed : ∀ position (h : position < tasks.length), position < stop →
    (w'.tasks.task tasks[position]).status = .completed
  failed : ∀ h : stop < tasks.length, (w'.tasks.task tasks[stop]).status = .failed
  untouched : ∀ position (h : position < tasks.length), stop < position →
    w'.tasks.task tasks[position] = w.tasks.task tasks[position]
  unrecorded : ∀ position (h : position < tasks.length), stop < position →
    Table.find? w'.tasks.index (w.tasks.task tasks[position]).id =
      Table.find? w.tasks.index (w.tasks.task tasks[position]).id

omit [Time τ] [Backend σ τ] in
/-- What is logged in the end does not matter to the tasks. -/
theorem HaltedAt.with_journal {tasks : List (Ref Task)} {stop : Nat} {w w' : World σ τ}
    (h : HaltedAt tasks stop w w') (journal : List Log.Record) :
    HaltedAt tasks stop w { w' with journal } :=
  ⟨h.completed, h.failed, h.untouched, h.unrecorded⟩

section

variable {w w₁ w₂ : World σ τ} {results : List TaskResult}

/-- If no task fails, then all are complete. -/
theorem haltedAt_end {tasks : List (Ref Task)} (h : Succeed agent context w tasks results w₁)
    (hlive : ∀ task ∈ tasks, w.tasks.live.Has task) (hnodup : tasks.Nodup) :
    HaltedAt tasks tasks.length w w₁ where
  completed _ hbound _ := h.completed hnodup hlive _ (List.getElem_mem hbound)
  failed hbound := absurd hbound (Nat.lt_irrefl _)
  untouched _ hbound hafter := absurd hafter (Nat.lt_asymm hbound)
  unrecorded _ hbound hafter := absurd hafter (Nat.lt_asymm hbound)

/-- If a task fails, then those before it are complete, and those after it are as they were. -/
theorem haltedAt_failure {before after : List (Ref Task)} {task : Ref Task} {fault : Fault}
    (hbefore : Succeed agent context w before results w₁)
    (hfault : (execute task agent context true).run w₁ = .error fault w₂)
    (hlive : ∀ other ∈ before ++ task :: after, w.tasks.live.Has other)
    (hids : ((before ++ task :: after).map fun other => (w.tasks.task other).id).Nodup) :
    HaltedAt (before ++ task :: after) before.length w w₂ := by
  have hturns := hbefore.inTurn_take hfault after
  have hnodup : (before ++ task :: after).Nodup := hids.of_map _
  have hlength := hbefore.length_results
  refine ⟨?_, ?_, ?_, ?_⟩
  · intro position h hlt
    have houtcome : (results.map Except.ok ++ [Except.error fault])[position]? =
        some (.ok results[position]) := by
      rw [List.getElem?_append_left (by rwa [List.length_map, hlength]), List.getElem?_map,
        List.getElem?_eq_getElem, Option.map_some]
    exact (hturns.settled_take hnodup hlive (List.getElem?_eq_getElem h) houtcome).1
  · intro h
    have houtcome : (results.map Except.ok ++ [Except.error fault])[before.length]? =
        some (.error fault) := by
      rw [← hlength, ← List.length_map (f := Except.ok), List.getElem?_concat_length]
    exact (hturns.settled_take hnodup hlive (List.getElem?_eq_getElem h) houtcome).1
  -- The tasks after it were not looked at.
  · exact fun position h hlt => hturns.task_of_le hnodup hlt (List.getElem?_eq_getElem h)
  · exact fun position h hlt => hturns.index_of_le hids hlt (List.getElem?_eq_getElem h)

end

/-! ## Batches -/

/-- **Sequential batches.** A sequential batch of tasks with different ids returns, whatever comes
of its tasks. It stops at the first task that fails, or at the end of the list. Its results are
those of the tasks before, in their order; its fault is that of the task that failed; and nothing
happens in the engine after that task has failed, but that it is logged. -/
theorem runBatch_sequential (tasks : List (Ref Task)) (agent : Ref Agent) (context : Option String)
    (w : World σ τ) (hlive : ∀ task ∈ tasks, w.tasks.live.Has task)
    (hids : (tasks.map fun task => (w.tasks.task task).id).Nodup) :
    ∃ stop results w₁ batch w',
      (runBatch tasks agent true context).run w = .ok batch w' ∧
      stop ≤ tasks.length ∧
      Succeed agent context w (tasks.take stop) results w₁ ∧
      batch.sequential = true ∧
      batch.results = results.map some ∧
      batch.results.length = stop ∧
      results.map (·.taskId) = (tasks.take stop).map (fun task => (w.tasks.task task).id) ∧
      ((stop = tasks.length ∧ batch.error = none ∧ w' = w₁) ∨
        ∃ (h : stop < tasks.length) (fault : Fault) (w₂ : World σ τ) (journal : List Log.Record),
          (execute tasks[stop] agent context true).run w₁ = .error fault w₂ ∧
          batch.error = some fault ∧ w' = { w₂ with journal }) ∧
      HaltedAt tasks stop w w' := by
  obtain ⟨before, results, w₁, hbefore, hend⟩ :=
    run_runSequentialFrom agent context tasks.length 0 tasks w
  rcases hend with ⟨rfl, hrun⟩ | ⟨task, after, fault, w₂, journal, rfl, hfault, hrun⟩
  -- All tasks have succeeded.
  · refine ⟨before.length, results, w₁, _, w₁, hrun, Nat.le_refl _, ?_, rfl, rfl, ?_, ?_, ?_, ?_⟩
    · rwa [List.take_length]
    · rw [List.length_map, hbefore.length_results]
    · rw [List.take_length, hbefore.map_taskId]
    · exact .inl ⟨rfl, rfl, rfl⟩
    · exact haltedAt_end hbefore hlive (hids.of_map _)
  -- A task has failed, and the batch stops with it.
  · have hbound : before.length < (before ++ task :: after).length := by simp
    refine ⟨before.length, results, w₁, _, _, hrun, Nat.le_of_lt hbound, ?_, rfl, rfl, ?_, ?_, ?_,
      ?_⟩
    · rwa [List.take_left]
    · rw [List.length_map, hbefore.length_results]
    · rw [List.take_left, hbefore.map_taskId]
    · have hstop : (before ++ task :: after)[before.length] = task := by simp
      refine .inr ⟨hbound, fault, w₂, journal, ?_, rfl, rfl⟩
      rwa [hstop]
    · exact (haltedAt_failure hbefore hfault hlive hids).with_journal journal

/-- Two tasks, the second of which the agent cannot carry out. -/
theorem runBatch_sequential_smallEngine :
    (∀ task ∈ [⟨0⟩, ⟨1⟩], smallEngine.tasks.live.Has task) ∧
      ([⟨0⟩, ⟨1⟩].map fun task => (smallEngine.tasks.task task).id).Nodup ∧
      ∃ stop results w₁ batch w',
        (runBatch [⟨0⟩, ⟨1⟩] ⟨0⟩ true none).run smallEngine = .ok batch w' ∧
        stop ≤ 2 ∧
        Succeed ⟨0⟩ none smallEngine ([⟨0⟩, ⟨1⟩].take stop) results w₁ ∧
        batch.results = results.map some ∧
        HaltedAt [⟨0⟩, ⟨1⟩] stop smallEngine w' := by
  have hlive : ∀ task ∈ [⟨0⟩, ⟨1⟩], smallEngine.tasks.live.Has task := by
    simp [Live.Has, smallEngine]
  have hids : ([⟨0⟩, ⟨1⟩].map fun task => (smallEngine.tasks.task task).id).Nodup := by decide
  obtain ⟨stop, results, w₁, batch, w', hrun, hstop, hsucceed, -, hresults, -, -, -, hhalted⟩ :=
    runBatch_sequential [⟨0⟩, ⟨1⟩] ⟨0⟩ none smallEngine hlive hids
  exact ⟨hlive, hids, stop, results, w₁, batch, w', hrun, hstop, hsucceed, hresults, hhalted⟩

end Orchestration.Engine
