import Orchestration.Proofs.Batch.Concurrent
import Orchestration.Proofs.Batch.Sequential
import Orchestration.Proofs.Cancellation.Gate
import Orchestration.Proofs.Workflow.Steps

/-!
# Cancelling batches and workflows

A sequential batch, a concurrent batch in whatever order its workers run, and a workflow each carry
their tasks out one after the other on behalf of one context, so what they carry out makes up a
series. What a driver reports are the outcomes of that series.

The main statement is `cancellation_gates`: a context that is cancelled or runs out of time in the
middle of any of them gates all the tasks that are still to be started.
-/

namespace Orchestration.Engine

variable {σ : Type} [Backend σ Rat] {name : String} {agent : Ref Agent} {w w' : World σ Rat}

/-! ## What the drivers carry out -/

/-- Tasks that succeed one after the other make up a series. -/
theorem Succeed.series (good : σ → Prop) {tasks : List (Ref Task)} {results : List TaskResult}
    (h : Succeed agent (some name) w tasks results w') :
    ∃ starts, Series good name w starts w' ∧ starts.map Start.task = tasks ∧
      starts.map (Start.outcome name) = results.map .ok := by
  induction h with
  | done w => exact ⟨[], .done w, rfl, rfl⟩
  | @next w w₁ w₂ task result rest results hfirst _ ih =>
    obtain ⟨starts, hseries, htasks, houtcomes⟩ := ih
    obtain ⟨houtcome, hworld⟩ := run_eq_ok_iff.mp hfirst
    let start : Start σ := ⟨w, task, agent, true⟩
    have hleft : start.left name = w₁ := hworld
    refine ⟨start :: starts, .execute start (hleft.symm ▸ hseries), ?_, ?_⟩
    · rw [List.map_cons, htasks]
    · rw [List.map_cons, List.map_cons, houtcomes]
      exact congrArg (· :: _) houtcome

/-- The workers of a concurrent batch make up a series: they have threads of their own, but share
the clock and the backend. -/
theorem WorkersRun.series (good : σ → Prop) {executions : List Execution}
    (h : WorkersRun agent (some name) w executions w') :
    ∃ starts, Series good name w starts w' ∧
      starts.map Start.task = executions.map Execution.task ∧
      starts.map (Start.outcome name) = executions.map Execution.outcome := by
  induction h with
  | done w => exact ⟨[], .done w, rfl, rfl⟩
  | @next w w₁ w₂ execution rest hworker _ ih =>
    obtain ⟨starts, hseries, htasks, houtcomes⟩ := ih
    let thread := workerName execution.position
    let start : Start σ := ⟨{ w with scope := {}, thread }, execution.task, agent, true⟩
    rw [run_inThread, run_attempt] at hworker
    obtain ⟨houtcome, hworld⟩ : start.outcome name = execution.outcome ∧
        { start.left name with scope := w.scope, thread := w.thread } = w₁ :=
      EStateM.Result.ok.inj hworker
    -- Entering the thread and leaving it takes no time.
    have henter : GoesOn good w start.world := goesOn_of_eq rfl rfl
    have hleave : GoesOn good (start.left name) w₁ := by
      rw [← hworld]
      exact goesOn_of_eq rfl rfl
    refine ⟨start :: starts, .elsewhere henter (.execute start (.elsewhere hleave hseries)), ?_, ?_⟩
    · rw [List.map_cons, List.map_cons, htasks]
    · rw [List.map_cons, List.map_cons, houtcomes, houtcome]

/-- The steps of a workflow make up a series: making the task for a step takes no time. -/
theorem Carried.series (good : σ → Prop) {agentId : String} {runs : List StepRun}
    (h : Carried agentId agent (some name) w runs w') :
    ∃ starts, Series good name w starts w' ∧
      starts.map (Start.outcome name) = runs.map StepRun.outcome := by
  induction h with
  | start => exact ⟨[], .done w, rfl⟩
  | @next earlier w₁ step input _ _ ih =>
    obtain ⟨starts, hseries, houtcomes⟩ := ih
    let start : Start σ :=
      ⟨withStepTask w₁ agentId agent step input, w₁.tasks.live.next, agent, true⟩
    -- Making the task of a step leaves the outside alone.
    have hmake : GoesOn good w₁ start.world := goesOn_of_eq rfl rfl
    have hrun := run_runStep agentId agent (some name) step input w₁
    have hworld : start.left name =
        worldAfter (runStep agentId agent (some name) step input) w₁ := by
      rw [worldAfter, hrun]
      rfl
    have houtcome : start.outcome name =
        outcomeOf (runStep agentId agent (some name) step input) w₁ := by
      rw [outcomeOf, hrun]
      rfl
    rw [← hworld]
    refine ⟨starts ++ [start], hseries.append (.elsewhere hmake (.execute start (.done _))), ?_⟩
    rw [List.map_append, List.map_append, houtcomes, ← houtcome]
    rfl

/-! ## Drivers on behalf of a context -/

/-- A sequential batch has started these tasks in their order: those before the first one that
failed, whose results it has, and that one, whose fault it has. -/
structure StartedInTurn (name : String) (tasks : List (Ref Task)) (starts : List (Start σ))
    (batch : BatchResult) : Prop where
  started : starts.map Start.task <+: tasks
  all : batch.error = none → starts.map Start.task = tasks
  outcomes : starts.map (Start.outcome name) =
    batch.completed.map .ok ++ batch.error.toList.map .error

theorem series_runBatch_sequential (good : σ → Prop) (name : String) (tasks : List (Ref Task))
    (agent : Ref Agent) (w : World σ Rat) :
    ∃ starts batch w' journal,
      (runBatch tasks agent true (some name)).run w = .ok batch { w' with journal } ∧
      Series good name w starts w' ∧ StartedInTurn name tasks starts batch := by
  obtain ⟨before, results, w₁, hbefore, hend⟩ :=
    run_runSequentialFrom agent (some name) tasks.length 0 tasks w
  obtain ⟨starts, hseries, htasks, houtcomes⟩ := hbefore.series good
  have hresults : ∀ error, (BatchResult.mk (results.map some) error true).completed = results := by
    intro error
    simp [BatchResult.completed, List.filterMap_map]
  rcases hend with ⟨rfl, hrun⟩ | ⟨task, after, fault, w₂, journal, rfl, hfault, hrun⟩
  · refine ⟨starts, _, w₁, w₁.journal, hrun, hseries, htasks ▸ List.prefix_refl _, fun _ => htasks,
      ?_⟩
    rw [hresults, houtcomes]
    exact (List.append_nil _).symm
  · -- The task that has failed was started, too, and it is the last one.
    obtain ⟨houtcome, hworld⟩ := run_eq_error_iff.mp hfault
    let last : Start σ := ⟨w₁, task, agent, true⟩
    have hleft : last.left name = w₂ := hworld
    have hlast : Series good name w (starts ++ [last]) w₂ :=
      hseries.append (.execute last (hleft ▸ .done _))
    refine ⟨starts ++ [last], _, w₂, journal, hrun, hlast, ?_, nofun, ?_⟩
    · rw [List.map_append, htasks]
      exact ⟨after, List.append_assoc _ _ _⟩
    · rw [List.map_append, houtcomes, hresults]
      exact congrArg (_ ++ [·]) houtcome

/-- **Cancellation gates all later work.** Let the backend be steady, and let tasks be carried out
on behalf of a context.

* The ways to look at the context always agree.
* Once it is stopped, be it in the middle of an execution, it stays so, and every task of the series
  that is started from then on is gated; a deadline that has passed stays passed.
* The tasks that a batch or a workflow carries out on behalf of the context make up such a series:
  a sequential batch, which stops at the first task that fails; a concurrent batch, in whatever
  order its workers run; and a workflow. -/
theorem cancellation_gates {good : σ → Prop} (hsteady : Steady good) (name : String)
    {w : World σ Rat} (hgood : good w.backend) :
    (∀ s : Surroundings Rat, (s.context (some name)).Agreeing s.clock.reading) ∧
      (∀ starts w', Series good name w starts w' → GatesLater name w starts w') ∧
      (∀ tasks agent, ∃ starts batch w' journal,
        (runBatch tasks agent true (some name)).run w = .ok batch { w' with journal } ∧
        Series good name w starts w' ∧ StartedInTurn name tasks starts batch) ∧
      (∀ tasks order agent, order.Perm (workersOf tasks) →
        ∃ starts executions batch w' journal,
          (runConcurrentIn order agent (some name)).run w = .ok batch { w' with journal } ∧
          Series good name w starts w' ∧
          ConcurrentlyDone tasks w executions batch ∧
          executions.map Execution.worker = order ∧
          starts.map Start.task = executions.map Execution.task ∧
          starts.map (Start.outcome name) = executions.map Execution.outcome) ∧
      ∀ agentId agent steps, w.agents.find? agentId = some agent →
        ∃ starts runs result w' journal,
          (runWorkflow agentId steps (some name)).run w = .ok result { w' with journal } ∧
          Series good name w starts w' ∧
          Stops 1 steps runs result ∧
          starts.map (Start.outcome name) = runs.map StepRun.outcome := by
  refine ⟨fun s => CallContext.agreeing _ _, fun starts w' h => h.gatesLater hsteady hgood,
    fun tasks agent => series_runBatch_sequential good name tasks agent w,
    fun tasks order agent horder => ?_, fun agentId agent steps hknown => ?_⟩
  -- The workers make a series in whichever order they come,
  · obtain ⟨executions, w', journal, rfl, hruns, hrun⟩ :=
      run_runConcurrentIn agent (some name) order w
    obtain ⟨starts, hseries, htasks, houtcomes⟩ := hruns.series good
    exact ⟨starts, executions, _, w', journal, hrun, hseries, concurrentlyDone_noted horder hruns,
      rfl, htasks, houtcomes⟩
  -- and so do the steps of a workflow.
  · obtain ⟨runs, result, w', journal, hrun, hcarried, hstops⟩ :=
      run_runWorkflow hknown steps (some name)
    obtain ⟨starts, hseries, houtcomes⟩ := hcarried.series good
    exact ⟨starts, runs, result, w', journal, hrun, hseries, hstops, houtcomes⟩

/-- An engine whose backend spends two seconds on each reply, after the reply was given, with two
tasks and a call that has one second left. -/
def slowEngine : World (Scripted.Script Rat) Rat :=
  { smallEngine with
    surroundings := { clock := ⟨0, 0⟩, contexts := [("call", { deadline := some 1 })] }
    backend := {
      default := .staged { stream := [.chunk (.ok { content := "reply" }), .effect (.pass 2)] } }
    agents := { smallEngine.agents with
      live := ⟨[{ id := "helper", name := "Helper", models := ["model"] }]⟩ }
    tasks := { live := ⟨[{ id := "first", label := "generate", createdAt := .utc 0 },
      { id := "second", label := "generate", createdAt := .utc 0 }]⟩ } }

/-- The first task has a reply, but the deadline has passed when it is complete, and so the second
one is gated. -/
theorem cancellation_gates_slowEngine :
    Steady (· = slowEngine.backend) ∧
      let first : Start (Scripted.Script Rat) := ⟨slowEngine, ⟨0⟩, ⟨0⟩, true⟩
      let second : Start (Scripted.Script Rat) := ⟨first.left "call", ⟨1⟩, ⟨0⟩, true⟩
      (∃ result, first.outcome "call" = .ok result) ∧
        Stopping "call" [second] (second.left "call") := by
  have hsteady : Steady (· = slowEngine.backend) := by
    refine Scripted.steady_script fun model prompt =>
      ⟨fun _ hopening => ?_, fun effect hstream => ?_⟩
    · cases hopening
    · have hpass : effect = .pass 2 := by
        rcases List.mem_cons.mp hstream with hchunk | hlast
        · cases hchunk
        · cases List.mem_singleton.mp hlast
          rfl
      rw [hpass]
      show (0 : Rat) ≤ 2
      norm_num
  refine ⟨hsteady, ?_⟩
  intro first second
  have hseries : Series (· = slowEngine.backend) "call" slowEngine [first, second]
      (second.left "call") := .execute first (.execute second (.done _))
  have hstopped : (first.left "call").surroundings.Stopped "call" := by
    have hcontext : (first.left "call").surroundings.context (some "call") =
        { deadline := some 1 } := rfl
    have hreading : (first.left "call").surroundings.clock.reading = 0 + 2 := rfl
    rw [Surroundings.Stopped, hcontext, hreading]
    norm_num [CallContext.stopped, CallContext.expired, Time.upTo]
  obtain ⟨-, hgates, -⟩ := cancellation_gates hsteady "call" (w := slowEngine) rfl
  exact ⟨⟨_, rfl⟩, (hgates _ _ hseries).afterTask first [second] (List.suffix_refl _) hstopped⟩

end Orchestration.Engine
