import Orchestration.Proofs.Batch.Concurrent
import Orchestration.Proofs.Batch.Sequential
import Orchestration.Proofs.Journal

/-!
# Sequential and concurrent batches agree

When the workers of a concurrent batch run in the order of its tasks, each to its end, they do what
a sequential batch does, up to the first task that fails: then the sequential batch stops, and the
workers go on. A worker has a thread and a scope of its own, but no task notices that
(`blind_execute`), so the two runs go through alike worlds (`Succeed.followed`).

The main statement is `batches_agree`.
-/

namespace Orchestration.Engine

variable {σ τ : Type} [Time τ] [Backend σ τ] {agent : Ref Agent} {context : Option String}

/-! ## Two runs at once -/

/-- A worker comes to what the execution of its task comes to in an alike world. -/
theorem worker_of_alike {w v v' : World σ τ} (halike : Alike w v) {name : String} {task : Ref Task}
    {outcome : Except Fault TaskResult}
    (hworker : (inThread name (attempt (execute task agent context true))).run v =
      .ok outcome v') :
    outcomeOf (execute task agent context true) w = outcome ∧
      Alike (worldAfter (execute task agent context true) w) v' := by
  have henter : Alike w { v with scope := {}, thread := name } :=
    IsTrans.trans _ _ _ halike (alike_with v _ _ _)
  obtain ⟨houtcome, hworld⟩ := blind_execute task agent context true w _ henter
  rw [run_inThread, run_attempt] at hworker
  obtain ⟨hsame, rfl⟩ := EStateM.Result.ok.inj hworker
  -- The worker leaves its thread, which nobody notices either.
  exact ⟨houtcome.symm.trans hsame, IsTrans.trans _ _ _ hworld (alike_with _ _ _ _)⟩

/-- Workers that start in an alike world follow the tasks that succeed, with the same results, and
are in an alike world when those are done. -/
theorem Succeed.followed {w w₁ v v' : World σ τ} {before after : List (Ref Task)}
    {results : List TaskResult} {executions : List Execution}
    (h : Succeed agent context w before results w₁) (halike : Alike w v)
    (hruns : WorkersRun agent context v executions v')
    (htasks : executions.map Execution.task = before ++ after) :
    ∃ first rest v₁, executions = first ++ rest ∧
      first.map Execution.outcome = results.map .ok ∧ rest.map Execution.task = after ∧
      Alike w₁ v₁ ∧ WorkersRun agent context v₁ rest v' := by
  -- By induction on the tasks that succeed: each worker starts in a world like that of its task.
  induction h generalizing v executions with
  | done w => exact ⟨[], executions, v, rfl, rfl, htasks, halike, hruns⟩
  | @next w w₁ w₂ task result rest results hfirst _ ih =>
    cases hruns with
    | done => cases htasks
    | @next v v₁ _ execution later hworker hlater =>
      obtain ⟨htask, htasks⟩ := List.cons.inj htasks
      rw [htask] at hworker
      obtain ⟨houtcome, hworld⟩ := run_eq_ok_iff.mp hfirst
      obtain ⟨hsame, halike'⟩ := worker_of_alike halike hworker
      rw [hworld] at halike'
      obtain ⟨first, rest, v₂, rfl, houtcomes, hrest, hend, hruns⟩ := ih halike' hlater htasks
      refine ⟨execution :: first, rest, v₂, rfl, ?_, hrest, hend, hruns⟩
      rw [List.map_cons, List.map_cons, houtcomes, ← hsame, houtcome]

/-! ## What is noted of the two runs -/

section Noted

variable {first rest : List Execution} {results : List TaskResult}

omit [Time τ] [Backend σ τ] in
/-- Executions that have succeeded have no fault. -/
theorem findSome?_fault?_eq_none (houtcomes : first.map Execution.outcome = results.map .ok) :
    first.findSome? Execution.fault? = none := by
  rw [List.findSome?_eq_none_iff]
  intro execution hmem
  have houtcome := List.mem_map_of_mem (f := Execution.outcome) hmem
  rw [houtcomes] at houtcome
  obtain ⟨result, -, hresult⟩ := List.mem_map.mp houtcome
  rw [Execution.fault?, ← hresult]

/-- If the workers have the positions in their order, then the first places of the batch have the
results of the first executions. -/
theorem take_results_noted (houtcomes : first.map Execution.outcome = results.map .ok)
    (hpositions : (first ++ rest).map Execution.position = List.range (first ++ rest).length) :
    ((first ++ rest).foldl noted { results := (first ++ rest).map fun _ => none }).results.take
      results.length = results.map some := by
  -- The worker at a position of the list has that position, so its place is known.
  set executions := first ++ rest with hexecutions
  set empty : BatchResult := { results := executions.map fun _ => none }
  have hlength : first.length = results.length := by simpa using congrArg List.length houtcomes
  have hposition : ∀ i (hi : i < executions.length), executions[i].position = i := by
    intro i hi
    have h := congrArg (·[i]?) hpositions
    simpa [hi] using h
  have hempty : ∀ execution ∈ executions, empty.results[execution.position]? = some none := by
    intro execution hmem
    obtain ⟨i, hi, rfl⟩ := List.mem_iff_getElem.mp hmem
    simp [empty, hposition i hi, hi]
  have hplace := results_noted executions empty (hpositions ▸ List.nodup_range) hempty
  apply List.ext_getElem?
  intro i
  by_cases hi : i < results.length
  · have hfirst : i < first.length := hlength ▸ hi
    have hbound : i < executions.length := by
      simp [hexecutions]
      omega
    have houtcome : first[i].outcome = .ok results[i] := by
      have h := congrArg (·[i]?) houtcomes
      simpa [hfirst, hi] using h
    have hresult : executions[i].result? = some results[i] := by
      have hsame : executions[i] = first[i] := List.getElem_append_left hfirst
      rw [hsame, Execution.result?, houtcome]
      rfl
    have hnoted := hplace executions[i] (List.getElem_mem hbound)
    rw [hposition i hbound, hresult] at hnoted
    rw [List.getElem?_take_of_lt hi, hnoted]
    simp [hi]
  · -- Behind the results, both lists have come to their end.
    have hend : results.length ≤ i := Nat.le_of_not_lt hi
    have hmap : (results.map some).length ≤ i := by simpa using hend
    rw [List.getElem?_eq_none hmap]
    apply List.getElem?_eq_none
    exact Nat.le_trans (List.length_take_le _ _) hend

end Noted

/-- **The two ways of carrying out a batch agree** up to the first failure. Carry out the same tasks
with the same agent from the same world, once one after the other, and once with a worker each,
where the workers run in the order of the tasks. Both runs return. The first places of the
concurrent batch are those of the sequential one, and the two have the same fault or none. If they
have none, then the two runs have left alike worlds, with the same agents and the same tasks. -/
theorem batches_agree (tasks : List (Ref Task)) (agent : Ref Agent) (context : Option String)
    (w : World σ τ) :
    ∃ sequential w₁ concurrent w₂,
      (runBatch tasks agent true context).run w = .ok sequential w₁ ∧
      (runBatch tasks agent false context).run w = .ok concurrent w₂ ∧
      concurrent.results.take sequential.results.length = sequential.results ∧
      concurrent.error = sequential.error ∧
      (sequential.error = none →
        w₂.agents = w₁.agents ∧ w₂.tasks = w₁.tasks ∧ Alike w₁ w₂) := by
  obtain ⟨before, results, w₁, hbefore, hend⟩ :=
    run_runSequentialFrom agent context tasks.length 0 tasks w
  obtain ⟨executions, w₂, journal, hworkers, hruns, hconcurrent⟩ :=
    run_runConcurrentIn agent context (workersOf tasks) w
  -- The workers have the tasks in their order, with their positions.
  have htasks : executions.map Execution.task = tasks := by
    have h := congrArg (List.map Prod.snd) hworkers
    rw [List.map_map, map_snd_workersOf] at h
    exact h
  have hpositions : executions.map Execution.position = List.range executions.length := by
    have h := congrArg (List.map Prod.fst) hworkers
    rw [List.map_map, map_fst_workersOf, ← htasks, List.length_map] at h
    exact h
  have herror := error_noted executions hruns.inTaxonomy { results := executions.map fun _ => none }
  rcases hend with ⟨rfl, hsequential⟩ | ⟨task, after, fault, w₃, journal', rfl, hfault, hsequential⟩
  · -- No task has failed, so no worker is left when those of the results are done.
    rw [← List.append_nil before] at htasks
    obtain ⟨first, rest, v₁, rfl, houtcomes, hrest, halike, hlast⟩ :=
      hbefore.followed (Std.Refl.refl w) hruns htasks
    obtain rfl := List.map_eq_nil_iff.mp hrest
    cases hlast
    refine ⟨_, _, _, _, hsequential, hconcurrent, ?_, ?_, fun _ => ?_⟩
    · rw [List.length_map]
      exact take_results_noted houtcomes hpositions
    · rw [herror, List.append_nil, findSome?_fault?_eq_none houtcomes]
      rfl
    · obtain ⟨scope, thread, _, rfl⟩ := halike
      exact ⟨rfl, rfl, alike_with _ _ _ _⟩
  · -- The next worker carries out the task that has failed.
    obtain ⟨first, rest, v₁, rfl, houtcomes, hrest, halike, hlast⟩ :=
      hbefore.followed (Std.Refl.refl w) hruns htasks
    refine ⟨_, _, _, _, hsequential, hconcurrent, ?_, ?_, nofun⟩
    · rw [List.length_map]
      exact take_results_noted houtcomes hpositions
    · rw [herror, List.findSome?_append, findSome?_fault?_eq_none houtcomes]
      cases hlast with
      | done => cases hrest
      | next hworker _ =>
        obtain ⟨rfl, -⟩ := List.cons.inj hrest
        obtain ⟨hsame, -⟩ := worker_of_alike halike hworker
        rw [(run_eq_error_iff.mp hfault).1] at hsame
        rw [List.findSome?_cons, Execution.fault?, ← hsame]
        rfl

end Orchestration.Engine
