import Mathlib.Data.List.Nodup
import Orchestration.Proofs.Batch.Concurrent
import Orchestration.Proofs.Impartial
import Orchestration.Proofs.Interaction

/-!
# The order of the workers

The workers of a concurrent batch share the agent, the store of tasks, the backend and the
capabilities. If the backend and the capabilities are impartial, and no task asks the agent to look
back, then each task comes to the same in whatever world its worker finds (`WorkersRun.among`), and
so the executions of two orders are the same, but for the time that they take and for their order
(`Matching.perm`). What the batch leaves can be read off them.

The main statement is `runConcurrentIn_order_independent`.
-/

namespace Orchestration

/-- The task without the time at which it was completed. -/
def Task.undated (task : Task) : Task :=
  { task with completedAt := none }

namespace Engine

variable {σ τ : Type}

/-! ## Executions without their times -/

namespace Execution

/-- The execution without the time that it took. -/
def untimed (execution : Execution) : Execution :=
  { execution with outcome := Engine.untimed execution.outcome }

/-- The interaction that the agent remembers of an execution that nobody has stopped, if it
remembers one. -/
def interaction? (w : World σ τ) (execution : Execution) : Option Interaction :=
  let task := w.tasks.task execution.task
  match execution.outcome with
  | .ok result => interactionOf w.registry task result.output
  | .error _ => unwritten (usageOf w task)

/-- Faults tell nothing of the time. -/
@[simp]
theorem fault?_untimed (execution : Execution) : execution.untimed.fault? = execution.fault? := by
  obtain ⟨position, task, outcome⟩ := execution
  cases outcome <;> rfl

/-- Agents remember nothing of the time that a task takes. -/
@[simp]
theorem interaction?_untimed (w : World σ τ) (execution : Execution) :
    execution.untimed.interaction? w = execution.interaction? w := by
  obtain ⟨position, task, outcome⟩ := execution
  cases outcome <;> rfl

end Execution

/-- A task ends in the same way if its outcomes differ at most in their times. -/
theorem undated_ended {outcome outcome' : Except Fault TaskResult}
    (h : untimed outcome' = untimed outcome) (time time' : Moment) (task : Task) :
    (ended time' outcome' task).undated = (ended time outcome task).undated := by
  cases outcome with
  | error fault =>
    cases outcome' with
    | error fault' => cases h; rfl
    | ok result' => cases h
  | ok result =>
    cases outcome' with
    | error fault' => cases h
    | ok result' =>
      have houtput : result'.untimed.output = result.untimed.output :=
        congrArg TaskResult.output (Except.ok.inj h)
      simp only [TaskResult.untimed] at houtput
      simp only [ended, Task.afterCompletion, Task.undated, houtput]

/-! ## What the workers leave -/

/-- The agents when one of them has had some interactions in this order, whenever that was. -/
inductive Recalled (ref : Ref Agent) : AgentStore → List Interaction → AgentStore → Prop
  | nothing (agents : AgentStore) : Recalled ref agents [] agents
  | next {agents agents' : AgentStore} {interaction : Interaction} {rest : List Interaction}
      (now : Moment)
      (later : Recalled ref (agents.record ref now interaction.key interaction.value) rest
        agents') :
      Recalled ref agents (interaction :: rest) agents'

variable [Time τ] [Backend σ τ]

/-- The context is open before the first worker runs, and after each of them. -/
def OpenDuring (agent : Ref Agent) (context : Option String) :
    World σ τ → List (Nat × Ref Task) → Prop
  | w, [] => w.surroundings.Open context
  | w, worker :: rest => w.surroundings.Open context ∧
    OpenDuring agent context (worldAfter (inThread (workerName worker.1)
      (attempt (execute worker.2 agent context true))) w) rest

/-- A batch without a context is never stopped. -/
theorem openDuring_none (agent : Ref Agent) (w : World σ τ) (order : List (Nat × Ref Task)) :
    OpenDuring agent none w order := by
  induction order generalizing w with
  | nil => exact w.surroundings.open_none
  | cons worker rest ih => exact ⟨w.surroundings.open_none, ih _⟩

/-- What comes before the workers run is open as well. -/
theorem OpenDuring.open {agent : Ref Agent} {context : Option String} {w : World σ τ}
    {order : List (Nat × Ref Task)} (h : OpenDuring agent context w order) :
    w.surroundings.Open context := by
  cases order with
  | nil => exact h
  | cons worker rest => exact h.1

/-- The task of the execution was carried out among peers, as the task that it is in the world `w`,
and nobody stopped it. -/
structure Among (good : σ → Prop) (agent : Ref Agent) (context : Option String) (w : World σ τ)
    (execution : Execution) (v : World σ τ) : Prop where
  peers : Peers good agent w v
  task : v.tasks.task execution.task = w.tasks.task execution.task
  live : v.tasks.live.Has execution.task
  before : v.surroundings.Open context
  after : (worldAfter (execute execution.task agent context true) v).surroundings.Open context
  outcome : execution.outcome = outcomeOf (execute execution.task agent context true) v

section Runs

variable {good : σ → Prop} {agent : Ref Agent} {context : Option String} {w w' : World σ τ}
  {executions : List Execution}

/-- A worker runs its task in a thread of its own, which the task does not notice. -/
theorem worldAfter_of_worker {execution : Execution}
    (h : (inThread (workerName execution.position)
      (attempt (execute execution.task agent context true))).run w = .ok execution.outcome w') :
    let inside := { w with scope := {}, thread := workerName execution.position }
    execution.outcome = outcomeOf (execute execution.task agent context true) inside ∧
      w' = { worldAfter (execute execution.task agent context true) inside with
        scope := w.scope, thread := w.thread } := by
  intro inside
  rw [run_inThread, run_attempt] at h
  obtain ⟨houtcome, hworld⟩ := EStateM.Result.ok.inj h
  exact ⟨houtcome.symm, hworld.symm⟩

/-- A worker leaves a peer of the world that it has found. -/
theorem peers_worker (himpartial : Impartial τ good) {execution : Execution}
    (h : (inThread (workerName execution.position)
      (attempt (execute execution.task agent context true))).run w = .ok execution.outcome w') :
    Peers good agent w w' := by
  obtain ⟨-, rfl⟩ := worldAfter_of_worker h
  let inside := { w with scope := {}, thread := workerName execution.position }
  have hexecute : Peers good agent inside
      (worldAfter (execute execution.task agent context true) inside) :=
    peers_execute himpartial _ _ _ _ inside
  exact ⟨hexecute.registry, hexecute.agent, hexecute.backend⟩

/-- Each worker carries its task out among peers of the world in which the first one has started. -/
theorem WorkersRun.among (himpartial : Impartial τ good)
    (h : WorkersRun agent context w executions w')
    (hopen : OpenDuring agent context w (executions.map Execution.worker))
    (hnodup : (executions.map Execution.task).Nodup)
    (hlive : ∀ execution ∈ executions, w.tasks.live.Has execution.task) :
    ∀ execution ∈ executions, ∃ v, Among good agent context w execution v := by
  induction h with
  | done w => exact fun _ hmem => nomatch hmem
  | @next w w₁ w₂ first rest hworker hrest ih =>
    obtain ⟨hbefore, hlater⟩ := hopen
    have hafter : worldAfter (inThread (workerName first.position)
        (attempt (execute first.task agent context true))) w = w₁ := (run_eq_ok_iff.mp hworker).2
    simp only [Execution.worker] at hlater
    rw [hafter] at hlater
    obtain ⟨houtcome, hworld⟩ := worldAfter_of_worker hworker
    simp only [List.map_cons, List.nodup_cons] at hnodup
    intro execution hmem
    rcases List.mem_cons.mp hmem with rfl | hmem
    · have hopen₁ := hlater.open
      rw [hworld] at hopen₁
      exact ⟨{ w with scope := {}, thread := workerName execution.position }, ⟨rfl, rfl, id⟩, rfl,
        hlive execution List.mem_cons_self, hbefore, hopen₁, houtcome⟩
    · -- The first worker had another task.
      have hexecuted := executed_of_worker hworker
      have hne : execution.task ≠ first.task := fun heq =>
        hnodup.1 (heq ▸ List.mem_map_of_mem hmem)
      obtain ⟨v, hamong⟩ := ih hlater hnodup.2
        (fun other hother => hexecuted.has (hlive other (List.mem_cons_of_mem _ hother)))
        execution hmem
      exact ⟨v, IsTrans.trans _ _ _ (peers_worker himpartial hworker) hamong.peers,
        hamong.task.trans (hexecuted.task_of_ne hne), hamong.live, hamong.before, hamong.after,
        hamong.outcome⟩

/-- Two executions of the same task among peers of the same world come to the same. -/
theorem Among.untimed_eq (himpartial : Impartial τ good) (hgood : good w.backend)
    (hregistry : w.registry.Impartial) {first second : Execution} {v v' : World σ τ}
    (hfirst : Among good agent context w first v) (hsecond : Among good agent context w second v')
    (hworker : first.worker = second.worker)
    (hkind : (w.tasks.task first.task).kind ≠ .reflect) : first.untimed = second.untimed := by
  obtain ⟨position, task, outcome⟩ := first
  obtain ⟨position', task', outcome'⟩ := second
  obtain ⟨rfl, rfl⟩ := Prod.mk.inj hworker
  have hpeers : Peers good agent v v' :=
    ⟨hsecond.peers.registry.trans hfirst.peers.registry.symm,
      hsecond.peers.agent.trans hfirst.peers.agent.symm, fun _ => hsecond.peers.backend hgood⟩
  have hkind' : (v.tasks.task task).kind ≠ .reflect := hfirst.task ▸ hkind
  have hsame := untimed_execute_of_peers himpartial (hfirst.peers.registry ▸ hregistry) hpeers
    (hfirst.peers.backend hgood) (hsecond.task.trans hfirst.task.symm) hfirst.live hsecond.live
    hkind' hfirst.before hfirst.after hsecond.before hsecond.after
  have houtcome : untimed outcome' = untimed outcome := by
    rw [show outcome = _ from hfirst.outcome, show outcome' = _ from hsecond.outcome]
    exact hsame
  simp only [Execution.untimed, houtcome]

/-! ## What the workers leave of the tasks and of the agent -/

/-- Each worker leaves of its task what its execution has made of it. -/
theorem WorkersRun.task_of_mem (h : WorkersRun agent context w executions w')
    (hnodup : (executions.map Execution.task).Nodup)
    (hlive : ∀ execution ∈ executions, w.tasks.live.Has execution.task) :
    ∀ execution ∈ executions, ∃ time, w'.tasks.task execution.task =
      ended time execution.outcome ((w.tasks.task execution.task).assignedTo
        (w.agents.agent agent).id).afterStart := by
  intro execution hmem
  obtain ⟨position, hposition⟩ := List.mem_iff_getElem?.mp hmem
  have hat : ∀ {α : Type} (f : Execution → α),
      (executions.map f)[position]? = some (f execution) := by
    intro α f
    rw [List.getElem?_map, hposition, Option.map_some]
  exact h.inTurn.task_of_getElem? hnodup (List.forall_mem_map.mpr hlive) (hat Execution.task)
    (hat Execution.outcome)

omit [Time τ] [Backend σ τ] in
/-- A task that uses an impartial capability is given the same output everywhere. -/
theorem usageOf_of_impartial (himpartial : w.registry.Impartial)
    (hregistry : w'.registry = w.registry) (task : Task) : usageOf w' task = usageOf w task := by
  let occasion : Occasion := ⟨w.surroundings.clock.now, w.history⟩
  unfold usageOf
  rw [hregistry]
  cases task.kind with
  | tool =>
    refine Option.bind_congr fun call _ => Option.bind_congr fun tool hfound => ?_
    rw [himpartial.tool hfound occasion]
  | plugin =>
    refine Option.bind_congr fun plugin hfound => ?_
    rw [himpartial.plugin hfound occasion]
  | _ => rfl

omit [Time τ] [Backend σ τ] in
/-- An agent remembers the same of tasks that ask for the same work. -/
theorem Execution.interaction?_of_sameWork {execution : Execution}
    (himpartial : w.registry.Impartial) (hregistry : w'.registry = w.registry)
    (hsame : SameWork (w.tasks.task execution.task) (w'.tasks.task execution.task)) :
    execution.interaction? w' = execution.interaction? w := by
  simp only [Execution.interaction?, usageOf_of_impartial himpartial hregistry,
    usageOf_of_sameWork hsame, interactionOf_of_sameWork hsame, hregistry]

/-- A worker that nobody stops leaves the interaction of its execution in the memory of the agent,
and nothing else. -/
theorem agents_of_worker {execution : Execution} (hopen : w.surroundings.Open context)
    (h : (inThread (workerName execution.position)
      (attempt (execute execution.task agent context true))).run w = .ok execution.outcome w') :
    w'.agents =
      remembering w.agents agent w.surroundings.clock.now (execution.interaction? w) := by
  obtain ⟨houtcome, rfl⟩ := worldAfter_of_worker h
  have hleaves := agents_execute execution.task agent context true
    { w with scope := {}, thread := workerName execution.position }
  have hleft : leftBehind { w with scope := {}, thread := workerName execution.position } context
      (w.tasks.task execution.task) = unwritten (usageOf w (w.tasks.task execution.task)) := by
    simp only [leftBehind, hopen.check]
    rfl
  unfold Leaves at hleaves
  rw [← houtcome, hleft] at hleaves
  obtain ⟨position, task, outcome⟩ := execution
  cases hleaves with
  | failed hagents => exact hagents
  | returned _ hagents => exact hagents

/-- If nobody stops the workers, then the agent remembers the interactions of the executions, in the
order in which they ran. -/
theorem WorkersRun.recalled (h : WorkersRun agent context w executions w')
    (himpartial : w.registry.Impartial)
    (hopen : OpenDuring agent context w (executions.map Execution.worker)) :
    Recalled agent w.agents (executions.filterMap (Execution.interaction? w)) w'.agents := by
  induction h with
  | done w => exact .nothing _
  | @next w w₁ w₂ first rest hworker hrest ih =>
    have hexecuted := executed_of_worker hworker
    obtain ⟨hbefore, hlater⟩ := hopen
    have hafter : worldAfter (inThread (workerName first.position)
        (attempt (execute first.task agent context true))) w = w₁ := (run_eq_ok_iff.mp hworker).2
    simp only [Execution.worker] at hlater
    rw [hafter] at hlater
    -- What the later workers remember does not depend on the first one having run.
    have hrest' : rest.filterMap (Execution.interaction? w₁) =
        rest.filterMap (Execution.interaction? w) :=
      List.filterMap_congr fun execution _ =>
        Execution.interaction?_of_sameWork himpartial hexecuted.books.registry
          (hexecuted.sameWork _)
    specialize ih (hexecuted.books.registry ▸ himpartial) hlater
    rw [hrest', agents_of_worker hbefore hworker] at ih
    rw [List.filterMap_cons]
    cases hfirst : first.interaction? w with
    | none =>
      rw [hfirst] at ih
      exact ih
    | some interaction =>
      rw [hfirst] at ih
      exact .next _ ih

end Runs

/-! ## Two orders -/

section Workers

variable {tasks : List (Ref Task)} {executions : List Execution}

/-- In whatever order the workers run, they have the tasks of the batch. -/
theorem perm_tasks (hworkers : (executions.map Execution.worker).Perm (workersOf tasks)) :
    (executions.map Execution.task).Perm tasks := by
  have hperm := hworkers.map Prod.snd
  rw [map_snd_workersOf, List.map_map] at hperm
  exact hperm

/-- Each task of the batch has an execution in both orders. -/
theorem exists_executions {first second : List Execution}
    (hfirst : (first.map Execution.worker).Perm (workersOf tasks))
    (hsecond : (second.map Execution.worker).Perm (workersOf tasks)) {position : Nat}
    {task : Ref Task} (h : tasks[position]? = some task) :
    ∃ execution ∈ first, ∃ other ∈ second,
      execution.worker = (position, task) ∧ other.worker = (position, task) := by
  have hworker := mem_workersOf.mpr h
  obtain ⟨execution, hexecution, heq⟩ := List.mem_map.mp (hfirst.mem_iff.mpr hworker)
  obtain ⟨other, hother, heq'⟩ := List.mem_map.mp (hsecond.mem_iff.mpr hworker)
  exact ⟨execution, hexecution, other, hother, heq, heq'⟩

end Workers

section Orders

variable {good : σ → Prop} {agent : Ref Agent} {context : Option String} {w w₁ w₂ : World σ τ}
  {tasks : List (Ref Task)} {first second : List Execution}

/-- The two lists have the same executions, but for the times that they take. -/
def Matching (first second : List Execution) : Prop :=
  ∀ execution ∈ first, ∀ other ∈ second, execution.worker = other.worker →
    execution.untimed = other.untimed

/-- In two orders, the workers of a batch come to the same. -/
theorem matching_of_runs (himpartial : Impartial τ good) (hgood : good w.backend)
    (hregistry : w.registry.Impartial) (hnodup : tasks.Nodup)
    (hlive : ∀ task ∈ tasks, w.tasks.live.Has task)
    (hkinds : ∀ task ∈ tasks, (w.tasks.task task).kind ≠ .reflect)
    (hfirst : (first.map Execution.worker).Perm (workersOf tasks))
    (hsecond : (second.map Execution.worker).Perm (workersOf tasks))
    (hopen : OpenDuring agent context w (first.map Execution.worker))
    (hopen' : OpenDuring agent context w (second.map Execution.worker))
    (hruns : WorkersRun agent context w first w₁) (hruns' : WorkersRun agent context w second w₂) :
    Matching first second := by
  have hmem : ∀ {executions : List Execution},
      (executions.map Execution.worker).Perm (workersOf tasks) →
      ∀ execution ∈ executions, execution.task ∈ tasks :=
    fun hworkers execution hexecution =>
      (perm_tasks hworkers).mem_iff.mp (List.mem_map_of_mem hexecution)
  intro execution hexecution other hother hworker
  obtain ⟨v, hamong⟩ := hruns.among himpartial hopen ((perm_tasks hfirst).nodup_iff.mpr hnodup)
    (fun found hfound => hlive _ (hmem hfirst found hfound)) execution hexecution
  obtain ⟨v', hamong'⟩ := hruns'.among himpartial hopen' ((perm_tasks hsecond).nodup_iff.mpr hnodup)
    (fun found hfound => hlive _ (hmem hsecond found hfound)) other hother
  exact hamong.untimed_eq himpartial hgood hregistry hamong' hworker
    (hkinds _ (hmem hfirst execution hexecution))

omit [Time τ] [Backend σ τ] in
/-- Without their times, the executions of two orders are the same, but for their order. -/
theorem Matching.perm (hmatching : Matching first second) (hnodup : tasks.Nodup)
    (hfirst : (first.map Execution.worker).Perm (workersOf tasks))
    (hsecond : (second.map Execution.worker).Perm (workersOf tasks)) :
    (first.map Execution.untimed).Perm (second.map Execution.untimed) := by
  -- No task stands there twice, so it is enough to compare the members.
  have hdistinct : ∀ {executions : List Execution},
      (executions.map Execution.worker).Perm (workersOf tasks) →
      (executions.map Execution.untimed).Nodup := by
    intro executions hworkers
    have htasks := (perm_tasks hworkers).nodup_iff.mpr hnodup
    have hcompose : executions.map Execution.task =
        (executions.map Execution.untimed).map Execution.task := by
      rw [List.map_map]
      rfl
    exact List.Nodup.of_map Execution.task (hcompose ▸ htasks)
  have hworkers := hfirst.trans hsecond.symm
  rw [List.perm_ext_iff_of_nodup (hdistinct hfirst) (hdistinct hsecond)]
  intro found
  simp only [List.mem_map]
  constructor
  · rintro ⟨execution, hexecution, rfl⟩
    obtain ⟨other, hother, hworker⟩ :=
      List.mem_map.mp (hworkers.mem_iff.mp (List.mem_map_of_mem hexecution))
    exact ⟨other, hother, (hmatching execution hexecution other hother hworker.symm).symm⟩
  · rintro ⟨other, hother, rfl⟩
    obtain ⟨execution, hexecution, hworker⟩ :=
      List.mem_map.mp (hworkers.mem_iff.mpr (List.mem_map_of_mem hother))
    exact ⟨execution, hexecution, hmatching execution hexecution other hother hworker⟩

omit [Time τ] [Backend σ τ] in
/-- What does not depend on times is the same in both orders, but for its order. -/
theorem Matching.perm_filterMap (hmatching : Matching first second) (hnodup : tasks.Nodup)
    (hfirst : (first.map Execution.worker).Perm (workersOf tasks))
    (hsecond : (second.map Execution.worker).Perm (workersOf tasks)) {α : Type}
    {read : Execution → Option α} (hread : ∀ execution, read execution.untimed = read execution) :
    (first.filterMap read).Perm (second.filterMap read) := by
  have h := (hmatching.perm hnodup hfirst hsecond).filterMap read
  rw [List.filterMap_map, List.filterMap_map] at h
  have hcompose : read ∘ Execution.untimed = read := funext hread
  rwa [hcompose] at h

omit [Time τ] [Backend σ τ] in
/-- Both orders leave the same results in the places of the batch. -/
theorem Matching.results (hmatching : Matching first second) {batch batch' : BatchResult}
    (hdone : ConcurrentlyDone tasks w first batch)
    (hdone' : ConcurrentlyDone tasks w second batch') :
    batch'.results.map (Option.map TaskResult.untimed) =
      batch.results.map (Option.map TaskResult.untimed) := by
  apply List.ext_getElem?
  intro position
  rw [List.getElem?_map, List.getElem?_map]
  by_cases hposition : position < tasks.length
  · obtain ⟨outcome, hmem, hplace, -⟩ := hdone.place position hposition
    obtain ⟨outcome', hmem', hplace', -⟩ := hdone'.place position hposition
    have hsame : untimed outcome = untimed outcome' :=
      congrArg Execution.outcome (hmatching _ hmem _ hmem' rfl)
    rw [hplace, hplace']
    cases outcome <;> cases outcome' <;> simp_all [untimed, Except.map, Except.toOption]
  · rw [List.getElem?_eq_none (by rw [hdone'.places]; omega),
      List.getElem?_eq_none (by rw [hdone.places]; omega)]

/-- Both orders leave the same of every task, but for the time at which it was completed. -/
theorem Matching.task (hmatching : Matching first second) (hnodup : tasks.Nodup)
    (hlive : ∀ task ∈ tasks, w.tasks.live.Has task)
    (hfirst : (first.map Execution.worker).Perm (workersOf tasks))
    (hsecond : (second.map Execution.worker).Perm (workersOf tasks))
    (hruns : WorkersRun agent context w first w₁) (hruns' : WorkersRun agent context w second w₂)
    (ref : Ref Task) : (w₂.tasks.task ref).undated = (w₁.tasks.task ref).undated := by
  by_cases href : ref ∈ tasks
  · obtain ⟨position, hposition⟩ := List.mem_iff_getElem?.mp href
    obtain ⟨execution, hexecution, other, hother, hworker, hworker'⟩ :=
      exists_executions hfirst hsecond hposition
    -- A task of the batch has one execution in each run, and these match.
    have hlives : ∀ {executions : List Execution},
        (executions.map Execution.worker).Perm (workersOf tasks) →
        ∀ execution ∈ executions, w.tasks.live.Has execution.task :=
      fun hworkers found hfound =>
        hlive _ ((perm_tasks hworkers).mem_iff.mp (List.mem_map_of_mem hfound))
    obtain ⟨time, htask⟩ := hruns.task_of_mem ((perm_tasks hfirst).nodup_iff.mpr hnodup)
      (hlives hfirst) execution hexecution
    obtain ⟨time', htask'⟩ := hruns'.task_of_mem ((perm_tasks hsecond).nodup_iff.mpr hnodup)
      (hlives hsecond) other hother
    rw [show execution.task = ref from congrArg Prod.snd hworker] at htask
    rw [show other.task = ref from congrArg Prod.snd hworker'] at htask'
    rw [htask, htask']
    have hsame := hmatching execution hexecution other hother (hworker.trans hworker'.symm)
    exact undated_ended (congrArg Execution.outcome hsame).symm _ _ _
  · rw [hruns.inTurn.task_of_notMem (fun hmem => href ((perm_tasks hfirst).mem_iff.mp hmem)),
      hruns'.inTurn.task_of_notMem (fun hmem => href ((perm_tasks hsecond).mem_iff.mp hmem))]

/-- Both orders record the same tasks under the same ids. -/
theorem recorded_of_runs (hids : (tasks.map fun task => (w.tasks.task task).id).Nodup)
    (hfirst : (first.map Execution.worker).Perm (workersOf tasks))
    (hsecond : (second.map Execution.worker).Perm (workersOf tasks))
    (hruns : WorkersRun agent context w first w₁) (hruns' : WorkersRun agent context w second w₂)
    (id : String) : Table.find? w₂.tasks.index id = Table.find? w₁.tasks.index id := by
  have hperm : ∀ {executions : List Execution},
      (executions.map Execution.worker).Perm (workersOf tasks) →
      ((executions.map Execution.task).map fun task => (w.tasks.task task).id).Perm
        (tasks.map fun task => (w.tasks.task task).id) :=
    fun hworkers => (perm_tasks hworkers).map _
  by_cases hid : id ∈ tasks.map fun task => (w.tasks.task task).id
  · obtain ⟨ref, href, rfl⟩ := List.mem_map.mp hid
    rw [hruns.inTurn.index_of_mem ((hperm hfirst).nodup_iff.mpr hids)
        ((perm_tasks hfirst).mem_iff.mpr href),
      hruns'.inTurn.index_of_mem ((hperm hsecond).nodup_iff.mpr hids)
        ((perm_tasks hsecond).mem_iff.mpr href)]
  · rw [hruns.inTurn.index_of_notMem (fun hmem => hid ((hperm hfirst).mem_iff.mp hmem)),
      hruns'.inTurn.index_of_notMem (fun hmem => hid ((hperm hsecond).mem_iff.mp hmem))]

end Orders

/-! ## Batches in two orders -/

/-- A concurrent batch that has run. -/
structure BatchRun (σ τ : Type) where
  executions : List Execution
  batch : BatchResult
  left : World σ τ

namespace BatchRun

/-- The batch ran from the world `w`, with its workers in the given order. Its fault is that of the
first task that failed, and the agent remembers its interactions in the order of the workers. -/
structure Of (tasks : List (Ref Task)) (order : List (Nat × Ref Task)) (agent : Ref Agent)
    (context : Option String) (w : World σ τ) (ran : BatchRun σ τ) : Prop where
  run : (runConcurrentIn order agent context).run w = .ok ran.batch ran.left
  workers : ran.executions.map Execution.worker = order
  runs : ∃ w' journal, WorkersRun agent context w ran.executions w' ∧
    ran.left = { w' with journal }
  done : ConcurrentlyDone tasks w ran.executions ran.batch
  error : ran.batch.error = (ran.executions.filterMap Execution.fault?).head?
  recalled : Recalled agent w.agents (ran.executions.filterMap (Execution.interaction? w))
    ran.left.agents

/-- Two runs of a batch agree, but for times, for the choice of the fault, and for the order in
which the agent remembers its interactions. -/
structure Agree (w : World σ τ) (first second : BatchRun σ τ) : Prop where
  results : second.batch.results.map (Option.map TaskResult.untimed) =
    first.batch.results.map (Option.map TaskResult.untimed)
  /-- Every task has the same status, output and error. -/
  task : ∀ ref, (second.left.tasks.task ref).undated = (first.left.tasks.task ref).undated
  failed : ∀ ref, (second.left.tasks.task ref).status = .failed ↔
    (first.left.tasks.task ref).status = .failed
  recorded : ∀ id, Table.find? second.left.tasks.index id = Table.find? first.left.tasks.index id
  faults : (first.executions.filterMap Execution.fault?).Perm
    (second.executions.filterMap Execution.fault?)
  interactions : (first.executions.filterMap (Execution.interaction? w)).Perm
    (second.executions.filterMap (Execution.interaction? w))

/-- Every order of the workers makes a batch, if nobody stops them. -/
theorem exists_of (tasks : List (Ref Task)) {order : List (Nat × Ref Task)}
    (horder : order.Perm (workersOf tasks)) {agent : Ref Agent} {context : Option String}
    {w : World σ τ} (himpartial : w.registry.Impartial)
    (hopen : OpenDuring agent context w order) :
    ∃ ran : BatchRun σ τ, ran.Of tasks order agent context w := by
  obtain ⟨executions, batch, w', journal, hrun, hworkers, hruns, hdone⟩ :=
    runConcurrentIn_of_perm tasks order horder agent context w
  refine ⟨⟨executions, batch, { w' with journal }⟩, hrun, hworkers, ⟨w', journal, hruns, rfl⟩,
    hdone, ?_, hruns.recalled himpartial (hworkers ▸ hopen)⟩
  rw [hdone.error, List.head?_filterMap]

end BatchRun

/-- **Concurrent batches do not depend on the order of their workers.** Take a backend and
capabilities that are impartial, tasks with different ids of which none looks back, and two orders
of the workers in which nobody stops the context. Both batches return, and they agree. -/
theorem runConcurrentIn_order_independent {good : σ → Prop} (himpartial : Impartial τ good)
    {w : World σ τ} (hgood : good w.backend) (hregistry : w.registry.Impartial)
    (tasks : List (Ref Task)) (hlive : ∀ task ∈ tasks, w.tasks.live.Has task)
    (hids : (tasks.map fun task => (w.tasks.task task).id).Nodup)
    (hkinds : ∀ task ∈ tasks, (w.tasks.task task).kind ≠ .reflect)
    (agent : Ref Agent) (context : Option String) (order order' : List (Nat × Ref Task))
    (horder : order.Perm (workersOf tasks)) (horder' : order'.Perm (workersOf tasks))
    (hopen : OpenDuring agent context w order) (hopen' : OpenDuring agent context w order') :
    ∃ first second : BatchRun σ τ,
      first.Of tasks order agent context w ∧ second.Of tasks order' agent context w ∧
        first.Agree w second := by
  obtain ⟨first, hfirst⟩ := BatchRun.exists_of tasks horder hregistry hopen
  obtain ⟨second, hsecond⟩ := BatchRun.exists_of tasks horder' hregistry hopen'
  refine ⟨first, second, hfirst, hsecond, ?_⟩
  obtain ⟨w₁, _, hruns, hleft⟩ := hfirst.runs
  obtain ⟨w₂, _, hruns', hleft'⟩ := hsecond.runs
  have hnodup : tasks.Nodup := List.Nodup.of_map _ hids
  have hworkers := hfirst.workers ▸ horder
  have hworkers' := hsecond.workers ▸ horder'
  -- Whichever way the workers take, each execution has a match with the same outcome in the other
  -- run.
  have hmatching : Matching first.executions second.executions :=
    matching_of_runs himpartial hgood hregistry hnodup hlive hkinds hworkers hworkers'
      (hfirst.workers ▸ hopen) (hsecond.workers ▸ hopen') hruns hruns'
  have htasks : first.left.tasks = w₁.tasks := by rw [hleft]
  have htasks' : second.left.tasks = w₂.tasks := by rw [hleft']
  have htask : ∀ ref,
      (second.left.tasks.task ref).undated = (first.left.tasks.task ref).undated := by
    rw [htasks, htasks']
    exact hmatching.task hnodup hlive hworkers hworkers' hruns hruns'
  refine ⟨hmatching.results hfirst.done hsecond.done, htask, fun ref => ?_, ?_, ?_, ?_⟩
  · have hstatus : (second.left.tasks.task ref).undated.status =
        (first.left.tasks.task ref).undated.status := congrArg Task.status (htask ref)
    simp only [Task.undated] at hstatus
    rw [hstatus]
  · rw [htasks, htasks']
    exact recorded_of_runs hids hworkers hworkers' hruns hruns'
  · exact hmatching.perm_filterMap hnodup hworkers hworkers' Execution.fault?_untimed
  · exact hmatching.perm_filterMap hnodup hworkers hworkers' (Execution.interaction?_untimed w)

/-- The helper may begin with either of its two tasks, of which it can carry out one. -/
theorem runConcurrentIn_order_independent_smallEngine :
    Impartial Rat (· = smallEngine.backend) ∧
      ∃ first second : BatchRun (Scripted.Script Rat) Rat,
        first.Of [⟨0⟩, ⟨1⟩] [(0, ⟨0⟩), (1, ⟨1⟩)] ⟨0⟩ none smallEngine ∧
          second.Of [⟨0⟩, ⟨1⟩] [(1, ⟨1⟩), (0, ⟨0⟩)] ⟨0⟩ none smallEngine ∧
            first.Agree smallEngine second := by
  have himpartial : Impartial Rat (· = smallEngine.backend) := by
    refine Scripted.impartial_script fun model prompt => ⟨rfl, fun effect hmem => ?_⟩
    obtain ⟨chunk, -, heq⟩ := List.mem_map.mp hmem
    cases heq
  have hregistry : smallEngine.registry.Impartial := ⟨nofun, nofun⟩
  refine ⟨himpartial, runConcurrentIn_order_independent himpartial rfl hregistry [⟨0⟩, ⟨1⟩]
    ?_ (by decide) ?_ ⟨0⟩ none _ _ (.refl _) (.swap _ _ []) (openDuring_none _ _ _)
    (openDuring_none _ _ _)⟩
  · simp [Live.Has, smallEngine]
  · intro task hmem
    rcases List.mem_pair.mp hmem with rfl | rfl <;> decide

end Engine

end Orchestration
