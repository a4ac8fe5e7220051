import Orchestration.Proofs.Tasks.Law

/-!
# To whom tasks belong

A task that is made for an agent belongs to that agent. Any other task belongs to the first agent
that carries it out, and it stays with that one whoever carries it out later. The log of a run tells
which tasks were made and who carried them out (`Logged`). Every run has one (`Reaches.logged`), and
in whichever log of a run one looks up a task, the first entry that names an agent tells to whom the
task belongs (`Logged.agentId`).

A log can also show that something was to be carried out that is no task. If it does not, all
recorded tasks are kept under their own ids (`Logged.keptUnderIds`).
-/

namespace Orchestration

/-! ## Logs -/

/-- What the log of a run notes about its tasks. -/
inductive TaskEntry where
  /-- A task is made for the agent with the given id; the id is empty if it is made for none. -/
  | made (task : Ref Task) (agentId : String)
  /-- A task is carried out by the agent with the given id. -/
  | executed (task : Ref Task) (agentId : String)
  /-- What is to be carried out is no task. -/
  | stray (task : Ref Task)

namespace TaskEntry

/-- The agent that an entry names for a task. -/
def agentId? (ref : Ref Task) : TaskEntry → Option String
  | made task agentId | executed task agentId => if task = ref then some agentId else none
  | stray _ => none

/-- The agent that carries the task out. -/
def executor? (ref : Ref Task) : TaskEntry → Option String
  | executed task agentId => if task = ref then some agentId else none
  | made _ _ | stray _ => none

end TaskEntry

/-- The first agent if it has an id, and the second one otherwise. -/
def ownerOr (owner agentId : String) : String :=
  if owner = "" then agentId else owner

@[simp]
theorem ownerOr_empty (agentId : String) : ownerOr "" agentId = agentId := rfl

@[simp]
theorem ownerOr_empty_right (owner : String) : ownerOr owner "" = owner := by
  unfold ownerOr
  split <;> simp_all

/-- The first owner that is named counts, however the names are grouped. -/
theorem ownerOr_assoc (first second third : String) :
    ownerOr (ownerOr first second) third = ownerOr first (ownerOr second third) := by
  unfold ownerOr
  split <;> simp_all

/-- The agent to whom a task belongs according to a log: the first one that is named with an id that
is not empty. -/
def ownerIn (log : List TaskEntry) (ref : Ref Task) : String :=
  ((log.filterMap (·.agentId? ref)).find? (· ≠ "")).getD ""

/-- The agent that has carried out a task last. -/
def latestIn (log : List TaskEntry) (ref : Ref Task) : Option String :=
  (log.filterMap (·.executor? ref)).getLast?

@[simp]
theorem ownerIn_nil (ref : Ref Task) : ownerIn [] ref = "" := rfl

@[simp]
theorem ownerIn_singleton (entry : TaskEntry) (ref : Ref Task) :
    ownerIn [entry] ref = (entry.agentId? ref).getD "" := by
  cases hnamed : entry.agentId? ref with
  | none => simp [ownerIn, hnamed]
  | some agentId => by_cases hempty : agentId = "" <;> simp [ownerIn, hnamed, hempty]

/-- Later entries matter only for tasks that belong to nobody yet. -/
theorem ownerIn_append (log later : List TaskEntry) (ref : Ref Task) :
    ownerIn (log ++ later) ref = ownerOr (ownerIn log ref) (ownerIn later ref) := by
  unfold ownerIn
  rw [List.filterMap_append, List.find?_append]
  cases hfound : (log.filterMap (·.agentId? ref)).find? (· ≠ "") with
  | none => rfl
  | some agentId =>
    have hne : agentId ≠ "" := by simpa using List.find?_some hfound
    simp [ownerOr, hne]

/-- A task that belongs to somebody stays there when it is given to an agent. -/
theorem Task.agentId_assignedTo (agentId : String) (task : Task) :
    (task.assignedTo agentId).agentId = ownerOr task.agentId agentId := by
  unfold assignedTo ownerOr
  split <;> rfl

/-! ## Tasks that are not live -/

namespace TaskStore

variable {store : TaskStore} {ref : Ref Task}

/-- A reference that is not live stands for an empty task, which has no owner. -/
theorem task_of_not_has (h : ¬ store.live.Has ref) : store.task ref = default := by
  have hlength : store.live.values.length ≤ ref.number := Nat.le_of_not_lt h
  rw [task, Live.get, List.getElem?_eq_none hlength]
  rfl

theorem not_has_next : ¬ store.live.Has store.live.next :=
  Nat.lt_irrefl _

/-- The recorded tasks are live, and each of them is kept under its own id. -/
def KeptUnderIds (store : TaskStore) : Prop :=
  ∀ entry ∈ store.index, store.live.Has entry.2 ∧ (store.task entry.2).id = entry.1

/-- The ids of the recorded tasks are those that they are recorded under. -/
theorem KeptUnderIds.map_id_recorded (h : store.KeptUnderIds) :
    store.recorded.map Task.id = Table.keys store.index := by
  rw [recorded, Table.values, List.map_map, List.map_map, Table.keys]
  exact List.map_congr_left fun entry hmem => (h entry hmem).2

end TaskStore

namespace Engine

variable {σ τ : Type} [Time τ] [Backend σ τ]

/-! ## What happens to tasks -/

/-- The log tells what happens to the tasks on the way from the first world to the second one. -/
inductive Logged : World σ τ → List TaskEntry → World σ τ → Prop
  /-- Nothing happens to the tasks. -/
  | same {w w' : World σ τ} (h : w'.tasks = w.tasks) : Logged w [] w'
  | made {w w' : World σ τ} {task : Task} (h : w'.tasks = w.tasks.add task) :
      Logged w [.made w.tasks.live.next task.agentId] w'
  | executed {w : World σ τ} {ref : Ref Task} (hlive : w.tasks.live.Has ref)
      (agentRef : Ref Agent) (context : Option String) (tracked : Bool) :
      Logged w [.executed ref (w.agents.agent agentRef).id]
        (worldAfter (execute ref agentRef context tracked) w)
  | stray {w : World σ τ} {ref : Ref Task} (hlive : ¬ w.tasks.live.Has ref)
      (agentRef : Ref Agent) (context : Option String) (tracked : Bool) :
      Logged w [.stray ref] (worldAfter (execute ref agentRef context tracked) w)
  | append {w w₁ w' : World σ τ} {log later : List TaskEntry} (h : Logged w log w₁)
      (h' : Logged w₁ later w') : Logged w (log ++ later) w'

/-- Something can be logged that leads from the first world to the second one. -/
def HasLog (w w' : World σ τ) : Prop :=
  ∃ log, Logged w log w'

instance : IsPreorder (World σ τ) HasLog where
  refl _ := ⟨[], .same rfl⟩
  trans _ _ _ := fun ⟨_, h⟩ ⟨_, h'⟩ => ⟨_, h.append h'⟩

/-- All that happens to tasks can be told in a log. -/
theorem hasLog : TaskLaw (HasLog (σ := σ) (τ := τ)) where
  same _ _ h := ⟨[], .same h⟩
  made _ _ _ := ⟨_, .made rfl⟩
  executed ref agentRef context tracked w := by
    by_cases hlive : w.tasks.live.Has ref
    · exact ⟨_, .executed hlive agentRef context tracked⟩
    · exact ⟨_, .stray hlive agentRef context tracked⟩

/-- **Run law.** Every run has a log. -/
theorem Reaches.logged {w w' : World σ τ} (h : Reaches w w') : ∃ log, Logged w log w' :=
  hasLog.reaches (fun _ _ => ⟨_, .made rfl⟩) h

/-- A request for a registered agent is an execution by that agent. -/
theorem worldAfter_executeTask {w : World σ τ} {agentId : String} {agentRef : Ref Agent}
    {ref : Ref Task} {context : Option String} (h : w.agents.find? agentId = some agentRef) :
    worldAfter (Event.executeTask agentId ref context).run w =
      worldAfter (execute ref agentRef context true) w := by
  have hget : (get : Run σ τ (World σ τ)).run w = .ok w w := rfl
  have hlift : (lift (w.agents.get agentId) : Run σ τ (Ref Agent)).run w = .ok agentRef w := by
    rw [run_lift, AgentStore.get, h]
  have hdiscard : worldAfter (Event.executeTask agentId ref context).run w =
      worldAfter (executeTask agentId ref context) w := worldAfter_bind_pure _ _ _
  rw [hdiscard, executeTask, worldAfter_bind_of_run_eq hget, worldAfter_bind_of_run_eq hlift]

/-- What a caller has an agent carry out is logged under the id of that agent. -/
theorem Logged.executeTask {fresh w : World σ τ} {log : List TaskEntry} {agentId : String}
    {agentRef : Ref Agent} {ref : Ref Task} (h : Logged fresh log w) (horder : w.agents.InOrder)
    (hregistered : w.agents.find? agentId = some agentRef) (hlive : w.tasks.live.Has ref)
    (context : Option String) :
    Logged fresh (log ++ [.executed ref agentId])
      (worldAfter (Event.executeTask agentId ref context).run w) := by
  obtain ⟨-, hid, -⟩ := horder agentId agentRef hregistered
  rw [worldAfter_executeTask hregistered, ← hid]
  exact h.append (.executed hlive agentRef context true)

/-! ## Owners -/

omit [Time τ] [Backend σ τ] in
/-- What is carried out leaves all tasks alone, if it is no task. -/
theorem Executed.task_of_not_has {w w' : World σ τ} {ref : Ref Task} {agentRef : Ref Agent}
    {tracked : Bool} {outcome : Except Fault TaskResult}
    (h : Executed w ref agentRef tracked outcome w') (hlive : ¬ w.tasks.live.Has ref)
    (other : Ref Task) : w'.tasks.task other = w.tasks.task other := by
  by_cases hother : other = ref
  · have hlater : ¬ w'.tasks.live.Has ref := by
      rw [Live.Has, h.count]
      exact hlive
    rw [hother, TaskStore.task_of_not_has hlater, TaskStore.task_of_not_has hlive]
  · exact h.task_of_ne hother

omit [Time τ] [Backend σ τ] in
/-- Who carries a task out is given it, if it belongs to nobody. -/
theorem Executed.agentId {w w' : World σ τ} {ref : Ref Task} {agentRef : Ref Agent}
    {tracked : Bool} {outcome : Except Fault TaskResult}
    (h : Executed w ref agentRef tracked outcome w') (hlive : w.tasks.live.Has ref) :
    (w'.tasks.task ref).agentId =
      ownerOr (w.tasks.task ref).agentId (w.agents.agent agentRef).id := by
  rw [h.task_self hlive, ← Task.agentId_assignedTo]
  cases outcome <;> rfl

/-- **The owner of a task.** A task that belongs to somebody stays there; any other task belongs to
the first agent that the log names for it. -/
theorem Logged.agentId {w w' : World σ τ} {log : List TaskEntry} (h : Logged w log w')
    (ref : Ref Task) :
    (w'.tasks.task ref).agentId = ownerOr (w.tasks.task ref).agentId (ownerIn log ref) := by
  -- The induction is on the log: every entry leaves the first owner that a task is given.
  induction h with
  | same h => rw [h, ownerIn_nil, ownerOr_empty_right]
  | @made w w' task h =>
    rw [h, ownerIn_singleton, TaskEntry.agentId?, TaskStore.task, TaskStore.add, Live.get_add]
    by_cases hnew : ref = w.tasks.live.next
    · -- Before it was made, there was nothing that could belong to anybody.
      have hbefore : (w.tasks.task ref).agentId = "" := by
        rw [hnew, TaskStore.task_of_not_has TaskStore.not_has_next]
        rfl
      rw [if_pos hnew, if_pos hnew.symm, hbefore, ownerOr_empty]
      rfl
    · rw [if_neg hnew, if_neg (Ne.symm hnew)]
      exact (ownerOr_empty_right _).symm
  | @executed w source hlive agentRef context tracked =>
    have hexecuted := Engine.executed source agentRef context tracked w
    rw [ownerIn_singleton, TaskEntry.agentId?]
    by_cases hself : source = ref
    · subst hself
      rw [if_pos rfl]
      exact hexecuted.agentId hlive
    · rw [if_neg hself, hexecuted.task_of_ne (Ne.symm hself)]
      exact (ownerOr_empty_right _).symm
  | @stray w source hlive agentRef context tracked =>
    have hexecuted := Engine.executed source agentRef context tracked w
    rw [ownerIn_singleton, TaskEntry.agentId?, hexecuted.task_of_not_has hlive]
    exact (ownerOr_empty_right _).symm
  | append _ _ ih ih' => rw [ih', ih, ownerIn_append, ownerOr_assoc]

/-- In a run that starts with a fresh engine, each task belongs to the first agent that the log
names for it. -/
theorem Logged.agentId_of_fresh {fresh w : World σ τ} {log : List TaskEntry} (hfresh : Fresh fresh)
    (h : Logged fresh log w) (ref : Ref Task) : (w.tasks.task ref).agentId = ownerIn log ref := by
  have hnobody : (fresh.tasks.task ref).agentId = "" := by
    rw [hfresh.tasks]
    rfl
  rw [h.agentId ref, hnobody, ownerOr_empty]

/-! ## Ids -/

omit [Time τ] [Backend σ τ] in
/-- An execution records its task under the id that it has. -/
theorem Executed.keptUnderIds {w w' : World σ τ} {ref : Ref Task} {agentRef : Ref Agent}
    {tracked : Bool} {outcome : Except Fault TaskResult}
    (h : Executed w ref agentRef tracked outcome w') (hlive : w.tasks.live.Has ref)
    (hkept : w.tasks.KeptUnderIds) : w'.tasks.KeptUnderIds := by
  have hold : ∀ entry ∈ w.tasks.index,
      w'.tasks.live.Has entry.2 ∧ (w'.tasks.task entry.2).id = entry.1 := by
    intro entry hmem
    obtain ⟨hhas, hid⟩ := hkept entry hmem
    exact ⟨h.has hhas, (h.sameWork entry.2).id.trans hid⟩
  intro entry hmem
  rw [h.index_eq_ite] at hmem
  split at hmem
  · rcases Table.mem_insert hmem with rfl | hmem
    · exact ⟨h.has hlive, (h.sameWork ref).id⟩
    · exact hold entry hmem
  · exact hold entry hmem

/-- If the log shows that all that was carried out were tasks, recorded tasks are kept under their
own ids. -/
theorem Logged.keptUnderIds {w w' : World σ τ} {log : List TaskEntry} (h : Logged w log w')
    (hnone : ∀ ref, .stray ref ∉ log) (hkept : w.tasks.KeptUnderIds) :
    w'.tasks.KeptUnderIds := by
  induction h with
  | same h =>
    rw [h]
    exact hkept
  | @made w w' task h =>
    rw [h]
    intro entry hmem
    obtain ⟨hhas, hid⟩ := hkept entry hmem
    have hsame : (w.tasks.add task).task entry.2 = w.tasks.task entry.2 :=
      Live.get_add_of_has w.tasks.live task hhas
    exact ⟨Live.has_add_of_has task hhas, hsame ▸ hid⟩
  | @executed w ref hlive agentRef context tracked =>
    exact (Engine.executed ref agentRef context tracked w).keptUnderIds hlive hkept
  | stray => exact absurd (List.mem_singleton.mpr rfl) (hnone _)
  | append _ _ ih ih' =>
    have hfirst := ih (fun ref hmem => hnone ref (List.mem_append_left _ hmem)) hkept
    exact ih' (fun ref hmem => hnone ref (List.mem_append_right _ hmem)) hfirst

end Engine

end Orchestration
