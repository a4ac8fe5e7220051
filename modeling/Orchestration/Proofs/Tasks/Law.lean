import Orchestration.Proofs.Session

/-!
# What an engine does to its tasks

Whatever an operation of the engine is about, there are only two things that it does to the store of
tasks: it makes a task that is still to be done, and it carries out a task. What these two guarantee
is guaranteed by all operations (`TaskLaw.law`), and by all runs if it does not matter which tasks
callers make (`TaskLaw.reaches`).

The first such relation is that of the ids under which tasks are recorded: none is recorded twice,
and new ones come to the end (`Reaches.indexGrows`).
-/

namespace Orchestration

/-- A task that is not live cannot be changed. -/
theorem TaskStore.modify_of_not_has {store : TaskStore} {ref : Ref Task} {change : Task → Task}
    (h : ¬ store.live.Has ref) : store.modify ref change = store := by
  have hlength : store.live.values.length ≤ ref.number := Nat.le_of_not_lt h
  simp only [modify, Live.modify, Live.set, List.set_eq_of_length_le hlength]

namespace Engine

variable {σ τ : Type}

/-! ## Laws -/

section

variable [Time τ] [Backend σ τ]

/-- The relation holds between the worlds before and after everything that can happen to tasks. -/
structure TaskLaw (R : World σ τ → World σ τ → Prop) : Prop where
  /-- Something happens, but not to the tasks. -/
  same : ∀ w w' : World σ τ, w'.tasks = w.tasks → R w w'
  /-- A task is made that is still to be done. -/
  made : ∀ (w : World σ τ) task, task.Fresh → R w { w with tasks := w.tasks.add task }
  executed : ∀ ref agentRef context tracked,
    Guarantees R (execute ref agentRef context tracked : Run σ τ TaskResult)

namespace TaskLaw

variable {R : World σ τ → World σ τ → Prop} [IsPreorder (World σ τ) R]

omit [IsPreorder (World σ τ) R] in
/-- Operations on the register leave the tasks alone. -/
theorem registerLaw (law : TaskLaw R) : RegisterLaw R where
  issued w := law.same w _ rfl
  replaced w _ := law.same w _ rfl
  logged w _ := law.same w _ rfl

theorem starting (law : TaskLaw R) {w w' : World σ τ} {participants : List String}
    {topic : String} {metadata : Fields} {outcome : Except Fault Conversation}
    (h : Starting w participants topic metadata outcome w') : R w w' := by
  cases h with
  | refused => exact Std.Refl.refl _
  | started _ hstarted _ => exact law.same _ _ hstarted.tasks

/-- Sending a message makes a task if the message delegates one. -/
theorem sending (law : TaskLaw R) {w w' : World σ τ} {conversationId : String} {ref : Ref Message}
    {context : Option String} {outcome : Except Fault Message}
    (h : Sending w conversationId ref context outcome w') : R w w' := by
  cases h with
  | refused => exact Std.Refl.refl _
  | posted _ hposted => exact law.same _ _ hposted.tasks
  | delegated _ hposted _ _ hdelegated =>
    obtain ⟨task, htasks, -, -, hfresh⟩ := hdelegated.tasks
    refine IsTrans.trans _ _ _ (law.same _ _ hposted.tasks) ?_
    exact IsTrans.trans _ _ _ (law.made _ task hfresh) (law.same _ _ htasks)
  | unstarted _ hposted => exact law.same _ _ hposted.tasks

theorem closing (law : TaskLaw R) {w w' : World σ τ} {id : String}
    {outcome : Except Fault Conversation} (h : Closing w id outcome w') : R w w' := by
  cases h with
  | refused => exact Std.Refl.refl _
  | again => exact law.same _ _ rfl
  | closed hclosed => exact law.same _ _ hclosed.tasks

/-- What happens to tasks alone decides what every operation guarantees. -/
theorem law (law : TaskLaw R) : Law R where
  idle _ _ _ _ _ _ _ := law.same _ _ rfl
  issued _ := law.same _ _ rfl
  registry _ _ := law.same _ _ rfl
  workers _ _ _ := law.same _ _ rfl
  agentAdded _ _ := law.same _ _ rfl
  taskAdded := law.made
  messageAdded _ _ := law.same _ _ rfl
  createAgent w ref context _ := law.registerLaw.createAgent ref context w
  updateAgent w ref context _ := law.registerLaw.updateAgent ref context w
  deleteAgent := law.registerLaw.deleteAgent
  startConversation participants topic metadata context w :=
    law.starting (Engine.starting participants topic metadata context w)
  send conversationId ref context w := law.sending (Engine.sending conversationId ref context w)
  closeConversation id context w := law.closing (Engine.closing id context w)
  execute := law.executed

/-- What every operation does to tasks, every event does, whatever tasks callers make. -/
theorem event (law : TaskLaw R) {event : Event σ τ} {w : World σ τ} (h : event.Admissible w)
    (hmade : ∀ task, event = .makeTask task → R w { w with tasks := w.tasks.add task }) :
    R w (worldAfter event.run w) := by
  refine law.law.event h fun hown => ?_
  cases event with
  | changeAgent ref change => exact law.same _ _ rfl
  | changeMessage ref message => exact law.same _ _ rfl
  | makeTask task => exact hmade task rfl
  | _ => cases hown

/-- **Run law.** What every operation does to tasks, every run does. -/
theorem reaches (law : TaskLaw R)
    (hmade : ∀ (w : World σ τ) task, R w { w with tasks := w.tasks.add task })
    {w w' : World σ τ} (h : Reaches w w') : R w w' := by
  induction h with
  | refl => exact Std.Refl.refl _
  | step _ event hadmissible ih =>
    exact IsTrans.trans _ _ _ ih (law.event hadmissible fun task _ => hmade _ task)

end TaskLaw

end

/-! ## Executions -/

namespace Executed

variable {w w' : World σ τ} {ref other : Ref Task} {agentRef : Ref Agent} {tracked : Bool}
  {outcome : Except Fault TaskResult}

/-- An execution records its task, if it is tracked, and nothing else. -/
theorem index_eq_ite (h : Executed w ref agentRef tracked outcome w') :
    w'.tasks.index =
      if tracked then Table.insert w.tasks.index (w.tasks.task ref).id ref else w.tasks.index := by
  cases tracked with
  | false =>
    rw [h.tasks]
    rfl
  | true => exact h.index

end Executed

/-! ## The ids of recorded tasks -/

/-- The recorded tasks keep their places, new ones come to the end, and none is recorded twice. -/
structure IndexGrows (w w' : World σ τ) : Prop where
  order : Table.keys w.tasks.index <+: Table.keys w'.tasks.index
  nodup : (Table.keys w.tasks.index).Nodup → (Table.keys w'.tasks.index).Nodup

instance : IsPreorder (World σ τ) IndexGrows where
  refl _ := ⟨List.prefix_refl _, id⟩
  trans _ _ _ h h' := ⟨h.order.trans h'.order, h'.nodup ∘ h.nodup⟩

theorem indexGrows_of_eq {w w' : World σ τ} (h : w'.tasks.index = w.tasks.index) :
    IndexGrows w w' :=
  ⟨h ▸ List.prefix_refl _, h ▸ id⟩

theorem Executed.indexGrows {w w' : World σ τ} {ref : Ref Task} {agentRef : Ref Agent}
    {tracked : Bool} {outcome : Except Fault TaskResult}
    (h : Executed w ref agentRef tracked outcome w') : IndexGrows w w' := by
  cases tracked with
  | false => exact indexGrows_of_eq h.index_eq_ite
  | true =>
    constructor
    · rw [h.index]
      exact Table.keys_prefix_insert _ _ _
    · rw [h.index]
      exact fun hnodup => Table.nodup_keys_insert hnodup _ _

section

variable [Time τ] [Backend σ τ]

theorem indexGrows : TaskLaw (IndexGrows (σ := σ) (τ := τ)) where
  same _ _ h := indexGrows_of_eq (congrArg TaskStore.index h)
  made _ _ _ := indexGrows_of_eq rfl
  executed ref agentRef context tracked w := (executed ref agentRef context tracked w).indexGrows

/-- **Run law.** In every run, ids keep the places at which they were recorded first. -/
theorem Reaches.indexGrows {w w' : World σ τ} (h : Reaches w w') : IndexGrows w w' :=
  Engine.indexGrows.reaches (fun _ _ => indexGrows_of_eq rfl) h

/-- No id is recorded twice. -/
theorem Reachable.nodup_index {w : World σ τ} (h : Reachable w) :
    (Table.keys w.tasks.index).Nodup := by
  obtain ⟨fresh, hfresh, hreaches⟩ := h
  refine hreaches.indexGrows.nodup ?_
  rw [hfresh.tasks]
  exact List.nodup_nil

end

end Engine

end Orchestration
