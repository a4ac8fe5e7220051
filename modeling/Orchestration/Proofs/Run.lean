import Mathlib.Order.Defs.Unbundled
import Orchestration.Engine.World

/-!
# How operations compose

An operation ends with an outcome and leaves a world, whether it succeeds or fails. This module says
what the primitive operations do to a world and how longer ones are put together from them:

* `outcomeOf` and `worldAfter` take an operation apart, and `attempt` gives both (`run_attempt`);
* `Guarantees R run` says that the world after `run` always stands in relation `R` to the world
  before it. For a preorder it is enough to look at the parts of an operation (`Guarantees.bind`);
* `Returns P run` says that every result of `run` has property `P`.
-/

namespace Orchestration.Engine

variable {σ τ α β : Type}

/-! ## Outcomes and worlds -/

/-- What comes of an operation. -/
def outcomeOf (run : Run σ τ α) (w : World σ τ) : Except Fault α :=
  match run.run w with
  | .ok a _ => .ok a
  | .error fault _ => .error fault

/-- The world that an operation leaves, whether it succeeds or fails. -/
def worldAfter (run : Run σ τ α) (w : World σ τ) : World σ τ :=
  match run.run w with
  | .ok _ w' => w'
  | .error _ w' => w'

/-- A run returns with a world if this is its outcome and the world behind it. -/
theorem run_eq_ok_iff {run : Run σ τ α} {w w' : World σ τ} {a : α} :
    run.run w = .ok a w' ↔ outcomeOf run w = .ok a ∧ worldAfter run w = w' := by
  unfold outcomeOf worldAfter
  split <;> simp_all

/-- A run fails with a world if this is its outcome and the world behind it. -/
theorem run_eq_error_iff {run : Run σ τ α} {w w' : World σ τ} {fault : Fault} :
    run.run w = .error fault w' ↔ outcomeOf run w = .error fault ∧ worldAfter run w = w' := by
  unfold outcomeOf worldAfter
  split <;> simp_all

/-- An attempt never fails: it gives the outcome and leaves the world that the operation leaves. -/
@[simp]
theorem run_attempt (run : Run σ τ α) (w : World σ τ) :
    (attempt run).run w = .ok (outcomeOf run w) (worldAfter run w) := by
  have h : (attempt run).run w = match run.run w with
    | .ok a w => .ok (.ok a) w
    | .error fault w => .ok (.error fault) w := rfl
  rw [h]
  unfold outcomeOf worldAfter
  cases run.run w <;> rfl

/-! ## Primitive operations -/

section Primitives

variable (w : World σ τ)

/-- A result that is there already is taken over, and the world is not touched. -/
@[simp]
theorem run_lift (result : Except Fault α) :
    (lift result : Run σ τ α).run w = match result with
      | .ok a => .ok a w
      | .error fault => .error fault w := by
  cases result <;> rfl

/-- A pure operation comes to what it comes to, wherever it is carried out. -/
@[simp]
theorem outcomeOf_lift (result : Except Fault α) :
    outcomeOf (lift result : Run σ τ α) w = result := by
  cases result <;> rfl

/-- A pure operation leaves the world as it is. -/
@[simp]
theorem worldAfter_lift (result : Except Fault α) :
    worldAfter (lift result : Run σ τ α) w = w := by
  cases result <;> rfl

/-- To read the clock does not change the world; time goes on with what happens outside. -/
@[simp]
theorem run_reading : (reading : Run σ τ τ).run w = .ok w.surroundings.clock.reading w := rfl

/-- The context is checked against the surroundings as they are; nothing changes. -/
@[simp]
theorem run_check [Time τ] (context taskId : Option String) :
    (check context taskId : Run σ τ Unit).run w =
      (lift (w.surroundings.check context taskId) : Run σ τ Unit).run w := rfl

@[simp]
theorem run_agent (ref : Ref Agent) :
    (agent ref : Run σ τ Agent).run w = .ok (w.agents.agent ref) w := rfl

@[simp]
theorem run_task (ref : Ref Task) :
    (task ref : Run σ τ Task).run w = .ok (w.tasks.task ref) w := rfl

/-- A task is changed in its place. -/
@[simp]
theorem run_changeTask (ref : Ref Task) (change : Task → Task) :
    (changeTask ref change : Run σ τ Unit).run w =
      .ok () { w with tasks := w.tasks.modify ref change } := rfl

/-- A message that is made is the last one. -/
@[simp]
theorem run_newMessage (message : Message) :
    (newMessage message : Run σ τ (Ref Message)).run w =
      .ok w.messages.next { w with messages := w.messages.add message } := rfl

/-- The scope is entered for the run and left behind it, whether the run returns or fails. -/
@[simp]
theorem run_within (given : Log.Scope) (run : Run σ τ α) :
    (within given run).run w = match run.run { w with scope := w.scope.enter given } with
      | .ok a w' => .ok a { w' with scope := w.scope.leave given w'.scope }
      | .error fault w' => .error fault { w' with scope := w.scope.leave given w'.scope } := by
  have hrun : (within given run).run w =
    match run.run { w with scope := (w.scope.opened given).1 } with
      | .ok a w' => .ok a { w' with scope := w'.scope.reset (w.scope.opened given).2 }
      | .error fault w' =>
        .error fault { w' with scope := w'.scope.reset (w.scope.opened given).2 } := rfl
  simp only [hrun, Log.Scope.fst_opened, Log.Scope.reset_opened]

/-- A thread starts with an empty scope; behind it the scope and the thread are those of before. -/
@[simp]
theorem run_inThread (name : String) (run : Run σ τ α) :
    (inThread name run).run w = match run.run { w with scope := {}, thread := name } with
      | .ok a w' => .ok a { w' with scope := w.scope, thread := w.thread }
      | .error fault w' => .error fault { w' with scope := w.scope, thread := w.thread } := rfl

end Primitives

/-! ## Blocks -/

/-- The scope of a run is left without an effect on its outcome. -/
theorem outcomeOf_within (given : Log.Scope) (run : Run σ τ α) (w : World σ τ) :
    outcomeOf (within given run) w = outcomeOf run { w with scope := w.scope.enter given } := by
  rw [outcomeOf, run_within, outcomeOf]
  cases run.run { w with scope := w.scope.enter given } <;> rfl

/-- Behind a run with a scope stands the world that it leaves, but for the scope. -/
theorem worldAfter_within (given : Log.Scope) (run : Run σ τ α) (w : World σ τ) :
    worldAfter (within given run) w =
      let w' := worldAfter run { w with scope := w.scope.enter given }
      { w' with scope := w.scope.leave given w'.scope } := by
  rw [worldAfter, run_within, worldAfter]
  cases run.run { w with scope := w.scope.enter given } <;> rfl

/-- Behind a thread stands the world that it leaves, but for the scope and the name of the thread.
-/
theorem worldAfter_inThread (name : String) (run : Run σ τ α) (w : World σ τ) :
    worldAfter (inThread name run) w =
      let w' := worldAfter run { w with scope := {}, thread := name }
      { w' with scope := w.scope, thread := w.thread } := by
  rw [worldAfter, run_inThread, worldAfter]
  cases run.run { w with scope := {}, thread := name } <;> rfl

/-! ## What the world after an operation guarantees -/

/-- Whatever comes of the operation, the world that it leaves stands in relation `R` to the one that
it found. -/
def Guarantees (R : World σ τ → World σ τ → Prop) (run : Run σ τ α) : Prop :=
  ∀ w, R w (worldAfter run w)

/-- Every result of the operation has property `P`. -/
def Returns (P : α → Prop) (run : Run σ τ α) : Prop :=
  ∀ w a, outcomeOf run w = .ok a → P a

section

variable {R : World σ τ → World σ τ → Prop} {run : Run σ τ α} {next : α → Run σ τ β}

/-- The second run goes on from the world of the first one, unless this one fails. -/
theorem worldAfter_bind (w : World σ τ) :
    worldAfter (run >>= next) w = match run.run w with
      | .ok a w' => worldAfter (next a) w'
      | .error _ w' => w' := by
  unfold worldAfter
  rw [EStateM.run_bind]
  cases run.run w <;> rfl

/-- An operation that returns is followed by the next one. -/
theorem worldAfter_bind_of_run_eq {w w' : World σ τ} {a : α} (h : run.run w = .ok a w') :
    worldAfter (run >>= next) w = worldAfter (next a) w' := by
  rw [worldAfter_bind, h]

/-- What an operation returns does not matter to the world. -/
theorem worldAfter_bind_pure (run : Run σ τ α) (f : α → β) (w : World σ τ) :
    worldAfter (run >>= fun a => pure (f a)) w = worldAfter run w := by
  rw [worldAfter_bind]
  unfold worldAfter
  cases run.run w <;> rfl

/-- A sequence of two operations guarantees what both guarantee. -/
theorem Guarantees.bind [IsTrans (World σ τ) R] (hrun : Guarantees R run)
    (hnext : ∀ a, Guarantees R (next a)) : Guarantees R (run >>= next) := by
  intro w
  have hfirst := hrun w
  rw [worldAfter_bind]
  unfold worldAfter at hfirst
  cases hres : run.run w with
  | ok a w' =>
    rw [hres] at hfirst
    exact IsTrans.trans _ _ _ hfirst (hnext a w')
  | error fault w' =>
    rw [hres] at hfirst
    exact hfirst

/-- An attempt guarantees what the operation guarantees. -/
theorem Guarantees.attempt (h : Guarantees R run) : Guarantees R (attempt run) := by
  intro w
  have hworld : worldAfter (Engine.attempt run) w = worldAfter run w := by
    rw [worldAfter, run_attempt]
  rw [hworld]
  exact h w

/-- A block with a scope of its own guarantees what its body guarantees, if the scope does not
matter. -/
theorem Guarantees.within [IsTrans (World σ τ) R] (hscope : ∀ w scope, R w { w with scope })
    (h : Guarantees R run) (given : Log.Scope) : Guarantees R (within given run) := by
  intro w
  rw [worldAfter_within]
  -- One step to enter the scope and run the body, and one to leave it.
  have hbody := IsTrans.trans _ _ _ (hscope w (w.scope.enter given)) (h _)
  exact IsTrans.trans _ _ _ hbody (hscope _ _)

/-- A thread of its own guarantees what its body guarantees, if scope and thread do not matter. -/
theorem Guarantees.inThread [IsTrans (World σ τ) R]
    (hthread : ∀ w scope thread, R w { w with scope, thread })
    (h : Guarantees R run) (name : String) : Guarantees R (inThread name run) := by
  intro w
  rw [worldAfter_inThread]
  have hbody := IsTrans.trans _ _ _ (hthread w {} name) (h _)
  exact IsTrans.trans _ _ _ hbody (hthread _ _ _)

/-- A change of the world guarantees what holds between a world and its change. -/
theorem guarantees_modify {change : World σ τ → World σ τ} (h : ∀ w, R w (change w)) :
    Guarantees R (modify change : Run σ τ PUnit) := h

theorem guarantees_modifyGet {change : World σ τ → α × World σ τ} (h : ∀ w, R w (change w).2) :
    Guarantees R (modifyGet change : Run σ τ α) := h

variable [Std.Refl R]

/-- An operation that leaves every world as it is guarantees every reflexive relation. -/
theorem guarantees_of_worldAfter_eq (h : ∀ w, worldAfter run w = w) : Guarantees R run := by
  intro w
  rw [h w]
  exact Std.Refl.refl w

/-- To do nothing guarantees whatever holds between a world and itself. -/
theorem guarantees_pure (a : α) : Guarantees R (pure a : Run σ τ α) :=
  guarantees_of_worldAfter_eq fun _ => rfl

theorem guarantees_get : Guarantees R (get : Run σ τ (World σ τ)) :=
  guarantees_of_worldAfter_eq fun _ => rfl

/-- To fail changes nothing. -/
theorem guarantees_throw (fault : Fault) : Guarantees R (throw fault : Run σ τ α) :=
  guarantees_of_worldAfter_eq fun _ => rfl

/-- A result that is there already, a value or a fault, changes nothing. -/
theorem guarantees_lift (result : Except Fault α) : Guarantees R (lift result : Run σ τ α) :=
  guarantees_of_worldAfter_eq fun _ => by cases result <;> rfl

/-- To check the context changes nothing. -/
theorem guarantees_check [Time τ] (context taskId : Option String) :
    Guarantees R (check context taskId : Run σ τ Unit) :=
  guarantees_of_worldAfter_eq fun w => by
    rw [worldAfter, run_check, run_lift]
    cases w.surroundings.check context taskId <;> rfl

theorem guarantees_now : Guarantees R (now : Run σ τ Moment) :=
  guarantees_of_worldAfter_eq fun _ => rfl

theorem guarantees_reading : Guarantees R (reading : Run σ τ τ) :=
  guarantees_of_worldAfter_eq fun _ => rfl

theorem guarantees_agent (ref : Ref Agent) : Guarantees R (agent ref : Run σ τ Agent) :=
  guarantees_of_worldAfter_eq fun _ => rfl

theorem guarantees_task (ref : Ref Task) : Guarantees R (task ref : Run σ τ Task) :=
  guarantees_of_worldAfter_eq fun _ => rfl

/-- It does not matter whether anybody looks at the result. -/
theorem Guarantees.discard [IsTrans (World σ τ) R] (h : Guarantees R run) :
    Guarantees R (discard run) :=
  h.bind fun _ => guarantees_pure _

/-- What every round of a loop guarantees, the loop does. -/
theorem guarantees_forM [IsTrans (World σ τ) R] (items : List β) {body : β → Run σ τ PUnit}
    (h : ∀ item ∈ items, Guarantees R (body item)) : Guarantees R (items.forM body) := by
  induction items with
  | nil => exact guarantees_pure ()
  | cons item rest ih =>
    simp only [List.forM_eq_forM, List.forM_cons]
    exact (h item (by simp)).bind fun _ => ih fun other hmem => h other (by simp [hmem])

/-- What every round guarantees, the list of all rounds does. -/
theorem guarantees_mapM [IsTrans (World σ τ) R] (items : List β) {body : β → Run σ τ α}
    (h : ∀ item, Guarantees R (body item)) : Guarantees R (items.mapM body) := by
  induction items with
  | nil => exact guarantees_pure []
  | cons item rest ih =>
    rw [List.mapM_cons]
    exact (h item).bind fun _ => ih.bind fun _ => guarantees_pure _

/-- What every round guarantees, whatever it is handed on, all rounds do. -/
theorem guarantees_foldlM [IsTrans (World σ τ) R] (items : List β) {body : α → β → Run σ τ α}
    (h : ∀ a item, Guarantees R (body a item)) (a : α) : Guarantees R (items.foldlM body a) := by
  induction items generalizing a with
  | nil => exact guarantees_pure a
  | cons item rest ih =>
    rw [List.foldlM_cons]
    exact (h a item).bind fun _ => ih _

end

/-! ## What the results of an operation are -/

/-- The outcome of two runs is that of the second one, unless the first one fails. -/
theorem outcomeOf_bind (run : Run σ τ α) (next : α → Run σ τ β) (w : World σ τ) :
    outcomeOf (run >>= next) w = match run.run w with
      | .ok a w' => outcomeOf (next a) w'
      | .error fault _ => .error fault := by
  unfold outcomeOf
  rw [EStateM.run_bind]
  cases run.run w <;> rfl

/-- After an operation that succeeds, the next one starts in the world that it has left. -/
theorem bind_of_ok {run : Run σ τ α} (next : α → Run σ τ β) {w : World σ τ} {a : α}
    (h : outcomeOf run w = .ok a) :
    outcomeOf (run >>= next) w = outcomeOf (next a) (worldAfter run w) ∧
      worldAfter (run >>= next) w = worldAfter (next a) (worldAfter run w) := by
  have hrun : run.run w = .ok a (worldAfter run w) := run_eq_ok_iff.mpr ⟨h, rfl⟩
  rw [outcomeOf_bind, worldAfter_bind, hrun]
  exact ⟨rfl, rfl⟩

/-- After an operation that fails, there is no next one. -/
theorem bind_of_error {run : Run σ τ α} (next : α → Run σ τ β) {w : World σ τ} {fault : Fault}
    (h : outcomeOf run w = .error fault) :
    outcomeOf (run >>= next) w = .error fault ∧
      worldAfter (run >>= next) w = worldAfter run w := by
  have hrun : run.run w = .error fault (worldAfter run w) := run_eq_error_iff.mpr ⟨h, rfl⟩
  rw [outcomeOf_bind, worldAfter_bind, hrun]
  exact ⟨rfl, rfl⟩

/-- What comes of an operation that looks at its context first: nothing if the context says stop. -/
theorem rel_of_check [Time τ] {R : Except Fault α → World σ τ → Prop} {context : Option String}
    {run : Run σ τ α} {w : World σ τ} (hstopped : ∀ fault, R (.error fault) w)
    (h : R (outcomeOf run w) (worldAfter run w)) :
    R (outcomeOf (check context none >>= fun _ => run) w)
      (worldAfter (check context none >>= fun _ => run) w) := by
  rw [outcomeOf_bind, worldAfter_bind, run_check, run_lift]
  cases w.surroundings.check context none with
  | error fault => exact hstopped fault
  | ok _ => exact h

/-- What the second run returns, both of them do: only the second one returns. -/
theorem Returns.bind {P : β → Prop} {run : Run σ τ α} {next : α → Run σ τ β}
    (h : ∀ a, Returns P (next a)) : Returns P (run >>= next) := by
  intro w b hb
  rw [outcomeOf_bind] at hb
  cases hres : run.run w with
  | ok a w' =>
    rw [hres] at hb
    exact h a w' b hb
  | error fault w' =>
    rw [hres] at hb
    cases hb

/-- To do nothing returns what it is given. -/
theorem returns_pure {P : α → Prop} {a : α} (h : P a) : Returns P (pure a : Run σ τ α) := by
  rintro w b ⟨⟩
  exact h

/-- A run that fails returns nothing that would have to be as stated. -/
theorem returns_throw {P : α → Prop} (fault : Fault) : Returns P (throw fault : Run σ τ α) := by
  rintro w b ⟨⟩

/-- A run that takes a result over returns what the result is. -/
theorem returns_lift {P : α → Prop} {result : Except Fault α} (h : ∀ a, result = .ok a → P a) :
    Returns P (lift result : Run σ τ α) := by
  intro w b hb
  cases result with
  | ok a =>
    cases hb
    exact h _ rfl
  | error fault => cases hb

/-! ## Operations that do not fail -/

/-- The operation always returns. -/
def Total (run : Run σ τ α) : Prop :=
  ∀ w, ∃ a w', run.run w = .ok a w'

/-- To do nothing never fails. -/
theorem total_pure (a : α) : Total (pure a : Run σ τ α) :=
  fun w => ⟨a, w, rfl⟩

theorem total_get : Total (get : Run σ τ (World σ τ)) :=
  fun w => ⟨w, w, rfl⟩

/-- A line of the log is always written. -/
theorem total_log (level : Log.Level) (logger message : String) :
    Total (log level logger message : Run σ τ Unit) :=
  fun _ => ⟨(), _, rfl⟩

/-- An interaction is always recorded. -/
theorem total_recordInteraction (ref : Ref Agent) (key : String) (value : Value) :
    Total (recordInteraction ref key value : Run σ τ Unit) :=
  fun _ => ⟨(), _, rfl⟩

/-- Two runs that always return do so one after the other. -/
theorem Total.bind {run : Run σ τ α} {next : α → Run σ τ β} (hrun : Total run)
    (hnext : ∀ a, Total (next a)) : Total (run >>= next) := by
  intro w
  obtain ⟨a, w₁, hfirst⟩ := hrun w
  rw [EStateM.run_bind, hfirst]
  exact hnext a w₁

/-- A loop always returns if all its rounds do. -/
theorem total_forM (items : List β) {body : β → Run σ τ PUnit} (h : ∀ item, Total (body item)) :
    Total (items.forM body) := by
  induction items with
  | nil => exact total_pure ()
  | cons item rest ih =>
    simp only [List.forM_eq_forM, List.forM_cons]
    exact (h item).bind fun _ => ih

end Orchestration.Engine
