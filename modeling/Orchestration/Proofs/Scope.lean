import Orchestration.Proofs.Execution

/-!
# Scopes are restored

A block of a program that sets fields of its scope is left with the tokens of its settings. Whatever
the body has done to the scope, and whether it has failed or not, each field that the block was
given then has the value that it had outside, and each other field has the value that the body left
in it (`Restored`). A field that a program sets only in blocks that are given it is as it was when
the program ends (`get_runAll`), and the scope of a thread is nobody else's.

The operations of the engine use the same blocks. An execution gives its block the agent and the
task and does nothing else to the scope, so its caller finds the scope as it was (`scope_execute`).

The main statement is `scope_restored`.
-/

namespace Orchestration

namespace Log

open ScopeAction (run runAll)

namespace Scope

/-- The scope `after` a block has the given fields from `outside` and the others from what the body
has `left`. -/
def Restored (outside given left after : Scope) : Prop :=
  ∀ field, after.get field = if (given.get field).isSome then outside.get field else left.get field

theorem restored_leave (outside given left : Scope) :
    Restored outside given left (outside.leave given left) :=
  get_leave outside given left

/-- A body that does nothing to its scope leaves the scope outside as it is. -/
theorem leave_enter (outside given : Scope) :
    outside.leave given (outside.enter given) = outside := by
  refine ext_get fun field => ?_
  rw [get_leave, get_enter]
  cases given.get field <;> rfl

/-- Setting the agent and the task leaves the conversation. -/
theorem get_setTask (scope : Scope) (agentId taskId : Option String) :
    (scope.setTask agentId taskId).get .conversationId = scope.get .conversationId := rfl

/-- Setting the conversation leaves the agent and the task. -/
theorem get_setConversation (scope : Scope) (conversationId : Option String) {field : Field}
    (h : field ≠ .conversationId) :
    (scope.setConversation conversationId).get field = scope.get field := by
  cases field with
  | agentId => rfl
  | taskId => rfl
  | conversationId => exact absurd rfl h

end Scope

/-! ## Programs -/

section Programs

variable (field : Scope.Field)

mutual

/-- The action sets the field at most in threads and in blocks that are given it. -/
def ScopeAction.Spares : ScopeAction → Prop
  | .setTask _ _ => field = .conversationId
  | .setConversation _ => field ≠ .conversationId
  | .clear => False
  | .fail => True
  | .note _ => True
  | .block given body => (given.get field).isSome ∨ ScopeAction.AllSpare body
  | .attempt body => ScopeAction.AllSpare body
  | .thread _ => True

/-- All of the actions do. -/
def ScopeAction.AllSpare : List ScopeAction → Prop
  | [] => True
  | action :: rest => action.Spares ∧ ScopeAction.AllSpare rest

end

variable {field}

/-- What a block does to its scope, by its body. -/
theorem run_block (outside given : Scope) (body : List ScopeAction) :
    run outside (.block given body) =
      let inside := runAll (outside.enter given) body
      { inside with scope := outside.leave given inside.scope } := by
  rw [run]
  simp only [Scope.fst_opened, Scope.reset_opened]

/-- A block sets the given fields for its body, and restores them when the body has ended. -/
structure SetsAndRestores (outside given : Scope) (body : List ScopeAction) : Prop where
  /-- Before the body acts, given fields are as they are given, and the others as outside. -/
  entered : ∀ field, (outside.opened given).1.get field = (given.get field <|> outside.get field)
  /-- This is what a body that starts with a note notes. -/
  noted : ∀ name, (run outside (.block given (.note name :: body))).notes =
    (name, (outside.opened given).1) :: (runAll (outside.opened given).1 body).notes
  /-- The block fails if its body does. -/
  failed : (run outside (.block given body)).failed = (runAll (outside.opened given).1 body).failed
  notes : (run outside (.block given body)).notes = (runAll (outside.opened given).1 body).notes
  restored : Scope.Restored outside given (runAll (outside.opened given).1 body).scope
    (run outside (.block given body)).scope

theorem setsAndRestores (outside given : Scope) (body : List ScopeAction) :
    SetsAndRestores outside given body where
  entered field := by rw [Scope.fst_opened, Scope.get_enter]
  noted name := by
    -- The note is the first thing that the body does.
    rw [run_block, runAll, Scope.fst_opened]
    rfl
  failed := rfl
  notes := rfl
  restored := by
    rw [run_block, Scope.fst_opened]
    exact Scope.restored_leave _ _ _

/-- An attempt leaves the scope that its body leaves. -/
theorem scope_attempt (scope : Scope) (body : List ScopeAction) :
    (run scope (.attempt body)).scope = (runAll scope body).scope := by
  rw [run]
  split <;> rfl

/-- Later actions see the scope that the earlier ones have left, and after a failure there are
none. -/
theorem scope_andThen (first : ScopeOutcome) (next : Scope → ScopeOutcome) :
    (first.andThen next).scope =
      if first.failed then first.scope else (next first.scope).scope := by
  rw [ScopeOutcome.andThen]
  split <;> rfl

mutual

/-- An action leaves a field that it spares. -/
theorem get_run (scope : Scope) :
    ∀ action : ScopeAction, action.Spares field →
      (run scope action).scope.get field = scope.get field
  | .setTask agentId taskId, h => by
    obtain rfl : field = .conversationId := h
    exact scope.get_setTask agentId taskId
  | .setConversation conversationId, h => scope.get_setConversation conversationId h
  | .clear, h => h.elim
  | .fail, _ => rfl
  | .note _, _ => rfl
  | .block given body, h => by
    show (run scope (.block given body)).scope.get field = scope.get field
    rw [run_block]
    show (scope.leave given (runAll (scope.enter given) body).scope).get field = scope.get field
    rw [Scope.get_leave]
    split
    next => rfl
    next hnot =>
      -- The block is not given the field, so it is the body that spares it.
      have hbody : ScopeAction.AllSpare field body := h.resolve_left hnot
      rw [get_runAll _ body hbody, Scope.get_enter, Option.not_isSome_iff_eq_none.mp hnot]
      rfl
  | .attempt body, h => by
    rw [scope_attempt]
    exact get_runAll scope body h
  | .thread _, _ => rfl

/-- Actions leave a field that all of them spare, even if one of them fails. -/
theorem get_runAll (scope : Scope) : ∀ actions : List ScopeAction,
    ScopeAction.AllSpare field actions → (runAll scope actions).scope.get field = scope.get field
  | [], _ => rfl
  | action :: rest, ⟨haction, hrest⟩ => by
    rw [runAll, scope_andThen]
    split
    next => exact get_run scope action haction
    next => rw [get_runAll _ rest hrest, get_run scope action haction]

end

end Programs

end Log

/-! ## The engine -/

namespace Engine

variable {σ τ α : Type}

/-- The same scope. -/
def SameScope (w w' : World σ τ) : Prop :=
  w'.scope = w.scope

instance : IsPreorder (World σ τ) SameScope where
  refl _ := rfl
  trans _ _ _ h h' := h'.trans h

/-- What a block of the engine does to the scope, by what its operation does. -/
theorem scope_within (given : Log.Scope) (run : Run σ τ α) (w : World σ τ) :
    (worldAfter (within given run) w).scope =
      w.scope.leave given (worldAfter run { w with scope := w.scope.enter given }).scope := by
  rw [worldAfter_within]

theorem scope_inThread (name : String) (run : Run σ τ α) (w : World σ τ) :
    (worldAfter (inThread name run) w).scope = w.scope := by
  rw [worldAfter_inThread]

/-- A thread of its own starts without a scope, whoever starts it. -/
theorem outcomeOf_inThread (name : String) (run : Run σ τ α) (w : World σ τ) :
    outcomeOf (inThread name run) w = outcomeOf run { w with scope := {}, thread := name } := by
  rw [outcomeOf, run_inThread, outcomeOf]
  cases run.run { w with scope := {}, thread := name } <;> rfl

variable [Time τ] [Backend σ τ]

/-- The work on a task does nothing to the scope. -/
theorem workLaw_sameScope : WorkLaw (SameScope : World σ τ → World σ τ → Prop) where
  called _ _ := rfl
  generate _ _ _ _ _ := rfl
  chat _ _ _ _ _ := rfl
  embed _ _ _ _ := rfl
  logged _ _ := rfl
  recorded _ _ _ _ _ := rfl

/-- An execution leaves the scope of its caller, whether it succeeds or fails. -/
theorem scope_execute (ref : Ref Task) (agentRef : Ref Agent) (context : Option String)
    (tracked : Bool) (w : World σ τ) :
    (worldAfter (execute ref agentRef context tracked) w).scope = w.scope := by
  obtain ⟨-, hworld⟩ := run_execute ref agentRef context tracked w
  obtain ⟨journal, hsettle⟩ := worldAfter_settle ref w.surroundings.clock.reading
    (outcomeOf (workOf w ref agentRef context tracked) (takenUp w ref agentRef tracked))
    (worldAfter (workOf w ref agentRef context tracked) (takenUp w ref agentRef tracked))
  -- The work finds the agent and the task in the scope, and leaves them there.
  have hwork : SameScope (takenUp w ref agentRef tracked)
      (worldAfter (workOf w ref agentRef context tracked) (takenUp w ref agentRef tracked)) :=
    workLaw_sameScope.perform _ _ _ _
  unfold workOf at hsettle hwork
  dsimp only at hworld
  rw [hworld, hsettle]
  show w.scope.leave (scopeOf w ref agentRef) (worldAfter _ _).scope = w.scope
  rw [hwork]
  exact Log.Scope.leave_enter w.scope (scopeOf w ref agentRef)

end Engine

section Main

open Log Engine

variable {σ τ α : Type} [Time τ] [Backend σ τ]

/-- **Scopes are restored.** A body in a block starts with the given fields as they are given and
the others as they were outside. When it ends, by a failure or not, the given fields are what they
were outside and the others what the body has left; this holds of the blocks of the engine as it
does of those of a program. A field that the actions spare is as it was before them. A thread starts
without a scope, and its parent keeps its own. An execution leaves the scope of its caller as it
was, whatever comes of it. -/
theorem scope_restored (outside given : Scope) (body : List ScopeAction) :
    SetsAndRestores outside given body ∧
      (∀ field, ScopeAction.AllSpare field body →
        (ScopeAction.runAll outside body).scope.get field = outside.get field) ∧
      ScopeAction.run outside (.thread body) =
        ⟨outside, false, (ScopeAction.runAll {} body).notes⟩ ∧
      (∀ (run : Run σ τ α) (w : World σ τ),
        let inside := { w with scope := (w.scope.opened given).1 };
        outcomeOf (within given run) w = outcomeOf run inside ∧
          Scope.Restored w.scope given (worldAfter run inside).scope
            (worldAfter (within given run) w).scope) ∧
      (∀ (name : String) (run : Run σ τ α) (w : World σ τ),
        outcomeOf (inThread name run) w = outcomeOf run { w with scope := {}, thread := name } ∧
          (worldAfter (inThread name run) w).scope = w.scope) ∧
      ∀ (w : World σ τ) (task : Ref Task) (agent : Ref Agent) (context : Option String)
        (tracked : Bool), (worldAfter (execute task agent context tracked) w).scope = w.scope := by
  refine ⟨setsAndRestores outside given body, fun field => get_runAll outside body, rfl,
    fun run w => ?_, fun name run w => ?_, fun w task agent context tracked => ?_⟩
  · dsimp only
    rw [Scope.fst_opened, outcomeOf_within, scope_within]
    exact ⟨rfl, Scope.restored_leave _ _ _⟩
  · exact ⟨outcomeOf_inThread name run w, scope_inThread name run w⟩
  · exact scope_execute task agent context tracked w

/-- A block for a task, whose body names another agent and another task, opens a block for a
conversation, clears everything there, and fails. -/
def failingBlock : ScopeAction :=
  .block { taskId := some "inner" } [.setTask (some "other") (some "stray"),
    .block { conversationId := some "talk" } [.clear, .fail], .note "never"]

/-- Outside of the block, the task is what it was, though nothing is left of the agent, and the
conversation is what it was before the inner block. -/
theorem scope_restored_failingBlock :
    let outside : Scope := ⟨some "helper", some "outer", some "table"⟩
    let after := ScopeAction.run outside failingBlock
    ScopeAction.AllSpare .taskId [failingBlock] ∧ after.failed ∧ after.notes = [] ∧
      after.scope = ⟨none, some "outer", some "table"⟩ ∧
      (ScopeAction.runAll outside [failingBlock]).scope.get .taskId = some "outer" := by
  intro outside after
  have hspare : ScopeAction.AllSpare .taskId [failingBlock] := ⟨.inl rfl, trivial⟩
  have hrestored := scope_restored (σ := Scripted.Script Rat) (τ := Rat) (α := Unit) outside {}
    [failingBlock]
  exact ⟨hspare, rfl, rfl, rfl, hrestored.2.1 .taskId hspare⟩

end Main

end Orchestration
