import Orchestration.Proofs.Execution
import Orchestration.Proofs.Ground

/-!
# The journal is never read

Nothing that an engine does for a task depends on what was logged, on the scope of the log, or on
the name of the thread that it happens in. Two worlds that differ in nothing else are alike
(`Alike`), and an operation is blind if it has the same outcome in alike worlds and leaves alike
worlds (`Blind`).

The main statement is `blind_execute`.
-/

namespace Orchestration.Engine

variable {σ τ α : Type}

/-- Two worlds differ at most in the scope of the log, in the running thread and in the journal. -/
def Alike (w w' : World σ τ) : Prop :=
  ∃ scope thread journal, w' = { w with scope, thread, journal }

/-- The operation has the same outcome in alike worlds, and leaves alike worlds. -/
abbrev Blind (run : Run σ τ α) : Prop :=
  Respects Alike run

instance : IsPreorder (World σ τ) Alike where
  refl w := ⟨w.scope, w.thread, w.journal, rfl⟩
  trans _ _ _ h h' := by
    obtain ⟨_, _, _, rfl⟩ := h
    obtain ⟨scope, thread, journal, rfl⟩ := h'
    exact ⟨scope, thread, journal, rfl⟩

/-- What is logged, and under which scope, makes no difference. -/
theorem alike_with (w : World σ τ) (scope : Log.Scope) (thread : String)
    (journal : List Log.Record) : Alike w { w with scope, thread, journal } :=
  ⟨scope, thread, journal, rfl⟩

/-- The work on a task does not look at anything in which alike worlds differ. -/
theorem groundLaw_alike : GroundLaw (Alike : World σ τ → World σ τ → Prop) where
  ground := by
    rintro w _ ⟨scope, thread, journal, rfl⟩
    exact ⟨rfl, rfl, rfl, rfl, rfl⟩
  called := by
    rintro w _ history ⟨scope, thread, journal, rfl⟩
    exact alike_with _ _ _ _
  answered := by
    rintro w _ surroundings backend ⟨scope, thread, journal, rfl⟩
    exact alike_with _ _ _ _
  recorded := by
    rintro w _ agents ⟨scope, thread, journal, rfl⟩
    exact alike_with _ _ _ _
  logged := by
    rintro w _ _ _ ⟨scope, thread, journal, rfl⟩
    exact alike_with _ _ _ _

/-! ## The steps of an execution -/

/-- An operation that only reads is blind if what it reads is the same in alike worlds. -/
theorem blind_of_read {run : Run σ τ α} (read : World σ τ → α)
    (hrun : ∀ w, run.run w = .ok (read w) w)
    (h : ∀ w scope thread journal, read { w with scope, thread, journal } = read w) :
    Blind run := by
  refine respects_of_read read hrun ?_
  rintro w _ ⟨scope, thread, journal, rfl⟩
  exact h w scope thread journal

/-- A change is blind if it does the same to alike worlds. -/
theorem blind_modify {change : World σ τ → World σ τ}
    (h : ∀ w scope thread journal, Alike (change w) (change { w with scope, thread, journal })) :
    Blind (modify change : Run σ τ PUnit) := by
  refine respects_modify ?_
  rintro w _ ⟨scope, thread, journal, rfl⟩
  exact h w scope thread journal

/-- A scope is seen in the log only. -/
theorem Blind.within {run : Run σ τ α} (h : Blind run) (given : Log.Scope) :
    Blind (within given run) := by
  rintro w _ ⟨scope, thread, journal, rfl⟩
  have henter : Alike { w with scope := w.scope.enter given }
      { w with scope := scope.enter given, thread, journal } := alike_with _ _ _ _
  obtain ⟨houtcome, hworld⟩ := h _ _ henter
  -- The scopes that are restored when the body ends may differ, too.
  rw [outcomeOf_within, outcomeOf_within, worldAfter_within, worldAfter_within]
  refine ⟨houtcome, ?_⟩
  obtain ⟨_, _, _, hsame⟩ := hworld
  dsimp only
  rw [hsame]
  exact alike_with _ _ _ _

theorem blind_task (ref : Ref Task) : Blind (task ref : Run σ τ Task) :=
  blind_of_read (fun w => w.tasks.task ref) (fun _ => rfl) fun _ _ _ _ => rfl

theorem blind_now : Blind (now : Run σ τ Moment) :=
  blind_of_read (fun w => w.surroundings.clock.now) (fun _ => rfl) fun _ _ _ _ => rfl

theorem blind_reading : Blind (reading : Run σ τ τ) :=
  blind_of_read (fun w => w.surroundings.clock.reading) (fun _ => rfl) fun _ _ _ _ => rfl

theorem blind_changeTask (ref : Ref Task) (change : Task → Task) :
    Blind (changeTask ref change : Run σ τ Unit) :=
  blind_modify fun _ _ _ _ => alike_with _ _ _ _

theorem blind_assign (ref : Ref Task) (agent : Agent) (tracked : Bool) :
    Blind (assign ref agent tracked : Run σ τ Unit) := by
  cases tracked with
  | false => exact (blind_changeTask _ _).bind fun _ => respects_pure _
  | true =>
    exact (blind_changeTask _ _).bind fun _ => blind_modify fun _ _ _ _ => alike_with _ _ _ _

variable [Time τ]

theorem blind_settle (ref : Ref Task) (start : τ) (outcome : Except Fault TaskResult) :
    Blind (settle ref start outcome : Run σ τ TaskResult) := by
  cases outcome with
  | error fault =>
    refine (blind_task ref).bind fun _ => (blind_changeTask _ _).bind fun _ => ?_
    exact (groundLaw_alike.log _ _ _).bind fun _ => respects_throw _
  | ok result =>
    refine blind_reading.bind fun _ => blind_now.bind fun _ => ?_
    refine (blind_changeTask _ _).bind fun _ => (blind_task ref).bind fun _ => ?_
    exact (groundLaw_alike.log _ _ _).bind fun _ => respects_pure _

/-! ## Executions -/

/-- **An execution is blind.** Whatever was logged before it, and in whatever thread it happens, it
comes to the same. -/
theorem blind_execute [Backend σ τ] (ref : Ref Task) (agentRef : Ref Agent)
    (context : Option String) (tracked : Bool) :
    Blind (execute ref agentRef context tracked : Run σ τ TaskResult) := by
  refine (groundLaw_alike.agent agentRef).bind fun agent => ?_
  refine (blind_assign ref agent tracked).bind fun _ => ?_
  refine (blind_task ref).bind fun task => Blind.within ?_ _
  refine blind_reading.bind fun start => (blind_changeTask _ _).bind fun _ => ?_
  refine (blind_task ref).bind fun task => ?_
  refine (groundLaw_alike.perform _ _ _).attempt.bind fun outcome => ?_
  exact blind_settle ref start outcome

end Orchestration.Engine
