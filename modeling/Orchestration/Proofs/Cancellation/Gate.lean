import Orchestration.Proofs.Cancellation.Onward
import Orchestration.Proofs.Outcome

/-!
# Stopped calls do no work

A task looks at its call context before anything is done for it. So a task whose execution starts
when the context is stopped fails at once, with a fault that names it, and leaves the outside and
the memories of the agents alone (`Gated`).

Executions on behalf of one context make up a series (`Series`), in which anything may happen in
between. The main statement is `Series.gatesLater`: once the context is stopped, be it in the middle
of an execution, it stays so for the rest of the series, and every task that is started from then on
is gated.
-/

namespace Orchestration.Engine

variable {σ : Type} [Backend σ Rat]

/-! ## Time goes on -/

/-- If the backend was in a good state, then it still is, and time has only gone on. -/
def GoesOn (good : σ → Prop) (w w' : World σ Rat) : Prop :=
  good w.backend → w.surroundings.Onward w'.surroundings ∧ good w'.backend

omit [Backend σ Rat] in
instance (good : σ → Prop) : IsPreorder (World σ Rat) (GoesOn good) where
  refl _ hgood := ⟨Std.Refl.refl _, hgood⟩
  trans _ _ _ h h' hgood := by
    obtain ⟨honward, hmiddle⟩ := h hgood
    obtain ⟨honward', hlast⟩ := h' hmiddle
    exact ⟨IsTrans.trans _ _ _ honward honward', hlast⟩

section

variable {good : σ → Prop}

omit [Backend σ Rat] in
/-- What happens in an engine is no matter of time. -/
theorem goesOn_of_eq {w w' : World σ Rat} (hsurroundings : w'.surroundings = w.surroundings)
    (hbackend : w'.backend = w.backend) : GoesOn good w w' := by
  intro hgood
  rw [hsurroundings, hbackend]
  exact ⟨Std.Refl.refl _, hgood⟩

omit [Backend σ Rat] in
theorem goesOn_answered {α : Type} {w : World σ Rat} {answer : Answer σ Rat α}
    (h : good w.backend → answer.Steady good) : GoesOn good w (answered w answer) :=
  fun hgood => ⟨Surroundings.onward_applyAll _ (h hgood).effects, (h hgood).backend⟩

/-- Whatever a steady backend is asked for, time only goes on. -/
theorem goesOn_work (hsteady : Steady good) : WorkLaw (GoesOn (σ := σ) good) where
  called _ _ := goesOn_of_eq rfl rfl
  generate _ _ _ _ _ := goesOn_answered fun hgood => hsteady.generate hgood _ _ _ _ _
  chat _ _ _ _ _ := goesOn_answered fun hgood => hsteady.chat hgood _ _ _ _ _
  embed _ _ _ _ := goesOn_answered fun hgood => hsteady.embed hgood _ _ _ _
  logged _ _ := goesOn_of_eq rfl rfl
  recorded _ _ _ _ _ := goesOn_of_eq rfl rfl

theorem goesOn_execute (hsteady : Steady good) (ref : Ref Task) (agentRef : Ref Agent)
    (context : Option String) (tracked : Bool) :
    Guarantees (GoesOn (σ := σ) good) (execute ref agentRef context tracked) := by
  intro w
  obtain ⟨tasks, scope, journal, hworld⟩ := worldAfter_execute ref agentRef context tracked w
  have hwork : Guarantees (GoesOn good) (workOf w ref agentRef context tracked) :=
    (goesOn_work hsteady).perform _ agentRef context
  rw [hworld]
  -- Taking the task up and settling it take no time.
  exact hwork (takenUp w ref agentRef tracked)

end

/-! ## The gate -/

/-- The task was stopped before anything was done for it: it has failed as cancelled, on its own
account, and there was no call to the outside and no interaction. -/
structure Gated (w : World σ Rat) (ref : Ref Task) (outcome : Except Fault TaskResult)
    (w' : World σ Rat) : Prop where
  failed : ∃ message,
    outcome = .error (.execution .cancelled message (some (w.tasks.task ref).id)) ∧
    (w.tasks.live.Has ref → (w'.tasks.task ref).status = .failed ∧
      (w'.tasks.task ref).error = message)
  history : w'.history = w.history
  agents : w'.agents = w.agents
  backend : w'.backend = w.backend
  surroundings : w'.surroundings = w.surroundings

/-- A task that is started for a stopped context is gated. -/
theorem gated_of_stopped {w : World σ Rat} {name : String} (h : w.surroundings.Stopped name)
    (ref : Ref Task) (agentRef : Ref Agent) (tracked : Bool) :
    Gated w ref (outcomeOf (execute ref agentRef (some name) tracked) w)
      (worldAfter (execute ref agentRef (some name) tracked) w) := by
  obtain ⟨tasks, scope, journal, hworld⟩ := worldAfter_execute ref agentRef (some name) tracked w
  have hexecuted := executed ref agentRef (some name) tracked w
  set w₀ := takenUp w ref agentRef tracked
  have hid : (w₀.tasks.task ref).id = (w.tasks.task ref).id :=
    (sameWork_tasksTakenUp w.tasks ref ref _ tracked).id
  -- Taking the task up does not touch the surroundings.
  have hstopped : w₀.surroundings.Stopped name := h
  obtain ⟨message, hcheck⟩ := hstopped.refused (some (w₀.tasks.task ref).id)
  obtain ⟨hfault, hsame⟩ : outcomeOf (workOf w ref agentRef (some name) tracked) w₀ = _ ∧
      worldAfter (workOf w ref agentRef (some name) tracked) w₀ = w₀ :=
    run_eq_error_iff.mp (run_perform_stopped agentRef hcheck)
  have hfailed : outcomeOf (execute ref agentRef (some name) tracked) w =
      .error (.execution .cancelled message (some (w.tasks.task ref).id)) := by
    rw [outcomeOf_execute_of_error hfault, ← hid]
    rfl
  -- So the work has left everything as it was, and only the task and the journal have changed.
  rw [hsame] at hworld
  rw [hfailed] at hexecuted
  refine ⟨⟨message, hfailed, hexecuted.failed⟩, ?_, ?_, ?_, ?_⟩ <;> rw [hworld] <;> rfl

/-! ## Series of executions -/

/-- A task whose execution starts. -/
structure Start (σ : Type) where
  world : World σ Rat
  task : Ref Task
  agent : Ref Agent
  tracked : Bool

namespace Start

/-- What comes of the execution on behalf of a context. -/
def outcome (name : String) (start : Start σ) : Except Fault TaskResult :=
  outcomeOf (execute start.task start.agent (some name) start.tracked) start.world

/-- The world that the execution leaves. -/
def left (name : String) (start : Start σ) : World σ Rat :=
  worldAfter (execute start.task start.agent (some name) start.tracked) start.world

theorem goesOn_left {good : σ → Prop} (hsteady : Steady good) (name : String) (start : Start σ) :
    GoesOn good start.world (start.left name) :=
  goesOn_execute hsteady _ _ _ _ start.world

end Start

/-- Tasks are carried out one after the other on behalf of the same context. In between, anything
may happen that does not turn the clock back and does not revive a context. -/
inductive Series (good : σ → Prop) (name : String) :
    World σ Rat → List (Start σ) → World σ Rat → Prop
  | done (w : World σ Rat) : Series good name w [] w
  | elsewhere {w w₁ w₂ : World σ Rat} {starts : List (Start σ)} (h : GoesOn good w w₁)
      (hrest : Series good name w₁ starts w₂) : Series good name w starts w₂
  | execute {w : World σ Rat} (start : Start σ) {starts : List (Start σ)}
      (hrest : Series good name (start.left name) starts w) :
      Series good name start.world (start :: starts) w

/-- The context is stopped for good, and none of the tasks gets past the gate. -/
structure Stopping (name : String) (starts : List (Start σ)) (w' : World σ Rat) : Prop where
  gated : ∀ start ∈ starts, start.world.surroundings.Stopped name ∧
    Gated start.world start.task (start.outcome name) (start.left name)
  final : w'.surroundings.Stopped name

/-- In a series of executions on behalf of one context, let the context be stopped at the beginning,
or when some task is started, or when it has been carried out. From then on the context stays
stopped, and every task that is started is gated. -/
structure GatesLater (name : String) (w : World σ Rat) (starts : List (Start σ))
    (w' : World σ Rat) : Prop where
  expired : w.surroundings.Expired name → w'.surroundings.Expired name
  fromStart : w.surroundings.Stopped name → Stopping name starts w'
  fromTask : ∀ start after, start :: after <:+ starts → start.world.surroundings.Stopped name →
    Stopping name (start :: after) w'
  /-- This is the case of a context that is stopped by the call that a task makes. -/
  afterTask : ∀ start after, start :: after <:+ starts →
    (start.left name).surroundings.Stopped name → Stopping name after w'

namespace Series

variable {good : σ → Prop} {name : String} {w w' : World σ Rat} {starts : List (Start σ)}

theorem append {w₁ : World σ Rat} {later : List (Start σ)} (h : Series good name w starts w₁)
    (hlater : Series good name w₁ later w') : Series good name w (starts ++ later) w' := by
  induction h with
  | done => exact hlater
  | elsewhere hgoes _ ih => exact .elsewhere hgoes (ih hlater)
  | execute start _ ih => exact .execute start (ih hlater)

theorem goesOn (hsteady : Steady good) (h : Series good name w starts w') : GoesOn good w w' := by
  induction h with
  | done => exact Std.Refl.refl _
  | elsewhere hgoes _ ih => exact IsTrans.trans _ _ _ hgoes ih
  | execute start _ ih => exact IsTrans.trans _ _ _ (start.goesOn_left hsteady name) ih

/-- **Run lemma.** From a stopped context on, every task of the series is gated. -/
theorem stopping (hsteady : Steady good) (h : Series good name w starts w')
    (hgood : good w.backend) (hstopped : w.surroundings.Stopped name) :
    Stopping name starts w' := by
  -- The invariant of the induction is that the context is stopped and the backend is good.
  induction h with
  | done => exact ⟨fun _ hmem => absurd hmem List.not_mem_nil, hstopped⟩
  | elsewhere hgoes _ ih =>
    obtain ⟨honward, hlater⟩ := hgoes hgood
    exact ih hlater (honward.stopped hstopped)
  | execute start _ ih =>
    obtain ⟨honward, hlater⟩ := start.goesOn_left hsteady name hgood
    have hrest := ih hlater (honward.stopped hstopped)
    refine ⟨List.forall_mem_cons.mpr ⟨⟨hstopped, ?_⟩, hrest.gated⟩, hrest.final⟩
    exact gated_of_stopped hstopped start.task start.agent start.tracked

/-- The executions from one of them on are a series of their own. -/
theorem of_suffix (hsteady : Steady good) (h : Series good name w starts w')
    (hgood : good w.backend) {start : Start σ} {after : List (Start σ)}
    (hsuffix : start :: after <:+ starts) :
    good start.world.backend ∧ Series good name (start.left name) after w' := by
  induction h with
  | done => exact absurd hsuffix.length_le (Nat.not_succ_le_zero _)
  | elsewhere hgoes _ ih => exact ih (hgoes hgood).2 hsuffix
  | execute first hrest ih =>
    -- The execution in question is the first one of the series or one of the others.
    rcases List.suffix_cons_iff.mp hsuffix with heq | hlater
    · cases heq
      exact ⟨hgood, hrest⟩
    · exact ih (first.goesOn_left hsteady name hgood).2 hlater

/-- A context that is stopped gates all that comes later. -/
theorem gatesLater (hsteady : Steady good) (h : Series good name w starts w')
    (hgood : good w.backend) : GatesLater name w starts w' where
  expired := (h.goesOn hsteady hgood).1.expired
  fromStart := h.stopping hsteady hgood
  fromTask start after hsuffix := by
    obtain ⟨hgood', hrest⟩ := h.of_suffix hsteady hgood hsuffix
    exact (Series.execute start hrest).stopping hsteady hgood'
  afterTask start after hsuffix := by
    obtain ⟨hgood', hrest⟩ := h.of_suffix hsteady hgood hsuffix
    exact hrest.stopping hsteady (start.goesOn_left hsteady name hgood').2

end Series

end Orchestration.Engine
