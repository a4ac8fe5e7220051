import Mathlib.Algebra.Order.Ring.Rat
import Mathlib.Order.Defs.Unbundled
import Mathlib.Tactic.Linarith
import Orchestration.Inference.Scripted

/-!
# Stopping is final

Time is counted in exact numbers here, and the monotonic clock never goes back. Then a context that
was cancelled, or whose deadline has passed, stays so: nothing that a backend does to its
surroundings brings it back (`Surroundings.Onward`). All three ways to look at a context agree about
it (`CallContext.agreeing`).

A backend is steady if none of its answers takes less than no time (`Steady`). Scripted backends are
steady if none of their effects does (`Scripted.steady_script`).
-/

namespace Orchestration

/-! ## Contexts -/

namespace CallContext

/-- The second context is the first one at a later time. It may have been cancelled since. -/
structure Later (context later : CallContext Rat) : Prop where
  deadline : later.deadline = context.deadline
  cancelled : context.cancelled = true → later.cancelled = true

instance : IsPreorder (CallContext Rat) Later where
  refl _ := ⟨rfl, id⟩
  trans _ _ _ h h' :=
    ⟨h'.deadline.trans h.deadline, fun hcancelled => h'.cancelled (h.cancelled hcancelled)⟩

theorem later_cancel (context : CallContext Rat) : context.Later context.cancel :=
  ⟨rfl, fun _ => rfl⟩

variable {context later : CallContext Rat} {now afterwards : Rat}

theorem expired_iff : context.expired now = true ↔ ∃ deadline, context.deadline = some deadline ∧
    deadline ≤ now := by
  unfold expired
  cases context.deadline with
  | none => simp
  | some deadline => simp [Time.upTo]

/-- A deadline that has passed stays passed. -/
theorem Later.expired (h : context.Later later) (hnow : now ≤ afterwards)
    (hexpired : context.expired now = true) : later.expired afterwards = true := by
  obtain ⟨deadline, hdeadline, hpassed⟩ := expired_iff.mp hexpired
  exact expired_iff.mpr ⟨deadline, h.deadline.trans hdeadline, hpassed.trans hnow⟩

/-- A context that is stopped stays stopped. -/
theorem Later.stopped (h : context.Later later) (hnow : now ≤ afterwards)
    (hstopped : context.stopped now = true) : later.stopped afterwards = true := by
  rw [CallContext.stopped, Bool.or_eq_true] at hstopped ⊢
  exact hstopped.imp h.cancelled (h.expired hnow)

/-- The ways to look at a context agree: work is refused exactly if the context is stopped, and then
as a cancelled call on behalf of the task; no time is left exactly if the deadline has passed. -/
structure Agreeing (context : CallContext Rat) (now : Rat) : Prop where
  stopped : context.stopped now = true ↔ context.cancelled = true ∨ context.expired now = true
  refused : context.stopped now = true → ∀ taskId, ∃ message,
    context.check now taskId = .error (.execution .cancelled message taskId)
  admitted : context.stopped now = false → ∀ taskId, context.check now taskId = .ok ()
  remaining : context.expired now = true ↔ context.remaining now = some 0

theorem agreeing (context : CallContext Rat) (now : Rat) : context.Agreeing now where
  stopped := by rw [CallContext.stopped, Bool.or_eq_true]
  refused hstopped taskId := by
    rw [CallContext.stopped, Bool.or_eq_true] at hstopped
    unfold CallContext.check
    split
    · exact ⟨_, rfl⟩
    next hcancelled => exact ⟨_, if_pos (hstopped.resolve_left hcancelled)⟩
  admitted hlive taskId := by
    rw [CallContext.stopped, Bool.or_eq_false_iff] at hlive
    simp [CallContext.check, hlive]
  remaining := by
    unfold CallContext.remaining CallContext.expired
    cases context.deadline with
    | none => simp
    | some deadline =>
      -- Before the deadline, the time that is left is more than none.
      by_cases hpassed : deadline ≤ now
      · simp [Time.upTo, Time.zero, hpassed]
      · have hleft : 0 < deadline - now := by linarith
        simp [Time.upTo, Time.before, Time.minus, Time.zero, hpassed, hleft.ne']

end CallContext

/-! ## Surroundings -/

/-- The effect does not turn the clock back. -/
def Effect.Forward : Effect Rat → Prop
  | .pass seconds => 0 ≤ seconds
  | .cancel _ => True

namespace Surroundings

/-- The second surroundings are the first ones at a later time: no context has gone, and none was
brought back. -/
structure Onward (s later : Surroundings Rat) : Prop where
  reading : s.clock.reading ≤ later.clock.reading
  contexts : ∀ name context, Table.find? s.contexts name = some context →
    ∃ context', Table.find? later.contexts name = some context' ∧ context.Later context'

instance : IsPreorder (Surroundings Rat) Onward where
  refl s := ⟨le_refl _, fun _ context hfound => ⟨context, hfound, Std.Refl.refl _⟩⟩
  trans s₁ s₂ s₃ h h' := by
    refine ⟨h.reading.trans h'.reading, fun name context hfound => ?_⟩
    obtain ⟨context', hfound', hlater⟩ := h.contexts name context hfound
    obtain ⟨last, hlast, hlater'⟩ := h'.contexts name context' hfound'
    exact ⟨last, hlast, IsTrans.trans _ _ _ hlater hlater'⟩

/-- The context of that name is cancelled or has passed its deadline. -/
def Stopped (s : Surroundings Rat) (name : String) : Prop :=
  (s.context (some name)).stopped s.clock.reading = true

/-- The context of that name has passed its deadline. -/
def Expired (s : Surroundings Rat) (name : String) : Prop :=
  (s.context (some name)).expired s.clock.reading = true

variable {s later : Surroundings Rat} {name : String}

/-- A context that is stopped is known, and is still known later. -/
theorem Onward.later_context (h : s.Onward later)
    (hstopped : (s.context (some name)).stopped s.clock.reading = true) :
    (s.context (some name)).Later (later.context (some name)) := by
  unfold Surroundings.context at hstopped ⊢
  rw [Option.bind_some] at hstopped ⊢
  cases hfound : Table.find? s.contexts name with
  | none =>
    -- A name that is not known stands for a context that nobody can stop.
    rw [hfound] at hstopped
    cases hstopped
  | some context =>
    obtain ⟨context', hfound', hlater⟩ := h.contexts name context hfound
    rw [Option.bind_some, hfound']
    exact hlater

/-- **Stopping is final.** Once a context is stopped, it stays so. -/
theorem Onward.stopped (h : s.Onward later) (hstopped : s.Stopped name) : later.Stopped name :=
  (h.later_context hstopped).stopped h.reading hstopped

/-- A deadline that has passed stays passed. -/
theorem Onward.expired (h : s.Onward later) (hexpired : s.Expired name) : later.Expired name := by
  have hstopped : s.Stopped name := by
    rw [Stopped, CallContext.stopped, Bool.or_eq_true]
    exact .inr hexpired
  exact (h.later_context hstopped).expired h.reading hexpired

/-- Work on behalf of a stopped context is refused as cancelled. -/
theorem Stopped.refused (h : s.Stopped name) (taskId : Option String) :
    ∃ message, s.check (some name) taskId = .error (.execution .cancelled message taskId) :=
  (CallContext.agreeing _ _).refused h taskId

theorem onward_apply (s : Surroundings Rat) {effect : Effect Rat} (h : effect.Forward) :
    s.Onward (s.apply effect) := by
  cases effect with
  | pass seconds =>
    refine ⟨?_, fun _ context hfound => ⟨context, hfound, Std.Refl.refl _⟩⟩
    have hpassed : 0 ≤ seconds := h
    show s.clock.reading ≤ s.clock.reading + seconds
    linarith
  | cancel name =>
    rw [Surroundings.apply]
    split
    next cancelled hcancelled =>
      refine ⟨le_refl _, fun other context hfound => ?_⟩
      have hfind := Table.find?_insert s.contexts name other cancelled.cancel
      by_cases hother : other = name
      · rw [if_pos hother] at hfind
        rw [hother, hcancelled, Option.some.injEq] at hfound
        exact ⟨_, hfind, hfound ▸ CallContext.later_cancel cancelled⟩
      · rw [if_neg hother, hfound] at hfind
        exact ⟨context, hfind, Std.Refl.refl _⟩
    next => exact Std.Refl.refl s

theorem onward_applyAll (s : Surroundings Rat) {effects : List (Effect Rat)}
    (h : ∀ effect ∈ effects, effect.Forward) : s.Onward (s.applyAll effects) := by
  induction effects generalizing s with
  | nil => exact Std.Refl.refl s
  | cons effect rest ih =>
    have hfirst := s.onward_apply (h effect List.mem_cons_self)
    have hrest := ih (s.apply effect) fun other hother => h other (List.mem_cons_of_mem _ hother)
    exact IsTrans.trans _ _ _ hfirst hrest

end Surroundings

/-! ## Backends -/

/-- The answer takes some time or none, and leaves the backend in a good state. -/
structure Answer.Steady {σ α : Type} (good : σ → Prop) (answer : Answer σ Rat α) : Prop where
  effects : ∀ effect ∈ answer.effects, effect.Forward
  backend : good answer.backend

/-- In a good state, every answer takes some time or none, and leaves a good state. -/
structure Steady {σ : Type} [Backend σ Rat] (good : σ → Prop) : Prop where
  generate : ∀ {backend}, good backend → ∀ (s : Surroundings Rat) context model prompt options,
    (Backend.generate backend s context model prompt options).Steady good
  chat : ∀ {backend}, good backend → ∀ (s : Surroundings Rat) context model turns options,
    (Backend.chat backend s context model turns options).Steady good
  embed : ∀ {backend}, good backend → ∀ (s : Surroundings Rat) context model text,
    (Backend.embed backend s context model text).Steady good

/-- What happens while a stream is consumed is part of the stream. -/
theorem StreamEvent.mem_of_mem_consume {s : Surroundings Rat} {context : Option String}
    {limit : Option Nat} {events : List (StreamEvent Rat)} {effect : Effect Rat}
    (h : effect ∈ (consume s context limit events).2) : .effect effect ∈ events := by
  induction events generalizing s limit with
  | nil => cases h
  | cons event rest ih =>
    unfold consume at h
    split at h
    · cases h
    · split at h
      next e =>
        rcases List.mem_cons.mp h with rfl | hrest
        · exact List.mem_cons_self
        · exact List.mem_cons_of_mem _ (ih hrest)
      next made =>
        split at h
        · cases h
        · exact List.mem_cons_of_mem _ (ih h)
      next => cases h

namespace Scripted

/-- No effect of the stage turns the clock back. -/
structure Stage.Forward (stage : Stage Rat) : Prop where
  opening : ∀ effect ∈ stage.opening, effect.Forward
  stream : ∀ effect, .effect effect ∈ stage.stream → effect.Forward

/-- A script whose stages do not turn the clock back is steady, and it never changes. -/
theorem steady_script {script : Script Rat}
    (h : ∀ model prompt, (script.reply model prompt).Forward) : Steady (· = script) := by
  have hstream : ∀ s context model prompt,
      (script.stream s context model prompt).Steady (· = script) := by
    intro s context model prompt
    have hstage := h model prompt
    unfold Script.stream
    dsimp only
    split
    · exact ⟨hstage.opening, rfl⟩
    · refine ⟨fun effect heffect => ?_, rfl⟩
      rcases List.mem_append.mp heffect with hopening | hconsumed
      · exact hstage.opening effect hopening
      · -- The event that ends the stream is not an effect.
        rcases List.mem_append.mp (StreamEvent.mem_of_mem_consume hconsumed) with hevent | hending
        · exact hstage.stream effect hevent
        · simp at hending
  constructor
  · rintro _ rfl s context model prompt options
    exact hstream s context model prompt
  · rintro _ rfl s context model turns options
    exact hstream s context model (lastTurn turns)
  · rintro _ rfl s context model text
    exact ⟨(h model text).opening, rfl⟩

end Scripted

end Orchestration
