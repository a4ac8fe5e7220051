/-!
# Live values

A live value is known by its number, and everyone who knows the number sees the value in its latest
state. Agents, tasks and messages are live: a caller, a store and a worker may know the same one,
and a change that one of them makes is seen by the others. What is not live is part of the value
that holds it: live values have no parts in common.
-/

namespace Orchestration

/-- The number of a live value. -/
structure Ref (α : Type) where
  number : Nat
deriving Repr

/-- Live values are told apart by their numbers. -/
instance Ref.decidableEq {α : Type} : DecidableEq (Ref α) := fun ref other =>
  decidable_of_iff (ref.number = other.number)
    ⟨fun h => by cases ref; cases other; exact congrArg Ref.mk h, congrArg Ref.number⟩

/-- The live values of one sort. -/
structure Live (α : Type) where
  values : List α := []

namespace Live

variable {α : Type} [Inhabited α]

/-- The number of the next live value. -/
def next (live : Live α) : Ref α :=
  ⟨live.values.length⟩

/-- Makes a value live. -/
def add (live : Live α) (value : α) : Live α :=
  ⟨live.values ++ [value]⟩

/-- A live value in its latest state. -/
def get (live : Live α) (ref : Ref α) : α :=
  live.values[ref.number]?.getD default

/-- Gives a live value another state. -/
def set (live : Live α) (ref : Ref α) (value : α) : Live α :=
  ⟨live.values.set ref.number value⟩

/-- Changes a live value. -/
def modify (live : Live α) (ref : Ref α) (change : α → α) : Live α :=
  live.set ref (change (live.get ref))

/-- The number belongs to a live value. -/
def Has (live : Live α) (ref : Ref α) : Prop :=
  ref.number < live.values.length

@[simp]
theorem get_add_next (live : Live α) (value : α) : (live.add value).get live.next = value := by
  simp [get, add, next]

/-- Making a value live leaves the others alone. -/
theorem get_add_of_has (live : Live α) (value : α) {ref : Ref α} (h : live.Has ref) :
    (live.add value).get ref = live.get ref := by
  simp [get, add, List.getElem?_append_left h]

/-- A value that was set is found. -/
theorem get_set_self (live : Live α) (value : α) {ref : Ref α} (h : live.Has ref) :
    (live.set ref value).get ref = value := by
  have : ref.number < live.values.length := h
  simp [get, set, this]

/-- Setting one value leaves the others alone. -/
theorem get_set_of_ne (live : Live α) (value : α) {ref other : Ref α} (h : other ≠ ref) :
    (live.set ref value).get other = live.get other := by
  have : ref.number ≠ other.number := fun e => h (by cases ref; cases other; simp_all)
  simp [get, set, List.getElem?_set_ne this]

/-- When one value was set, a number stands for that value or for what it stood for before. -/
theorem get_set_eq_or (live : Live α) (ref other : Ref α) (value : α) :
    (live.set ref value).get other = value ∨ (live.set ref value).get other = live.get other := by
  by_cases hother : other = ref
  · subst hother
    by_cases hhas : live.Has other
    · exact .inl (get_set_self live value hhas)
    · -- A number that belongs to no live value cannot be set.
      have hlength : live.values.length ≤ other.number := Nat.le_of_not_lt hhas
      exact .inr (by simp [get, set, List.set_eq_of_length_le hlength])
  · exact .inr (get_set_of_ne live value hother)

omit [Inhabited α] in
@[simp]
theorem length_set (live : Live α) (ref : Ref α) (value : α) :
    (live.set ref value).values.length = live.values.length := by
  simp [set]

omit [Inhabited α] in
@[simp]
theorem has_set {live : Live α} {ref other : Ref α} {value : α} :
    (live.set ref value).Has other ↔ live.Has other := by
  simp [Has]

@[simp]
theorem has_modify {live : Live α} {ref other : Ref α} {change : α → α} :
    (live.modify ref change).Has other ↔ live.Has other := by
  simp [modify]

omit [Inhabited α] in
theorem has_add_of_has {live : Live α} {ref : Ref α} (value : α) (h : live.Has ref) :
    (live.add value).Has ref := by
  have hlt : ref.number < live.values.length := h
  simp only [Has, add, List.length_append]
  omega

omit [Inhabited α] in
theorem has_add_next (live : Live α) (value : α) : (live.add value).Has live.next := by
  simp [Has, add, next]

/-- A value that was changed is found changed. -/
theorem get_modify_self (live : Live α) (change : α → α) {ref : Ref α} (h : live.Has ref) :
    (live.modify ref change).get ref = change (live.get ref) :=
  get_set_self live _ h

/-- Changing one value leaves the others alone. -/
theorem get_modify_of_ne (live : Live α) (change : α → α) {ref other : Ref α} (h : other ≠ ref) :
    (live.modify ref change).get other = live.get other :=
  get_set_of_ne live _ h

/-- A change relates the states of every number, whether it belongs to a live value or not. -/
theorem rel_get_modify {r : α → α → Prop} [Std.Refl r] (live : Live α) (ref : Ref α)
    {change : α → α} (h : ∀ value, r value (change value)) (other : Ref α) :
    r (live.get other) ((live.modify ref change).get other) := by
  by_cases hother : other = ref
  · subst hother
    by_cases hhas : live.Has other
    · rw [get_modify_self live change hhas]
      exact h _
    · have hlen : ¬ other.number < live.values.length := hhas
      simp [modify, get, set, hlen, Std.Refl.refl]
  · rw [get_modify_of_ne live change hother]
    exact Std.Refl.refl _

/-- What a change keeps is kept for every number. -/
theorem proj_get_modify {β : Type} (live : Live α) (ref : Ref α) {change : α → α} {proj : α → β}
    (h : ∀ value, proj (change value) = proj value) (other : Ref α) :
    proj ((live.modify ref change).get other) = proj (live.get other) := by
  let r : α → α → Prop := fun value value' => proj value' = proj value
  have : Std.Refl r := ⟨fun _ => rfl⟩
  exact rel_get_modify (r := r) live ref h other

end Live

end Orchestration
