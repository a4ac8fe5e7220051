import Orchestration.Value

/-!
# The scope of a log

What a thread is working on, as its log records name it: an agent, a task, a conversation. A block
may set some of the fields for its body, and keeps a token for each that it sets; when the body is
left, the tokens give these fields back the values that they had before (`reset_opened`), and the
other fields keep what the body left in them.
-/

namespace Orchestration.Log

/-- What a thread is working on. -/
structure Scope where
  agentId : Option String := none
  taskId : Option String := none
  conversationId : Option String := none
deriving DecidableEq, Repr, Inhabited

namespace Scope

/-- The fields that are set. -/
def fields (scope : Scope) : Fields :=
  [("agent_id", scope.agentId), ("task_id", scope.taskId),
    ("conversation_id", scope.conversationId)].filterMap fun (name, value) =>
      value.map fun text => (name, Value.text text)

/-- The scope with another agent and task. -/
def setTask (scope : Scope) (agentId taskId : Option String) : Scope :=
  { scope with agentId, taskId }

/-- The scope with another conversation. -/
def setConversation (scope : Scope) (conversationId : Option String) : Scope :=
  { scope with conversationId }

/-- The fields of a scope. -/
inductive Field where
  | agentId
  | taskId
  | conversationId
deriving DecidableEq, Repr

/-- The fields, in the order in which a block sets them. -/
def Field.all : List Field := [.agentId, .taskId, .conversationId]

/-- The value of a field. -/
def get (scope : Scope) : Field → Option String
  | .agentId => scope.agentId
  | .taskId => scope.taskId
  | .conversationId => scope.conversationId

/-- The scope with another value in a field. -/
def set (scope : Scope) (field : Field) (value : Option String) : Scope :=
  match field with
  | .agentId => { scope with agentId := value }
  | .taskId => { scope with taskId := value }
  | .conversationId => { scope with conversationId := value }

/-- What it takes to undo a setting: the field, and the value that it had before. -/
structure Token where
  field : Field
  before : Option String
deriving DecidableEq, Repr

/-- Sets those of the fields, one after the other, for which a value is given. Each setting leaves a
token. -/
def setGiven (given : Scope) : List Field → Scope → Scope × List Token
  | [], scope => (scope, [])
  | field :: rest, scope =>
    match given.get field with
    | none => setGiven given rest scope
    | some value =>
      let later := setGiven given rest (scope.set field (some value))
      (later.1, ⟨field, scope.get field⟩ :: later.2)

/-- The scope inside a block, and the tokens to leave the block with. -/
def opened (outside given : Scope) : Scope × List Token :=
  setGiven given Field.all outside

/-- The scope when all settings have been undone, the last of them first. -/
def reset (scope : Scope) (tokens : List Token) : Scope :=
  tokens.foldr (fun token scope => scope.set token.field token.before) scope

/-- The scope inside a block: fields that are given replace the ones outside. -/
def enter (outside given : Scope) : Scope where
  agentId := given.agentId <|> outside.agentId
  taskId := given.taskId <|> outside.taskId
  conversationId := given.conversationId <|> outside.conversationId

/-- A field after a block: the value before it if the block had set it, and otherwise what the body
left in it. -/
def restoreField (outside given left : Option String) : Option String :=
  if given.isSome then outside else left

/-- The scope after a block that was entered from `outside` and whose body left `left`. -/
def leave (outside given left : Scope) : Scope where
  agentId := restoreField outside.agentId given.agentId left.agentId
  taskId := restoreField outside.taskId given.taskId left.taskId
  conversationId :=
    restoreField outside.conversationId given.conversationId left.conversationId

/-! ### What a block does to a field -/

/-- A scope is what its fields are. -/
theorem ext_get {first second : Scope} (h : ∀ field, first.get field = second.get field) :
    first = second := by
  cases first
  cases second
  exact Scope.mk.injEq .. ▸ ⟨h .agentId, h .taskId, h .conversationId⟩

theorem get_set_self (scope : Scope) (field : Field) (value : Option String) :
    (scope.set field value).get field = value := by
  cases field <;> rfl

theorem get_set_of_ne (scope : Scope) {field other : Field} (value : Option String)
    (h : other ≠ field) : (scope.set field value).get other = scope.get other := by
  cases field <;> cases other <;> first | rfl | exact absurd rfl h

theorem Field.mem_all (field : Field) : field ∈ Field.all := by
  cases field <;> decide

/-- Setting the given fields sets each of them, and leaves the others alone. -/
theorem get_setGiven (given : Scope) (fields : List Field) (scope : Scope) (field : Field) :
    (setGiven given fields scope).1.get field =
      if field ∈ fields then given.get field <|> scope.get field else scope.get field := by
  induction fields generalizing scope with
  | nil => rfl
  | cons first rest ih =>
    unfold setGiven
    cases hgiven : given.get first with
    | none =>
      rw [ih scope]
      rcases Decidable.em (field = first) with rfl | hne
      · simp [hgiven]
      · simp [hne]
    | some value =>
      -- The later settings find the field as this one has left it.
      show (setGiven given rest (scope.set first (some value))).1.get field = _
      rw [ih]
      rcases Decidable.em (field = first) with rfl | hne
      · simp [hgiven, get_set_self]
      · simp [hne, get_set_of_ne]

/-- The tokens put each given field back to its value before the settings, whatever has been done
to the scope since. -/
theorem get_reset_setGiven (given : Scope) (fields : List Field) (scope left : Scope)
    (field : Field) :
    (left.reset (setGiven given fields scope).2).get field =
      if field ∈ fields ∧ (given.get field).isSome then scope.get field else left.get field := by
  induction fields generalizing scope with
  | nil => simp [setGiven, reset]
  | cons first rest ih =>
    unfold setGiven
    cases hgiven : given.get first with
    | none =>
      rw [ih scope]
      rcases Decidable.em (field = first) with rfl | hne
      · simp [hgiven]
      · simp [hne]
    | some value =>
      -- The token of the first setting is the last to be used.
      show ((left.reset (setGiven given rest (scope.set first (some value))).2).set first
        (scope.get first)).get field = _
      rcases Decidable.em (field = first) with rfl | hne
      · simp [hgiven, get_set_self]
      · rw [get_set_of_ne _ _ hne, ih, get_set_of_ne _ _ hne]
        simp [hne]

/-- Inside a scope a field is the one that is given, or else that of outside. -/
theorem get_enter (outside given : Scope) (field : Field) :
    (outside.enter given).get field = (given.get field <|> outside.get field) := by
  cases field <;> rfl

/-- Behind a scope the fields that were given are those of outside again. -/
theorem get_leave (outside given left : Scope) (field : Field) :
    (outside.leave given left).get field =
      if (given.get field).isSome then outside.get field else left.get field := by
  cases field <;> rfl

theorem fst_opened (outside given : Scope) : (outside.opened given).1 = outside.enter given :=
  ext_get fun field => by
    rw [opened, get_setGiven, if_pos (Field.mem_all field), get_enter]

theorem reset_opened (outside given left : Scope) :
    left.reset (outside.opened given).2 = outside.leave given left :=
  ext_get fun field => by
    rw [opened, get_reset_setGiven, get_leave]
    simp only [Field.mem_all, true_and]

end Scope

/-- What a thread can do to its scope. -/
inductive ScopeAction where
  | setTask (agentId taskId : Option String)
  | setConversation (conversationId : Option String)
  | clear
  /-- Fails; the actions up to the nearest `attempt` are skipped. -/
  | fail
  /-- A block that sets fields for its body. -/
  | block (given : Scope) (body : List ScopeAction)
  /-- A body whose failure ends with it. -/
  | attempt (body : List ScopeAction)
  /-- A body that runs in a thread of its own. -/
  | thread (body : List ScopeAction)
  /-- Notes the scope under a name. -/
  | note (name : String)

/-- The scope after some actions, whether they failed, and the notes that they took. -/
structure ScopeOutcome where
  scope : Scope
  failed : Bool := false
  notes : List (String × Scope) := []

/-- What follows an outcome, unless it failed. -/
def ScopeOutcome.andThen (first : ScopeOutcome) (next : Scope → ScopeOutcome) : ScopeOutcome :=
  if first.failed then first
  else
    let second := next first.scope
    { second with notes := first.notes ++ second.notes }

mutual

/-- Carries out an action. -/
def ScopeAction.run (scope : Scope) : ScopeAction → ScopeOutcome
  | .setTask agentId taskId => ⟨scope.setTask agentId taskId, false, []⟩
  | .setConversation conversationId => ⟨scope.setConversation conversationId, false, []⟩
  | .clear => ⟨{}, false, []⟩
  | .fail => ⟨scope, true, []⟩
  | .note name => ⟨scope, false, [(name, scope)]⟩
  | .block given body =>
    let opened := scope.opened given
    let inside := runAll opened.1 body
    { inside with scope := inside.scope.reset opened.2 }
  | .attempt body =>
    let inside := runAll scope body
    if inside.failed then
      { inside with failed := false, notes := inside.notes ++ [("caught", inside.scope)] }
    else inside
  | .thread body =>
    -- A thread starts with nothing set and leaves nothing behind.
    let inside := runAll {} body
    ⟨scope, false, inside.notes⟩

/-- Carries out actions in order, up to the first one that fails. -/
def ScopeAction.runAll (scope : Scope) : List ScopeAction → ScopeOutcome
  | [] => ⟨scope, false, []⟩
  | action :: rest => (ScopeAction.run scope action).andThen fun scope => runAll scope rest

end

end Orchestration.Log
