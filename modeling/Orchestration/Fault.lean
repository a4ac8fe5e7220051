import Orchestration.Decimal.Layout
import Orchestration.Schema.Issue
import Orchestration.Text.Quoted
import Orchestration.Value

/-!
# Faults

Everything that can go wrong. The orchestration faults form a taxonomy: something that is referred
to does not exist, a request is invalid, or the work itself was attempted and failed. Beside them
stand the faults of configuration and loading, the issues of data that does not fit its record, and
the faults that backends, tools and plugins raise on their own.
-/

namespace Orchestration

/-- What can be referred to and not be found. -/
inductive Entity where
  | any
  | agent
  | conversation
  | task
  | capability
deriving DecidableEq, Repr

/-- The word for what was not found. -/
def Entity.noun : Entity → String
  | .any => "entity"
  | .agent => "agent"
  | .conversation => "conversation"
  | .task => "task"
  | .capability => "capability"

/-- Which part of the work failed. -/
inductive Failure where
  /-- The work as such. -/
  | work
  /-- The inference backend. -/
  | inference
  /-- A tool or a plugin. -/
  | capability
  /-- The call was cancelled, or its deadline passed. -/
  | cancelled
deriving DecidableEq, Repr

/-- The sorts of faults from outside the taxonomy. -/
inductive Foreign where
  | runtime
  | value
  | type
  | key
  | connection
  | overflow
  | zeroDivision
  | attribute
  | importing
  | moduleNotFound
deriving DecidableEq, Repr

/-- A fault. -/
inductive Fault where
  /-- An orchestration fault of no particular sort. -/
  | general (message : String)
  /-- Something that is referred to does not exist. -/
  | notFound (entity : Entity) (id message : String)
  /-- A required field is missing, or a precondition does not hold. -/
  | invalidRequest (message : String)
  /-- Neither a task with this label nor its agent names a model. -/
  | noModel (label : String)
  /-- The work was attempted and failed, if known for the given task. -/
  | execution (failure : Failure) (message : String) (taskId : Option String)
  /-- The settings contradict each other. -/
  | configuration (message : String)
  /-- A capability cannot be loaded. -/
  | registry (message : String)
  /-- No inference provider has this name. -/
  | unsupportedProvider (message : String)
  /-- A fault from outside the taxonomy. -/
  | foreign (sort : Foreign) (message : String)
  /-- Data does not fit the record that it is read into. -/
  | schema (subject : String) (issues : List Issue)
deriving Repr

namespace Fault

/-- A reference to something that does not exist, in the usual words. -/
def missing (entity : Entity) (id : String) : Fault :=
  .notFound entity id (entity.noun ++ " not found: " ++ id)

/-- A reference to something that does not exist, in other words if there are any. -/
def missingWith (entity : Entity) (id message : String) : Fault :=
  if message = "" then missing entity id else .notFound entity id message

/-- The text of a fault. Of the text of data that does not fit its record, this is the first line:
the lines after it, one or two for each issue, show the data and are told by the issues. -/
def message : Fault → String
  | .general m => m
  | .notFound _ _ m => m
  | .invalidRequest m => m
  | .noModel label => "no model specified for " ++ label ++ " task"
  | .execution _ m _ => m
  | .configuration m => m
  | .registry m => m
  | .unsupportedProvider m => m
  | .foreign _ m => m
  | .schema subject issues =>
    Decimal.integerText issues.length ++ " validation error" ++
      (if issues.length = 1 then "" else "s") ++ " for " ++ subject

/-- The fault belongs to the orchestration taxonomy. -/
def isOrchestration : Fault → Bool
  | .general _ | .notFound _ _ _ | .invalidRequest _ | .noModel _ | .execution _ _ _ => true
  | _ => false

/-- The fault says that a call was cancelled or ran out of time. -/
def isCancellation : Fault → Bool
  | .execution .cancelled _ _ => true
  | _ => false

/-- The fault with a task id, unless it has one or cannot have one. -/
def withTask (fault : Fault) (id : String) : Fault :=
  match fault with
  | .execution failure m none => .execution failure m (some id)
  | fault => fault

/-- A key that is not in a mapping. -/
def unknownKey (key : String) : Fault :=
  .foreign .key (Text.quoted key)

/-- A numeral with more digits than are read. -/
def tooManyDigits (count : Nat) : Fault :=
  .foreign .value ("Exceeds the limit (4300 digits) for integer string conversion: value has " ++
    Decimal.integerText count ++
    " digits; use sys.set_int_max_str_digits() to increase the limit")

/-- An integer with more digits than are written. -/
def overlongInteger : Fault :=
  .foreign .value ("Exceeds the limit (4300 digits) for integer string conversion; " ++
    "use sys.set_int_max_str_digits() to increase the limit")

/-- An operation got a value of the wrong type. -/
def wrongType (message : String) : Fault :=
  .foreign .type message

end Fault

/-! ## Classes -/

/-- The class of an execution fault. -/
def Failure.className : Failure → String
  | .work => "ExecutionError"
  | .inference => "InferenceError"
  | .capability => "CapabilityExecutionError"
  | .cancelled => "TaskCancelledError"

/-- The class of a reference to something that does not exist. -/
def Entity.className : Entity → String
  | .any => "NotFoundError"
  | .agent => "AgentNotFoundError"
  | .conversation => "ConversationNotFoundError"
  | .task => "TaskNotFoundError"
  | .capability => "CapabilityNotFoundError"

/-- The class of a fault from outside the taxonomy. -/
def Foreign.className : Foreign → String
  | .runtime => "RuntimeError"
  | .value => "ValueError"
  | .type => "TypeError"
  | .key => "KeyError"
  | .connection => "ConnectionError"
  | .overflow => "OverflowError"
  | .zeroDivision => "ZeroDivisionError"
  | .attribute => "AttributeError"
  | .importing => "ImportError"
  | .moduleNotFound => "ModuleNotFoundError"

namespace Fault

/-- The class of a fault. -/
def className : Fault → String
  | .general _ => "OrchestrationError"
  | .notFound entity _ _ => entity.className
  | .invalidRequest _ => "InvalidRequestError"
  | .noModel _ => "NoModelSpecifiedError"
  | .execution failure _ _ => failure.className
  | .configuration _ => "ConfigurationError"
  | .registry _ => "RegistryError"
  | .unsupportedProvider _ => "UnsupportedProviderError"
  | .foreign sort _ => sort.className
  | .schema _ _ => "ValidationError"

/-- The classes of an orchestration fault, from its own to that of the whole taxonomy. -/
def lineage (fault : Fault) : List String :=
  match fault with
  | .general _ => ["OrchestrationError"]
  | .notFound .any _ _ => ["NotFoundError", "OrchestrationError"]
  | .notFound entity _ _ => [entity.className, "NotFoundError", "OrchestrationError"]
  | .noModel _ => ["NoModelSpecifiedError", "InvalidRequestError", "OrchestrationError"]
  | .execution .work _ _ => ["ExecutionError", "OrchestrationError"]
  | .execution failure _ _ => [failure.className, "ExecutionError", "OrchestrationError"]
  | fault => [fault.className, "OrchestrationError"]

/-- The class of a fault as a log names it, with its module if it is an orchestration fault. -/
def qualifiedName (fault : Fault) : String :=
  if fault.isOrchestration then "agentweave.core.errors." ++ fault.className else fault.className

/-- What a fault says beside its text. -/
def attributes : Fault → Fields
  | .notFound _ id _ => [("entity_id", .text id)]
  | .noModel label => [("task_type", .text label)]
  | .execution _ _ taskId => [("task_id", Value.ofText? taskId)]
  | _ => []

/-- The fault of the named class with the given argument. -/
def ofClass? (className argument : String) : Option Fault :=
  match className with
  | "OrchestrationError" => some (.general argument)
  | "NotFoundError" => some (missing .any argument)
  | "AgentNotFoundError" => some (missing .agent argument)
  | "ConversationNotFoundError" => some (missing .conversation argument)
  | "TaskNotFoundError" => some (missing .task argument)
  | "CapabilityNotFoundError" => some (missing .capability argument)
  | "InvalidRequestError" => some (.invalidRequest argument)
  | "NoModelSpecifiedError" => some (.noModel argument)
  | "ExecutionError" => some (.execution .work argument none)
  | "InferenceError" => some (.execution .inference argument none)
  | "CapabilityExecutionError" => some (.execution .capability argument none)
  | "TaskCancelledError" => some (.execution .cancelled argument none)
  | "RuntimeError" => some (.foreign .runtime argument)
  | "ValueError" => some (.foreign .value argument)
  | "KeyError" => some (unknownKey argument)
  | "ConnectionError" => some (.foreign .connection argument)
  | "TypeError" => some (.foreign .type argument)
  | _ => none

/-- The fault of the named class with the given text and, where the class has one, the given task
id. -/
def describe? (className argument text : String) (taskId : Option String) : Option Fault :=
  (ofClass? className argument).map fun fault =>
    match fault with
    | .notFound entity id _ => missingWith entity id text
    | .execution failure m none => .execution failure m taskId
    | fault => fault

/-- Two steps in a row have a result exactly if both of them have one. -/
theorem bind_eq_ok_iff {ε α β : Type} {first : Except ε α} {next : α → Except ε β} {b : β} :
    first >>= next = .ok b ↔ ∃ a, first = .ok a ∧ next a = .ok b := by
  constructor
  · intro h
    cases first with
    | ok a => exact ⟨a, rfl, h⟩
    | error fault => cases h
  · rintro ⟨a, rfl, h⟩
    exact h

/-- Two steps in a row fail if the first one does, or else the second one. -/
theorem bind_eq_error_iff {ε α β : Type} {first : Except ε α} {next : α → Except ε β}
    {fault : ε} :
    first >>= next = .error fault ↔
      first = .error fault ∨ ∃ a, first = .ok a ∧ next a = .error fault := by
  cases first with
  | ok a =>
    refine ⟨fun h => .inr ⟨a, rfl, h⟩, ?_⟩
    rintro (h | ⟨_, ⟨⟩, h⟩)
    · cases h
    · exact h
  | error cause =>
    constructor
    · rintro ⟨⟩
      exact .inl rfl
    · rintro (⟨⟨⟩⟩ | ⟨_, h, -⟩)
      · rfl
      · cases h

/-- Steps have results exactly if each of them has one. -/
theorem mapM_returns_iff {α β : Type} {f : α → Except Fault β}
    {items : List α} :
    (∃ results, items.mapM f = .ok results) ↔ ∀ item ∈ items, ∃ result, f item = .ok result := by
  induction items with
  | nil => exact iff_of_true ⟨[], rfl⟩ nofun
  | cons item rest ih =>
    rw [List.forall_mem_cons, ← ih, List.mapM_cons]
    constructor
    · rintro ⟨results, h⟩
      obtain ⟨first, hfirst, h⟩ := bind_eq_ok_iff.mp h
      obtain ⟨others, hothers, -⟩ := bind_eq_ok_iff.mp h
      exact ⟨⟨first, hfirst⟩, others, hothers⟩
    · rintro ⟨⟨first, hfirst⟩, others, hothers⟩
      rw [hfirst, hothers]
      exact ⟨first :: others, rfl⟩

/-! ## How an operation can fail -/

section Failing

variable {P : Fault → Prop} {α β : Type}

/-- If the operation fails, then with such a fault. -/
def FailsWith (P : Fault → Prop) (result : Except Fault α) : Prop :=
  ∀ fault, result = .error fault → P fault

theorem failsWith_ok (a : α) : FailsWith P (.ok a) := by
  rintro fault ⟨⟩

theorem failsWith_error {fault : Fault} (h : P fault) :
    FailsWith P (.error fault : Except Fault α) := by
  rintro other ⟨⟩
  exact h

theorem FailsWith.bind {result : Except Fault α} {next : α → Except Fault β}
    (h : FailsWith P result) (hnext : ∀ a, FailsWith P (next a)) :
    FailsWith P (result >>= next) := by
  cases result with
  | ok a => exact hnext a
  | error fault => exact failsWith_error (h fault rfl)

theorem failsWith_mapM {items : List α} {f : α → Except Fault β} (h : ∀ a, FailsWith P (f a)) :
    FailsWith P (items.mapM f) := by
  induction items with
  | nil => exact failsWith_ok _
  | cons item rest ih =>
    rw [List.mapM_cons]
    exact (h item).bind fun _ => ih.bind fun _ => failsWith_ok _

theorem FailsWith.mono {Q : Fault → Prop} {result : Except Fault α} (h : FailsWith P result)
    (hPQ : ∀ fault, P fault → Q fault) : FailsWith Q result :=
  fun fault hfault => hPQ fault (h fault hfault)

end Failing

end Fault

end Orchestration
