import Orchestration.Proofs.Text.Letters
import Orchestration.Routing

/-!
# Which model is chosen

The choice of a model goes through four rules, the first of which that applies decides (`Chosen`). A
text that asks for code gets the first model for code. A chat gets the first model that is not for
code. Else the configured default is taken, as long as it is one of the models of the agent, and the
first of these if it is not. The first two rules search the models of the agent, and either search
may find nothing: then the rules behind it are gone through.

The main statement is `chosen_iff`: an agent that has a model is given the one that the rules
choose.
-/

namespace Orchestration.Routing

/-! ## What the rules look at -/

/-- The text mentions one of the words for code. -/
def AsksForCode (text : String) : Prop :=
  ∃ hint ∈ codeHints, Text.Mentions text hint

/-- The name of the model mentions code. -/
def ForCode (model : String) : Prop :=
  Text.Mentions model "code"

/-- The test for words about code finds what asks for code. -/
theorem mentionsCode_iff {text : String} : mentionsCode text = true ↔ AsksForCode text := by
  have hplain : ∀ hint ∈ codeHints, Text.Plain hint.toList := by decide
  simp only [mentionsCode, AsksForCode, List.any_eq_true]
  exact exists_congr fun hint => and_congr_right fun hmem =>
    Text.contains_lower_iff (hplain hint hmem) text

/-- The test for names of models finds those for code. -/
theorem isCodeModel_iff {model : String} : isCodeModel model = true ↔ ForCode model :=
  Text.contains_lower_iff (by decide) model

theorem not_isCodeModel_iff {model : String} : (!isCodeModel model) = true ↔ ¬ ForCode model := by
  rw [← isCodeModel_iff, Bool.not_eq_true, Bool.not_eq_true']

/-- The configuration of the agent names the model as the default, and the agent has it. -/
structure Configured (agent : Agent) (model : String) : Prop where
  named : (Table.find? agent.config "default_model").bind Value.text? = some model
  declared : model ∈ agent.models

/-- The configured model is the one that the configuration of the agent names. -/
theorem configuredModel?_eq_some_iff {agent : Agent} {model : String} :
    configuredModel? agent = some model ↔ Configured agent model := by
  rw [configuredModel?, Option.filter_eq_some_iff, List.contains_iff_mem]
  exact ⟨fun ⟨hnamed, hdeclared⟩ => ⟨hnamed, hdeclared⟩, fun h => ⟨h.named, h.declared⟩⟩

/-- The item is the first one of the list that has the property. -/
def IsFirst {α : Type} (p : α → Prop) (items : List α) (item : α) : Prop :=
  p item ∧ ∃ before after, items = before ++ item :: after ∧ ∀ other ∈ before, ¬ p other

/-- The first item with a property is one of the items. -/
theorem IsFirst.mem {α : Type} {p : α → Prop} {items : List α} {item : α}
    (h : IsFirst p items item) : item ∈ items := by
  obtain ⟨-, before, after, rfl, -⟩ := h
  simp

section

variable {α : Type} {p : α → Prop} {test : α → Bool} {items : List α} {guard : Prop}
  [Decidable guard]

/-- A search under a condition finds an item if the condition holds and the item is the first. -/
theorem search_eq_some_iff (htest : ∀ item, test item = true ↔ p item) {item : α} :
    (if guard then items.find? test else none) = some item ↔ guard ∧ IsFirst p items item := by
  split
  next hguard =>
    simp [hguard, List.find?_eq_some_iff_append, IsFirst, htest, ← Bool.not_eq_true]
  next hguard => simp [hguard]

/-- A search that is made under a condition finds nothing if there is nothing to be found under it.
-/
theorem search_eq_none_iff (htest : ∀ item, test item = true ↔ p item) :
    (if guard then items.find? test else none) = none ↔ (guard → ∀ item ∈ items, ¬ p item) := by
  split
  next hguard => simp [hguard, List.find?_eq_none, htest]
  next hguard => simp [hguard]

end

/-! ## The four rules -/

/-- The model for the kind of a task with a text, by the first rule that applies. -/
inductive Chosen (agent : Agent) (kind : TaskKind) (text : String) : String → Prop
  /-- The text asks for code, and the agent has a model for it. -/
  | code {model : String} (asks : AsksForCode text) (first : IsFirst ForCode agent.models model) :
    Chosen agent kind text model
  /-- A chat is to be led, and the agent has a model that is not for code. -/
  | talk {model : String} (noCode : AsksForCode text → ∀ other ∈ agent.models, ¬ ForCode other)
    (chat : kind = .chat) (first : IsFirst (¬ ForCode ·) agent.models model) :
    Chosen agent kind text model
  /-- The agent has a default among its models. -/
  | configured {model : String}
    (noCode : AsksForCode text → ∀ other ∈ agent.models, ¬ ForCode other)
    (noTalk : kind = .chat → ∀ other ∈ agent.models, ForCode other)
    (named : Configured agent model) : Chosen agent kind text model
  | first {model : String} (noCode : AsksForCode text → ∀ other ∈ agent.models, ¬ ForCode other)
    (noTalk : kind = .chat → ∀ other ∈ agent.models, ForCode other)
    (unnamed : ∀ other, ¬ Configured agent other) (first : agent.models.head? = some model) :
    Chosen agent kind text model

/-- What is chosen is a model of the agent. -/
theorem Chosen.mem {agent : Agent} {kind : TaskKind} {text model : String}
    (h : Chosen agent kind text model) : model ∈ agent.models := by
  cases h with
  | code asks first => exact first.mem
  | talk noCode chat first => exact first.mem
  | configured noCode noTalk named => exact named.declared
  | first noCode noTalk unnamed first => exact List.mem_of_mem_head? first

section

variable {agent : Agent} {kind : TaskKind} {text model : String}

/-! ## What the rules find -/

/-- The first rule gives the first model for code to a text that asks for code. -/
theorem forCode_eq_some_iff :
    (if mentionsCode text then agent.models.find? isCodeModel else none) = some model ↔
      AsksForCode text ∧ IsFirst ForCode agent.models model := by
  rw [search_eq_some_iff fun _ => isCodeModel_iff, mentionsCode_iff]

/-- The first rule is left if the text asks for no code, or there is no model for it. -/
theorem forCode_eq_none_iff :
    (if mentionsCode text then agent.models.find? isCodeModel else none) = none ↔
      (AsksForCode text → ∀ other ∈ agent.models, ¬ ForCode other) := by
  rw [search_eq_none_iff fun _ => isCodeModel_iff, mentionsCode_iff]

/-- The second rule gives the first model that is not for code to a chat. -/
theorem forChat_eq_some_iff :
    (if kind = .chat then agent.models.find? (!isCodeModel ·) else none) = some model ↔
      kind = .chat ∧ IsFirst (¬ ForCode ·) agent.models model :=
  search_eq_some_iff fun _ => not_isCodeModel_iff

/-- The second rule is left if there is no chat, or only models for code. -/
theorem forChat_eq_none_iff :
    (if kind = .chat then agent.models.find? (!isCodeModel ·) else none) = none ↔
      (kind = .chat → ∀ other ∈ agent.models, ForCode other) := by
  rw [search_eq_none_iff fun _ => not_isCodeModel_iff]
  simp only [Classical.not_not]

/-- The third rule is left if none of the models is configured. -/
theorem configuredModel?_eq_none_iff :
    configuredModel? agent = none ↔ ∀ other, ¬ Configured agent other := by
  simp only [Option.eq_none_iff_forall_ne_some, ne_eq, configuredModel?_eq_some_iff]

/-! ## The choice -/

/-- What the rules choose is what the agent is given. -/
theorem Chosen.selectModel_eq (h : Chosen agent kind text model) :
    selectModel agent kind text = model := by
  unfold selectModel
  cases h with
  | code asks first => simp [forCode_eq_some_iff.mpr ⟨asks, first⟩]
  | talk noCode chat first =>
    simp only [forCode_eq_none_iff.mpr noCode, forChat_eq_some_iff.mpr ⟨chat, first⟩]
    rfl
  | configured noCode noTalk named =>
    simp only [forCode_eq_none_iff.mpr noCode, forChat_eq_none_iff.mpr noTalk,
      configuredModel?_eq_some_iff.mpr named]
    rfl
  | first noCode noTalk unnamed first =>
    simp only [forCode_eq_none_iff.mpr noCode, forChat_eq_none_iff.mpr noTalk,
      configuredModel?_eq_none_iff.mpr unnamed, Agent.defaultModel, List.headD_eq_head?_getD, first]
    rfl

/-- For an agent that has a model, one of the rules applies. -/
theorem exists_chosen (h : agent.models ≠ []) (kind : TaskKind) (text : String) :
    ∃ model, Chosen agent kind text model := by
  cases hcode : if mentionsCode text then agent.models.find? isCodeModel else none with
  | some model =>
    obtain ⟨asks, first⟩ := forCode_eq_some_iff.mp hcode
    exact ⟨model, .code asks first⟩
  | none =>
    have noCode := forCode_eq_none_iff.mp hcode
    cases hchat : if kind = .chat then agent.models.find? (!isCodeModel ·) else none with
    | some model =>
      obtain ⟨chat, first⟩ := forChat_eq_some_iff.mp hchat
      exact ⟨model, .talk noCode chat first⟩
    | none =>
      have noTalk := forChat_eq_none_iff.mp hchat
      cases hconfigured : configuredModel? agent with
      | some model =>
        have named := configuredModel?_eq_some_iff.mp hconfigured
        exact ⟨model, .configured noCode noTalk named⟩
      | none =>
        have unnamed := configuredModel?_eq_none_iff.mp hconfigured
        obtain ⟨first, rest, hmodels⟩ := List.exists_cons_of_ne_nil h
        exact ⟨first, .first noCode noTalk unnamed (by rw [hmodels]; rfl)⟩

/-- **The choice of a model.** An agent that has a model is given the one that the rules choose. -/
theorem chosen_iff (h : agent.models ≠ []) :
    Chosen agent kind text model ↔ selectModel agent kind text = model := by
  refine ⟨Chosen.selectModel_eq, ?_⟩
  rintro rfl
  obtain ⟨model, hchosen⟩ := exists_chosen h kind text
  rwa [hchosen.selectModel_eq]

end

end Orchestration.Routing
