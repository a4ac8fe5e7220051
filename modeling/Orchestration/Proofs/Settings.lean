import Orchestration.Engine.Agents
import Orchestration.Proofs.Decimal.Numbers
import Orchestration.Proofs.Routing.Selection
import Orchestration.Proofs.Run

/-!
# What can be relied on in settings

Settings that were loaded, from whatever sources, do not contradict each other (`Consistent`): at
least one task may run at a time, the default models are names as they stand between the commas, and
the default model is one of them if both are set, so that the default agent is given it wherever
nothing else decides (`HonouredBy`). The timeout should be positive; but a text for a timeout may
say that it is no number, and no number is not refused, since it is not below zero either.

The main statement is `accepted_consistent`.
-/

namespace Orchestration

/-! ## Names -/

namespace Text

/-- No blank stands at an end of the text. -/
structure Trimmed (text : String) : Prop where
  first : ∀ c ∈ text.toList.head?, isBlank c = false
  last : ∀ c ∈ text.toList.getLast?, isBlank c = false

/-- What is left behind leading blanks does not start with one. -/
theorem not_isBlank_of_head?_dropWhile {text : List Char} {c : Char}
    (h : c ∈ (text.dropWhile isBlank).head?) : isBlank c = false := by
  have hfirst := List.head?_dropWhile_not isBlank text
  rw [h] at hfirst
  exact hfirst

/-- A text without its trailing blanks is a beginning of it. -/
theorem trimRight_isPrefix (text : List Char) : trimRight text <+: text :=
  List.rdropWhile_prefix isBlank text

/-- A stripped text has no blanks around it. -/
theorem trimmed_stripped (text : String) : Trimmed (stripped text) where
  first c hc := by
    rw [stripped, String.toList_ofList, trim] at hc
    obtain ⟨rest, hrest⟩ := List.head?_eq_some_iff.mp hc
    obtain ⟨after, hafter⟩ := trimRight_isPrefix (trimLeft text.toList)
    -- Blanks at the end are taken away behind the first character.
    have hfirst : c ∈ (trimLeft text.toList).head? := by
      rw [← hafter, hrest]
      rfl
    exact not_isBlank_of_head?_dropWhile hfirst
  last c hc := by
    rw [stripped, String.toList_ofList, trim, trimRight, List.getLast?_reverse] at hc
    exact not_isBlank_of_head?_dropWhile hc

/-- A stripped text has no separator that the text has not. -/
theorem unbroken_stripped {separator : Char} {text : String} (h : Unbroken separator text) :
    Unbroken separator (stripped text) := by
  rw [Unbroken, stripped, String.toList_ofList]
  intro hmem
  exact h ((List.dropWhile_suffix _).subset ((trimRight_isPrefix _).subset hmem))

end Text

namespace Settings

/-- The names are those between the commas of the text, in their order, without the blanks around
them; places between commas where there is no name are left out. -/
def NamesIn (text : String) (names : List String) : Prop :=
  ∃ parts : List String, parts ≠ [] ∧ (∀ part ∈ parts, Text.Unbroken ',' part) ∧
    ",".intercalate parts = text ∧ names = (parts.map Text.stripped).filter (· ≠ "")

/-- A name is not empty, starts and ends with no blank, and has no comma in it. -/
structure IsName (name : String) : Prop where
  nonempty : name ≠ ""
  trimmed : Text.Trimmed name
  whole : Text.Unbroken ',' name

/-! ## What settings should be -/

/-- The settings do not contradict each other. -/
structure Consistent (settings : Settings) : Prop where
  concurrent : 1 ≤ settings.maxConcurrentTasks
  written : NamesIn settings.defaultModels settings.modelList
  names : ∀ name ∈ settings.modelList, IsName name
  default : settings.defaultModel = "" ∨ settings.modelList = [] ∨
    settings.defaultModel ∈ settings.modelList

/-- The agent has the models of the settings and their default; if both are set, it is given the
default for every text that does not ask for code, unless it is to chat. -/
structure HonouredBy (settings : Settings) (agent : Agent) : Prop where
  models : agent.models = settings.modelList
  configured : Table.find? agent.config "default_model" = some (.text settings.defaultModel)
  honoured : settings.defaultModel ≠ "" → settings.modelList ≠ [] →
    ∀ kind text, kind ≠ .chat → ¬ Routing.AsksForCode text →
      Routing.selectModel agent kind text = settings.defaultModel

/-! ## The names in a list -/

section

variable {settings : Settings}

/-- The list of models is what the setting names. -/
theorem namesIn_modelList (settings : Settings) :
    NamesIn settings.defaultModels settings.modelList :=
  ⟨Text.pieces ',' settings.defaultModels, Text.pieces_ne_nil _ _,
    fun _ => Text.unbroken_of_mem_pieces, Text.intercalate_pieces ',' _, rfl⟩

/-- The entries of the list are names. -/
theorem isName_of_mem_modelList {name : String} (h : name ∈ settings.modelList) : IsName name := by
  obtain ⟨hmem, hnonempty⟩ := List.mem_filter.mp h
  obtain ⟨piece, hpiece, rfl⟩ := List.mem_map.mp hmem
  exact ⟨of_decide_eq_true hnonempty, Text.trimmed_stripped piece,
    Text.unbroken_stripped (Text.unbroken_of_mem_pieces hpiece)⟩

/-! ## What is refused -/

/-- Nothing is objected to if the timeout is not at most zero and the default model is in the list,
as far as both are given. -/
theorem contradictions_eq_nil_iff :
    settings.contradictions = [] ↔ ¬ settings.inferenceTimeout ≤ 0.0 ∧
      (settings.defaultModel = "" ∨ settings.modelList = [] ∨
        settings.defaultModel ∈ settings.modelList) := by
  have hlisted : (settings.defaultModel = "" ∨ settings.modelList = [] ∨
      settings.defaultModel ∈ settings.modelList) ↔ ¬ (settings.defaultModel ≠ "" ∧
        settings.modelList ≠ [] ∧ !settings.modelList.contains settings.defaultModel) := by
    simp only [Bool.not_eq_true', ← Bool.not_eq_true, List.contains_iff_mem, not_and_or,
      ne_eq, not_not]
  rw [contradictions, List.append_eq_nil_iff, hlisted]
  refine and_congr ?_ ?_
  · split
    next hle => exact iff_of_false nofun (not_not_intro hle)
    next hle => exact iff_of_true rfl hle
  · split
    next hout => exact iff_of_false nofun (not_not_intro hout)
    next hout => exact iff_of_true rfl hout

/-- What is read as positive is at least one. -/
theorem one_le_of_positive {v : Value} {n : Int} (h : positive v = .ok n) : 1 ≤ n := by
  unfold positive at h
  split at h
  · split at h
    next hle =>
      cases h
      exact hle
    next => cases h
  · cases h

/-- Settings that are read allow at least one task at a time. -/
theorem one_le_maxConcurrentTasks_of_read {es : List (Key × Value)} (h : read es = .ok settings) :
    1 ≤ settings.maxConcurrentTasks := by
  -- The fields are read one after the other; the limit is the sixth of them.
  simp only [read, Checked.seq_eq_ok_iff] at h
  obtain ⟨_, _, ⟨_, _, ⟨_, _, ⟨_, _, ⟨_, _, ⟨_, _, ⟨_, _, ⟨_, tasks, hbefore, htasks, rfl⟩, -, rfl⟩,
    -, rfl⟩, -, rfl⟩, -, rfl⟩, -, rfl⟩, -, rfl⟩, -, rfl⟩ := h
  obtain ⟨_, _, ⟨_, _, ⟨_, _, ⟨_, _, hprovider, -, rfl⟩, -, rfl⟩, -, rfl⟩, -, rfl⟩ := hbefore
  obtain ⟨_, -, rfl⟩ := Checked.map_eq_ok_iff.mp hprovider
  show 1 ≤ tasks
  obtain ⟨v, -, hread⟩ | ⟨-, rfl⟩ := Schema.optional_eq_ok_iff.mp htasks
  · exact one_le_of_positive hread
  · decide

/-- Settings that are accepted were read, and nothing is objected to in them. -/
theorem read_of_ofEntries {es : List (Key × Value)} (h : ofEntries es = .ok settings) :
    read es = .ok settings ∧ settings.contradictions = [] := by
  unfold ofEntries at h
  cases hread : read es with
  | failed issues =>
    rw [hread] at h
    cases h
  | ok found =>
    rw [hread] at h
    simp only [Checked.orFault, bind, Except.bind] at h
    split at h
    next hnone =>
      cases h
      exact ⟨rfl, hnone⟩
    next => cases h

/-- Settings that are accepted are consistent, but for a timeout that is no number. -/
theorem consistent_of_ofEntries {es : List (Key × Value)} (h : ofEntries es = .ok settings) :
    settings.Consistent where
  concurrent := one_le_maxConcurrentTasks_of_read (read_of_ofEntries h).1
  written := namesIn_modelList settings
  names _ := isName_of_mem_modelList
  default := (contradictions_eq_nil_iff.mp (read_of_ofEntries h).2).2

/-- The timeout of accepted settings is positive unless it is no number. -/
theorem zero_lt_inferenceTimeout_iff {es : List (Key × Value)} (h : ofEntries es = .ok settings) :
    0.0 < settings.inferenceTimeout ↔ settings.inferenceTimeout.isNaN = false := by
  have hnot : ¬ settings.inferenceTimeout ≤ 0.0 :=
    (contradictions_eq_nil_iff.mp (read_of_ofEntries h).2).1
  refine ⟨Decimal.not_isNaN_of_zero_lt, fun hnumber => ?_⟩
  exact (Decimal.not_le_zero_iff.mp hnot).resolve_right (hnumber ▸ Bool.false_ne_true)

/-! ## The default agent -/

/-- An agent that is made with consistent settings routes as they say. -/
theorem honouredBy_of_consistent (h : settings.Consistent) {agent : Agent}
    (hmodels : agent.models = settings.modelList)
    (hconfigured : Table.find? agent.config "default_model" = some (.text settings.defaultModel)) :
    settings.HonouredBy agent where
  models := hmodels
  configured := hconfigured
  honoured hset hsome kind text hchat hcode := by
    -- Neither of the rules before the configured default applies to such a text.
    have hlisted : settings.defaultModel ∈ settings.modelList :=
      (h.default.resolve_left hset).resolve_left hsome
    have hnamed : Routing.Configured agent settings.defaultModel :=
      ⟨by rw [hconfigured]; rfl, hmodels ▸ hlisted⟩
    exact (Routing.Chosen.configured (fun hasks => absurd hasks hcode)
      (fun htalk => absurd htalk hchat) hnamed).selectModel_eq

end

end Settings

namespace Engine

variable {σ τ : Type} [Time τ]

/-- A live agent without an id is registered under a fresh one, unless the context says stop. -/
theorem run_createAgent_of_noId {w : World σ τ} {ref : Ref Agent} {context : Option String}
    (hcheck : w.surroundings.check context none = .ok ()) (hhas : w.agents.live.Has ref)
    (hid : (w.agents.agent ref).id = "") :
    ∃ w', (createAgent ref context).run w = .ok () w' ∧ w'.agents.agent ref =
      AgentStore.created (w.agents.agent ref) (Identifier.issue w.issued)
        w.surroundings.clock.now := by
  have hcreate : w.agents.create ref (Identifier.issue w.issued) w.surroundings.clock.now =
      .ok (w.agents.put ref (AgentStore.created (w.agents.agent ref) (Identifier.issue w.issued)
        w.surroundings.clock.now)) := if_pos hid
  let issued : World σ τ := { w with issued := w.issued + 1 }
  have hissue : (freshId : Run σ τ String).run w = .ok (Identifier.issue w.issued) issued := rfl
  have hnow : (now : Run σ τ Moment).run issued = .ok w.surroundings.clock.now issued := rfl
  rw [createAgent, EStateM.run_bind, run_check, run_lift, hcheck]
  simp only [EStateM.run_bind, hissue, EStateM.run_get, hnow, run_lift, issued, hcreate]
  exact ⟨_, rfl, Live.get_set_self _ _ hhas⟩

/-- The default agent is registered, whatever the world is, unless the context says stop. -/
theorem run_createDefaultAgent {w : World σ τ} {context : Option String}
    (h : w.surroundings.check context none = .ok ()) :
    ∃ w', (createDefaultAgent context).run w = .ok w.agents.live.next w' ∧
      w'.agents.agent w.agents.live.next =
        AgentStore.created (defaultAgent w.settings w.registry) (Identifier.issue w.issued)
          w.surroundings.clock.now := by
  let agent := defaultAgent w.settings w.registry
  let added : World σ τ := { w with agents := w.agents.add agent }
  have hnew : (newAgent agent : Run σ τ (Ref Agent)).run w = .ok w.agents.live.next added := rfl
  have hagent : added.agents.agent w.agents.live.next = agent := Live.get_add_next _ _
  obtain ⟨w', hrun, hcreated⟩ := run_createAgent_of_noId (w := added) h
    (Live.has_add_next w.agents.live agent) (hagent ▸ rfl)
  rw [hagent] at hcreated
  refine ⟨w', ?_, hcreated⟩
  rw [createDefaultAgent, EStateM.run_bind, EStateM.run_get]
  simp only [EStateM.run_bind, agent, hnew, hrun]
  rfl

end Engine

/-! ## Accepted settings -/

namespace Settings

/-- **Accepted settings.** Settings that were loaded do not contradict each other, and their timeout
is positive unless it is no number. The default agent is registered in every engine that has them,
and it honours their default model. -/
theorem accepted_consistent {overrides : List (Key × Value)} {environment : Table String}
    {file : String} {settings : Settings} (h : load overrides environment file = .ok settings) :
    settings.Consistent ∧
    (0.0 < settings.inferenceTimeout ↔ settings.inferenceTimeout.isNaN = false) ∧
    ∀ {σ τ : Type} [Time τ] (w : World σ τ) (context : Option String), w.settings = settings →
      w.surroundings.check context none = .ok () →
        ∃ ref w', (Engine.createDefaultAgent context).run w = .ok ref w' ∧
          settings.HonouredBy (w'.agents.agent ref) := by
  have hconsistent := consistent_of_ofEntries h
  refine ⟨hconsistent, zero_lt_inferenceTimeout_iff h, fun w context hsettings hcheck => ?_⟩
  obtain ⟨w', hrun, hcreated⟩ := Engine.run_createDefaultAgent hcheck
  refine ⟨_, w', hrun, ?_⟩
  rw [hcreated, hsettings]
  exact honouredBy_of_consistent hconsistent rfl rfl

/-- Names with blanks around them and between too many commas are accepted. -/
theorem accepted_consistent_blanks :
    ∃ settings, load [(.text "default_models", .text " a , ,b "),
        (.text "default_model", .text "a"), (.text "inference_timeout_s", .int 2)] [] "" =
          .ok settings ∧
      settings.Consistent ∧ 0.0 < settings.inferenceTimeout := by
  let settings : Settings :=
    { defaultModels := " a , ,b ", defaultModel := "a", inferenceTimeout := Decimal.ofInteger 2 }
  have hload : load [(.text "default_models", .text " a , ,b "), (.text "default_model", .text "a"),
      (.text "inference_timeout_s", .int 2)] [] "" = .ok settings := by
    rfl
  obtain ⟨hconsistent, htimeout, -⟩ := accepted_consistent hload
  exact ⟨settings, hload, hconsistent, htimeout.mpr (by decide +kernel)⟩

/-- A timeout that is no number is accepted, and it is not positive. -/
theorem not_positive_notANumber :
    ¬ ∀ overrides environment file settings, load overrides environment file = .ok settings →
      0.0 < settings.inferenceTimeout := by
  intro hall
  obtain ⟨settings, hload, hnan⟩ : ∃ settings,
      load [] [("INFERENCE_TIMEOUT_S", "nan")] "" = .ok settings ∧
        settings.inferenceTimeout.isNaN = true :=
    ⟨{ inferenceTimeout := 0.0 / 0.0 }, by rfl, by rfl⟩
  have hpositive := hall _ _ _ settings hload
  cases hnan.symm.trans (Decimal.not_isNaN_of_zero_lt hpositive)

end Settings

end Orchestration
