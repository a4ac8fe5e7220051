import Mathlib.Data.List.Forall2
import Orchestration.Proofs.Impartial
import Orchestration.Proofs.Inference.Containment
import Orchestration.Proofs.Inference.Failures

/-!
# Which calls reach the backend

A call to a backend may be slow, and may have to be paid for. A task makes one such call at most,
and whether it makes one is settled before: the kind of the task asks for inference, the context is
open, there is a model, and the history of a chat can be read as a whole (`Eligible`). Then the call
says what the task says (`Asks`), and the adapter hands it on to the service as it is.

The main statement is `backend_called_iff`.
-/

namespace Orchestration

/-! ## What a task asks for -/

/-- The value is a turn of a chat: a mapping with the label of a role and a text. -/
def IsTurn (item : Value) (turn : ChatMessage) : Prop :=
  ∃ entries, item = .map entries ∧
    (Value.entry? entries "role").bind Value.text? = some turn.role.label ∧
    (Value.entry? entries "content").bind Value.text? = some turn.content

/-- The turns of a chat that a parameter gives: all items of a list, or none if there is nothing. -/
inductive History : Value → List ChatMessage → Prop
  | absent {v : Value} (empty : v.truthy = false) : History v []
  | items {items : List Value} {turns : List ChatMessage} (each : List.Forall₂ IsTurn items turns) :
    History (.list items) turns

/-- The task names the model or, if it names none, the first of the models of its agent is it. -/
def NamesModel (task : Task) (agent : Agent) (model : String) : Prop :=
  model ≠ "" ∧ (task.modelName = model ∨ task.modelName = "" ∧ agent.models.head? = some model)

/-- The turn with which the system opens a chat is there exactly if its prompt is a text that is not
empty. -/
inductive OpensChat (prompt : Value) : List ChatMessage → Prop
  | spoken {text : String} (given : prompt.text? = some text) (nonempty : text ≠ "") :
    OpensChat prompt [⟨.system, text⟩]
  | silent (absent : ∀ text, prompt.text? = some text → text = "") : OpensChat prompt []

/-- The options of a call are those of a mapping; nothing else gives options. -/
inductive GivesOptions : Value → Option Options → Prop
  | given (entries : Options) : GivesOptions (.map entries) (some entries)
  | absent {v : Value} (other : ∀ entries, v ≠ .map entries) : GivesOptions v none

/-- The call that a task asks for, when the agent carries it out. -/
inductive Asks (task : Task) (agent : Agent) : Call → Prop
  | generate {model : String} {options : Option Options} (kind : task.kind = .generate)
    (names : NamesModel task agent model)
    (gives : GivesOptions (task.parameter "options") options) :
    Asks task agent (.generate model task.input options)
  | chat {model : String} {opening history : List ChatMessage} {options : Option Options}
    (kind : task.kind = .chat) (names : NamesModel task agent model)
    (opens : OpensChat (task.parameter "system") opening)
    (goesOn : History (task.parameter "messages") history)
    (gives : GivesOptions (task.parameter "options") options) :
    Asks task agent (.chat model (opening ++ history ++ [⟨.user, task.input⟩]) options)
  | embed {model : String} (kind : task.kind = .embed) (names : NamesModel task agent model) :
    Asks task agent (.embed model task.input)

/-- What must hold of a task for it to be brought before the backend: it asks for inference, there
is a model, and the history of a chat is absent or a list of nothing but turns. -/
structure Eligible (task : Task) (agent : Agent) : Prop where
  kind : task.kind = .generate ∨ task.kind = .chat ∨ task.kind = .embed
  model : ∃ model, NamesModel task agent model
  history : task.kind = .chat → (task.parameter "messages").truthy = false ∨
    ∃ items, task.parameter "messages" = .list items ∧ ∀ item ∈ items, ∃ turn, IsTurn item turn

/-! ## How it is found out -/

/-- A value is read as a turn exactly if it is one. -/
theorem ChatMessage.read_eq_ok_iff {item : Value} {turn : ChatMessage} :
    ChatMessage.read item = .ok turn ↔ IsTurn item turn := by
  have hfields : ∀ entries : List (Key × Value),
      (ChatMessage.mk
          <$> Schema.required entries "role" (Schema.labelled ChatRole.ofLabel? .literal)
          <*> Schema.required entries "content" Schema.text) = .ok turn ↔
        (Value.entry? entries "role").bind Value.text? = some turn.role.label ∧
          (Value.entry? entries "content").bind Value.text? = some turn.content := by
    intro entries
    simp only [Checked.map_seq_eq_ok_iff, Schema.required_eq_ok_iff, Schema.labelled, Schema.text,
      Checked.ofOption_eq_ok_iff, Option.bind_eq_some_iff, ChatRole.ofLabel?_eq_some_iff]
    constructor
    · rintro ⟨role, content, ⟨v, hv, label, hlabel, rfl⟩, ⟨v', hv', hcontent⟩, rfl⟩
      exact ⟨⟨v, hv, hlabel⟩, v', hv', hcontent⟩
    · rintro ⟨⟨v, hv, hlabel⟩, v', hv', hcontent⟩
      exact ⟨turn.role, turn.content, ⟨v, hv, _, hlabel, rfl⟩, ⟨v', hv', hcontent⟩, rfl⟩
  cases item with
  | map entries =>
    refine (hfields entries).trans ⟨fun h => ⟨entries, rfl, h⟩, ?_⟩
    rintro ⟨_, ⟨⟩, h⟩
    exact h
  | toolCall name parameters =>
    -- A tool call is a record too, but not one with a role.
    refine (hfields _).trans (iff_of_false ?_ (by rintro ⟨_, ⟨⟩, -⟩))
    rintro ⟨⟨⟩, -⟩
  | _ => exact iff_of_false nofun (by rintro ⟨_, ⟨⟩, -⟩)

/-- A list has a counterpart exactly if each of its items has one. -/
theorem exists_forall₂_iff {α β : Type} {r : α → β → Prop} {items : List α} :
    (∃ others, List.Forall₂ r items others) ↔ ∀ item ∈ items, ∃ other, r item other := by
  induction items with
  | nil => exact iff_of_true ⟨[], .nil⟩ nofun
  | cons item rest ih =>
    rw [List.forall_mem_cons, ← ih]
    constructor
    · rintro ⟨_, _ | ⟨hfirst, hrest⟩⟩
      exact ⟨⟨_, hfirst⟩, _, hrest⟩
    · rintro ⟨⟨other, hfirst⟩, others, hrest⟩
      exact ⟨other :: others, .cons hfirst hrest⟩

/-- Steps have these results exactly if each of them has its own. -/
theorem Fault.mapM_eq_ok_iff {α β : Type} {f : α → Except Fault β} {items : List α}
    {results : List β} :
    items.mapM f = .ok results ↔
      List.Forall₂ (fun item result => f item = .ok result) items results := by
  induction items generalizing results with
  | nil =>
    rw [List.mapM_nil, List.forall₂_nil_left_iff]
    exact ⟨by rintro ⟨⟩; rfl, by rintro rfl; rfl⟩
  | cons item rest ih =>
    rw [List.mapM_cons, List.forall₂_cons_left_iff]
    constructor
    · intro h
      obtain ⟨first, hfirst, h⟩ := Fault.bind_eq_ok_iff.mp h
      obtain ⟨others, hothers, ⟨⟩⟩ := Fault.bind_eq_ok_iff.mp h
      exact ⟨first, others, hfirst, ih.mp hothers, rfl⟩
    · rintro ⟨first, others, hfirst, hothers, rfl⟩
      rw [hfirst, ih.mpr hothers]
      rfl

namespace Engine

/-- The history of a chat is found exactly as the parameter gives it. -/
theorem historyTurns_eq_ok_iff {v : Value} {turns : List ChatMessage} :
    historyTurns v = .ok turns ↔ History v turns := by
  unfold historyTurns
  -- What is empty is no history, of whatever type it is.
  cases htruthy : v.truthy with
  | false =>
    constructor
    · rintro ⟨⟩
      exact .absent htruthy
    · intro h
      cases h with
      | absent => rfl
      | @items items _ each =>
        cases each with
        | nil => rfl
        | cons => cases htruthy
  | true =>
    rw [if_pos rfl]
    cases v with
    | list items =>
      refine Fault.mapM_eq_ok_iff.trans ⟨fun h => .items (h.imp fun item turn hturn => ?_), ?_⟩
      · rw [← ChatMessage.read_eq_ok_iff]
        split at hturn
        next found hread =>
          cases hturn
          exact hread
        next => cases hturn
      · intro h
        cases h with
        | absent empty => cases htruthy.symm.trans empty
        | items each =>
          refine each.imp fun item turn hturn => ?_
          rw [ChatMessage.read_eq_ok_iff.mpr hturn]
    | _ =>
      refine iff_of_false nofun fun h => ?_
      cases h with
      | absent empty => cases htruthy.symm.trans empty

/-- The model of a task is the one that the task or its agent names. -/
theorem modelFor_eq_ok_iff {task : Task} {agent : Agent} {model : String} :
    modelFor task agent = .ok model ↔ NamesModel task agent model := by
  have hchosen : ∀ chosen : String,
      (if chosen = "" then Except.error (Fault.noModel task.label) else .ok chosen) = .ok model ↔
        model ≠ "" ∧ chosen = model := by
    intro chosen
    by_cases h : chosen = ""
    · rw [if_pos h]
      exact iff_of_false nofun fun hsame => hsame.1 (hsame.2 ▸ h)
    · rw [if_neg h]
      exact ⟨by rintro ⟨⟩; exact ⟨h, rfl⟩, by rintro ⟨-, rfl⟩; rfl⟩
  refine (hchosen _).trans (and_congr_right fun hmodel => ?_)
  by_cases hname : task.modelName = ""
  · rw [if_pos hname, hname, Agent.defaultModel]
    cases agent.models with
    | nil => simp
    | cons first rest => simp [hmodel.symm]
  · rw [if_neg hname]
    exact ⟨.inl, fun h => h.resolve_right fun hother => hname hother.1⟩

/-- There is only one way to open a chat. -/
theorem opensChat_iff {task : Task} {turns : List ChatMessage} :
    OpensChat (task.parameter "system") turns ↔ turns = systemTurn task := by
  unfold systemTurn
  constructor
  · rintro (⟨hgiven, hne⟩ | habsent)
    · rw [hgiven]
      split
      next h => exact absurd (Option.some.inj h) hne
      next h => cases h
      next h => cases h; rfl
    · split
      · rfl
      · rfl
      next text hne h => exact absurd (habsent text h) hne
  · rintro rfl
    split
    next h => exact .silent fun text htext => (Option.some.inj (h.symm.trans htext)).symm
    next h => exact .silent fun text htext => by cases h.symm.trans htext
    next text hne h => exact .spoken h hne

/-- There is only one way to give options. -/
theorem givesOptions_iff {task : Task} {options : Option Options} :
    GivesOptions (task.parameter "options") options ↔ options = optionsOf task := by
  unfold optionsOf
  generalize task.parameter "options" = v
  constructor
  · rintro (⟨entries⟩ | hother)
    · rfl
    · split
      next entries => exact absurd rfl (hother entries)
      next => rfl
  · rintro rfl
    split
    next entries => exact .given entries
    next hother => exact .absent hother

/-- The turns of a chat are found exactly if its history is; then the system comes first, and the
input of the task last. -/
theorem chatTurns_eq_ok_iff {task : Task} {turns : List ChatMessage} :
    chatTurns task = .ok turns ↔ ∃ history, History (task.parameter "messages") history ∧
      turns = systemTurn task ++ history ++ [⟨.user, task.input⟩] := by
  rw [chatTurns, Fault.bind_eq_ok_iff]
  simp only [historyTurns_eq_ok_iff]
  exact exists_congr fun history => and_congr_right fun _ => ⟨by rintro ⟨⟩; rfl, by rintro rfl; rfl⟩

/-- The call that a task asks for is found by its kind. -/
theorem asks_iff {task : Task} {agent : Agent} {call : Call} :
    Asks task agent call ↔ match task.kind with
      | .generate => ∃ model, modelFor task agent = .ok model ∧
        call = .generate model task.input (optionsOf task)
      | .chat => ∃ model, modelFor task agent = .ok model ∧ ∃ turns, chatTurns task = .ok turns ∧
        call = .chat model turns (optionsOf task)
      | .embed => ∃ model, modelFor task agent = .ok model ∧ call = .embed model task.input
      | .tool | .reflect | .plugin | .custom => False := by
  constructor
  · rintro (⟨hkind, names, gives⟩ | ⟨hkind, names, opens, goesOn, gives⟩ | ⟨hkind, names⟩)
    · obtain rfl := givesOptions_iff.mp gives
      rw [hkind]
      exact ⟨_, modelFor_eq_ok_iff.mpr names, rfl⟩
    · obtain rfl := givesOptions_iff.mp gives
      obtain rfl := opensChat_iff.mp opens
      rw [hkind]
      exact ⟨_, modelFor_eq_ok_iff.mpr names, _, chatTurns_eq_ok_iff.mpr ⟨_, goesOn, rfl⟩, rfl⟩
    · rw [hkind]
      exact ⟨_, modelFor_eq_ok_iff.mpr names, rfl⟩
  · intro h
    cases hkind : task.kind with
    | generate =>
      rw [hkind] at h
      obtain ⟨model, hmodel, rfl⟩ := h
      exact .generate hkind (modelFor_eq_ok_iff.mp hmodel) (givesOptions_iff.mpr rfl)
    | chat =>
      rw [hkind] at h
      obtain ⟨model, hmodel, turns, hturns, rfl⟩ := h
      obtain ⟨history, hhistory, rfl⟩ := chatTurns_eq_ok_iff.mp hturns
      exact .chat hkind (modelFor_eq_ok_iff.mp hmodel) (opensChat_iff.mpr rfl) hhistory
        (givesOptions_iff.mpr rfl)
    | embed =>
      rw [hkind] at h
      obtain ⟨model, hmodel, rfl⟩ := h
      exact .embed hkind (modelFor_eq_ok_iff.mp hmodel)
    | _ =>
      rw [hkind] at h
      exact h.elim

/-- A task that is not one of inference asks for no call. -/
theorem not_asks {task : Task} {agent : Agent}
    (h : task.kind ≠ .generate ∧ task.kind ≠ .chat ∧ task.kind ≠ .embed) (call : Call) :
    ¬ Asks task agent call := by
  rintro (⟨hkind, -, -⟩ | ⟨hkind, -, -, -, -⟩ | ⟨hkind, -⟩)
  · exact h.1 hkind
  · exact h.2.1 hkind
  · exact h.2.2 hkind

/-- A task asks for the same call at all times. -/
theorem asks_of_sameWork {task later : Task} (h : SameWork task later) {agent : Agent}
    {call : Call} : Asks later agent call ↔ Asks task agent call := by
  simp only [asks_iff, Task.kind, modelFor, chatTurns, systemTurn, optionsOf, Task.parameter,
    h.label, h.input, h.modelName, h.parameters]

/-- A task asks for a call exactly if it is eligible. -/
theorem exists_asks_iff {task : Task} {agent : Agent} :
    (∃ call, Asks task agent call) ↔ Eligible task agent := by
  constructor
  · rintro ⟨_, ⟨hkind, hnames, -⟩ | ⟨hkind, hnames, -, hhistory, -⟩ | ⟨hkind, hnames⟩⟩
    · exact ⟨.inl hkind, ⟨_, hnames⟩, fun hchat => by cases hkind.symm.trans hchat⟩
    · refine ⟨.inr (.inl hkind), ⟨_, hnames⟩, fun _ => ?_⟩
      generalize task.parameter "messages" = v at hhistory
      cases hhistory with
      | absent empty => exact .inl empty
      | items each => exact .inr ⟨_, rfl, exists_forall₂_iff.mp ⟨_, each⟩⟩
    · exact ⟨.inr (.inr hkind), ⟨_, hnames⟩, fun hchat => by cases hkind.symm.trans hchat⟩
  · rintro ⟨hkind, ⟨model, hnames⟩, hhistory⟩
    have hoptions : GivesOptions (task.parameter "options") (optionsOf task) :=
      givesOptions_iff.mpr rfl
    rcases hkind with hkind | hkind | hkind
    · exact ⟨_, .generate hkind hnames hoptions⟩
    · obtain ⟨history, hgiven⟩ : ∃ history, History (task.parameter "messages") history := by
        rcases hhistory hkind with hempty | ⟨items, hitems, heach⟩
        · exact ⟨[], .absent hempty⟩
        · obtain ⟨turns, hturns⟩ := exists_forall₂_iff.mpr heach
          exact ⟨turns, hitems ▸ .items hturns⟩
      exact ⟨_, .chat hkind hnames (opensChat_iff.mpr rfl) hgiven hoptions⟩
    · exact ⟨_, .embed hkind hnames⟩

end Engine

/-! ## What a call does to the backend -/

/-- The backend when it has answered a call. -/
def Backend.after {σ τ : Type} [Backend σ τ] (backend : σ) (s : Surroundings τ)
    (context : Option String) : Call → σ
  | .generate model prompt options =>
    (Backend.generate backend s context model prompt options).backend
  | .chat model turns options => (Backend.chat backend s context model turns options).backend
  | .embed model text => (Backend.embed backend s context model text).backend
  | .tool _ _ | .plugin _ _ _ => backend

namespace Engine

variable {σ τ : Type}

/-- Between the two worlds nothing was asked of the backend, and the backend was left alone. -/
structure Spared (w w' : World σ τ) : Prop where
  unasked : Unasked w w'
  backend : w'.backend = w.backend

instance : IsPreorder (World σ τ) Spared where
  refl w := ⟨Std.Refl.refl w, rfl⟩
  trans _ _ _ h h' := ⟨IsTrans.trans _ _ _ h.unasked h'.unasked, h'.backend.trans h.backend⟩

/-- Work without the backend spares it. -/
theorem capabilityLaw_spared : CapabilityLaw (Spared (σ := σ) (τ := τ)) where
  called w call h := ⟨capabilityLaw_unasked.called w call h, rfl⟩
  logged w journal := ⟨capabilityLaw_unasked.logged w journal, rfl⟩
  recorded w ref now key value := ⟨capabilityLaw_unasked.recorded w ref now key value, rfl⟩

variable [Backend σ τ]

/-- Between the two worlds the backend has got this call and no other one, or none at all. -/
inductive Contacted (context : Option String) (w w' : World σ τ) : Option Call → Prop
  | never (spared : Spared w w') : Contacted context w w' none
  | once {call : Call} (inference : call.isInference = true)
    (history : w'.history = w.history ++ [call])
    (backend : w'.backend = Backend.after w.backend w.surroundings context call) :
    Contacted context w w' (some call)

section

variable {context : Option String} {w w' : World σ τ} {call? : Option Call}

/-- What was asked of the backend is the call, if there is one. -/
theorem Contacted.asked (h : Contacted context w w' call?) :
    ∃ calls, w'.history = w.history ++ calls ∧ calls.filter Call.isInference = call?.toList := by
  cases h with
  | never spared =>
    obtain ⟨calls, hhistory, hnone⟩ := spared.unasked
    exact ⟨calls, hhistory, List.filter_eq_nil_iff.mpr fun call hmem => by simp [hnone call hmem]⟩
  | once inference history => exact ⟨_, history, List.filter_cons_of_pos inference⟩

/-- The backend is what the call leaves of it, if there is one. -/
theorem Contacted.backend (h : Contacted context w w' call?) :
    w'.backend = call?.elim w.backend (Backend.after w.backend w.surroundings context) := by
  cases h with
  | never spared => exact spared.backend
  | once inference history backend => exact backend

end

/-- The operation makes the wanted call to the backend, if there is one. -/
def Consults (wanted : Call → Prop) (context : Option String) (run : Run σ τ TaskResult)
    (w : World σ τ) : Prop :=
  ∃ call?, (∀ call, call? = some call ↔ wanted call) ∧
    Contacted context w (worldAfter run w) call?

section Work

variable {wanted : Call → Prop} {context : Option String} {w : World σ τ} {run : Run σ τ TaskResult}

/-- Work that spares the backend consults it as it should if nothing was wanted from it. -/
theorem consults_of_spared (hnone : ∀ call, ¬ wanted call) (h : Spared w (worldAfter run w)) :
    Consults wanted context run w :=
  ⟨none, fun call => iff_of_false nofun (hnone call), .never h⟩

/-- Work that fails in its preparation must not have wanted anything. -/
theorem consults_lift_bind {α : Type} {result : Except Fault α} {next : α → Run σ τ TaskResult}
    (hnone : ∀ fault, result = .error fault → ∀ call, ¬ wanted call)
    (h : ∀ a, result = .ok a → Consults wanted context (next a) w) :
    Consults wanted context (lift result >>= next) w := by
  cases result with
  | ok a => exact h a rfl
  | error fault => exact consults_of_spared (hnone fault rfl) (Std.Refl.refl w)

/-- An operation that asks the backend and makes a result of the answer. -/
theorem consults_ask [Time τ] {α : Type} {call : Call} {answer : σ → Surroundings τ → Answer σ τ α}
    {next : α → Run σ τ TaskResult} (finish : α → Except Fault TaskResult)
    (hnext : ∀ a, next a = lift (finish a)) (hinference : call.isInference = true)
    (hbackend : (answer w.backend w.surroundings).backend =
      Backend.after w.backend w.surroundings context call)
    (hwanted : ∀ other, wanted other ↔ other = call) :
    Consults wanted context (ask call answer >>= next) w := by
  obtain rfl : next = fun a => lift (finish a) := funext hnext
  refine ⟨some call, fun other => ?_, ?_⟩
  · rw [hwanted, Option.some_inj, eq_comm]
  · rw [worldAfter_ask_lift]
    exact .once hinference rfl hbackend

variable [Time τ] {task : Task} {agent : Agent}

/-- The work on a prompt makes the one call that the task asks for. -/
theorem consults_runGenerate (hkind : task.kind = .generate) :
    Consults (Asks task agent) context (runGenerate task agent context : Run σ τ TaskResult) w := by
  refine consults_lift_bind (fun fault hfault call => ?_) fun model hmodel => ?_
  · rw [asks_iff, hkind]
    rintro ⟨model, hmodel, -⟩
    cases hfault.symm.trans hmodel
  · refine consults_ask (collectReply task model "generate") (fun _ => rfl) rfl rfl fun other => ?_
    rw [asks_iff, hkind]
    refine ⟨?_, fun h => ⟨model, hmodel, h⟩⟩
    rintro ⟨_, hmodel', rfl⟩
    cases hmodel.symm.trans hmodel'
    rfl

/-- The work on a chat makes the one call that the task asks for. -/
theorem consults_runChat (hkind : task.kind = .chat) :
    Consults (Asks task agent) context (runChat task agent context : Run σ τ TaskResult) w := by
  refine consults_lift_bind (fun fault hfault call => ?_) fun model hmodel =>
    consults_lift_bind (fun fault hfault call => ?_) fun turns hturns => ?_
  · rw [asks_iff, hkind]
    rintro ⟨model, hmodel, -⟩
    cases hfault.symm.trans hmodel
  · rw [asks_iff, hkind]
    rintro ⟨model, -, turns, hturns, -⟩
    cases hfault.symm.trans hturns
  · refine consults_ask (collectReply task model "chat") (fun _ => rfl) rfl rfl fun other => ?_
    rw [asks_iff, hkind]
    refine ⟨?_, fun h => ⟨model, hmodel, turns, hturns, h⟩⟩
    rintro ⟨_, hmodel', _, hturns', rfl⟩
    cases hmodel.symm.trans hmodel'
    cases hturns.symm.trans hturns'
    rfl

/-- The work on an embedding makes the one call that the task asks for. -/
theorem consults_runEmbed (hkind : task.kind = .embed) :
    Consults (Asks task agent) context (runEmbed task agent context : Run σ τ TaskResult) w := by
  refine consults_lift_bind (fun fault hfault call => ?_) fun model hmodel => ?_
  · rw [asks_iff, hkind]
    rintro ⟨model, hmodel, -⟩
    cases hfault.symm.trans hmodel
  · refine consults_ask (embedded task model) (fun vector => by cases vector <;> rfl) rfl rfl
      fun other => ?_
    rw [asks_iff, hkind]
    refine ⟨?_, fun h => ⟨model, hmodel, h⟩⟩
    rintro ⟨_, hmodel', rfl⟩
    cases hmodel.symm.trans hmodel'
    rfl

/-- Whatever the kind of a task is, the work on it makes the call that the task asks for, provided
that the context is open. -/
theorem consults_perform (task : Task) (ref : Ref Agent) (context : Option String) (w : World σ τ) :
    Consults (fun call => w.surroundings.Open context ∧ Asks task (w.agents.agent ref) call) context
      (perform task ref context : Run σ τ TaskResult) w := by
  by_cases hopen : w.surroundings.Open context
  · have hrun := run_perform_of_open hopen task ref
    have hworld : worldAfter (perform task ref context) w =
        worldAfter (carriedOut task ref (w.agents.agent ref) context) w := by
      rw [worldAfter, hrun, ← worldAfter]
    simp only [Consults, hopen, true_and, hworld]
    unfold carriedOut
    -- Three kinds ask the backend; the other four spare it.
    cases hkind : task.kind with
    | generate => exact consults_runGenerate hkind
    | chat => exact consults_runChat hkind
    | embed => exact consults_runEmbed hkind
    | tool =>
      exact consults_of_spared (not_asks (by simp [hkind]))
        (capabilityLaw_spared.runTool task ref w)
    | reflect =>
      exact consults_of_spared (not_asks (by simp [hkind]))
        (capabilityLaw_spared.runReflect task ref _ w)
    | plugin =>
      exact consults_of_spared (not_asks (by simp [hkind]))
        (capabilityLaw_spared.runPlugin task ref w)
    | custom =>
      exact consults_of_spared (not_asks (by simp [hkind]))
        (capabilityLaw_spared.runCustom task ref _ w)
  · cases hcheck : w.surroundings.check context (some task.id) with
    | ok _ => exact absurd (Surroundings.open_of_check hcheck) hopen
    | error fault =>
      obtain ⟨-, hworld⟩ := run_eq_error_iff.mp (run_perform_stopped ref hcheck)
      refine consults_of_spared (fun call h => hopen h.1) ?_
      rw [hworld]
      exact Std.Refl.refl w

/-- Carrying out a task makes the call that the task asks for, provided that the context is open
when it is taken up. -/
theorem consults_execute (ref : Ref Task) (agentRef : Ref Agent) (context : Option String)
    (tracked : Bool) (w : World σ τ) :
    Consults (fun call => w.surroundings.Open context ∧
        Asks (w.tasks.task ref) (w.agents.agent agentRef) call) context
      (execute ref agentRef context tracked : Run σ τ TaskResult) w := by
  set w₀ := takenUp w ref agentRef tracked
  have hsame : SameWork (w.tasks.task ref) (w₀.tasks.task ref) :=
    sameWork_tasksTakenUp w.tasks ref ref _ tracked
  obtain ⟨call?, hcall, hcontacted⟩ := consults_perform (w₀.tasks.task ref) agentRef context w₀
  refine ⟨call?, fun call =>
    (hcall call).trans (and_congr_right fun _ => asks_of_sameWork hsame), ?_⟩
  -- Taking up the task and settling it asks nothing of the backend.
  obtain ⟨tasks, scope, journal, hworld⟩ := worldAfter_execute ref agentRef context tracked w
  rw [hworld]
  cases hcontacted with
  | never spared => exact .never ⟨spared.unasked, spared.backend⟩
  | once inference history backend => exact .once inference history backend

end Work

end Engine

/-! ## What the adapter hands on -/

/-- The request that the adapter makes of a call. -/
def ServiceRequest.ofCall? : Call → Option ServiceRequest
  | .generate model prompt options =>
    some (.generate model prompt (Adapter.givenOptions options))
  | .chat model turns options => some (.chat model turns (Adapter.givenOptions options))
  | .embed model text => some (.embed model text)
  | .tool _ _ | .plugin _ _ _ => none

namespace Adapter

variable {τ : Type}

theorem requests_finish (adapter : Adapter τ) (session : ServiceSession) :
    (adapter.finish session).requests = adapter.requests := by
  obtain ⟨clients, hfinished⟩ := finish_frame adapter session
  rw [hfinished]

variable [Time τ]

/-- A call puts its request to the service once, on whichever client. -/
theorem requests_begin (adapter : Adapter τ) (s : Surroundings τ) (context : Option String)
    (request : ServiceRequest) :
    (adapter.begin s context request).2.2.requests = adapter.requests ++ [request] := by
  obtain ⟨clients, shared, hbegun⟩ := begin_frame adapter s context request
  rw [hbegun]

/-- A call on behalf of an open context becomes one request to the service. -/
theorem requests_after {s : Surroundings τ} {context : Option String} (hopen : s.Open context)
    (adapter : Adapter τ) {call : Call} {request : ServiceRequest}
    (hrequest : ServiceRequest.ofCall? call = some request) :
    (Backend.after adapter s context call).requests = adapter.requests ++ [request] := by
  cases call with
  | generate model prompt options =>
    cases hrequest
    exact (requests_finish _ _).trans (requests_begin adapter s context _)
  | chat model turns options =>
    cases hrequest
    exact (requests_finish _ _).trans (requests_begin adapter s context _)
  | embed model text =>
    cases hrequest
    show (adapter.embed s context model text).backend.requests = _
    rw [backend_embed_of_ok (hopen.check none), requests_finish, requests_begin]
  | tool name parameters => cases hrequest
  | plugin name input parameters => cases hrequest

end Adapter

namespace Engine

/-- **Which calls reach the backend.** Whatever the task, the agent, the context and the backend
are: carrying the task out makes one call to the backend at most. It makes one exactly if the
context is open and the task is eligible, and leaves the backend alone otherwise. The call is the
one that the task asks for. An adapter makes one request to its service of it, and of a chat a
request with the same turns in the same order. -/
theorem backend_called_iff {σ τ : Type} [Time τ] [Backend σ τ] (ref : Ref Task)
    (agentRef : Ref Agent) (context : Option String) (tracked : Bool) (w : World σ τ) :
    let task := w.tasks.task ref
    let agent := w.agents.agent agentRef
    let w' := worldAfter (execute ref agentRef context tracked) w
    (∃ calls, w'.history = w.history ++ calls ∧
      let asked := calls.filter Call.isInference
      asked.length ≤ 1 ∧
      (asked ≠ [] ↔ w.surroundings.Open context ∧ Eligible task agent) ∧
      (asked = [] → w'.backend = w.backend) ∧
      ∀ call ∈ asked, Asks task agent call ∧
        w'.backend = Backend.after w.backend w.surroundings context call) ∧
    ∀ (adapter : Adapter τ) (s : Surroundings τ), s.Open context →
      ∀ call request, ServiceRequest.ofCall? call = some request →
        (Backend.after adapter s context call).requests = adapter.requests ++ [request] ∧
        ∀ model turns options, call = .chat model turns options →
          ∃ fields, request.toValue = .map fields ∧
            Value.entry? fields "messages" = some (.list (turns.map fun turn =>
              .record [("role", .text turn.role.label), ("content", .text turn.content)])) := by
  intro task agent w'
  refine ⟨?_, fun adapter s hopen call request hrequest =>
    ⟨Adapter.requests_after hopen adapter hrequest, ?_⟩⟩
  · obtain ⟨call?, hcall, hcontacted⟩ := consults_execute ref agentRef context tracked w
    obtain ⟨calls, hhistory, hasked⟩ := hcontacted.asked
    -- There is a call to make exactly if the task is eligible, and then it is the one that is made.
    have hwanted : (∃ call, call? = some call) ↔
        w.surroundings.Open context ∧ Eligible task agent := by
      simp only [hcall]
      rw [exists_and_left, exists_asks_iff]
    refine ⟨calls, hhistory, ?_⟩
    rw [hasked, ← hwanted]
    cases call? with
    | none =>
      exact ⟨Nat.zero_le _, iff_of_false (fun h => h rfl) (by rintro ⟨call, ⟨⟩⟩),
        fun _ => hcontacted.backend, nofun⟩
    | some call =>
      refine ⟨Nat.le_refl _, iff_of_true nofun ⟨call, rfl⟩, nofun, fun other hother => ?_⟩
      obtain rfl := List.mem_singleton.mp hother
      exact ⟨((hcall other).mp rfl).2, hcontacted.backend⟩
  · rintro model turns options rfl
    cases hrequest
    exact ⟨_, rfl, rfl⟩

end Engine

end Orchestration
