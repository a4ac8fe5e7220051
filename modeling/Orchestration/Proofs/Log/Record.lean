import Orchestration.Log.Record
import Orchestration.Proofs.Value.Json

/-!
# A record is one line that is read back

A record that is written as JSON should be one line that cannot be mistaken for another one:
whatever its message, its logger and its fault say, what is written is made of printable characters
of ASCII, so that no line is split or forged, and whoever reads it finds the fields of the record
with the texts that they had, and no other field (`Shows`). Structured data may be anything that
JSON has, short of numbers that are no integers; if one of its integers has more digits than are
written, nothing is written at all.

The main statement is `written_as_one_line`.
-/

namespace Orchestration.Log

/-! ## What a line should show -/

/-- The fields are those of the scope that are set. -/
structure Scope.Shows (scope : Scope) (shown : Fields) : Prop where
  distinct : shown.keys.Nodup
  agent : shown.find? "agent_id" = scope.agentId.map .text
  task : shown.find? "task_id" = scope.taskId.map .text
  conversation : shown.find? "conversation_id" = scope.conversationId.map .text
  only : shown.keys ⊆ ["agent_id", "task_id", "conversation_id"]

/-- The fields are those of a record that says the message: the scope is among them if any part of
it is set, the data if there are any, and the fault if there is one. -/
structure Record.Shows (record : Record) (message : String) (shown : Fields) : Prop where
  distinct : shown.keys.Nodup
  timestamp : shown.find? "timestamp" = some (.text record.moment.iso)
  level : shown.find? "level" = some (.text (rankName record.rank))
  logger : shown.find? "logger" = some (.text record.logger)
  thread : shown.find? "thread" = some (.text record.thread)
  message : shown.find? "message" = some (.text message)
  noContext : record.scope = {} → shown.find? "context" = none
  context : record.scope ≠ {} → ∃ context : Fields,
    shown.find? "context" = some (.record context) ∧ record.scope.Shows context
  data : shown.find? "data" = if record.data.truthy then some record.data else none
  exception : shown.find? "exception" =
    record.exception.map fun exception => .text (exceptionText exception)
  only : shown.keys ⊆
    ["timestamp", "level", "logger", "thread", "message", "context", "data", "exception"]

/-! ## The fields of a scope -/

namespace Scope

/-- A scope shows no field if nothing in it is set. -/
theorem fields_eq_nil_iff {scope : Scope} : scope.fields = [] ↔ scope = {} := by
  obtain ⟨agentId, taskId, conversationId⟩ := scope
  cases agentId <;> cases taskId <;> cases conversationId <;> simp [fields]

/-- The fields are as a reader should find them. -/
theorem shows_fields (scope : Scope) : scope.Shows scope.fields := by
  obtain ⟨agentId, taskId, conversationId⟩ := scope
  constructor <;> cases agentId <;> cases taskId <;> cases conversationId <;>
    simp [fields, Table.keys, Table.find?]

theorem exists_text_of_mem_fields {scope : Scope} {field : String × Value}
    (h : field ∈ scope.fields) : ∃ text, field.2 = .text text := by
  obtain ⟨⟨name, value⟩, -, hvalue⟩ := List.mem_filterMap.mp h
  obtain ⟨text, -, rfl⟩ := Option.map_eq_some_iff.mp hvalue
  exact ⟨text, rfl⟩

/-- The fields are made of what is written as JSON. -/
theorem plain_fields (scope : Scope) : Json.Plain (.record scope.fields) := by
  refine .record scope.shows_fields.distinct fun field hfield => ?_
  obtain ⟨text, htext⟩ := exists_text_of_mem_fields hfield
  rw [htext]
  exact .text text

/-- The fields of a scope are texts, which can always be written. -/
theorem overlong_fields (scope : Scope) : (Value.record scope.fields).overlong = false := by
  refine Json.overlong_record_iff.mpr fun field hfield => ?_
  obtain ⟨text, htext⟩ := exists_text_of_mem_fields hfield
  rw [htext]
  rfl

end Scope

/-! ## The fields of a record -/

namespace Record

/-- The field of a name, if there is a value for it. -/
def given (name : String) (value : Option Value) : Fields :=
  value.toList.map (name, ·)

/-- A field that may be missing has one name. -/
theorem keys_given_sublist (name : String) (value : Option Value) :
    (given name value).keys.Sublist [name] := by
  cases value
  · exact List.nil_sublist _
  · exact List.Sublist.refl _

/-- A field that may be missing is found under its name, if it is there. -/
theorem find?_given (name : String) (value : Option Value) (key : String) :
    (given name value).find? key = if name = key then value else none := by
  cases value
  · exact (ite_self none).symm
  · rfl

/-- The fields that every record has. -/
def always (record : Record) : Fields :=
  [("timestamp", .text record.moment.iso), ("level", .text (rankName record.rank)),
    ("logger", .text record.logger), ("thread", .text record.thread),
    ("message", .text record.message)]

/-- The fields come in one order, and the last three may be missing. -/
theorem fields_eq (record : Record) :
    record.fields = record.always ++
      given "context" (if record.scope = {} then none else some (.record record.scope.fields)) ++
      given "data" (if record.data.truthy then some record.data else none) ++
      given "exception"
        (record.exception.map fun exception => .text (exceptionText exception)) := by
  -- The three parts that may be missing are compared one by one.
  unfold fields
  simp only [List.isEmpty_iff, Scope.fields_eq_nil_iff]
  congr 2
  · congr 1
    split <;> rfl
  · split <;> rfl
  · cases record.exception <;> rfl

/-- The fields of a record come in a fixed order, and some may be missing. -/
theorem keys_fields_sublist (record : Record) :
    record.fields.keys.Sublist
      ["timestamp", "level", "logger", "thread", "message", "context", "data", "exception"] := by
  rw [fields_eq]
  simp only [Table.keys, List.map_append]
  exact (((List.Sublist.refl _).append (keys_given_sublist ..)).append
    (keys_given_sublist ..)).append (keys_given_sublist ..)

/-- The fields are as a reader should find them. -/
theorem shows_fields (record : Record) : record.Shows record.message record.fields where
  distinct := record.keys_fields_sublist.nodup (by decide)
  timestamp := rfl
  level := rfl
  logger := rfl
  thread := rfl
  message := rfl
  noContext hnone := by
    simp [fields_eq, always, Table.find?, Table.find?_append, find?_given, hnone]
  context hsome := by
    refine ⟨record.scope.fields, ?_, record.scope.shows_fields⟩
    simp [fields_eq, always, Table.find?, Table.find?_append, find?_given, hsome]
  data := by
    simp [fields_eq, always, Table.find?, Table.find?_append, find?_given]
  exception := by
    simp [fields_eq, always, Table.find?, Table.find?_append, find?_given]
  only := record.keys_fields_sublist.subset

/-- What holds of a value that is given for a name holds of the field. -/
theorem of_mem_given {P : Value → Prop} {name : String} {value : Option Value}
    (hvalue : ∀ v ∈ value, P v) {field : String × Value} (h : field ∈ given name value) :
    P field.2 := by
  obtain ⟨v, hv, rfl⟩ := List.mem_map.mp h
  exact hvalue v (Option.mem_toList.mp hv)

/-- The values of a record are texts, its scope and its data. -/
theorem of_mem_fields (record : Record) {P : Value → Prop} (text : ∀ s, P (.text s))
    (scope : P (.record record.scope.fields)) (data : P record.data) {field : String × Value}
    (h : field ∈ record.fields) : P field.2 := by
  rw [fields_eq] at h
  simp only [List.mem_append] at h
  rcases h with ((halways | hcontext) | hdatum) | hexception
  · simp only [always, List.mem_cons, List.not_mem_nil, or_false] at halways
    rcases halways with rfl | rfl | rfl | rfl | rfl <;> exact text _
  · refine of_mem_given (fun v hv => ?_) hcontext
    obtain ⟨-, ⟨⟩⟩ := Option.ite_none_left_eq_some.mp hv
    exact scope
  · refine of_mem_given (fun v hv => ?_) hdatum
    obtain ⟨-, ⟨⟩⟩ := Option.ite_none_right_eq_some.mp hv
    exact data
  · refine of_mem_given (fun v hv => ?_) hexception
    obtain ⟨exception, -, rfl⟩ := Option.map_eq_some_iff.mp hv
    exact text _

/-- The fields are made of what is written as JSON. -/
theorem plain_fields (record : Record) (hdata : Json.Plain record.data) :
    Json.Plain (.record record.fields) :=
  .record record.shows_fields.distinct fun _ =>
    record.of_mem_fields .text record.scope.plain_fields hdata

/-- Data that cannot be written are among the fields of their record, since they are not empty. -/
theorem data_mem_fields {record : Record} (hlong : record.data.overlong = true) :
    ("data", record.data) ∈ record.fields := by
  rw [fields_eq, if_pos (Value.truthy_of_overlong hlong)]
  simp [given]

/-- What cannot be written of a record is its data. -/
theorem overlong_fields (record : Record) :
    (Value.record record.fields).overlong = record.data.overlong := by
  cases hdata : record.data.overlong with
  | false =>
    exact Json.overlong_record_iff.mpr fun _ =>
      record.of_mem_fields (P := (·.overlong = false)) (fun _ => rfl) record.scope.overlong_fields
        hdata
  | true =>
    refine (Bool.not_eq_false _).mp fun hshort => ?_
    cases hdata.symm.trans (Json.overlong_record_iff.mp hshort _ (data_mem_fields hdata))

/-- A record is written as JSON unless its data cannot be written. -/
theorem writtenUnless_writeWith (record : Record) {arguments : List Value} {message : String}
    (hmessage : interpolate record.message arguments = .ok message) :
    WrittenUnless record.data.overlong (record.writeWith arguments .json) := by
  have hwrite : record.writeWith arguments .json =
      Json.write (.record ({ record with message } : Record).fields) := by
    rw [writeWith, hmessage]
    rfl
  rw [hwrite]
  exact overlong_fields { record with message } ▸ Json.writtenUnless_write _

end Record

/-- **One line.** A record whose message takes in its arguments and whose data can be written is
written as JSON on one line, and whoever reads the line finds just the fields of the record. If an
integer in the data has more digits than are written, the record is not written. -/
theorem written_as_one_line (record : Record) {arguments : List Value} {message : String}
    (hmessage : interpolate record.message arguments = .ok message)
    (hdata : Json.Plain record.data) :
    (record.data.overlong = false →
      ∃ line shown, record.writeWith arguments .json = .ok line ∧
        (∀ c ∈ line.toList, Json.Printable c) ∧
        Json.read? line = some (.record shown) ∧ record.Shows message shown) ∧
      (record.data.overlong = true →
        record.writeWith arguments .json = .error .overlongInteger) := by
  have hwritten := record.writtenUnless_writeWith hmessage
  refine ⟨fun hshort => ?_, hwritten.eq_error⟩
  let said : Record := { record with message }
  obtain ⟨line, hline⟩ := hwritten.exists_eq_ok hshort
  have hjson : Json.write (.record said.fields) = .ok line := by
    rw [← hline, Record.writeWith, hmessage]
    rfl
  have hplain : Json.Plain (.record said.fields) := said.plain_fields hdata
  have hshows : said.Shows message said.fields := said.shows_fields
  exact ⟨line, said.fields, hline, hplain.printable_of_write hjson, hplain.read?_of_write hjson,
    { hshows with }⟩

/-- A record with a name in its message, about an agent. -/
def greeting : Record where
  moment := ⟨0, some 0⟩
  rank := 20
  logger := "agentweave.api"
  message := "hello %s"
  scope := { agentId := some "a1" }
  data := .list [.int 1, .null]

/-- A name with a line feed and a quote in it does not start a line of its own. -/
theorem written_as_one_line_greeting :
    ∃ line shown, greeting.writeWith [.text "Zoë\n\"INFO\""] .json = .ok line ∧
      (∀ c ∈ line.toList, Json.Printable c) ∧
      Json.read? line = some (.record shown) ∧ greeting.Shows "hello Zoë\n\"INFO\"" shown := by
  have hmessage : interpolate greeting.message [.text "Zoë\n\"INFO\""] =
      .ok "hello Zoë\n\"INFO\"" := by rfl
  have hdata : Json.Plain greeting.data := by
    refine .list fun item hitem => ?_
    rcases List.mem_cons.mp hitem with rfl | hitem
    · exact .int 1
    · rw [List.mem_singleton.mp hitem]
      exact .null
  exact (written_as_one_line greeting hmessage hdata).1 rfl

/-- A record whose data hold the least integer that cannot be written. -/
def boundlessGreeting : Record :=
  { greeting with data := .record [("n", .int leastOverlong)] }

/-- Not every record with data that JSON has is written on one line: this one is not written. -/
theorem unwritten_boundlessGreeting :
    ¬ ∀ (record : Record) (arguments : List Value) (message : String),
      interpolate record.message arguments = .ok message → Json.Plain record.data →
        ∃ line shown, record.writeWith arguments .json = .ok line ∧
          (∀ c ∈ line.toList, Json.Printable c) ∧
          Json.read? line = some (.record shown) ∧ record.Shows message shown := by
  intro hall
  have hmessage : interpolate boundlessGreeting.message [.text "Zoë"] = .ok "hello Zoë" := by rfl
  have hdata : Json.Plain boundlessGreeting.data :=
    .record (by decide) (List.forall_mem_singleton.mpr (.int leastOverlong))
  have hlong : boundlessGreeting.data.overlong = true := by
    refine (Bool.not_eq_false _).mp fun hshort => ?_
    have hint := Json.overlong_record_iff.mp hshort ("n", .int leastOverlong) List.mem_cons_self
    exact Bool.false_ne_true (hint.symm.trans isOverlong_leastOverlong)
  obtain ⟨line, shown, hline, -⟩ := hall boundlessGreeting _ _ hmessage hdata
  have hfails := (boundlessGreeting.writtenUnless_writeWith hmessage).eq_error hlong
  cases hfails.symm.trans hline

end Orchestration.Log
