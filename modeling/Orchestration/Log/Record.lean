import Orchestration.Log.Message
import Orchestration.Log.Scope
import Orchestration.Moment.Pattern
import Orchestration.Value.Json

/-!
# Log records and their written forms

A record says when something happened, how much it matters, who says it and in which scope. It is
written either as one line of JSON or as a line for human readers.
-/

namespace Orchestration.Log

/-- How much a record matters. -/
inductive Level where
  | debug
  | info
  | warning
  | error
deriving DecidableEq, Repr

/-- The rank of a level; records of higher rank matter more. -/
def Level.rank : Level → Nat
  | .debug => 10
  | .info => 20
  | .warning => 30
  | .error => 40

/-- The name of a rank. -/
def rankName (rank : Int) : String :=
  match rank with
  | 0 => "NOTSET"
  | 10 => "DEBUG"
  | 20 => "INFO"
  | 30 => "WARNING"
  | 40 => "ERROR"
  | 50 => "CRITICAL"
  | rank => "Level " ++ Decimal.integerText rank

/-- The rank that a name stands for. -/
def rankOfName? (name : String) : Option Nat :=
  match name with
  | "NOTSET" => some 0
  | "DEBUG" => some 10
  | "INFO" => some 20
  | "WARNING" | "WARN" => some 30
  | "ERROR" => some 40
  | "CRITICAL" | "FATAL" => some 50
  | _ => none

/-- Something that happened. -/
structure Record where
  moment : Moment
  /-- How much it matters. The level has a name when the record is made, so the rank can be
  written. -/
  rank : Int
  logger : String
  thread : String := "MainThread"
  message : String
  scope : Scope := {}
  /-- Structured data that belongs to the record. -/
  data : Value := .null
  /-- The fault that the record reports: its class and its text. -/
  exception : Option (String × String) := none

/-- The form in which records are written. -/
inductive Form where
  | json
  | text
deriving DecidableEq, Repr

/-- A fault as a record reports it. -/
def exceptionText (exception : String × String) : String :=
  if exception.2 = "" then exception.1 else exception.1 ++ ": " ++ exception.2

/-- The fields of a record as JSON shows them. -/
def Record.fields (record : Record) : Fields :=
  let scope := record.scope.fields
  [("timestamp", .text record.moment.iso), ("level", .text (rankName record.rank)),
    ("logger", .text record.logger), ("thread", .text record.thread),
    ("message", .text record.message)] ++
    (if scope.isEmpty then [] else [("context", .record scope)]) ++
    (if record.data.truthy then [("data", record.data)] else []) ++
    (match record.exception with
      | some exception => [("exception", .text (exceptionText exception))]
      | none => [])

/-- The level, the logger, the text and the scope of the record. -/
def Record.toValue (record : Record) : Value :=
  .record [("level", .text (rankName record.rank)), ("logger", .text record.logger),
    ("message", .text record.message), ("context", .record record.scope.fields)]

/-- The record as one line of JSON, if what belongs to it can be written. -/
def Record.json (record : Record) : Except Fault String :=
  Json.write (.record record.fields)

/-- The first eight characters of an identifier, in a frame, if there is one. -/
def tag (opening closing : String) (id : Option String) : List String :=
  match id with
  | none => []
  | some id =>
    if id = "" then [] else [opening ++ String.ofList (id.toList.take 8) ++ closing]

/-- The text, padded on the right to eight characters. -/
def padded8 (text : String) : String :=
  String.ofList (text.toList ++ List.replicate (8 - text.length) ' ')

/-- The record as a line for human readers. -/
def Record.text (record : Record) : String :=
  let parts :=
    [record.moment.format "%Y-%m-%d %H:%M:%S", "[" ++ padded8 (rankName record.rank) ++ "]",
      record.logger] ++
    tag "<conv " ">" record.scope.conversationId ++ tag "[" "]" record.scope.agentId ++
    tag "(task " ")" record.scope.taskId ++ ["- " ++ record.message]
  " ".intercalate parts ++
    (match record.exception with
      | some exception => "\n" ++ exceptionText exception
      | none => "")

/-- The record in a form. -/
def Record.write (record : Record) : Form → Except Fault String
  | .json => record.json
  | .text => .ok record.text

/-- The record in a form, when its message has taken in the arguments that belong to it. -/
def Record.writeWith (record : Record) (arguments : List Value) (form : Form) :
    Except Fault String := do
  let message ← interpolate record.message arguments
  { record with message }.write form

end Orchestration.Log
