import Orchestration.Decimal.Binary
import Orchestration.Table

/-!
# Dynamic values

Parameters, configurations, message contexts and the outputs of tools and plugins are dynamic: a
`Value` is what such a place can hold. Mappings keep their entries in order of arrival, and their
keys are scalars. Values are trees of plain data. They are held by value, so that whoever is given
one has a copy of it: objects that cannot be copied, parts that two values share and values that
contain themselves are not among them.
-/

namespace Orchestration

/-- The kinds of work that a task can ask for. -/
inductive TaskKind where
  | generate
  | chat
  | embed
  | tool
  | reflect
  | plugin
  | custom
deriving DecidableEq, Repr, Inhabited

/-- The label of a kind of work. -/
def TaskKind.label : TaskKind → String
  | .generate => "generate"
  | .chat => "chat"
  | .embed => "embed"
  | .tool => "tool"
  | .reflect => "reflect"
  | .plugin => "plugin"
  | .custom => "custom"

/-- The kinds of work in the order of their declaration. -/
def TaskKind.all : List TaskKind :=
  [.generate, .chat, .embed, .tool, .reflect, .plugin, .custom]

/-- The kind with the given label. -/
def TaskKind.ofLabel? (label : String) : Option TaskKind :=
  TaskKind.all.find? (·.label = label)

/-- The kind of work that a label asks for; labels that name none ask for custom work. -/
def TaskKind.parse (label : String) : TaskKind :=
  (TaskKind.ofLabel? label).getD .custom

/-- A scalar that identifies an entry of a mapping. -/
inductive Key where
  | null
  | bool (b : Bool)
  | int (n : Int)
  | float (x : Float)
  | text (s : String)
  | kind (k : TaskKind)

/-- A dynamic value. -/
inductive Value where
  | null
  | bool (b : Bool)
  | int (n : Int)
  | float (x : Float)
  | text (s : String)
  /-- A task kind, given as such and not by its label. -/
  | kind (k : TaskKind)
  | list (items : List Value)
  | map (entries : List (Key × Value))
  /-- A tool call that is already parsed. -/
  | toolCall (name : String) (parameters : List (String × Value))

instance : Inhabited Value := ⟨.null⟩

/-- A table of dynamic values under text keys. -/
abbrev Fields := Table Value

/-! ## Keys -/

namespace Key

/-- The text of a key that is a text or a label. -/
def text? : Key → Option String
  | .text s => some s
  | .kind k => some k.label
  | _ => none

/-- The number that a numeric key stands for, when it is integral. -/
def integer? : Key → Option Int
  | .bool b => some b.toInt
  | .int n => some n
  | .float x => Decimal.integer? x
  | _ => none

/-- The two keys name the same entry. -/
def same : Key → Key → Bool
  | .null, .null => true
  | .float x, .float y => x == y
  | a, b =>
    -- A kind is the same key as its label, and numbers are the same key if they are equal.
    match a.text?, b.text? with
    | some s, some t => s = t
    | _, _ =>
      match a.integer?, b.integer? with
      | some m, some n => m = n
      | _, _ => false

end Key

/-- The key as a value. -/
def Key.toValue : Key → Value
  | .null => .null
  | .bool b => .bool b
  | .int n => .int n
  | .float x => .float x
  | .text s => .text s
  | .kind k => .kind k

/-! ## Values -/

namespace Value

/-- The text of a value that is a text or a label. -/
def text? : Value → Option String
  | .text s => some s
  | .kind k => some k.label
  | _ => none

/-- The name of a value's type. -/
def typeName : Value → String
  | .null => "NoneType"
  | .bool _ => "bool"
  | .int _ => "int"
  | .float _ => "float"
  | .text _ => "str"
  | .kind _ => "TaskType"
  | .list _ => "list"
  | .map _ => "dict"
  | .toolCall _ _ => "ToolCall"

/-- A text, or nothing. -/
def ofText? (s : Option String) : Value :=
  match s with
  | some s => .text s
  | none => .null

/-- A list of texts. -/
def texts (items : List String) : Value :=
  .list (items.map .text)

/-- A mapping with text keys. -/
def record (fields : Fields) : Value :=
  .map (fields.map fun (k, v) => (.text k, v))

/-- A mapping from texts to counts. -/
def counts (table : Table Nat) : Value :=
  record (table.map fun (k, n) => (k, .int n))

/-- The value under a text key. -/
def entry? (entries : List (Key × Value)) (key : String) : Option Value :=
  (entries.find? fun (k, _) => k.text? = some key).map (·.2)

/-- Writes a value under a key: in place if the key is present, at the end if it is not. -/
def insertEntry : List (Key × Value) → Key → Value → List (Key × Value)
  | [], key, value => [(key, value)]
  | (k, v) :: rest, key, value =>
    if k.same key then (k, value) :: rest else (k, v) :: insertEntry rest key value

/-- The mapping that results from writing the entries one after the other. -/
def ofEntries (entries : List (Key × Value)) : Value :=
  .map (entries.foldl (fun map (k, v) => insertEntry map k v) [])

/-- The value counts as true where a condition is asked for. -/
def truthy : Value → Bool
  | .null => false
  | .bool b => b
  | .int n => n ≠ 0
  | .float x => !(x == 0.0)
  | .text s => s ≠ ""
  | .kind _ => true
  | .list items => !items.isEmpty
  | .map entries => !entries.isEmpty
  | .toolCall _ _ => true

end Value

end Orchestration
