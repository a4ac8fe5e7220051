import Orchestration.Value

/-!
# Access to parts of values

Data that describes something is a mapping with optional entries. What is absent, or is not of the
sort that is asked for, counts as absent.
-/

namespace Orchestration.Value

/-- The entry of a mapping. -/
def field? (v : Value) (name : String) : Option Value :=
  match v with
  | .map es => entry? es name
  | _ => none

/-- The entry of a mapping; null if it is absent. -/
def field (v : Value) (name : String) : Value :=
  (v.field? name).getD .null

/-- A text in a mapping. -/
def textAt? (v : Value) (name : String) : Option String :=
  (v.field? name).bind text?

/-- A text in a mapping; empty if it is absent. -/
def textAt (v : Value) (name : String) : String :=
  (v.textAt? name).getD ""

/-- The items of a list. -/
def items : Value → List Value
  | .list vs => vs
  | _ => []

/-- The items of a list in a mapping. -/
def itemsAt (v : Value) (name : String) : List Value :=
  (v.field name).items

/-- The entries of a mapping. -/
def entries : Value → List (Key × Value)
  | .map es => es
  | _ => []

/-- The entries of a mapping whose keys are texts. -/
def fields (v : Value) : Fields :=
  v.entries.filterMap fun (k, v) => k.text?.map fun name => (name, v)

/-- The entries of a mapping in a mapping. -/
def fieldsAt (v : Value) (name : String) : Fields :=
  (v.field name).fields

/-- Whether an entry of a mapping counts as true. -/
def flagAt (v : Value) (name : String) : Bool :=
  (v.field name).truthy

/-- A mapping with other entries written into it. -/
def updated (v changes : Value) : Value :=
  .record (Table.merge v.fields changes.fields)

end Orchestration.Value
