import Orchestration.Fault
import Orchestration.Numeral

/-!
# Values as text

How a value appears inside a text. On its own a text stands for itself; inside a list or a mapping
it is quoted. Numbers are written in their shortest form, the constants are `True`, `False` and
`None`, lists stand in brackets and mappings in braces. An integer with too many digits cannot be
written (`writable`), and neither can a value that it is part of (`Value.overlong`).
-/

namespace Orchestration

/-- The upper-case name of a task kind. -/
def TaskKind.constant (kind : TaskKind) : String :=
  kind.label.map Char.toUpper

/-- A task kind as it appears inside a list or a mapping. -/
def TaskKind.shown (kind : TaskKind) : String :=
  "<TaskType." ++ kind.constant ++ ": " ++ Text.quoted kind.label ++ ">"

/-- The truth values. -/
def boolText (b : Bool) : String :=
  if b then "True" else "False"

/-- The texts with commas between them. -/
def commaSeparated (items : List String) : String :=
  ", ".intercalate items

/-! ## Integers -/

/-- The integer has more digits than are written. -/
def isOverlong (n : Int) : Bool :=
  Numeral.digitLimit < (Decimal.naturalDigits n.natAbs).length

/-- The integer, if it can be written. -/
def writable (n : Int) : Except Fault Int :=
  if isOverlong n then .error .overlongInteger else .ok n

/-- An integer as text. -/
def integerShown (n : Int) : Except Fault String := do
  return Decimal.integerText (← writable n)

/-! ## Values -/

/-- A key as it appears inside a mapping. -/
def Key.shown : Key → Except Fault String
  | .null => .ok "None"
  | .bool b => .ok (boolText b)
  | .int n => integerShown n
  | .float x => .ok (Decimal.floatText x)
  | .text s => .ok (Text.quoted s)
  | .kind k => .ok k.shown

mutual

/-- A value as it appears inside another one. -/
def Value.shown : Value → Except Fault String
  | .null => .ok "None"
  | .bool b => .ok (boolText b)
  | .int n => integerShown n
  | .float x => .ok (Decimal.floatText x)
  | .text s => .ok (Text.quoted s)
  | .kind k => .ok k.shown
  | .list items => do
    return "[" ++ commaSeparated (← Value.shownItems items) ++ "]"
  | .map entries => do
    return "\x7b" ++ commaSeparated (← Value.shownEntries entries) ++ "\x7d"
  | .toolCall name parameters => do
    return "ToolCall(name=" ++ Text.quoted name ++ ", parameters=\x7b" ++
      commaSeparated (← Value.shownFields parameters) ++ "\x7d)"

/-- The items of a list as they appear inside it. -/
def Value.shownItems : List Value → Except Fault (List String)
  | [] => .ok []
  | v :: rest => do
    let first ← v.shown
    return first :: (← Value.shownItems rest)

/-- The entries of a mapping as they appear inside it. -/
def Value.shownEntries : List (Key × Value) → Except Fault (List String)
  | [] => .ok []
  | (k, v) :: rest => do
    let key ← k.shown
    let value ← v.shown
    return (key ++ ": " ++ value) :: (← Value.shownEntries rest)

/-- The entries of a table as they appear inside a mapping. -/
def Value.shownFields : List (String × Value) → Except Fault (List String)
  | [] => .ok []
  | (k, v) :: rest => do
    let value ← v.shown
    return (Text.quoted k ++ ": " ++ value) :: (← Value.shownFields rest)

end

/-- A value as it stands on its own in a text. -/
def Value.display : Value → Except Fault String
  | .text s => .ok s
  | .kind k => .ok ("TaskType." ++ k.constant)
  | .toolCall name parameters => do
    return "name=" ++ Text.quoted name ++ " parameters=\x7b" ++
      commaSeparated (← Value.shownFields parameters) ++ "\x7d"
  | value => value.shown

/-! ## Values that cannot be written -/

/-- The key has more digits than are written. -/
def Key.overlong : Key → Bool
  | .int n => isOverlong n
  | _ => false

mutual

/-- An integer in the value has more digits than are written. -/
def Value.overlong : Value → Bool
  | .int n => isOverlong n
  | .list items => Value.overlongItems items
  | .map entries => Value.overlongEntries entries
  | .toolCall _ parameters => Value.overlongFields parameters
  | _ => false

/-- An integer in one of the items has more digits than are written. -/
def Value.overlongItems : List Value → Bool
  | [] => false
  | v :: rest => v.overlong || Value.overlongItems rest

/-- An integer in one of the entries has more digits than are written. -/
def Value.overlongEntries : List (Key × Value) → Bool
  | [] => false
  | (k, v) :: rest => k.overlong || (v.overlong || Value.overlongEntries rest)

/-- An integer in one of the fields has more digits than are written. -/
def Value.overlongFields : List (String × Value) → Bool
  | [] => false
  | (_, v) :: rest => v.overlong || Value.overlongFields rest

end

/-- A list can be written if each of its items can. -/
theorem Value.overlongItems_eq_false_iff {items : List Value} :
    Value.overlongItems items = false ↔ ∀ item ∈ items, item.overlong = false := by
  induction items with
  | nil => exact iff_of_true rfl nofun
  | cons item rest ih => rw [Value.overlongItems, Bool.or_eq_false_iff, ih, List.forall_mem_cons]

/-- A mapping can be written if each of its keys and values can. -/
theorem Value.overlongEntries_eq_false_iff {entries : List (Key × Value)} :
    Value.overlongEntries entries = false ↔
      ∀ entry ∈ entries, entry.1.overlong = false ∧ entry.2.overlong = false := by
  induction entries with
  | nil => exact iff_of_true rfl nofun
  | cons entry rest ih =>
    rw [Value.overlongEntries, Bool.or_eq_false_iff, Bool.or_eq_false_iff, ih,
      List.forall_mem_cons, and_assoc]

/-- There is a result, unless what it is made of is overlong: then this is the fault. -/
def WrittenUnless {α : Type} (overlong : Bool) (result : Except Fault α) : Prop :=
  match overlong with
  | true => result = .error .overlongInteger
  | false => ∃ a, result = .ok a

section

variable {α β : Type} {overlong : Bool} {result : Except Fault α}

theorem writtenUnless_ok (a : α) : WrittenUnless false (.ok a) :=
  ⟨a, rfl⟩

/-- A result that is made of another one is there with it. -/
theorem WrittenUnless.map (h : WrittenUnless overlong result) (f : α → β) :
    WrittenUnless overlong (result >>= fun a => pure (f a)) := by
  cases overlong with
  | true =>
    obtain rfl : result = .error .overlongInteger := h
    rfl
  | false =>
    obtain ⟨a, rfl⟩ := h
    exact ⟨f a, rfl⟩

/-- What is made of two parts is there if both of them are. -/
theorem WrittenUnless.bind {other : Bool} {next : α → Except Fault β}
    (h : WrittenUnless overlong result) (hnext : ∀ a, WrittenUnless other (next a)) :
    WrittenUnless (overlong || other) (result >>= next) := by
  cases overlong with
  | true =>
    obtain rfl : result = .error .overlongInteger := h
    rfl
  | false =>
    obtain ⟨a, rfl⟩ := h
    exact hnext a

/-- What is overlong comes to the fault. -/
theorem WrittenUnless.eq_error (h : WrittenUnless overlong result) (hlong : overlong = true) :
    result = .error .overlongInteger := by
  subst hlong
  exact h

/-- What is not overlong has a result. -/
theorem WrittenUnless.exists_eq_ok (h : WrittenUnless overlong result) (hshort : overlong = false) :
    ∃ a, result = .ok a := by
  subst hshort
  exact h

/-- What has a result is not overlong. -/
theorem WrittenUnless.eq_false_of_ok (h : WrittenUnless overlong result) {a : α}
    (hok : result = .ok a) : overlong = false := by
  cases overlong with
  | false => rfl
  | true => cases (WrittenUnless.eq_error h rfl).symm.trans hok

/-- There is only one way to fail. -/
theorem WrittenUnless.eq_error_iff (h : WrittenUnless overlong result) {fault : Fault} :
    result = .error fault ↔ overlong = true ∧ fault = .overlongInteger := by
  cases overlong with
  | true =>
    obtain rfl : result = .error .overlongInteger := h
    exact ⟨by rintro ⟨⟩; exact ⟨rfl, rfl⟩, by rintro ⟨-, rfl⟩; rfl⟩
  | false =>
    obtain ⟨a, rfl⟩ := h
    exact iff_of_false nofun nofun

end

/-- An integer can be written unless it is overlong. -/
theorem writtenUnless_writable (n : Int) : WrittenUnless (isOverlong n) (writable n) := by
  unfold writable
  cases isOverlong n with
  | true => rfl
  | false => exact writtenUnless_ok n

theorem writtenUnless_integerShown (n : Int) : WrittenUnless (isOverlong n) (integerShown n) :=
  (writtenUnless_writable n).map Decimal.integerText

/-- A key appears inside a mapping unless it is overlong. -/
theorem Key.writtenUnless_shown (key : Key) : WrittenUnless key.overlong key.shown := by
  cases key with
  | int n => exact writtenUnless_integerShown n
  | null | bool | float | text | kind => exact writtenUnless_ok _

mutual

/-- A value appears inside another one unless an integer in it is overlong. -/
theorem Value.writtenUnless_shown : (v : Value) → WrittenUnless v.overlong v.shown
  | .null | .bool _ | .float _ | .text _ | .kind _ => writtenUnless_ok _
  | .int n => writtenUnless_integerShown n
  | .list items => (Value.writtenUnless_shownItems items).map _
  | .map entries => (Value.writtenUnless_shownEntries entries).map _
  | .toolCall _ parameters => (Value.writtenUnless_shownFields parameters).map _

theorem Value.writtenUnless_shownItems :
    (items : List Value) → WrittenUnless (Value.overlongItems items) (Value.shownItems items)
  | [] => writtenUnless_ok _
  | v :: rest =>
    (Value.writtenUnless_shown v).bind fun _ => (Value.writtenUnless_shownItems rest).map _

theorem Value.writtenUnless_shownEntries : (entries : List (Key × Value)) →
    WrittenUnless (Value.overlongEntries entries) (Value.shownEntries entries)
  | [] => writtenUnless_ok _
  | (k, v) :: rest =>
    k.writtenUnless_shown.bind fun _ => (Value.writtenUnless_shown v).bind fun _ =>
      (Value.writtenUnless_shownEntries rest).map _

theorem Value.writtenUnless_shownFields : (fields : List (String × Value)) →
    WrittenUnless (Value.overlongFields fields) (Value.shownFields fields)
  | [] => writtenUnless_ok _
  | (_, v) :: rest =>
    (Value.writtenUnless_shown v).bind fun _ => (Value.writtenUnless_shownFields rest).map _

end

/-- A value can be written on its own unless an integer in it is overlong. -/
theorem Value.writtenUnless_display (v : Value) : WrittenUnless v.overlong v.display := by
  cases v with
  | text | kind => exact writtenUnless_ok _
  | toolCall _ parameters => exact (Value.writtenUnless_shownFields parameters).map _
  | null | bool | int | float | list | map => exact Value.writtenUnless_shown _

/-- A value that cannot be written is not empty. -/
theorem Value.truthy_of_overlong {v : Value} (h : v.overlong = true) : v.truthy = true := by
  cases v with
  | null | bool | float | text | kind => cases h
  | int n =>
    refine decide_eq_true ?_
    rintro rfl
    exact absurd h (by decide)
  | list items =>
    cases items with
    | nil => cases h
    | cons => rfl
  | map entries =>
    cases entries with
    | nil => cases h
    | cons => rfl
  | toolCall => rfl

/-! ## Lists of names -/

/-- A list of names as it appears in a text. -/
def shownTexts (items : List String) : String :=
  "[" ++ commaSeparated (items.map Text.quoted) ++ "]"

end Orchestration
