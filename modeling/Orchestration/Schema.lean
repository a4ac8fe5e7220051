import Orchestration.Decimal.Fixed
import Orchestration.Fault
import Orchestration.Moment.Reader
import Orchestration.Numeral
import Orchestration.Value

/-!
# Reading records

Records are read from dynamic values. Reading is lenient about numbers, truth values and moments,
which may be given as text, and strict about texts, lists and mappings. It does not stop at the
first defect: the issues of all fields are reported together, in the order of the fields. Fields
that a record does not know are ignored.
-/

namespace Orchestration

/-- The outcome of reading: a value, or all the issues that were found. -/
inductive Checked (α : Type) where
  | ok (value : α)
  | failed (issues : List Issue)

namespace Checked

variable {α β : Type}

/-- Applies a function to what was read. -/
protected def map (f : α → β) : Checked α → Checked β
  | ok a => ok (f a)
  | failed issues => failed issues

/-- Applies a function that was read to a value that was read; the issues of both are kept. -/
protected def seq (f : Checked (α → β)) (x : Unit → Checked α) : Checked β :=
  match f, x () with
  | ok f, ok a => ok (f a)
  | ok _, failed issues => failed issues
  | failed issues, ok _ => failed issues
  | failed first, failed second => failed (first ++ second)

instance : Applicative Checked where
  pure := ok
  map := Checked.map
  seq := Checked.seq

/-- A single defect at the place that is being read. -/
def defect (d : Defect) : Checked α :=
  failed [⟨[], d⟩]

/-- The outcome of reading a part, as seen from the whole. -/
def within (locus : Locus) : Checked α → Checked α
  | ok a => ok a
  | failed issues => failed (issues.map fun issue => { issue with loc := locus :: issue.loc })

/-- The value, or the defect that its absence is. -/
def ofOption (d : Defect) : Option α → Checked α
  | some a => ok a
  | none => defect d

/-- The value that was read, unless there were issues. -/
def toOption : Checked α → Option α
  | ok a => some a
  | failed _ => none

/-- What was read, or the fault that the data does not fit the record of the given name. -/
def orFault (subject : String) : Checked α → Except Fault α
  | ok a => .ok a
  | failed issues => .error (.schema subject issues)

theorem failsWith_orFault {P : Fault → Prop} {subject : String}
    (h : ∀ issues, P (.schema subject issues)) (checked : Checked α) :
    Fault.FailsWith P (checked.orFault subject) := by
  cases checked with
  | ok a => exact Fault.failsWith_ok a
  | failed issues => exact Fault.failsWith_error (h issues)

theorem ofOption_eq_ok_iff {d : Defect} {found : Option α} {a : α} :
    ofOption d found = .ok a ↔ found = some a := by
  cases found with
  | none => exact iff_of_false nofun nofun
  | some b => exact ⟨by rintro ⟨⟩; rfl, by rintro ⟨⟩; rfl⟩

@[simp]
theorem within_eq_ok_iff {locus : Locus} {checked : Checked α} {a : α} :
    checked.within locus = .ok a ↔ checked = .ok a := by
  cases checked with
  | ok b => exact Iff.rfl
  | failed issues => exact iff_of_false nofun nofun

theorem map_eq_ok_iff {f : α → β} {checked : Checked α} {b : β} :
    f <$> checked = .ok b ↔ ∃ a, checked = .ok a ∧ f a = b := by
  cases checked with
  | failed issues => exact iff_of_false nofun (by rintro ⟨a, ⟨⟩, -⟩)
  | ok a => exact ⟨by rintro ⟨⟩; exact ⟨a, rfl, rfl⟩, by rintro ⟨_, ⟨⟩, rfl⟩; rfl⟩

/-- A part is applied to what was read before it exactly if both were read. -/
theorem seq_eq_ok_iff {f : Checked (α → β)} {checked : Checked α} {b : β} :
    f <*> checked = .ok b ↔ ∃ g a, f = .ok g ∧ checked = .ok a ∧ g a = b := by
  cases f with
  | failed issues =>
    refine iff_of_false (fun h => ?_) (by rintro ⟨g, a, ⟨⟩, -⟩)
    cases checked <;> cases h
  | ok g =>
    cases checked with
    | failed issues => exact iff_of_false nofun (by rintro ⟨_, a, -, ⟨⟩, -⟩)
    | ok a => exact ⟨by rintro ⟨⟩; exact ⟨g, a, rfl, rfl, rfl⟩, by rintro ⟨_, _, ⟨⟩, ⟨⟩, rfl⟩; rfl⟩

/-- What is made of two parts is read exactly if both of them are. -/
theorem map_seq_eq_ok_iff {γ : Type} {f : α → β → γ} {first : Checked α} {second : Checked β}
    {c : γ} :
    f <$> first <*> second = .ok c ↔ ∃ a b, first = .ok a ∧ second = .ok b ∧ f a b = c := by
  rw [seq_eq_ok_iff]
  constructor
  · rintro ⟨g, b, hg, hsecond, rfl⟩
    obtain ⟨a, hfirst, rfl⟩ := map_eq_ok_iff.mp hg
    exact ⟨a, b, hfirst, hsecond, rfl⟩
  · rintro ⟨a, b, hfirst, hsecond, rfl⟩
    exact ⟨f a, b, map_eq_ok_iff.mpr ⟨a, hfirst, rfl⟩, hsecond, rfl⟩

end Checked

namespace Schema

variable {α : Type}

/-! ## Texts, truth values and numbers -/

/-- A text, strictly. -/
def text (v : Value) : Checked String :=
  Checked.ofOption .stringType v.text?

/-- One of the labels of an enumeration. -/
def labelled (ofLabel? : String → Option α) (d : Defect) (v : Value) : Checked α :=
  Checked.ofOption d (v.text?.bind ofLabel?)

/-- A blank at the end of a numeral or a truth value; the information separators are none. -/
def isSpace (c : Char) : Bool :=
  Text.isBlank c && !(0x1C ≤ c.toNat && c.toNat ≤ 0x1F)

/-- The text without the spaces at both ends. -/
def trimmed (text : List Char) : List Char :=
  ((text.dropWhile isSpace).reverse.dropWhile isSpace).reverse

/-- The text without its underscores, provided that none stands at an end or beside another one. -/
def plainDigits? (text : List Char) : Option (List Char) :=
  -- An underscore at an end, or beside another one, leaves an empty piece.
  let pieces := (String.ofList text).splitOn "_"
  if pieces.any (· = "") then none else some (text.filter (· ≠ '_'))

/-- Only ASCII characters. -/
def isAscii (text : List Char) : Bool :=
  text.all (·.toNat < 0x80)

/-- Reads a number from text: ASCII digits, a point, an exponent, or a word for a number that is
not finite. -/
def floatOfText? (text : String) : Option Float := do
  let chars := trimmed text.toList
  guard (isAscii chars)
  let plain ← if chars.contains '_' then plainDigits? chars else some chars
  let (negative, rest) := Numeral.splitSign plain
  let magnitude ← Numeral.magnitude? rest
  return if negative then -magnitude else magnitude

/-- Reads an integer from text: ASCII digits, perhaps with a point and zeros after them. -/
def intOfText? (text : String) : Option Int := do
  let chars := trimmed text.toList
  guard (isAscii chars)
  let whole := chars.takeWhile (· ≠ '.')
  let rest := chars.dropWhile (· ≠ '.')
  let chars := if (rest.drop 1).all (· = '0') then whole else chars
  let (negative, digits) := Numeral.splitSign chars
  let plain ← if digits.contains '_' then plainDigits? digits else some digits
  let magnitude ← Numeral.readDigits? plain
  return if negative then -(magnitude : Int) else magnitude

/-- Reads a truth value from text. -/
def boolOfText? (text : String) : Option Bool :=
  let word := String.ofList (text.toList.map Char.toLower)
  if ["0", "off", "f", "false", "n", "no"].contains word then some false
  else if ["1", "on", "t", "true", "y", "yes"].contains word then some true
  else none

/-- A truth value, from zero and one. -/
def boolOfInt? (n : Int) : Option Bool :=
  if n = 0 then some false else if n = 1 then some true else none

/-- A truth value, leniently. -/
def bool (v : Value) : Checked Bool :=
  match v with
  | .bool b => .ok b
  | .int n => Checked.ofOption .boolParsing (boolOfInt? n)
  | .float x =>
    match Decimal.integer? x with
    | some n => Checked.ofOption .boolParsing (boolOfInt? n)
    | none => Checked.defect .boolType
  | v =>
    match v.text? with
    | some s => Checked.ofOption .boolParsing (boolOfText? s)
    | none => Checked.defect .boolType

/-- An integer, leniently. -/
def int (v : Value) : Checked Int :=
  match v with
  | .int n => .ok n
  | .bool b => .ok b.toInt
  | .float x =>
    if !Decimal.isFinite x then Checked.defect .finiteNumber
    else Checked.ofOption .intFromFloat (Decimal.integer? x)
  | v =>
    match v.text? with
    | some s =>
      if (trimmed s.toList).length > Numeral.digitLimit then Checked.defect .intParsingSize
      else Checked.ofOption .intParsing (intOfText? s)
    | none => Checked.defect .intType

/-- A number, leniently. -/
def float (v : Value) : Checked Float :=
  match v with
  | .float x => .ok x
  | .int n =>
    let x := Decimal.ofInteger n
    if Decimal.isFinite x then .ok x else Checked.defect .floatType
  | .bool b => .ok (if b then 1.0 else 0.0)
  | v =>
    match v.text? with
    | some s => Checked.ofOption .floatParsing (floatOfText? s)
    | none => Checked.defect .floatType

/-! ## Moments -/

/-- A moment, leniently. -/
def moment (v : Value) : Checked Moment :=
  match v with
  | .int n => Checked.ofOption .momentParsing (Moment.ofTimestamp? n 0)
  | .float x =>
    match Decimal.Reading.ofFloat x with
    | .finite value =>
      let scaled : Nat := value.units 6
      let micros : Int := if value.negative then -(scaled : Int) else scaled
      Checked.ofOption .momentParsing
        (Moment.ofTimestamp? (micros.fdiv 1000000) (micros.fmod 1000000))
    | _ => Checked.defect .momentParsing
  | v =>
    match v.text? with
    -- A bare date is tried last, so the defect of a text is that it is no date either.
    | some s => Checked.ofOption .momentFromDate (Moment.read? s)
    | none => Checked.defect .momentType

/-! ## Lists and mappings -/

/-- A value that may be absent. -/
def nullable (read : Value → Checked α) (v : Value) : Checked (Option α) :=
  match v with
  | .null => .ok none
  | v => some <$> read v

/-- Any value. -/
def any (v : Value) : Checked Value :=
  .ok v

/-- The items of a list, each read at its position. -/
def items (read : Value → Checked α) : (position : Nat) → List Value → Checked (List α)
  | _, [] => .ok []
  | position, v :: rest =>
    List.cons <$> (read v).within (.index position) <*> items read (position + 1) rest

/-- A list. -/
def list (read : Value → Checked α) (v : Value) : Checked (List α) :=
  match v with
  | .list vs => items read 0 vs
  | _ => Checked.defect .listType

/-- The place of an entry of a mapping. -/
def keyLocus : Key → Locus
  | .text s => .field s
  | .kind k => .field k.label
  | .int n => .index n.toNat
  | _ => .field ""

/-- The entries of a mapping with text keys. -/
def entries (read : Value → Checked α) : List (Key × Value) → Checked (List (String × α))
  | [] => .ok []
  | (key, v) :: rest =>
    let name : Checked String :=
      ((Checked.ofOption .stringType key.text?).within (.field "[key]")).within (keyLocus key)
    List.cons <$> (Prod.mk <$> name <*> (read v).within (keyLocus key)) <*> entries read rest

/-- A mapping with text keys. -/
def table (read : Value → Checked α) (v : Value) : Checked (Table α) :=
  match v with
  | .map es => Table.ofEntries <$> entries read es
  | _ => Checked.defect .dictType

/-- A mapping with text keys and any values. -/
def fields (v : Value) : Checked Fields :=
  table any v

/-! ## Records -/

/-- The entries of a record. -/
def record (v : Value) : Checked (List (Key × Value)) :=
  match v with
  | .map es => .ok es
  | .toolCall name parameters =>
    .ok [(.text "name", .text name), (.text "parameters", Value.record parameters)]
  | _ => Checked.defect .modelType

/-- A field that must be given. -/
def required (es : List (Key × Value)) (name : String) (read : Value → Checked α) : Checked α :=
  match Value.entry? es name with
  | some v => (read v).within (.field name)
  | none => (Checked.defect .missing).within (.field name)

/-- A field that must be given is read exactly if it is there and can be read. -/
theorem required_eq_ok_iff {es : List (Key × Value)} {name : String} {read : Value → Checked α}
    {a : α} :
    required es name read = .ok a ↔ ∃ v, Value.entry? es name = some v ∧ read v = .ok a := by
  unfold required
  cases Value.entry? es name with
  | none => exact iff_of_false nofun (by rintro ⟨_, ⟨⟩, -⟩)
  | some v => simp

/-- A field with a default. -/
def optional (es : List (Key × Value)) (name : String) (read : Value → Checked α) (default : α) :
    Checked α :=
  match Value.entry? es name with
  | some v => (read v).within (.field name)
  | none => .ok default

/-- A field that may be given is read if it can be, and has its default if it is not there. -/
theorem optional_eq_ok_iff {es : List (Key × Value)} {name : String} {read : Value → Checked α}
    {default a : α} :
    optional es name read default = .ok a ↔
      (∃ v, Value.entry? es name = some v ∧ read v = .ok a) ∨
        Value.entry? es name = none ∧ default = a := by
  unfold optional
  cases Value.entry? es name with
  | none => simp
  | some v => simp

end Schema

end Orchestration
