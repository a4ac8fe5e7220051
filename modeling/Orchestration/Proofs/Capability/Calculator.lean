import Orchestration.Capability.Calculator
import Orchestration.Proofs.Decimal.Numbers

/-!
# What the calculator answers

Whatever is wrong with a calculation should be told by the answer of the calculator (`Answered`).
For an operation that is not known, an operand that is missing or no number, and a division by zero
it is. But there are failures that the calculator does not look out for, and that come through as
faults (`Escapes`): an integer that is too large to be made a number, a zero that is raised to a
negative power, and an operation that is given by an integer with too many digits to be written.

The main statement is `calculations_answered_iff`.
-/

namespace Orchestration.Calculator

/-! ## What the parameters say -/

/-- The parameters ask for the operation, in any letter case. -/
def AsksFor (parameters : Fields) (op : Operation) : Prop :=
  operationName parameters = .ok op.name

/-- The value is read as the number: it is a number, or a truth value, which counts as one or zero,
an integer that is not too large, or a text that says a number. -/
inductive Reads : Value → Float → Prop
  | float (x : Float) : Reads (.float x) x
  | bool (b : Bool) : Reads (.bool b) (if b then 1.0 else 0.0)
  | int {n : Int} (within : Decimal.isFinite (Decimal.ofInteger n) = true) :
    Reads (.int n) (Decimal.ofInteger n)
  | text {s : String} {x : Float} (written : Numeral.number? s.toList = some x) : Reads (.text s) x

/-- The value is an integer that is too large to be made a number. -/
inductive TooLarge : Value → Prop
  | int {n : Int} (beyond : Decimal.isFinite (Decimal.ofInteger n) = false) : TooLarge (.int n)

/-- The value is a number, however large. -/
def IsNumber (v : Value) : Prop :=
  (∃ x, Reads v x) ∨ TooLarge v

/-- The parameters give the operand, which is read as the number. -/
def Gives (parameters : Fields) (name : String) (x : Float) : Prop :=
  ∃ v, Table.find? parameters name = some v ∧ Reads v x

/-! ## What the calculator should answer -/

/-- The calculation has no result: the operation is not known, an operand is missing or no number,
or it is a division by zero. -/
inductive Faulty (parameters : Fields) : Prop
  | operation (unknown : ∀ op : Operation, ¬ AsksFor parameters op)
  | missing {name : String} (operand : name ∈ ["a", "b"])
    (absent : Table.find? parameters name = none)
  | notNumber {name : String} {v : Value} (operand : name ∈ ["a", "b"])
    (given : Table.find? parameters name = some v) (other : ¬ IsNumber v)
  | zeroDivisor {y : Float} (asks : AsksFor parameters .divide) (divisor : Gives parameters "b" y)
    (zero : (y == 0.0) = true)

/-- The answer says that there is no result, and why. -/
def Refuses (result : ToolResult) : Prop :=
  result.success = false ∧ ∃ reason, result.error = some reason ∧ reason ≠ ""

/-- The value is the number: an integer if the number is equal to one. -/
inductive Shows (x : Float) : Value → Prop
  | integer {n : Int} (equal : Decimal.Equals x n) : Shows x (.int n)
  | float (other : ∀ n, ¬ Decimal.Equals x n) : Shows x (.float x)

/-- The answer gives the result of the operation that the parameters ask for. -/
def Results (parameters : Fields) (result : ToolResult) : Prop :=
  ∃ op x y z, AsksFor parameters op ∧ Gives parameters "a" x ∧ Gives parameters "b" y ∧
    op.apply x y = .ok z ∧ Shows z result.output

/-- There is an answer. It refuses what has no result, and gives a result if it is successful. -/
structure Answered (parameters : Fields) : Prop where
  answers : ∃ result, call parameters = .ok result
  refuses : Faulty parameters → ∀ result, call parameters = .ok result → Refuses result
  results : ∀ result, call parameters = .ok result → result.success = true →
    Results parameters result

/-! ## What comes through -/

/-- The fault of an integer that is too large. -/
def tooLarge : Fault :=
  .foreign .overflow "int too large to convert to float"

/-- The fault of a zero with a negative exponent. -/
def zeroPower : Fault :=
  .foreign .zeroDivision "0.0 cannot be raised to a negative power"

/-- The fault comes through: nothing looks out for it. -/
inductive Escapes (parameters : Fields) : Fault → Prop
  | operation (unwritable : (operationValue parameters).overlong = true) :
    Escapes parameters .overlongInteger
  | first {op : Operation} {v : Value} (asks : AsksFor parameters op)
    (given : Table.find? parameters "a" = some v) (large : TooLarge v) :
    Escapes parameters tooLarge
  | second {op : Operation} {x : Float} {v : Value} (asks : AsksFor parameters op)
    (first : Gives parameters "a" x) (given : Table.find? parameters "b" = some v)
    (large : TooLarge v) : Escapes parameters tooLarge
  | power {x y : Float} (asks : AsksFor parameters .power) (base : Gives parameters "a" x)
    (exponent : Gives parameters "b" y) (zero : (x == 0.0) = true) (negative : y < 0.0)
    (finite : Decimal.isFinite y = true) : Escapes parameters zeroPower

/-! ## Reading the parameters -/

section Reading

variable {parameters : Fields} {op : Operation} {v : Value} {x : Float} {name : String}

/-- An operation is found under its name. -/
theorem ofName?_eq_some_iff : Operation.ofName? name = some op ↔ name = op.name := by
  constructor
  · intro h
    have hname := List.find?_some h
    exact (of_decide_eq_true hname).symm
  · rintro rfl
    cases op <;> decide

/-- An operation that is looked for is found under its name. -/
theorem named_eq_ok_iff : Operation.named name = .ok op ↔ name = op.name := by
  rw [← ofName?_eq_some_iff, Operation.named]
  cases Operation.ofName? name <;> simp

theorem named_ne_fault {fault : Fault} : Operation.named name ≠ .error (.fault fault) := by
  rw [Operation.named]
  cases Operation.ofName? name <;> simp

/-- The operation is the one that the parameters ask for. -/
theorem operation_eq_ok_iff : operation parameters = .ok op ↔ AsksFor parameters op := by
  unfold operation AsksFor
  cases operationName parameters with
  | error fault => exact iff_of_false nofun nofun
  | ok written =>
    rw [Except.ok.injEq, ← named_eq_ok_iff]
    exact Iff.rfl

/-- Looking for the operation comes to a fault exactly if what it is given by cannot be written. -/
theorem operation_eq_fault_iff {fault : Fault} :
    operation parameters = .error (.fault fault) ↔
      (operationValue parameters).overlong = true ∧ fault = .overlongInteger := by
  have hname := (operationValue parameters).writtenUnless_display.map Text.lower
  rw [← hname.eq_error_iff]
  change _ ↔ operationName parameters = .error fault
  unfold operation
  cases operationName parameters with
  | error cause => simp [Except.mapError, bind, Except.bind]
  | ok written => exact iff_of_false named_ne_fault nofun

/-- A value is made the number that it is read as. -/
theorem number_eq_ok_iff : number v = .ok x ↔ Reads v x := by
  constructor
  · intro h
    cases v with
    | float y => cases h; exact .float _
    | bool b => cases h; exact .bool b
    | int n =>
      simp only [number] at h
      split at h
      next hwithin => cases h; exact .int hwithin
      next => cases h
    | text s =>
      simp only [number] at h
      split at h
      next hwritten => cases h; exact .text hwritten
      next => cases h
    | _ => cases h
  · rintro (_ | _ | hwithin | hwritten)
    · rfl
    · rfl
    · exact if_pos hwithin
    · simp only [number, hwritten]

/-- The only fault in reading a value is that of an integer that is too large. -/
theorem number_eq_fault_iff {fault : Fault} :
    number v = .error (.fault fault) ↔ TooLarge v ∧ fault = tooLarge := by
  constructor
  · intro h
    cases v with
    | int n =>
      simp only [number] at h
      split at h
      · cases h
      next hbeyond => cases h; exact ⟨.int (eq_false_of_ne_true hbeyond), rfl⟩
    | text s =>
      simp only [number] at h
      split at h <;> cases h
    | _ => cases h
  · rintro ⟨⟨hbeyond⟩, rfl⟩
    exact if_neg (by simp [hbeyond])

/-- An operand is the number that the parameters give. -/
theorem operand_eq_ok_iff : operand parameters name = .ok x ↔ Gives parameters name x := by
  unfold operand Gives
  cases Table.find? parameters name <;> simp [number_eq_ok_iff]

/-- The only fault in reading an operand is that of an integer that is too large. -/
theorem operand_eq_fault_iff {fault : Fault} :
    operand parameters name = .error (.fault fault) ↔
      (∃ v, Table.find? parameters name = some v ∧ TooLarge v) ∧ fault = tooLarge := by
  unfold operand
  cases Table.find? parameters name <;> simp [number_eq_fault_iff]

end Reading

/-! ## Applying the operations -/

section Applying

variable {x y z : Float} {trouble : Trouble}

/-- A power of a positive number can be out of range, and nothing else can be wrong with it. -/
theorem positivePower_eq_error (h : positivePower x y = .error trouble) :
    trouble = .outOfRange := by
  unfold positivePower at h
  dsimp only at h
  split at h <;> cases h
  rfl

/-- Of finite numbers that are not zero, a power can only be out of range or not real. -/
theorem finitePower_eq_error (h : finitePower x y = .error trouble) :
    trouble = .outOfRange ∨ trouble = .notReal := by
  unfold finitePower at h
  split at h
  · -- With a negative base, the power of the other sign is taken first.
    split at h
    · cases hpower : positivePower (-x) y with
      | ok result => simp [hpower, Except.map] at h
      | error cause =>
        have hcause : cause = trouble := by simpa [hpower, Except.map] using h
        exact .inl (hcause ▸ positivePower_eq_error hpower)
    · obtain h | ⟨_, -, h⟩ := Fault.bind_eq_error_iff.mp h
      · exact .inl (positivePower_eq_error h)
      · cases h
        exact .inr rfl
  · exact .inl (positivePower_eq_error h)

/-- A power of zero comes to a fault for negative exponents. -/
theorem powerOfZero_eq_fault_iff {fault : Fault} :
    powerOfZero x y = .error (.fault fault) ↔ y < 0.0 ∧ fault = zeroPower := by
  unfold powerOfZero
  split
  next hnegative => simp [hnegative, zeroPower, eq_comm]
  next hnonnegative => simp [hnonnegative]

/-- A power fails with a fault exactly if a zero has an exponent that is finite and negative. -/
theorem powerOf_eq_fault_iff {fault : Fault} : powerOf x y = .error (.fault fault) ↔
    ((x == 0.0) = true ∧ y < 0.0 ∧ Decimal.isFinite y = true) ∧ fault = zeroPower := by
  constructor
  · intro h
    unfold powerOf at h
    split_ifs at h with hexponent hbase hundefined hfinite hinfinite hzero
    · obtain ⟨hnegative, hfault⟩ := powerOfZero_eq_fault_iff.mp h
      exact ⟨⟨hzero, hnegative, by simpa using hfinite⟩, hfault⟩
    · obtain h | h := finitePower_eq_error h <;> cases h
  · rintro ⟨⟨hzero, hnegative, hfinite⟩, rfl⟩
    -- None of the rules before the one for zeros applies.
    have hdefined : isUndefined x = false := by
      simp [isUndefined, Decimal.beq_self_of_beq_zero hzero]
    have hexponent : isUndefined y = false := by
      simp [isUndefined, Decimal.beq_self_of_lt_zero hnegative]
    have hbase := Decimal.isFinite_of_beq_zero hzero
    rw [powerOf, if_neg (Decimal.not_beq_zero_of_lt_zero hnegative), hdefined, hexponent, hfinite,
      hbase, if_pos hzero]
    exact powerOfZero_eq_fault_iff.mpr ⟨hnegative, rfl⟩

/-- Of all operations on numbers, only a negative power of zero comes to a fault. -/
theorem apply_eq_fault_iff {op : Operation} {fault : Fault} :
    op.apply x y = .error (.fault fault) ↔ op = .power ∧
      ((x == 0.0) = true ∧ y < 0.0 ∧ Decimal.isFinite y = true) ∧ fault = zeroPower := by
  cases op with
  | power => simp [Operation.apply, powerOf_eq_fault_iff]
  | divide =>
    unfold Operation.apply
    dsimp only
    split <;> simp
  | _ => simp [Operation.apply]

/-- A division by zero is noticed. -/
theorem apply_divide_of_zero (h : (y == 0.0) = true) :
    Operation.divide.apply x y = .error .divisionByZero := by
  exact if_pos h

/-- A result is shown as an integer if it is equal to one. -/
theorem shows_integral (x : Float) : Shows x (integral x) := by
  unfold integral
  split
  next n h => exact .integer (Decimal.integer?_eq_some_iff.mp h)
  next h =>
    refine .float fun n hequal => ?_
    cases h.symm.trans (Decimal.integer?_eq_some_iff.mpr hequal)

end Applying

/-! ## Computing the result -/

section Computing

variable {parameters : Fields} {result : ToolResult} {value : Value} {fault : Fault}

/-- There is a value if there are an operation, both operands and a result. -/
theorem compute_eq_ok_iff : compute parameters = .ok value ↔
    ∃ op, AsksFor parameters op ∧ ∃ x, Gives parameters "a" x ∧ ∃ y, Gives parameters "b" y ∧
      ∃ z, op.apply x y = .ok z ∧ integral z = value := by
  simp only [compute, Fault.bind_eq_ok_iff, operation_eq_ok_iff, operand_eq_ok_iff, pure,
    Except.pure, Except.ok.injEq]

/-- The faults of a calculation are just those that come through. -/
theorem compute_eq_fault_iff :
    compute parameters = .error (.fault fault) ↔ Escapes parameters fault := by
  simp only [compute, Fault.bind_eq_error_iff, operation_eq_ok_iff, operation_eq_fault_iff,
    operand_eq_ok_iff, operand_eq_fault_iff, apply_eq_fault_iff, pure, Except.pure,
    reduceCtorEq, and_false, exists_false, or_false]
  -- Each step can fail with a fault of its own, after the steps before it have gone well.
  constructor
  · rintro (⟨hunwritable, rfl⟩ | ⟨op, hasks, ⟨⟨v, hgiven, hlarge⟩, rfl⟩ | ⟨x, hfirst,
      ⟨⟨v, hgiven, hlarge⟩, rfl⟩ | ⟨y, hsecond, rfl, ⟨hzero, hnegative, hfinite⟩, rfl⟩⟩⟩)
    · exact .operation hunwritable
    · exact .first hasks hgiven hlarge
    · exact .second hasks hfirst hgiven hlarge
    · exact .power hasks hfirst hsecond hzero hnegative hfinite
  · rintro (hunwritable | ⟨hasks, hgiven, hlarge⟩ | ⟨hasks, hfirst, hgiven, hlarge⟩ |
      ⟨hasks, hbase, hexponent, hzero, hnegative, hfinite⟩)
    · exact .inl ⟨hunwritable, rfl⟩
    · exact .inr ⟨_, hasks, .inl ⟨⟨_, hgiven, hlarge⟩, rfl⟩⟩
    · exact .inr ⟨_, hasks, .inr ⟨_, hfirst, .inl ⟨⟨_, hgiven, hlarge⟩, rfl⟩⟩⟩
    · exact .inr ⟨_, hasks, .inr ⟨_, hbase, .inr ⟨_, hexponent, rfl,
        ⟨hzero, hnegative, hfinite⟩, rfl⟩⟩⟩

/-- A calculation that has no result gives none. -/
theorem Faulty.compute_ne_ok (h : Faulty parameters) : compute parameters ≠ .ok value := by
  rw [ne_eq, compute_eq_ok_iff]
  rintro ⟨op, hasks, x, hfirst, y, hsecond, z, happly, -⟩
  have hoperand : ∀ name ∈ ["a", "b"], ∃ x, Gives parameters name x := by
    simpa using ⟨⟨x, hfirst⟩, y, hsecond⟩
  -- What was read well is not missing, and what the parameters say is read in one way only.
  cases h with
  | operation hunknown => exact hunknown op hasks
  | missing hname habsent =>
    obtain ⟨_, v, hgiven, -⟩ := hoperand _ hname
    cases habsent.symm.trans hgiven
  | notNumber hname hother hnot =>
    obtain ⟨x, v, hgiven, hreads⟩ := hoperand _ hname
    cases hother.symm.trans hgiven
    exact hnot (.inl ⟨x, hreads⟩)
  | zeroDivisor hdivides hdivisor hzero =>
    cases (operation_eq_ok_iff.mpr hasks).symm.trans (operation_eq_ok_iff.mpr hdivides)
    cases (operand_eq_ok_iff.mpr hsecond).symm.trans (operand_eq_ok_iff.mpr hdivisor)
    cases happly.symm.trans (apply_divide_of_zero hzero)

end Computing

/-! ## Answering -/

section Answering

variable {parameters : Fields} {result : ToolResult} {fault : Fault}

/-- A trouble is told in words, unless it is a fault. -/
theorem report_eq_error_iff {trouble : Trouble} :
    trouble.report = .error fault ↔ trouble = .fault fault := by
  cases trouble <;> simp [Trouble.report]

theorem report_ne_empty {trouble : Trouble} {reason : String} (h : trouble.report = .ok reason) :
    reason ≠ "" := by
  cases trouble with
  | fault cause => cases h
  | _ =>
    cases h
    simp

/-- A call that answers gives the value, or refuses. -/
theorem call_eq_ok (h : call parameters = .ok result) :
    (∃ value, compute parameters = .ok value ∧ result = .done value) ∨ Refuses result := by
  unfold call at h
  split at h
  next value hvalue =>
    cases h
    exact .inl ⟨value, hvalue, rfl⟩
  next trouble hcompute =>
    cases hreport : trouble.report with
    | error cause => simp [hreport, Except.map] at h
    | ok reason =>
      have hrefused : ToolResult.refused reason = result := by
        simpa [hreport, Except.map] using h
      exact .inr (hrefused ▸ ⟨rfl, reason, rfl, report_ne_empty hreport⟩)

/-- A call fails just with the faults that come through. -/
theorem call_eq_error_iff : call parameters = .error fault ↔ Escapes parameters fault := by
  rw [← compute_eq_fault_iff]
  unfold call
  split
  next value hvalue => simp [hvalue]
  next trouble hcompute =>
    rw [hcompute, Except.error.injEq, ← report_eq_error_iff]
    cases trouble.report <;> simp [Except.map]

/-- The calculator answers a calculation as it should exactly if no fault comes through, and what
comes through is one of the faults that it does not look out for. -/
theorem calculations_answered_iff (parameters : Fields) :
    (Answered parameters ↔ ∀ fault, ¬ Escapes parameters fault) ∧
      ∀ fault, Escapes parameters fault → call parameters = .error fault := by
  refine ⟨⟨fun h fault hescapes => ?_, fun hcaught => ⟨?_, ?_, ?_⟩⟩,
    fun fault hescapes => call_eq_error_iff.mpr hescapes⟩
  · obtain ⟨result, hresult⟩ := h.answers
    cases hresult.symm.trans (call_eq_error_iff.mpr hescapes)
  · cases hcall : call parameters with
    | ok result => exact ⟨result, rfl⟩
    | error fault => exact absurd (call_eq_error_iff.mp hcall) (hcaught fault)
  · intro hfaulty result hresult
    obtain ⟨value, hvalue, -⟩ | hrefuses := call_eq_ok hresult
    · exact absurd hvalue hfaulty.compute_ne_ok
    · exact hrefuses
  · intro result hresult hsuccess
    obtain ⟨value, hvalue, rfl⟩ | hrefuses := call_eq_ok hresult
    · obtain ⟨op, hasks, x, hfirst, y, hsecond, z, happly, rfl⟩ := compute_eq_ok_iff.mp hvalue
      exact ⟨op, x, y, z, hasks, hfirst, hsecond, happly, shows_integral z⟩
    · cases hrefuses.1.symm.trans hsuccess

/-- One over zero, written as a power, is not answered. -/
theorem not_answered_zeroPower :
    ¬ Answered [("operation", .text "power"), ("a", .int 0), ("b", .int (-1))] := by
  intro h
  obtain ⟨result, hresult⟩ := h.answers
  have hescapes : Escapes [("operation", .text "power"), ("a", .int 0), ("b", .int (-1))]
      zeroPower :=
    .power rfl ⟨.int 0, rfl, .int (by decide +kernel)⟩
      ⟨.int (-1), rfl, .int (by decide +kernel)⟩ (by decide +kernel) (by decide +kernel)
      (by decide +kernel)
  cases (call_eq_error_iff.mpr hescapes).symm.trans hresult

end Answering

end Orchestration.Calculator
