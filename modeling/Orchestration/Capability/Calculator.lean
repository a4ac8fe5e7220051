import Orchestration.Capability
import Orchestration.Numeral
import Orchestration.Text.Case
import Orchestration.Value.Display

/-!
# Calculator

A tool that applies an operation to two numbers. The operation is looked at before the operands, and
the first operand before the second one. Results that are integral are given as integers.
-/

namespace Orchestration.Calculator

/-- The operations. -/
inductive Operation where
  | add
  | subtract
  | multiply
  | divide
  | power
deriving DecidableEq, Repr

/-- The name of an operation. -/
def Operation.name : Operation → String
  | .add => "add"
  | .subtract => "subtract"
  | .multiply => "multiply"
  | .divide => "divide"
  | .power => "power"

/-- The operations in the order in which they are listed. -/
def Operation.all : List Operation :=
  [.add, .subtract, .multiply, .divide, .power]

/-- The operation with the given name. -/
def Operation.ofName? (name : String) : Option Operation :=
  Operation.all.find? (·.name = name)

/-- Why there is no result. -/
inductive Trouble where
  | unknownOperation (name : String)
  | missingOperand (name : String)
  | notNumbers
  | divisionByZero
  | outOfRange
  | notReal
  /-- The tool itself fails. -/
  | fault (fault : Fault)

/-- What the parameters say about the operation. -/
def operationValue (parameters : Fields) : Value :=
  (Table.find? parameters "operation").getD (.text "")

/-- The name of the operation that the parameters ask for, if it can be written. -/
def operationName (parameters : Fields) : Except Fault String := do
  return Text.lower (← (operationValue parameters).display)

/-- The operation with the given name, which may not be known. -/
def Operation.named (name : String) : Except Trouble Operation :=
  match Operation.ofName? name with
  | some operation => .ok operation
  | none => .error (.unknownOperation name)

/-- The operation found in the parameters. -/
def operation (parameters : Fields) : Except Trouble Operation := do
  Operation.named (← (operationName parameters).mapError .fault)

/-- The number that an operand stands for. -/
def number (value : Value) : Except Trouble Float :=
  match value with
  | .float x => .ok x
  | .bool b => .ok (if b then 1.0 else 0.0)
  | .int n =>
    let x := Decimal.ofInteger n
    if Decimal.isFinite x then .ok x
    else .error (.fault (.foreign .overflow "int too large to convert to float"))
  | .text s =>
    match Numeral.number? s.toList with
    | some x => .ok x
    | none => .error .notNumbers
  | _ => .error .notNumbers

/-- The operand with the given name. -/
def operand (parameters : Fields) (name : String) : Except Trouble Float :=
  match Table.find? parameters name with
  | some value => number value
  | none => .error (.missingOperand name)

/-- The number is undefined. -/
def isUndefined (x : Float) : Bool :=
  !(x == x)

/-- The number is an odd integer. -/
def isOdd (x : Float) : Bool :=
  match Decimal.integer? x with
  | some n => n % 2 ≠ 0
  | none => false

/-- The power of finite, positive numbers. -/
def positivePower (base exponent : Float) : Except Trouble Float :=
  let result := Float.pow base exponent
  if Decimal.isFinite result then .ok result else .error .outOfRange

/-- The power of a base that is not zero and an exponent that is not zero, both finite. A negative
base has real powers for integral exponents only. -/
def finitePower (base exponent : Float) : Except Trouble Float :=
  if base < 0.0 then
    if (Decimal.integer? exponent).isSome then
      (positivePower (-base) exponent).map fun result => if isOdd exponent then -result else result
    else
      -- The power is complex, but it may be out of range all the same.
      positivePower (-base) exponent >>= fun _ => .error .notReal
  else positivePower base exponent

/-- The power with an infinite exponent. -/
def powerAtInfinity (base exponent : Float) : Float :=
  let magnitude := base.abs
  if magnitude == 1.0 then 1.0
  else if decide (0.0 < exponent) == decide (1.0 < magnitude) then exponent.abs
  else 0.0

/-- The power of an infinite base. -/
def powerOfInfinity (base exponent : Float) : Float :=
  if 0.0 < exponent then (if isOdd exponent then base else base.abs)
  else if isOdd exponent && base < 0.0 then -0.0
  else 0.0

/-- The power of a zero, which may be negative. -/
def powerOfZero (base exponent : Float) : Except Trouble Float :=
  if exponent < 0.0 then
    .error (.fault (.foreign .zeroDivision "0.0 cannot be raised to a negative power"))
  else .ok (if isOdd exponent then base else 0.0)

/-- The power of any two numbers. -/
def powerOf (base exponent : Float) : Except Trouble Float :=
  if exponent == 0.0 then .ok 1.0
  else if isUndefined base then .ok base
  else if isUndefined exponent then .ok (if base == 1.0 then 1.0 else exponent)
  else if !Decimal.isFinite exponent then .ok (powerAtInfinity base exponent)
  else if !Decimal.isFinite base then .ok (powerOfInfinity base exponent)
  else if base == 0.0 then powerOfZero base exponent
  else finitePower base exponent

/-- Applies an operation. -/
def Operation.apply (operation : Operation) (a b : Float) : Except Trouble Float :=
  match operation with
  | .add => .ok (a + b)
  | .subtract => .ok (a - b)
  | .multiply => .ok (a * b)
  | .divide => if b == 0.0 then .error .divisionByZero else .ok (a / b)
  | .power => powerOf a b

/-- A number as a value: an integer if it is integral. -/
def integral (x : Float) : Value :=
  match Decimal.integer? x with
  | some n => .int n
  | none => .float x

/-- The result for the given parameters. -/
def compute (parameters : Fields) : Except Trouble Value := do
  let operation ← operation parameters
  let a ← operand parameters "a"
  let b ← operand parameters "b"
  return integral (← operation.apply a b)

/-- What the tool says when there is no result. -/
def Trouble.report : Trouble → Except Fault String
  | .unknownOperation name =>
    .ok ("unknown operation " ++ Text.quoted name ++ "; expected one of " ++
      commaSeparated (Operation.all.map Operation.name))
  | .missingOperand name => .ok ("missing operand " ++ Text.quoted name)
  | .notNumbers => .ok "operands must be numbers"
  | .divisionByZero => .ok "division by zero"
  | .outOfRange => .ok "result out of range"
  | .notReal => .ok "result is not a real number"
  | .fault cause => .error cause

/-- Answers a call. -/
def call (parameters : Fields) : Except Fault ToolResult :=
  match compute parameters with
  | .ok value => .ok (.done value)
  | .error trouble => trouble.report.map ToolResult.refused

/-- The calculator. -/
def tool : Tool where
  name := "calculator"
  description := "Basic arithmetic on two numbers (add, subtract, multiply, divide, power)"
  call _ parameters := call parameters

end Orchestration.Calculator
