import Orchestration.Text.Quoted

/-!
# Identifiers

Agents, tasks, conversations and messages that come without an identifier are given one: 32
hexadecimal digits in groups, the last of which tell how many identifiers were issued before.
-/

namespace Orchestration.Identifier

/-- What all issued identifiers start with. -/
def stem : String :=
  "7f3c9a52-1d84-4b6e-9e07-"

/-- A number in hexadecimal. -/
def hexDigits (n : Nat) : List Char :=
  Nat.toDigits 16 n

/-- A number in hexadecimal with at least twelve digits. -/
def serial (n : Nat) : List Char :=
  let digits := hexDigits n
  List.replicate (12 - digits.length) '0' ++ digits

/-- The identifier that is issued after `n` others. -/
def issue (n : Nat) : String :=
  stem ++ String.ofList (serial n)

end Orchestration.Identifier
