import Orchestration.Identifier

/-!
# Issued identifiers are different

The serial number can be read back from the digits of an identifier: leading zeros do not change the
number that hexadecimal digits stand for. So no two identifiers are the same, however many are
issued (`issue_injective`).
-/

namespace Orchestration.Identifier

/-- The number that a hexadecimal digit stands for. -/
def hexValue (c : Char) : Nat :=
  if c.isDigit then c.toNat - '0'.toNat else c.toNat - 'a'.toNat + 10

/-- The number that hexadecimal digits stand for when they follow the digits of `n`. -/
def readHex (n : Nat) (digits : List Char) : Nat :=
  digits.foldl (fun n c => 16 * n + hexValue c) n

theorem hexValue_digitChar {d : Nat} (h : d < 16) : hexValue d.digitChar = d := by
  have hall : ∀ d : Fin 16, hexValue (Nat.digitChar d) = d := by decide
  exact hall ⟨d, h⟩

theorem readHex_append (n : Nat) (digits more : List Char) :
    readHex n (digits ++ more) = readHex (readHex n digits) more :=
  List.foldl_append

/-- The digits of a number stand for that number. -/
theorem readHex_hexDigits (n : Nat) : readHex 0 (hexDigits n) = n := by
  -- The digits but the last one are those of `n / 16`.
  induction n using Nat.strongRecOn with
  | ind n ih =>
    rw [hexDigits, Nat.toDigits_eq_if (by omega)]
    split
    next hlt =>
      show 16 * 0 + hexValue n.digitChar = n
      rw [hexValue_digitChar hlt]
      omega
    next hge =>
      have hmod : n % 16 < 16 := Nat.mod_lt _ (by omega)
      rw [readHex_append, ← hexDigits, ih _ (by omega)]
      show 16 * (n / 16) + hexValue (n % 16).digitChar = n
      rw [hexValue_digitChar hmod]
      omega

theorem readHex_replicate_zero (k : Nat) : readHex 0 (List.replicate k '0') = 0 := by
  induction k with
  | zero => rfl
  | succ k ih =>
    rw [List.replicate_succ']
    rw [readHex_append, ih]
    rfl

/-- Leading zeros do not count. -/
theorem readHex_serial (n : Nat) : readHex 0 (serial n) = n := by
  rw [serial, readHex_append, readHex_replicate_zero, readHex_hexDigits]

/-- No identifier is issued twice. -/
theorem issue_injective {m n : Nat} (h : issue m = issue n) : m = n := by
  have hchars := congrArg String.toList h
  simp only [issue, String.toList_append, String.toList_ofList] at hchars
  have hserial : serial m = serial n := List.append_cancel_left hchars
  calc m = readHex 0 (serial m) := (readHex_serial m).symm
    _ = readHex 0 (serial n) := by rw [hserial]
    _ = n := readHex_serial n

/-- An issued identifier is not the empty text, which stands for no identifier. -/
theorem issue_ne_empty (n : Nat) : issue n ≠ "" := by
  intro h
  have hchars := congrArg String.toList h
  simp [issue, stem] at hchars

end Orchestration.Identifier
