import Mathlib.Algebra.Group.Nat.Defs
import Mathlib.Data.List.Basic
import Orchestration.Proofs.Text.Letters
import Orchestration.Value.Display

/-!
# The digits of a number

The decimal digits of a natural number are ASCII digits, they do not start with a zero unless the
number is zero, and they are read back as the number (`digitsValue_naturalDigits`). An integer has
more digits than are written from a power of ten on (`isOverlong_iff`).
-/

namespace Orchestration

namespace Decimal

theorem isDigit_of_mem_naturalDigits {n : Nat} {c : Char} (h : c ∈ naturalDigits n) :
    c.isDigit = true :=
  Nat.isDigit_of_mem_toDigits (by decide) (by decide) h

theorem exists_cons_naturalDigits (n : Nat) :
    ∃ first others, naturalDigits n = first :: others ∧ first.isDigit = true := by
  have hne : naturalDigits n ≠ [] := Nat.toDigits_ne_nil
  obtain ⟨first, others, hdigits⟩ := List.exists_cons_of_ne_nil hne
  exact ⟨first, others, hdigits, isDigit_of_mem_naturalDigits (hdigits ▸ List.mem_cons_self)⟩

/-- The digits of a number do not start with a zero, unless it is zero. -/
theorem head?_naturalDigits {n : Nat} (h : 0 < n) :
    (naturalDigits n).head? ≠ some '0' := by
  -- The first digit of a number with more digits is that of the number without its last digit.
  induction n using Nat.strongRecOn with
  | ind n ih =>
    rw [naturalDigits, Nat.toDigits_eq_if (by decide)]
    split
    next hlt =>
      have hall : ∀ n : Fin 10, 0 < n.val → Nat.digitChar n ≠ '0' := by decide
      simpa using hall ⟨n, hlt⟩ h
    next hge =>
      rw [List.head?_append_of_ne_nil _ Nat.toDigits_ne_nil]
      exact ih (n / 10) (by omega) (by omega)

end Decimal

namespace Numeral

theorem digitValue?_of_mem_naturalDigits {n : Nat} {c : Char} (h : c ∈ Decimal.naturalDigits n) :
    Text.digitValue? c = some (c.toNat - '0'.toNat) := by
  have hdigit : c.isDigit = true := Nat.isDigit_of_mem_toDigits (by decide) (by decide) h
  have hascii : Text.IsAscii c := by
    have hle : c.toNat ≤ '9'.toNat := (Char.isDigit_iff_toNat.mp hdigit).2
    exact Nat.lt_of_le_of_lt hle (by decide)
  exact Text.ascii_forall (P := fun c => c.isDigit = true →
    Text.digitValue? c = some (c.toNat - '0'.toNat)) (by decide +kernel) hascii hdigit

/-- The digits of a number stand for the number. -/
theorem digitsValue_naturalDigits (n : Nat) : digitsValue (Decimal.naturalDigits n) = n := by
  calc digitsValue (Decimal.naturalDigits n)
      = Nat.ofDigitChars 10 (Decimal.naturalDigits n) 0 := by
        refine List.foldl_ext _ _ _ fun value c hmem => ?_
        rw [digitValue?_of_mem_naturalDigits hmem, Option.getD_some]
    _ = n := Nat.ofDigitChars_ten_toDigits

end Numeral

/-! ## Too many digits -/

/-- An integer is overlong from the first power of ten on that has more digits than are written. -/
theorem isOverlong_iff {n : Int} : isOverlong n = true ↔ 10 ^ Numeral.digitLimit ≤ n.natAbs := by
  rw [isOverlong, decide_eq_true_eq, ← Nat.not_le, Decimal.naturalDigits,
    Nat.length_toDigits_le_iff (by decide) (by decide), Nat.not_lt]

/-- The least natural number with more digits than are written. -/
@[irreducible]
def leastOverlong : Nat :=
  10 ^ Numeral.digitLimit

/-- The definition is not unfolded by itself, since nothing is to compute the number. -/
theorem leastOverlong_eq : leastOverlong = 10 ^ Numeral.digitLimit := by
  unfold leastOverlong
  rfl

theorem isOverlong_leastOverlong : isOverlong leastOverlong = true := by
  rw [isOverlong_iff, Int.natAbs_natCast]
  exact Nat.le_of_eq leastOverlong_eq.symm

end Orchestration
