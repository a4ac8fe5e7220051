import Mathlib
import Orchestration.Decimal.Binary

/-!
# What the bits of a number say

A finite number is a fraction (`Binary.toRat`), and it is read as an integer exactly if it is equal
to one (`integer?_eq_some_iff`). Comparisons are decided on the same bits: what is equal to zero is
a finite number, and so is, if it is not infinite, what is below zero.
-/

namespace Orchestration.Decimal

/-! ## Finite numbers as fractions -/

/-- The number as a fraction. -/
def Binary.toRat (x : Binary) : ℚ :=
  (if x.negative then -1 else 1) * (x.mantissa * 2 ^ x.exponent)

/-- The number is finite and equal to the integer. -/
def Equals (x : Float) (n : Int) : Prop :=
  ∃ value, Reading.ofFloat x = .finite value ∧ value.toRat = n

namespace Binary

/-- The fraction of a finite number is the number. -/
theorem fraction_eq (x : Binary) :
    (x.mantissa * 2 ^ x.exponent : ℚ) = x.fraction.1 / x.fraction.2 := by
  have hexponent : x.exponent = x.exponent.toNat - (-x.exponent).toNat := by omega
  rw [fraction]
  push_cast
  conv_lhs => rw [hexponent]
  rw [zpow_sub₀ (by norm_num), zpow_natCast, zpow_natCast]
  simp [mul_div_assoc]

/-- A fraction is an integer if the division leaves nothing. -/
theorem natCast_eq_mul_iff {num den : Nat} (hden : 0 < den) (n : Int) :
    (num : Int) = n * den ↔ num % den = 0 ∧ ((num / den : Nat) : Int) = n := by
  constructor
  · intro h
    have hdvd : (den : Int) ∣ num := ⟨n, by rw [h, Int.mul_comm]⟩
    refine ⟨Nat.mod_eq_zero_of_dvd (Int.natCast_dvd_natCast.mp hdvd), ?_⟩
    rw [Int.natCast_div, h]
    exact Int.mul_ediv_cancel n (by omega)
  · rintro ⟨hmod, rfl⟩
    exact_mod_cast (Nat.div_mul_cancel (Nat.dvd_of_mod_eq_zero hmod)).symm

/-- A number is equal to an integer exactly if it has no fractional part and its whole part is that
integer. -/
theorem toRat_eq_iff (x : Binary) (n : Int) :
    x.toRat = n ↔ x.isIntegral = true ∧ x.truncated = n := by
  have hden : 0 < x.fraction.2 := Nat.pow_pos (by decide)
  have hne : (x.fraction.2 : ℚ) ≠ 0 := by exact_mod_cast hden.ne'
  rw [toRat, fraction_eq, isIntegral, truncated, wholePart, decide_eq_true_iff]
  cases x.negative with
  | false =>
    rw [if_neg Bool.false_ne_true, if_neg Bool.false_ne_true, one_mul, div_eq_iff hne,
      ← natCast_eq_mul_iff hden]
    exact_mod_cast Iff.rfl
  | true =>
    -- The magnitude is the integer with the other sign.
    rw [if_pos rfl, if_pos rfl, neg_one_mul, neg_eq_iff_eq_neg, div_eq_iff hne, neg_eq_iff_eq_neg,
      ← natCast_eq_mul_iff hden]
    exact_mod_cast Iff.rfl

end Binary

/-- A number is read as an integer exactly if it is equal to it. -/
theorem integer?_eq_some_iff {x : Float} {n : Int} : integer? x = some n ↔ Equals x n := by
  unfold integer? Equals
  cases Reading.ofFloat x with
  | nan => simp
  | infinite negative => simp
  | finite value => simp [Binary.toRat_eq_iff]

/-! ## Comparisons with zero -/

open Float.Model (UnpackedFloat)

/-- The number, taken apart. -/
def parts (x : Float) : UnpackedFloat :=
  x.toModel.unpack

theorem parts_zero : parts 0.0 = .zero .positive := rfl

/-- Two numbers are equal to zero, one of either sign. -/
theorem beq_zero_iff {x : Float} : (x == 0.0) = true ↔ ∃ sign, parts x = .zero sign := by
  show (parts x).beq (parts 0.0) = true ↔ _
  rw [parts_zero, UnpackedFloat.beq_iff_ne_notANumber_and_eq]
  constructor
  · rintro ⟨-, -, hsame | ⟨hsame, -⟩ | ⟨hother, -⟩⟩
    · exact ⟨_, hsame⟩
    · exact ⟨_, hsame⟩
    · exact ⟨_, hother⟩
  · rintro ⟨sign, hparts⟩
    cases sign <;> simp [hparts]

/-- A number is below zero if its sign says so and it is not zero. -/
theorem lt_zero_iff {x : Float} : x < 0.0 ↔ parts x = .infinity .negative ∨
    ∃ m e, ∃ hm : 0 < m, parts x = .finite .negative m e hm := by
  have hlt : x < 0.0 ↔ (parts x).lt (parts 0.0) = true := decide_eq_true_iff
  rw [hlt, parts_zero]
  cases parts x with
  | infinity sign => cases sign <;> simp [UnpackedFloat.lt, UnpackedFloat.compare]
  | notANumber => simp [UnpackedFloat.lt, UnpackedFloat.compare]
  | zero sign => simp [UnpackedFloat.lt, UnpackedFloat.compare]
  | finite sign m e hm =>
    cases sign <;> simp [UnpackedFloat.lt, UnpackedFloat.compare, hm]

/-- A number is equal to itself, unless it is none. -/
theorem beq_self_iff {x : Float} : (x == x) = true ↔ parts x ≠ .notANumber := by
  show (parts x).beq (parts x) = true ↔ _
  rw [UnpackedFloat.beq_iff_ne_notANumber_and_eq]
  simp

/-- What is below zero is not equal to it. -/
theorem not_beq_zero_of_lt_zero {x : Float} (h : x < 0.0) : ¬ (x == 0.0) = true := by
  rw [beq_zero_iff]
  obtain hparts | ⟨m, e, hm, hparts⟩ := lt_zero_iff.mp h <;> simp [hparts]

/-- What is below zero is a number. -/
theorem beq_self_of_lt_zero {x : Float} (h : x < 0.0) : (x == x) = true := by
  rw [beq_self_iff]
  obtain hparts | ⟨m, e, hm, hparts⟩ := lt_zero_iff.mp h <;> simp [hparts]

/-- What is equal to zero is a number. -/
theorem beq_self_of_beq_zero {x : Float} (h : (x == 0.0) = true) : (x == x) = true := by
  obtain ⟨sign, hparts⟩ := beq_zero_iff.mp h
  rw [beq_self_iff, hparts]
  exact nofun

/-- The test for no number is right. -/
theorem isNaN_iff {x : Float} : x.isNaN = true ↔ parts x = .notANumber := by
  show (parts x).isNaN = true ↔ _
  cases parts x <;> simp [UnpackedFloat.isNaN]

/-- What is not zero or below zero is above zero, or it is not a number. -/
theorem not_le_zero_iff {x : Float} : ¬ x ≤ 0.0 ↔ 0.0 < x ∨ x.isNaN = true := by
  have hle : x ≤ 0.0 ↔ (parts x).le (parts 0.0) = true := decide_eq_true_iff
  have hlt : 0.0 < x ↔ (parts 0.0).lt (parts x) = true := decide_eq_true_iff
  rw [hle, hlt, isNaN_iff, parts_zero]
  cases parts x with
  | infinity sign => cases sign <;> simp [UnpackedFloat.le, UnpackedFloat.lt, UnpackedFloat.compare]
  | notANumber => simp [UnpackedFloat.le, UnpackedFloat.compare]
  | zero sign => simp [UnpackedFloat.le, UnpackedFloat.lt, UnpackedFloat.compare]
  | finite sign m e hm =>
    cases sign <;> simp [UnpackedFloat.le, UnpackedFloat.lt, UnpackedFloat.compare]

/-- What is above zero is a number. -/
theorem not_isNaN_of_zero_lt {x : Float} (h : 0.0 < x) : x.isNaN = false := by
  have hlt : (parts 0.0).lt (parts x) = true := of_decide_eq_true h
  rw [Bool.eq_false_iff, ne_eq, isNaN_iff]
  intro hparts
  rw [hparts, parts_zero] at hlt
  cases hlt

/-! ## The scale -/

/-- The bits that say how a number is scaled. -/
def scale (x : Float) : BitVec 11 :=
  @UnpackedFloat.unpackExponent .binary64 x.toModel.toBits.toBitVec

/-- The exponent field of a number is read off its bits. -/
theorem toNat_scale (x : Float) : ((x.toBits >>> 52) &&& 0x7FF).toNat = (scale x).toNat := by
  rw [scale, UnpackedFloat.unpackExponent, BitVec.toNat_cast, BitVec.extractLsb_toNat,
    UInt64.toNat_and, UInt64.toNat_shiftRight]
  exact Nat.and_two_pow_sub_one_eq_mod _ 11

/-- A number is finite unless all bits of its scale are set. -/
theorem isFinite_iff_scale {x : Float} : isFinite x = true ↔ scale x ≠ -1#11 := by
  have hfull : (scale x).toNat = 0x7FF ↔ scale x = -1#11 := by
    rw [BitVec.toNat_eq]
    rfl
  unfold isFinite Reading.ofFloat
  dsimp only
  rw [toNat_scale, ← not_iff_not, ne_eq, Classical.not_not, ← hfull]
  split_ifs <;> simp_all

/-- A number is finite exactly if it is a zero or has a mantissa. -/
theorem isFinite_iff {x : Float} : isFinite x = true ↔
    (∃ sign, parts x = .zero sign) ∨ ∃ sign m e, ∃ hm : 0 < m, parts x = .finite sign m e hm := by
  rw [isFinite_iff_scale]
  generalize hparts : parts x = u
  rw [parts, Float.Model.unpack, UnpackedFloat.unpack] at hparts
  dsimp only at hparts
  split at hparts
  next hfull =>
    refine iff_of_false (not_not_intro hfull) ?_
    split at hparts <;> simp [← hparts]
  next hfull =>
    refine iff_of_true hfull ?_
    split at hparts
    · split at hparts
      · exact .inl ⟨_, hparts.symm⟩
      · exact .inr ⟨_, _, _, _, hparts.symm⟩
    · exact .inr ⟨_, _, _, _, hparts.symm⟩

/-- What is equal to zero is finite. -/
theorem isFinite_of_beq_zero {x : Float} (h : (x == 0.0) = true) : isFinite x = true := by
  exact isFinite_iff.mpr (.inl (beq_zero_iff.mp h))

end Orchestration.Decimal
