import Orchestration.Log.Size
import Orchestration.Proofs.Decimal.Digits
import Orchestration.Proofs.Text.Blank

/-!
# Which texts are sizes

A size consists of digits and of a unit, in any letter case, with blanks around and between them at
most (`IsSize`). What is no size should be refused as a faulty value. But letters are matched in one
way and looked up in another: the sign of the kelvin is matched as a letter K, and names no unit
when it is looked up. A text with that sign in its unit is refused for the sake of a key that is not
found (`InKelvin`), and no other text is.

The main statement is `sizes_read_iff`.
-/

namespace Orchestration

namespace Log

/-! ## Sizes -/

/-- The text consists of digits and a unit, with blanks around and between them at most. -/
structure LaidOut (text digits unit : List Char) : Prop where
  nonempty : digits ≠ []
  digit : ∀ c ∈ digits, Text.isDecimalDigit c = true
  blanks : ∃ before between after,
    (∀ c ∈ before ++ between ++ after, Text.isBlank c = true) ∧
      text = before ++ (digits ++ between ++ unit) ++ after

/-- The text says so many bytes: it consists of digits, no more than are read, and of a unit in any
letter case. -/
inductive IsSize (text : String) : Nat → Prop
  | mk {digits unit : List Char} {name : String} {bytes : Nat}
    (laidOut : LaidOut text.toList digits unit) (few : digits.length ≤ Numeral.digitLimit)
    (known : (name, bytes) ∈ sizeUnits) (named : unit.map Char.toUpper = name.toList) :
    IsSize text (Numeral.digitsValue digits * bytes)

/-- The unit of the text is that of the kilobyte, with the sign of the kelvin for its first
letter. -/
inductive InKelvin (text : String) : Prop
  | mk {digits : List Char} {last : Char}
    (laidOut : LaidOut text.toList digits ['\u212a', last])
    (few : digits.length ≤ Numeral.digitLimit) (byte : last.toUpper = 'B')

/-- A text that is a size is read as what it says, and any other one is refused as a faulty
value. -/
structure ReadAsStated (text : String) : Prop where
  accepted : ∀ count, IsSize text count → parseSize text = .ok count
  refused : (∀ count, ¬ IsSize text count) →
    ∃ message, parseSize text = .error (.foreign .value message)

/-! ## The letters of a unit -/

/-- The letters that stand in a unit. -/
def unitLetters : List Char :=
  ['B', 'K', 'M', 'G']

theorem allAscii_unitLetters : Text.AllAscii unitLetters := by decide

section

variable {name : String} {bytes : Nat} (hknown : (name, bytes) ∈ sizeUnits)

include hknown

theorem subset_unitLetters : name.toList ⊆ unitLetters := by
  have hunits : ∀ entry ∈ sizeUnits, entry.1.toList ⊆ unitLetters := by decide
  exact hunits _ hknown

theorem allAscii_of_mem_sizeUnits : Text.AllAscii name.toList := by
  intro letter hletter
  exact allAscii_unitLetters letter (subset_unitLetters hknown hletter)

end

/-! ## How the letters of a unit are matched -/

/-- A letter is matched as itself in any letter case, and the sign of the kelvin as a letter K. -/
theorem unitLetter_eq_iff {c letter : Char} (h : Text.IsAscii letter) :
    unitLetter c = letter ↔ c.toUpper = letter ∨ c = '\u212a' ∧ letter = 'K' := by
  unfold unitLetter
  split
  next hsign =>
    have hforeign : c.toUpper ≠ letter := by
      rintro rfl
      rw [hsign] at h
      exact absurd h (by decide)
    exact ⟨fun hk => .inr ⟨hsign, hk.symm⟩, fun hor => (hor.resolve_left hforeign).2.symm⟩
  next hsign => exact ⟨.inl, fun hor => hor.resolve_right fun hkelvin => hsign hkelvin.1⟩

/-- What is matched as the letter of a unit is neither blank nor a digit. -/
theorem of_unitLetter_mem {c : Char} (h : unitLetter c ∈ unitLetters) :
    Text.isBlank c = false ∧ Text.isDecimalDigit c = false := by
  by_cases hc : Text.IsAscii c
  · exact Text.ascii_forall (P := fun c => unitLetter c ∈ unitLetters →
      Text.isBlank c = false ∧ Text.isDecimalDigit c = false) (by decide +kernel) hc h
  · have hletter : Text.IsAscii (unitLetter c) := allAscii_unitLetters _ h
    rcases (unitLetter_eq_iff hletter).mp rfl with hupper | ⟨rfl, -⟩
    · exact absurd (Text.isAscii_of_toUpper (hupper ▸ hletter)) hc
    · decide +kernel

/-- The text is matched as one of the units. -/
def Matched (unit : List Char) : Prop :=
  ∃ name bytes, (name, bytes) ∈ sizeUnits ∧ unit.map unitLetter = name.toList

theorem Matched.letter {unit : List Char} (h : Matched unit) {c : Char} (hc : c ∈ unit) :
    Text.isBlank c = false ∧ Text.isDecimalDigit c = false := by
  obtain ⟨name, bytes, hknown, hmatched⟩ := h
  apply of_unitLetter_mem
  apply subset_unitLetters hknown
  rw [← hmatched]
  exact List.mem_map_of_mem hc

theorem Matched.ne_nil {unit : List Char} (h : Matched unit) : unit ≠ [] := by
  rintro rfl
  obtain ⟨name, bytes, hknown, hmatched⟩ := h
  have hnamed : ∀ entry ∈ sizeUnits, entry.1.toList ≠ [] := by decide
  exact hnamed _ hknown hmatched.symm

/-- A unit in any letter case is matched. -/
theorem matched_of_named {unit : List Char} {name : String} {bytes : Nat}
    (hknown : (name, bytes) ∈ sizeUnits) (hnamed : unit.map Char.toUpper = name.toList) :
    Matched unit := by
  refine ⟨name, bytes, hknown, ?_⟩
  rw [← hnamed]
  refine List.map_congr_left fun c hc => (unitLetter_eq_iff ?_).mpr (.inl rfl)
  apply allAscii_of_mem_sizeUnits hknown
  rw [← hnamed]
  exact List.mem_map_of_mem hc

/-- What is matched is a unit in some letter case, or that of the kilobyte with the sign of the
kelvin. -/
theorem Matched.named_or_kelvin {unit : List Char} (h : Matched unit) :
    (∃ name bytes, (name, bytes) ∈ sizeUnits ∧ unit.map Char.toUpper = name.toList) ∨
      ∃ last, unit = ['\u212a', last] ∧ last.toUpper = 'B' := by
  obtain ⟨name, bytes, hknown, hmatched⟩ := h
  by_cases hsign : '\u212a' ∈ unit
  · -- Only the unit of the kilobyte has a K, at its start.
    have hletter : 'K' ∈ name.toList := hmatched ▸ List.mem_map.mpr ⟨_, hsign, rfl⟩
    have hkilo : ∀ entry ∈ sizeUnits, 'K' ∈ entry.1.toList → entry.1.toList = ['K', 'B'] := by
      decide
    rw [hkilo _ hknown hletter] at hmatched
    obtain ⟨first, _, rfl, -, hrest⟩ := List.map_eq_cons_iff.mp hmatched
    obtain ⟨last, _, rfl, hlast, hend⟩ := List.map_eq_cons_iff.mp hrest
    obtain rfl := List.map_eq_nil_iff.mp hend
    right
    refine ⟨last, ?_, ?_⟩
    · rcases List.mem_cons.mp hsign with rfl | hsign
      · rfl
      · obtain rfl := List.mem_singleton.mp hsign
        exact absurd hlast (by decide)
    · exact ((unitLetter_eq_iff (by decide)).mp hlast).resolve_right fun h => absurd h.2 (by decide)
  · left
    refine ⟨name, bytes, hknown, ?_⟩
    rw [← hmatched]
    refine List.map_congr_left fun c hc => ?_
    have hletter : Text.IsAscii (unitLetter c) :=
      allAscii_of_mem_sizeUnits hknown _ (hmatched ▸ List.mem_map_of_mem hc)
    refine ((unitLetter_eq_iff hletter).mp rfl).resolve_right fun hkelvin => hsign ?_
    exact hkelvin.1 ▸ hc

/-! ## How a text is split -/

/-- Without the blanks around it, a text that is laid out begins with its digits and ends with its
unit. -/
theorem LaidOut.trim_eq {text digits unit : List Char} (h : LaidOut text digits unit)
    (hmatched : Matched unit) :
    ∃ between, (∀ c ∈ between, Text.isBlank c = true) ∧
      Text.trim text = digits ++ between ++ unit := by
  obtain ⟨before, between, after, hblank, rfl⟩ := h.blanks
  simp only [List.mem_append, or_imp, forall_and] at hblank
  obtain ⟨⟨hbefore, hbetween⟩, hafter⟩ := hblank
  refine ⟨between, hbetween, Text.trim_append hbefore hafter (by simp [h.nonempty]) ?_ ?_⟩
  · intro c hc
    rw [List.append_assoc, List.head?_append_of_ne_nil _ h.nonempty] at hc
    exact Text.isBlank_of_isDecimalDigit (h.digit c (List.mem_of_mem_head? hc))
  · intro c hc
    rw [List.getLast?_append_of_ne_nil _ hmatched.ne_nil] at hc
    exact (hmatched.letter (List.mem_of_mem_getLast? hc)).1

/-- What a text is split into is what it is laid out with. -/
theorem laidOut_of_splitSize? {text digits unit : List Char}
    (h : splitSize? (Text.trim text) = some (digits, String.ofList unit)) :
    LaidOut text digits unit ∧ Matched unit := by
  obtain ⟨before, after, hblank, htext⟩ := Text.exists_eq_append_trim text
  generalize Text.trim text = core at h htext
  unfold splitSize? at h
  dsimp only at h
  split at h
  · cases h
  next hne =>
    split at h
    next hany =>
      obtain ⟨rfl, hunit⟩ := Prod.mk.inj (Option.some.inj h)
      obtain rfl := String.ofList_inj.mp hunit
      set rest := core.dropWhile Text.isDecimalDigit
      obtain ⟨⟨name, bytes⟩, hknown, hmatched⟩ := List.any_eq_true.mp hany
      -- The blanks around the text and those between its parts surround the unit.
      have hblanks : ∀ c ∈ before ++ rest.takeWhile Text.isBlank ++ after,
          Text.isBlank c = true := by
        intro c hc
        simp only [List.mem_append] at hc hblank
        rcases hc with (hbefore | hbetween) | hafter
        · exact hblank c (.inl hbefore)
        · exact List.mem_takeWhile_imp hbetween
        · exact hblank c (.inr hafter)
      refine ⟨⟨by simpa using hne, fun c => List.mem_takeWhile_imp, _, _, _, hblanks, ?_⟩,
        name, bytes, hknown, (of_decide_eq_true hmatched).symm⟩
      rw [List.append_assoc (core.takeWhile _), List.takeWhile_append_dropWhile,
        List.takeWhile_append_dropWhile, ← htext]
    next => cases h

/-- What a text is laid out with is what it is split into. -/
theorem LaidOut.splitSize?_eq {text digits unit : List Char} (h : LaidOut text digits unit)
    (hmatched : Matched unit) :
    splitSize? (Text.trim text) = some (digits, String.ofList unit) := by
  obtain ⟨between, hbetween, htrim⟩ := h.trim_eq hmatched
  -- Neither a blank nor a letter of the unit goes on with the digits.
  have hrest : ∀ c ∈ (between ++ unit).head?, Text.isDecimalDigit c = false := by
    intro c hc
    rcases List.mem_append.mp (List.mem_of_mem_head? hc) with hblank | hletter
    · exact Text.isDecimalDigit_of_isBlank (hbetween c hblank)
    · exact (hmatched.letter hletter).2
  have hunit : ∀ c ∈ unit.head?, Text.isBlank c = false :=
    fun c hc => (hmatched.letter (List.mem_of_mem_head? hc)).1
  obtain ⟨name, bytes, hknown, hname⟩ := hmatched
  have hany : (sizeUnits.any fun entry => entry.1.toList = unit.map unitLetter) = true :=
    List.any_eq_true.mpr ⟨_, hknown, decide_eq_true hname.symm⟩
  have hdigits : ¬ digits.isEmpty = true := by simpa using h.nonempty
  rw [htrim, List.append_assoc]
  simp only [splitSize?, Text.takeWhile_append_of_head? h.digit hrest,
    Text.dropWhile_append_of_head? h.digit hrest,
    Text.dropWhile_append_of_head? hbetween hunit, if_neg hdigits]
  exact if_pos hany

/-! ## What becomes of a text -/

section

variable {text : String}

/-- What is not laid out as digits and something that is matched as a unit is refused. -/
theorem parseSize_of_not_laidOut
    (h : ∀ digits unit, LaidOut text.toList digits unit → ¬ Matched unit) :
    ∃ message, parseSize text = .error (.foreign .value message) := by
  unfold parseSize
  cases hsplit : splitSize? (Text.trim text.toList) with
  | none => exact ⟨_, rfl⟩
  | some parts =>
    obtain ⟨digits, unit⟩ := parts
    rw [← String.ofList_toList (s := unit)] at hsplit
    obtain ⟨hlaid, hmatched⟩ := laidOut_of_splitSize? hsplit
    exact absurd hmatched (h _ _ hlaid)

variable {digits unit : List Char} (hlaid : LaidOut text.toList digits unit)

include hlaid

theorem parseSize_of_laidOut (hmatched : Matched unit) :
    parseSize text =
      if digits.length > Numeral.digitLimit then .error (.tooManyDigits digits.length)
      else match sizeUnits.lookup (Text.upper (String.ofList unit)) with
        | some bytes => .ok (Numeral.digitsValue digits * bytes)
        | none => .error (Fault.unknownKey (Text.upper (String.ofList unit))) := by
  rewrite [parseSize, hlaid.splitSize?_eq hmatched]
  rfl

/-- A size is read. -/
theorem parseSize_of_named (hfew : digits.length ≤ Numeral.digitLimit) {name : String} {bytes : Nat}
    (hknown : (name, bytes) ∈ sizeUnits) (hnamed : unit.map Char.toUpper = name.toList) :
    parseSize text = .ok (Numeral.digitsValue digits * bytes) := by
  have hascii : Text.AllAscii unit := by
    intro c hc
    apply Text.isAscii_of_toUpper
    exact allAscii_of_mem_sizeUnits hknown _ (hnamed ▸ List.mem_map_of_mem hc)
  have hlookup : ∀ entry ∈ sizeUnits, sizeUnits.lookup entry.1 = some entry.2 := by decide
  rw [parseSize_of_laidOut hlaid (matched_of_named hknown hnamed), if_neg (Nat.not_lt.mpr hfew),
    Text.upper_ofList hascii, hnamed, String.ofList_toList, hlookup _ hknown]

/-- With too many digits, even a size is refused. -/
theorem parseSize_of_many (hmany : Numeral.digitLimit < digits.length) (hmatched : Matched unit) :
    parseSize text = .error (.tooManyDigits digits.length) := by
  rw [parseSize_of_laidOut hlaid hmatched, if_pos hmany]

end

/-- The unit with the sign of the kelvin is matched, but not found. -/
theorem parseSize_of_inKelvin {text : String} (h : InKelvin text) :
    parseSize text = .error (Fault.unknownKey "\u212aB") := by
  cases h with
  | @mk digits last hlaid hfew hbyte =>
    have hascii : Text.IsAscii last := Text.isAscii_of_toUpper (by rw [hbyte]; decide)
    have hletter : last = 'B' ∨ last = 'b' :=
      Text.ascii_forall (P := fun c => c.toUpper = 'B' → c = 'B' ∨ c = 'b') (by decide) hascii hbyte
    have hmatched : Matched ['\u212a', last] := by
      refine ⟨"KB", 1024, by decide, ?_⟩
      rcases hletter with rfl | rfl <;> decide
    have hupper : Text.upper (String.ofList ['\u212a', last]) = "\u212aB" := by
      rcases hletter with rfl | rfl <;> decide +kernel
    rw [parseSize_of_laidOut hlaid hmatched, if_neg (Nat.not_lt.mpr hfew), hupper]
    rfl

/-- A text that is not read as stated has the sign of the kelvin in its unit. -/
theorem readAsStated_of_not_inKelvin {text : String} (h : ¬ InKelvin text) : ReadAsStated text where
  accepted := by
    rintro _ ⟨hlaid, hfew, hknown, hnamed⟩
    exact parseSize_of_named hlaid hfew hknown hnamed
  refused hnone := by
    by_cases hmatched : ∃ digits unit, LaidOut text.toList digits unit ∧ Matched unit
    · obtain ⟨digits, unit, hlaid, hmatched⟩ := hmatched
      refine ⟨_, parseSize_of_many hlaid (Nat.lt_of_not_le fun hfew => ?_) hmatched⟩
      -- With fewer digits, the text would be a size, or have the sign of the kelvin.
      rcases hmatched.named_or_kelvin with ⟨name, bytes, hknown, hnamed⟩ | ⟨last, rfl, hbyte⟩
      · exact hnone _ ⟨hlaid, hfew, hknown, hnamed⟩
      · exact h ⟨hlaid, hfew, hbyte⟩
    · simp only [not_exists, not_and] at hmatched
      exact parseSize_of_not_laidOut hmatched

/-- A size that is written for a number is laid out with the digits of the number. -/
theorem laidOut_integerText (n : Nat) (unit : String) :
    LaidOut (Decimal.integerText n ++ unit).toList (Decimal.naturalDigits n) unit.toList where
  nonempty := Nat.toDigits_ne_nil
  digit c hc := by rw [Text.isDecimalDigit, Numeral.digitValue?_of_mem_naturalDigits hc]; rfl
  blanks := ⟨[], [], [], nofun, by
    rw [Decimal.integerText_natCast, String.toList_append, String.toList_ofList]
    simp⟩

/-- **Sizes.** Whatever the text is, it is read as the size that it is, or refused as a faulty value
if it is none, exactly unless the sign of the kelvin stands in its unit; then it is refused for the
sake of a key that is not found. The decimal digits of a number with a unit behind them, in any
letter case, are read as so many times the unit. -/
theorem sizes_read_iff (text : String) :
    (ReadAsStated text ↔ ¬ InKelvin text) ∧
    (InKelvin text → parseSize text = .error (.foreign .key "'\u212aB'")) ∧
    ∀ (n : Nat) (unit name : String) (bytes : Nat), (name, bytes) ∈ sizeUnits →
      unit.toList.map Char.toUpper = name.toList →
      (Decimal.naturalDigits n).length ≤ Numeral.digitLimit →
        parseSize (Decimal.integerText n ++ unit) = .ok (n * bytes) := by
  have hkey : InKelvin text → parseSize text = .error (.foreign .key "'\u212aB'") := by
    intro h
    have hquoted : Text.quoted "\u212aB" = "'\u212aB'" := by decide +kernel
    rw [parseSize_of_inKelvin h, Fault.unknownKey, hquoted]
  refine ⟨⟨fun hread hkelvin => ?_, readAsStated_of_not_inKelvin⟩, hkey, ?_⟩
  · -- The text is no size, since it is not read as one, and yet not refused as one should be.
    obtain ⟨message, hrefused⟩ := hread.refused fun count hsize => by
      cases (hread.accepted count hsize).symm.trans (hkey hkelvin)
    cases hrefused.symm.trans (hkey hkelvin)
  · intro n unit name bytes hknown hnamed hfew
    rw [parseSize_of_named (laidOut_integerText n unit) hfew hknown hnamed,
      Numeral.digitsValue_naturalDigits]

/-- Not every text is read as stated: the sign of the kelvin is a letter K only at first sight. -/
theorem not_read_kelvin : ¬ ∀ text, ReadAsStated text := by
  intro hall
  have hdigits : ['1', '0'].all Text.isDecimalDigit = true := by decide +kernel
  have hkelvin : InKelvin "10\u212aB" :=
    ⟨⟨List.cons_ne_nil '1' ['0'], List.all_eq_true.mp hdigits, [], [], [], nofun, rfl⟩,
      by decide, rfl⟩
  have hkey := parseSize_of_inKelvin hkelvin
  obtain ⟨message, hrefused⟩ := (hall "10\u212aB").refused fun count hsize => by
    cases ((hall _).accepted count hsize).symm.trans hkey
  cases hrefused.symm.trans hkey

end Log

end Orchestration
