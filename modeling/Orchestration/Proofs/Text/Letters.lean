import Orchestration.Proofs.Text.Search
import Orchestration.Text.Case

/-!
# Words in any letter case

A text mentions a word if the letters of the word stand in it in a row, each of them capital or
small (`Mentions`). The word is looked for in another way: in the lower case of the whole text, as
Unicode has it. Of the characters outside ASCII only two have an ASCII letter in their lower case:
the sign of the kelvin becomes a `k`, and the capital I with a dot becomes an `i` with the dot
behind it. A word of small ASCII letters that has no `k` and does not end in an `i` is therefore
found where it is mentioned, and nowhere else.

The main statement is `contains_lower_iff`.
-/

namespace Orchestration.Text

/-- The text has the word in it, in any letter case. -/
def Mentions (text word : String) : Prop :=
  word.toList <:+: text.toList.map Char.toLower

/-- The character is one of ASCII. -/
def IsAscii (c : Char) : Prop :=
  c.toNat < 128

instance (c : Char) : Decidable (IsAscii c) :=
  inferInstanceAs (Decidable (c.toNat < 128))

/-- All characters of the text are those of ASCII. -/
def AllAscii (text : List Char) : Prop :=
  ∀ c ∈ text, IsAscii c

-- This goes through the characters of the text; one could also go through all characters there are.
instance (text : List Char) : Decidable (AllAscii text) :=
  List.decidableBAll IsAscii text

/-- What holds of the first characters by their numbers holds of all ASCII characters. -/
theorem ascii_forall {P : Char → Prop} (h : ∀ n < 128, P (Char.ofNat n)) {c : Char}
    (hc : IsAscii c) : P c := by
  have hchar := h c.toNat hc
  rwa [Char.ofNat_toNat] at hchar

/-! ## The lower case of a character -/

/-- The lower case of a character, by what it is of ASCII. -/
inductive Lowered (c : Char) : List Char → Prop
  | ascii (within : IsAscii c) : Lowered c [c.toLower]
  | dotted (capital : c = '\u0130') : Lowered c ['i', '\u0307']
  | kelvin (sign : c = '\u212a') : Lowered c ['k']
  | foreign {image : Char} (outside : ¬ IsAscii c) (imageOutside : ¬ IsAscii image) :
    Lowered c [image]

/-- The run stays within ASCII, or stays out of it: its images do, unless it is the run of the
kelvin. Images must be numbers of characters, since all other numbers stand for the first one. -/
def CaseRun.Separate (run : CaseRun) : Prop :=
  let (first, last, _, target) := run
  last < 128 ∨ run = (0x212A, 0x212A, 1, 0x6B) ∨
    128 ≤ target ∧ (target + (last - first) < 0xD800 ∨
      0xDFFF < target ∧ target + (last - first) < 0x110000)

instance (run : CaseRun) : Decidable run.Separate :=
  inferInstanceAs (Decidable (_ ∨ _ ∨ _))

theorem separate_lowerMap : ∀ run ∈ lowerMap.runs, run.Separate := by
  decide +kernel

/-- Within ASCII, the lower case is that of ASCII. -/
theorem image_of_isAscii {c : Char} (h : IsAscii c) : lowerMap.image c = [c.toLower] :=
  ascii_forall (P := fun c => lowerMap.image c = [c.toLower]) (by decide +kernel) h

theorem not_isAscii_ofNat {n : Nat} (hlow : 128 ≤ n)
    (hvalid : n < 0xD800 ∨ 0xDFFF < n ∧ n < 0x110000) : ¬ IsAscii (Char.ofNat n) := by
  have hchar : n.isValidChar := hvalid
  have hcode : (Char.ofNat n).toNat = n := by
    rw [Char.ofNat, dif_pos hchar]
    rfl
  rw [IsAscii, hcode]
  omega

/-- What a run does to a character outside ASCII. -/
theorem CaseRun.Separate.lowered {c : Char} {first last step target : Nat}
    (h : CaseRun.Separate (first, last, step, target)) (hc : ¬ IsAscii c)
    (hfirst : first ≤ c.toNat) (hlast : c.toNat ≤ last) :
    Lowered c [Char.ofNat (target + (c.toNat - first))] := by
  have hcode : 128 ≤ c.toNat := Nat.not_lt.mp hc
  rcases h with hwithin | hkelvin | ⟨htarget, hvalid⟩
  · omega
  · cases hkelvin
    have hsign : c.toNat = 0x212A := by omega
    have hchar : c = '\u212a' := by
      rw [← Char.ofNat_toNat c, hsign]
    rw [hsign]
    exact .kelvin hchar
  · exact .foreign hc (not_isAscii_ofNat (by omega) (by omega))

theorem lowered_image (c : Char) : Lowered c (lowerMap.image c) := by
  by_cases hc : IsAscii c
  · rw [image_of_isAscii hc]
    exact .ascii hc
  · unfold CaseMap.image
    dsimp only
    split
    next code codes hfound =>
      -- There is one character whose lower case is a sequence.
      have hmem := List.mem_of_find?_eq_some hfound
      obtain ⟨rfl, rfl⟩ : code = 0x130 ∧ codes = [0x69, 0x307] := by simpa [lowerMap] using hmem
      have hcode : 0x130 = c.toNat := by simpa using List.find?_some hfound
      exact .dotted (by rw [← Char.ofNat_toNat c, ← hcode])
    next =>
      split
      next first last step target hfound =>
        have hcovers := List.find?_some hfound
        simp only [Bool.and_eq_true, decide_eq_true_eq] at hcovers
        obtain ⟨⟨hfirst, hlast⟩, -⟩ := hcovers
        have hseparate := separate_lowerMap _ (List.mem_of_find?_eq_some hfound)
        exact hseparate.lowered hc hfirst hlast
      next => exact .foreign hc hc

/-- Wherever a character stands, its lower case is one of these. -/
theorem lowered_lowerAt (before : List Char) (c : Char) (after : List Char) :
    Lowered c (lowerAt before c after) := by
  unfold lowerAt
  split
  next hsigma =>
    subst hsigma
    split
    · exact .foreign (by decide) (by decide)
    · exact .foreign (by decide) (by decide)
  next => exact lowered_image c

theorem toLower_of_not_isAscii {c : Char} (h : ¬ IsAscii c) : c.toLower = c := by
  have hcode : 128 ≤ c.toNat := Nat.not_lt.mp h
  refine dif_neg ?_
  rintro ⟨-, hle⟩
  have hlast : c.toNat ≤ 'Z'.toNat := hle
  have hletter : 'Z'.toNat = 90 := rfl
  omega

/-! ## The upper case of a text -/

theorem toUpper_of_not_isAscii {c : Char} (h : ¬ IsAscii c) : c.toUpper = c := by
  have hcode : 128 ≤ c.toNat := Nat.not_lt.mp h
  refine dif_neg ?_
  rintro ⟨-, hle⟩
  have hlast : c.toNat ≤ 'z'.toNat := hle
  have hletter : 'z'.toNat = 122 := rfl
  omega

/-- Only an ASCII character becomes one. -/
theorem isAscii_of_toUpper {c : Char} (h : IsAscii c.toUpper) : IsAscii c := by
  by_cases hc : IsAscii c
  · exact hc
  · rwa [toUpper_of_not_isAscii hc] at h

/-- The upper case of a text of ASCII is that of ASCII. -/
theorem upper_ofList {text : List Char} (h : AllAscii text) :
    upper (String.ofList text) = String.ofList (text.map Char.toUpper) := by
  have himage : ∀ c ∈ text, upperMap.image c = [c.toUpper] := fun c hmem =>
    ascii_forall (P := fun c => upperMap.image c = [c.toUpper]) (by decide +kernel) (h c hmem)
  rw [upper, String.toList_ofList, List.flatMap_def, List.map_congr_left himage,
    ← List.flatMap_def, ← List.map_eq_flatMap]

/-! ## Words in the lower case of a text -/

/-- A word of ASCII characters that shows in the lower case of a text only where it is mentioned. -/
structure Plain (word : List Char) : Prop where
  ascii : AllAscii word
  no_kelvin : 'k' ∉ word
  no_dot : word.getLast? ≠ some 'i'

instance (word : List Char) : Decidable (Plain word) :=
  decidable_of_iff (AllAscii word ∧ 'k' ∉ word ∧ word.getLast? ≠ some 'i')
    ⟨fun ⟨hascii, hkelvin, hdot⟩ => ⟨hascii, hkelvin, hdot⟩,
      fun ⟨hascii, hkelvin, hdot⟩ => ⟨hascii, hkelvin, hdot⟩⟩

theorem Plain.tail {c : Char} {rest : List Char} (h : Plain (c :: rest)) : Plain rest where
  ascii letter hmem := h.ascii letter (List.mem_cons_of_mem _ hmem)
  no_kelvin hmem := h.no_kelvin (List.mem_cons_of_mem _ hmem)
  no_dot hlast := h.no_dot (by simp [List.getLast?_cons, hlast])

/-- A plain word does not begin with a character outside ASCII. -/
theorem Plain.not_prefix_foreign {word text : List Char} {c : Char} (h : Plain word)
    (hne : word ≠ []) (hc : ¬ IsAscii c) : ¬ word <+: c :: text := by
  intro hprefix
  rcases List.prefix_cons_iff.mp hprefix with hnil | ⟨rest, rfl, -⟩
  · exact hne hnil
  · exact hc (h.ascii c List.mem_cons_self)

/-- A plain word stands at the start of the lower case of a text exactly if it stands at the start
of the text in some letter case. -/
theorem prefix_lowerFrom_iff {word : List Char} (h : Plain word) (before text : List Char) :
    word <+: lowerFrom before text ↔ word <+: text.map Char.toLower := by
  induction text generalizing word before with
  | nil => rfl
  | cons c after ih =>
    cases word with
    | nil => simp
    | cons letter rest =>
      rw [lowerFrom, List.map_cons, List.cons_prefix_cons, ← ih h.tail (c :: before)]
      have hletter : IsAscii letter := h.ascii letter List.mem_cons_self
      have hforeign : ¬ IsAscii c → letter ≠ c.toLower := by
        intro hc heq
        rw [toLower_of_not_isAscii hc] at heq
        exact hc (heq ▸ hletter)
      generalize hlower : lowerAt before c after = image
      have hcases := lowered_lowerAt before c after
      rw [hlower] at hcases
      cases hcases with
      | ascii => exact List.cons_prefix_cons
      | dotted capital =>
        -- The letter would be the `i`, and what follows would have to begin with the dot.
        refine iff_of_false (fun hprefix => ?_)
          fun hsame => hforeign (by rw [capital]; decide) hsame.1
        obtain ⟨rfl, hrest⟩ := List.cons_prefix_cons.mp hprefix
        have hne : rest ≠ [] := by
          rintro rfl
          exact h.no_dot rfl
        exact h.tail.not_prefix_foreign hne (by decide) hrest
      | kelvin sign =>
        refine iff_of_false (fun hprefix => ?_) fun hsame => hforeign (by rw [sign]; decide) hsame.1
        obtain ⟨rfl, -⟩ := List.cons_prefix_cons.mp hprefix
        exact h.no_kelvin List.mem_cons_self
      | foreign outside imageOutside =>
        refine iff_of_false (fun hprefix => ?_) fun hsame => hforeign outside hsame.1
        exact h.not_prefix_foreign (List.cons_ne_nil _ _) imageOutside hprefix

/-- A plain word is in the lower case of a text either at its start or behind the first
character. -/
theorem infix_lowerFrom_cons_iff {word : List Char} (h : Plain word) (before : List Char) (c : Char)
    (after : List Char) :
    word <:+: lowerFrom before (c :: after) ↔
      word <+: lowerFrom before (c :: after) ∨ word <:+: lowerFrom (c :: before) after := by
  rw [lowerFrom]
  generalize hlower : lowerAt before c after = image
  have hcases := lowered_lowerAt before c after
  rw [hlower] at hcases
  cases hcases with
  | dotted =>
    -- The word does not begin with the dot that the first character leaves.
    show word <:+: 'i' :: '\u0307' :: lowerFrom (c :: before) after ↔ _
    rw [List.infix_cons_iff, List.infix_cons_iff (a := '\u0307')]
    refine or_congr_right (or_iff_right_of_imp fun hprefix => ?_)
    by_cases hne : word = []
    · rw [hne]
      exact List.nil_infix
    · exact absurd hprefix (h.not_prefix_foreign hne (by decide))
  | _ => exact List.infix_cons_iff

theorem infix_lowerFrom_iff {word : List Char} (h : Plain word) (before text : List Char) :
    word <:+: lowerFrom before text ↔ word <:+: text.map Char.toLower := by
  induction text generalizing before with
  | nil => rfl
  | cons c after ih =>
    rw [infix_lowerFrom_cons_iff h, ih, prefix_lowerFrom_iff h, List.map_cons,
      ← List.infix_cons_iff]

/-- **Words in any letter case.** A plain word is in the lower case of a text exactly if the text
mentions it. -/
theorem contains_lower_iff {word : String} (h : Plain word.toList) (text : String) :
    contains (lower text) word = true ↔ Mentions text word := by
  rw [contains, occursIn_iff, lower, String.toList_ofList, infix_lowerFrom_iff h, Mentions]

end Orchestration.Text
