import Orchestration.Proofs.Decimal.Digits
import Orchestration.Proofs.Text.Blank
import Orchestration.Value.Json
import Orchestration.Value.JsonReader

/-!
# What is written as JSON is read back

Texts, integers, truth values, nothing, and the lists and mappings that are made of them are written
as JSON in printable characters of ASCII, unless one of the integers has more digits than are
written. A reader of JSON takes what is written for just the value that it was written for, however
its texts look: quotes, backslashes, control characters and characters beyond the basic plane come
back from their escapes.

- `Json.Plain.read?_of_write`: the value is read back;
- `Json.Plain.printable_of_write`: only printable characters of ASCII are written.
-/

namespace Orchestration.Json

/-! ## Characters -/

/-- The ways to write a character inside a string. -/
inductive Escape (c : Char) : List Char → Prop
  | plain (notQuote : c ≠ '"') (notBackslash : c ≠ '\\') (lower : ' ' ≤ c) (upper : c ≤ '~') :
    Escape c [c]
  | short {letter : Char} (stands : shortEscapes.lookup letter = some c) : Escape c ['\\', letter]
  | unit (basic : c.toNat < 0x10000) : Escape c (unitEscape c.toNat)
  | pair (beyond : 0x10000 ≤ c.toNat) :
    Escape c (unitEscape (0xD800 + (c.toNat - 0x10000) / 0x400) ++
      unitEscape (0xDC00 + (c.toNat - 0x10000) % 0x400))

/-- The writer picks one of the ways to write a character. -/
theorem escape_escapeChar (c : Char) : Escape c (escapeChar c) := by
  unfold escapeChar
  -- That the character is no quote and no backslash is needed where it is written as it is.
  by_cases hquote : c = '"'
  · subst hquote
    exact .short rfl
  by_cases hbackslash : c = '\\'
  · subst hbackslash
    exact .short rfl
  rw [if_neg hquote, if_neg hbackslash]
  split_ifs with hfeed hreturn htab hback hform hplain hbasic
  · exact .short (by rw [hfeed]; rfl)
  · exact .short (by rw [hreturn]; rfl)
  · exact .short (by rw [htab]; rfl)
  · obtain rfl : c = '\x08' := Char.toNat_inj.mp hback
    exact .short rfl
  · obtain rfl : c = '\x0c' := Char.toNat_inj.mp hform
    exact .short rfl
  · exact .plain hquote hbackslash hplain.1 hplain.2
  · exact .unit hbasic
  · exact .pair (Nat.le_of_not_lt hbasic)

/-- Code points are below the surrogates, or above them and in the range. -/
theorem toNat_cases (c : Char) : c.toNat < 0xD800 ∨ 0xDFFF < c.toNat ∧ c.toNat < 0x110000 :=
  c.valid

/-! ## Strings -/

/-- The units of a character: its code point, or a pair of surrogates beyond the basic plane. -/
def unitsOf (c : Char) : List Nat :=
  if c.toNat < 0x10000 then [c.toNat]
  else [0xD800 + (c.toNat - 0x10000) / 0x400, 0xDC00 + (c.toNat - 0x10000) % 0x400]

example : unitsOf '😀' = [0xD83D, 0xDE00] := by decide

theorem unitsOf_of_basic {c : Char} (h : c.toNat < 0x10000) : unitsOf c = [c.toNat] :=
  if_pos h

/-- What is read when there are units in front of what was read. -/
def withUnits (units : List Nat) (read : Option (List Nat × List Char)) :
    Option (List Nat × List Char) :=
  read.map fun (others, rest) => (units ++ others, rest)

/-- A hexadecimal digit is read back. -/
theorem hexValue?_hexDigit {n : Nat} (h : n < 16) : hexValue? (Text.hexDigit n) = some n := by
  have hall : ∀ n : Fin 16, hexValue? (Text.hexDigit n) = some n.val := by decide
  exact hall ⟨n, h⟩

/-- An escape with four hexadecimal digits is read as its unit. -/
theorem readUnits_unitEscape {unit : Nat} (h : unit < 0x10000) (rest : List Char) :
    readUnits (unitEscape unit ++ rest) = withUnits [unit] (readUnits rest) := by
  have hdigits : Text.hexPadded 4 unit =
      [Text.hexDigit (unit / 16 / 16 / 16 % 16), Text.hexDigit (unit / 16 / 16 % 16),
        Text.hexDigit (unit / 16 % 16), Text.hexDigit (unit % 16)] := rfl
  have hunit : hexUnit? (Text.hexDigit (unit / 16 / 16 / 16 % 16))
      (Text.hexDigit (unit / 16 / 16 % 16)) (Text.hexDigit (unit / 16 % 16))
      (Text.hexDigit (unit % 16)) = some unit := by
    have hlt (n : Nat) : n % 16 < 16 := Nat.mod_lt n (by decide)
    simp only [hexUnit?, hexValue?_hexDigit (hlt _)]
    show some _ = some unit
    congr 1
    omega
  rw [unitEscape, hdigits]
  show readUnits ('\\' :: 'u' :: _ :: _ :: _ :: _ :: rest) = _
  rw [readUnits, hunit]
  cases readUnits rest <;> rfl

/-- A short escape is read as the character that it stands for. -/
theorem readUnits_short {letter image : Char} (h : shortEscapes.lookup letter = some image)
    (rest : List Char) :
    readUnits ('\\' :: letter :: rest) = withUnits [image.toNat] (readUnits rest) := by
  have hletter : letter ≠ 'u' := by
    rintro rfl
    cases h
  rw [readUnits, h]
  · cases readUnits rest <;> rfl
  · intro a b c d others hu
    exact absurd hu hletter

/-- A character that is written as it is is read as itself. -/
theorem readUnits_plain {c : Char} (hquote : c ≠ '"') (hbackslash : c ≠ '\\') (hlower : ' ' ≤ c)
    (rest : List Char) : readUnits (c :: rest) = withUnits [c.toNat] (readUnits rest) := by
  have hcontrol : ¬ c < ' ' := Char.not_lt.mpr hlower
  rw [readUnits, if_neg hcontrol]
  · cases readUnits rest <;> rfl
  all_goals simp [hquote, hbackslash]

/-- However a character is written, its units are read. -/
theorem Escape.readUnits_append {c : Char} {written : List Char} (h : Escape c written)
    (rest : List Char) : readUnits (written ++ rest) = withUnits (unitsOf c) (readUnits rest) := by
  cases h with
  | plain hquote hbackslash hlower hupper =>
    have hbasic : c.toNat < 0x10000 := Nat.lt_of_le_of_lt hupper (by decide)
    rw [unitsOf_of_basic hbasic]
    exact readUnits_plain hquote hbackslash hlower rest
  | @short letter hstands =>
    have hbasic : ∀ entry ∈ shortEscapes, entry.2.toNat < 0x10000 := by decide
    obtain ⟨before, after, hescapes, -⟩ := List.lookup_eq_some_iff.mp hstands
    have hmem : (letter, c) ∈ shortEscapes := hescapes ▸ List.mem_append_cons_self
    rw [unitsOf_of_basic (hbasic _ hmem)]
    exact readUnits_short hstands rest
  | unit hbasic =>
    rw [unitsOf_of_basic hbasic]
    exact readUnits_unitEscape hbasic rest
  | pair hbeyond =>
    have hcases := toNat_cases c
    rw [List.append_assoc, readUnits_unitEscape (by omega), readUnits_unitEscape (by omega),
      unitsOf, if_neg (Nat.not_lt.mpr hbeyond)]
    cases readUnits rest <;> rfl

/-- The units of a string are read up to its closing quote. -/
theorem readUnits_flatMap_escapeChar (text rest : List Char) :
    readUnits (text.flatMap escapeChar ++ '"' :: rest) = some (text.flatMap unitsOf, rest) := by
  induction text with
  | nil => rfl
  | cons c others ih =>
    rw [List.flatMap_cons, List.append_assoc, (escape_escapeChar c).readUnits_append, ih]
    rfl

/-- A code point of a character is no surrogate, so it stands for the character. -/
theorem charsOf?_toNat_cons (c : Char) (units : List Nat) :
    charsOf? (c.toNat :: units) = (charsOf? units).map (c :: ·) := by
  have hcases := toNat_cases c
  have hhigh : isHighSurrogate c.toNat = false := by
    simp only [isHighSurrogate, Bool.and_eq_false_iff, decide_eq_false_iff_not]
    omega
  have hlow : isLowSurrogate c.toNat = false := by
    simp only [isLowSurrogate, Bool.and_eq_false_iff, decide_eq_false_iff_not]
    omega
  have hchar : charOf? c.toNat = some c := by
    rw [charOf?, hhigh, hlow, Char.ofNat_toNat]
    rfl
  cases units with
  | nil =>
    show (charOf? c.toNat).map ([·]) = some [c]
    rw [hchar]
    rfl
  | cons next others =>
    rw [charsOf?, hhigh, hchar]
    rfl

/-- A pair of surrogates stands for the character beyond the basic plane that it was made for. -/
theorem charsOf?_pair_cons {c : Char} (hbeyond : 0x10000 ≤ c.toNat) (units : List Nat) :
    charsOf? ((0xD800 + (c.toNat - 0x10000) / 0x400) ::
      (0xDC00 + (c.toNat - 0x10000) % 0x400) :: units) = (charsOf? units).map (c :: ·) := by
  have hcases := toNat_cases c
  have hhigh : isHighSurrogate (0xD800 + (c.toNat - 0x10000) / 0x400) = true := by
    simp only [isHighSurrogate, Bool.and_eq_true, decide_eq_true_eq]
    omega
  have hlow : isLowSurrogate (0xDC00 + (c.toNat - 0x10000) % 0x400) = true := by
    simp only [isLowSurrogate, Bool.and_eq_true, decide_eq_true_eq]
    omega
  have hpair : charOfPair (0xD800 + (c.toNat - 0x10000) / 0x400)
      (0xDC00 + (c.toNat - 0x10000) % 0x400) = c := by
    have hcode : 0x10000 + (0xD800 + (c.toNat - 0x10000) / 0x400 - 0xD800) * 0x400 +
        (0xDC00 + (c.toNat - 0x10000) % 0x400 - 0xDC00) = c.toNat := by omega
    rw [charOfPair, hcode, Char.ofNat_toNat]
  rw [charsOf?, hhigh, hlow, hpair]
  rfl

/-- The units of a character stand for it, whatever is behind them. -/
theorem charsOf?_unitsOf_append (c : Char) (units : List Nat) :
    charsOf? (unitsOf c ++ units) = (charsOf? units).map (c :: ·) := by
  unfold unitsOf
  split
  next hbasic => exact charsOf?_toNat_cons c units
  next hbeyond => exact charsOf?_pair_cons (Nat.not_lt.mp hbeyond) units

/-- The units of a text stand for the text. -/
theorem charsOf?_flatMap_unitsOf (text : List Char) :
    charsOf? (text.flatMap unitsOf) = some text := by
  induction text with
  | nil => rfl
  | cons c others ih =>
    rw [List.flatMap_cons, charsOf?_unitsOf_append, ih]
    rfl

/-- A string is read back as the text that it was written for. -/
theorem readString_written (text : String) (rest : List Char) :
    readString (text.toList.flatMap escapeChar ++ '"' :: rest) = some (text, rest) := by
  rw [readString, readUnits_flatMap_escapeChar]
  show (do let chars ← charsOf? (text.toList.flatMap unitsOf); some (String.ofList chars, rest)) = _
  rw [charsOf?_flatMap_unitsOf]
  show some (String.ofList text.toList, rest) = _
  rw [String.ofList_toList]

/-- A text is written between quotes, each of its characters on its own. -/
theorem toList_string (text : String) :
    (string text).toList = '"' :: (text.toList.flatMap escapeChar ++ ['"']) := by
  rw [string, String.toList_ofList, stringChars]

/-! ## Integers -/

/-- No number goes on with the text. -/
def EndsNumber (text : List Char) : Prop :=
  ∀ c ∈ text.head?, c.isDigit = false ∧ c ≠ '.' ∧ c ≠ 'e' ∧ c ≠ 'E'

/-- There is no fraction where the number ends. -/
theorem readFraction_of_endsNumber {text : List Char} (h : EndsNumber text) :
    readFraction text = some (none, text) := by
  cases text with
  | nil => rfl
  | cons c rest =>
    have hpoint : c ≠ '.' := (h c rfl).2.1
    rw [readFraction]
    simpa using hpoint

/-- There is no exponent where the number ends. -/
theorem readExponent_of_endsNumber {text : List Char} (h : EndsNumber text) :
    readExponent text = some (none, text) := by
  cases text with
  | nil => rfl
  | cons c rest =>
    have hmark : ¬ (c = 'e' ∨ c = 'E') := not_or.mpr (h c rfl).2.2
    rw [readExponent, if_neg hmark]

/-- The digits of a natural number are read back, with the sign that stood in front of them. -/
theorem readMagnitude_naturalDigits (negative : Bool) (n : Nat) {rest : List Char}
    (h : EndsNumber rest) :
    readMagnitude negative (Decimal.naturalDigits n ++ rest) =
      some (.int (if negative then -(n : Int) else n), rest) := by
  have hdigit : ∀ c ∈ Decimal.naturalDigits n, c.isDigit = true :=
    fun c => Decimal.isDigit_of_mem_naturalDigits
  have hend : ∀ c ∈ rest.head?, c.isDigit = false := fun c hc => (h c hc).1
  -- The digits are those of a JSON number: there is no zero in front of them.
  have hzero : Decimal.naturalDigits n = ['0'] ∨
      Decimal.naturalDigits n ≠ [] ∧ (Decimal.naturalDigits n).head? ≠ some '0' := by
    rcases Nat.eq_zero_or_pos n with rfl | hpos
    · exact .inl rfl
    · exact .inr ⟨Nat.toDigits_ne_nil, Decimal.head?_naturalDigits hpos⟩
  have hvalue : Nat.ofDigitChars 10 (Decimal.naturalDigits n) 0 = n := Nat.ofDigitChars_ten_toDigits
  rw [readMagnitude, Text.takeWhile_append_of_head? hdigit hend,
    Text.dropWhile_append_of_head? hdigit hend, readFraction_of_endsNumber h]
  show ((if _ then some () else none).bind fun _ => (readExponent rest).bind _) = _
  rw [if_pos hzero, readExponent_of_endsNumber h]
  show some (Value.int (if negative then -(Nat.ofDigitChars 10 _ 0 : Int) else _), rest) = _
  rw [Option.getD_none, List.append_nil, hvalue]

/-- An integer is read back, whatever stands behind it, unless the number goes on there. -/
theorem readNumber_integerText (n : Int) {rest : List Char} (h : EndsNumber rest) :
    readNumber ((Decimal.integerText n).toList ++ rest) = some (.int n, rest) := by
  unfold Decimal.integerText
  split
  next hneg =>
    rw [String.toList_ofList, List.cons_append, readNumber, readMagnitude_naturalDigits true _ h,
      if_pos rfl, Int.ofNat_natAbs_of_nonpos (Int.le_of_lt hneg), Int.neg_neg]
  next hnonneg =>
    -- A digit is no sign.
    have hsign : ∀ text, Decimal.naturalDigits n.natAbs ++ rest ≠ '-' :: text := by
      intro text heq
      obtain ⟨first, others, hdigits, hfirst⟩ := Decimal.exists_cons_naturalDigits n.natAbs
      rw [hdigits, List.cons_append] at heq
      rw [(List.cons.inj heq).1] at hfirst
      cases hfirst
    rw [String.toList_ofList, readNumber, readMagnitude_naturalDigits false _ h,
      if_neg Bool.false_ne_true, Int.natAbs_of_nonneg (Int.not_lt.mp hnonneg)]
    exact hsign

/-! ## Values -/

/-- The value is made of texts, integers, truth values, nothing, lists and mappings with different
texts for keys. -/
inductive Plain : Value → Prop
  | null : Plain .null
  | bool (b : Bool) : Plain (.bool b)
  | int (n : Int) : Plain (.int n)
  | text (s : String) : Plain (.text s)
  | list {items : List Value} (items_plain : ∀ item ∈ items, Plain item) : Plain (.list items)
  | record {fields : Fields} (distinct : fields.keys.Nodup)
    (values_plain : ∀ field ∈ fields, Plain field.2) : Plain (.record fields)

/-- Texts with commas between them. -/
def separated (parts : List (List Char)) : List Char :=
  [',', ' '].intercalate parts

theorem separated_singleton (part : List Char) : separated [part] = part := by
  simp [separated, List.intercalate]

/-- A comma and a blank stand between two texts. -/
theorem separated_cons_cons (first second : List Char) (others : List (List Char)) :
    separated (first :: second :: others) =
      first ++ ',' :: ' ' :: separated (second :: others) := by
  simp [separated, List.intercalate]

/-- The characters of a value as JSON; there are none if it cannot be written. -/
def chars (v : Value) : List Char :=
  match write v with
  | .ok text => text.toList
  | .error _ => []

theorem chars_of_write {v : Value} {text : String} (h : write v = .ok text) :
    chars v = text.toList := by
  rw [chars, h]

/-- An integer that can be written is written as in any other text. -/
theorem chars_int {n : Int} (h : isOverlong n = false) :
    chars (.int n) = (Decimal.integerText n).toList := by
  refine chars_of_write ?_
  rw [write, integerShown, writable, h]
  rfl

/-- A text is written between quotes, so it can always be. -/
theorem chars_text (s : String) : chars (.text s) = '"' :: (s.toList.flatMap escapeChar ++ ['"']) :=
  toList_string s

/-- The items of a list with commas between them. -/
def itemsText (items : List Value) : List Char :=
  separated (items.map chars)

/-- An entry of a mapping. -/
def fieldText (field : String × Value) : List Char :=
  '"' :: (field.1.toList.flatMap escapeChar ++ '"' :: ':' :: ' ' :: chars field.2)

/-- The entries of a mapping with commas between them. -/
def fieldsText (fields : Fields) : List Char :=
  separated (fields.map fieldText)

/-- The entries of a table as a mapping has them. -/
def entriesOf (fields : Fields) : List (Key × Value) :=
  fields.map fun (name, value) => (.text name, value)

/-- A mapping can be written if the values of all its fields can; their names are texts. -/
theorem overlong_record_iff {fields : Fields} :
    (Value.record fields).overlong = false ↔ ∀ field ∈ fields, field.2.overlong = false := by
  refine Value.overlongEntries_eq_false_iff.trans ?_
  rw [List.forall_mem_map]
  exact forall₂_congr fun field _ => and_iff_right rfl

/-- If each of the items can be written, then all of them are, in their order. -/
theorem exists_writeItems {items : List Value} (h : ∀ item ∈ items, item.overlong = false) :
    ∃ texts, writeItems items = .ok texts ∧ texts.map String.toList = items.map chars := by
  induction items with
  | nil => exact ⟨[], rfl, rfl⟩
  | cons item rest ih =>
    obtain ⟨hitem, hrest⟩ := List.forall_mem_cons.mp h
    obtain ⟨text, htext⟩ := (writtenUnless_write item).exists_eq_ok hitem
    obtain ⟨texts, htexts, hmap⟩ := ih hrest
    refine ⟨text :: texts, by rw [writeItems, htext, htexts]; rfl, ?_⟩
    rw [List.map_cons, List.map_cons, hmap, chars_of_write htext]

/-- If the value of each field can be written, then all the fields are, in their order. -/
theorem exists_writeEntries {fields : Fields} (h : ∀ field ∈ fields, field.2.overlong = false) :
    ∃ texts, writeEntries (entriesOf fields) = .ok texts ∧
      texts.map String.toList = fields.map fieldText := by
  induction fields with
  | nil => exact ⟨[], rfl, rfl⟩
  | cons field rest ih =>
    obtain ⟨hfield, hrest⟩ := List.forall_mem_cons.mp h
    obtain ⟨text, htext⟩ := (writtenUnless_write field.2).exists_eq_ok hfield
    obtain ⟨texts, htexts, hmap⟩ := ih hrest
    have hentries : writeEntries (entriesOf (field :: rest)) =
        .ok ((string field.1 ++ ": " ++ text) :: texts) := by
      show writeEntries ((.text field.1, field.2) :: entriesOf rest) = _
      rw [writeEntries, htext, htexts]
      rfl
    refine ⟨_, hentries, ?_⟩
    rw [List.map_cons, List.map_cons, hmap, fieldText, chars_of_write htext, String.toList_append,
      String.toList_append, toList_string]
    simp

/-- A list is written as its items between brackets. -/
theorem chars_list {items : List Value} (h : ∀ item ∈ items, item.overlong = false) :
    chars (.list items) = '[' :: (itemsText items ++ [']']) := by
  obtain ⟨texts, htexts, hmap⟩ := exists_writeItems h
  have hwrite : write (.list items) = .ok ("[" ++ commaSeparated texts ++ "]") := by
    rw [write, htexts]
    rfl
  rw [chars_of_write hwrite, commaSeparated, String.toList_append, String.toList_append,
    String.toList_intercalate, hmap]
  rfl

/-- A mapping is written as its fields between braces. -/
theorem chars_record {fields : Fields} (h : ∀ field ∈ fields, field.2.overlong = false) :
    chars (.record fields) = '\x7b' :: (fieldsText fields ++ ['\x7d']) := by
  obtain ⟨texts, htexts, hmap⟩ := exists_writeEntries h
  have hwrite : write (.record fields) =
      .ok ("\x7b" ++ commaSeparated texts ++ "\x7d") := by
    show write (.map (entriesOf fields)) = _
    rw [write, htexts]
    rfl
  rw [chars_of_write hwrite, commaSeparated, String.toList_append, String.toList_append,
    String.toList_intercalate, hmap]
  rfl

/-! ### How a value starts -/

/-- No blank, and nothing that closes a list. -/
def Opens (c : Char) : Prop :=
  isBlank c = false ∧ c ≠ ']'

instance (c : Char) : Decidable (Opens c) :=
  inferInstanceAs (Decidable (isBlank c = false ∧ c ≠ ']'))

/-- A number starts with the character. -/
def StartsNumber (c : Char) : Prop :=
  c = '-' ∨ c.isDigit = true

namespace StartsNumber

variable {c : Char}

/-- A number starts with nothing but the minus sign or a digit. -/
theorem ne (h : StartsNumber c) {other : Char} (hother : other ≠ '-' ∧ other.isDigit = false) :
    c ≠ other := by
  rintro rfl
  rcases h with hsign | hdigit
  · exact hother.1 hsign
  · cases hother.2.symm.trans hdigit

/-- A number does not start like anything else. -/
theorem opens (h : StartsNumber c) : Opens c := by
  refine ⟨?_, h.ne (by decide)⟩
  simp only [isBlank, Bool.or_eq_false_iff, decide_eq_false_iff_not]
  exact ⟨⟨⟨h.ne (by decide), h.ne (by decide)⟩, h.ne (by decide)⟩, h.ne (by decide)⟩

/-- What starts a number is no word and no string. -/
theorem readScalar_eq (h : StartsNumber c) (rest : List Char) :
    readScalar (c :: rest) = readNumber (c :: rest) := by
  unfold readScalar
  split
  next heq => exact absurd (List.cons.inj heq).1 (h.ne (by decide))
  next heq => exact absurd (List.cons.inj heq).1 (h.ne (by decide))
  next heq => exact absurd (List.cons.inj heq).1 (h.ne (by decide))
  next heq => exact absurd (List.cons.inj heq).1 (h.ne (by decide))
  next => rfl

end StartsNumber

/-- An integer starts with a digit or with the minus sign. -/
theorem exists_startsNumber_integerText (n : Int) :
    ∃ c rest, (Decimal.integerText n).toList = c :: rest ∧ StartsNumber c := by
  unfold Decimal.integerText
  split
  next hneg => exact ⟨'-', _, String.toList_ofList, .inl rfl⟩
  next hnonneg =>
    obtain ⟨first, others, hdigits, hfirst⟩ := Decimal.exists_cons_naturalDigits n.natAbs
    exact ⟨first, others, by rw [String.toList_ofList, hdigits], .inr hfirst⟩

/-- What is written for a value starts with a character from which the reader sees that there is
one. -/
theorem Plain.opens {v : Value} (h : Plain v) (hshort : v.overlong = false) :
    ∃ c rest, chars v = c :: rest ∧ Opens c := by
  cases h with
  | null => exact ⟨'n', _, rfl, by decide⟩
  | bool b =>
    cases b with
    | false => exact ⟨'f', _, rfl, by decide⟩
    | true => exact ⟨'t', _, rfl, by decide⟩
  | int n =>
    obtain ⟨c, rest, htext, hstart⟩ := exists_startsNumber_integerText n
    exact ⟨c, rest, (chars_int hshort).trans htext, hstart.opens⟩
  | text s => exact ⟨'"', _, chars_text s, by decide⟩
  | list items_plain =>
    exact ⟨'[', _, chars_list (Value.overlongItems_eq_false_iff.mp hshort), by decide⟩
  | record distinct values_plain =>
    exact ⟨'\x7b', _, chars_record (overlong_record_iff.mp hshort), by decide⟩

/-! ### Reading -/

/-- The value is read back from what is written for it, whatever follows that is not read as part of
a number. -/
def ReadBack (v : Value) : Prop :=
  ∀ fuel rest, EndsNumber rest → (chars v).length ≤ fuel →
    readValue fuel (chars v ++ rest) = some (v, rest)

/-- There is fuel left for the parts of what a text that is not empty stands for. -/
theorem exists_fuel_of_length_le {text : List Char} {fuel : Nat} (hne : text ≠ [])
    (h : text.length ≤ fuel) : ∃ depth, fuel = depth + 1 :=
  Nat.exists_eq_add_one.mpr (Nat.lt_of_lt_of_le (List.length_pos_of_ne_nil hne) h)

/-- A blank in front of a value is skipped. -/
theorem readValue_blank (fuel : Nat) (text : List Char) :
    readValue fuel (' ' :: text) = readValue fuel text := by
  cases fuel <;> rfl

/-- A blank in front of the items of a list is skipped. -/
theorem readItems_blank (fuel : Nat) (text : List Char) :
    readItems fuel (' ' :: text) = readItems fuel text := by
  cases fuel with
  | zero => rfl
  | succ fuel => rw [readItems, readItems, readValue_blank]

/-- A blank in front of the entries of a mapping is skipped. -/
theorem readEntries_blank (fuel : Nat) (text : List Char) :
    readEntries fuel (' ' :: text) = readEntries fuel text := by
  cases fuel <;> rfl

/-- What starts with neither a bracket nor a brace is read as a single value. -/
theorem readValue_scalar {fuel : Nat} {c : Char} {rest : List Char} (hblank : isBlank c = false)
    (hlist : c ≠ '[') (hmap : c ≠ '\x7b') :
    readValue (fuel + 1) (c :: rest) = readScalar (c :: rest) := by
  rw [readValue, List.dropWhile_cons_of_neg (by simp [hblank])]
  split
  next heq => exact absurd (List.cons.inj heq).1 hlist
  next heq => exact absurd (List.cons.inj heq).1 hmap
  next => rfl

theorem readBack_null : ReadBack .null := by
  intro fuel rest _ hfuel
  obtain ⟨depth, rfl⟩ := exists_fuel_of_length_le (by decide) hfuel
  rfl

theorem readBack_bool (b : Bool) : ReadBack (.bool b) := by
  intro fuel rest _ hfuel
  obtain ⟨depth, rfl⟩ := exists_fuel_of_length_le (by cases b <;> decide) hfuel
  cases b <;> rfl

/-- An integer that can be written is read back. -/
theorem readBack_int {n : Int} (hshort : isOverlong n = false) : ReadBack (.int n) := by
  intro fuel rest hend hfuel
  obtain ⟨c, others, htext, hstart⟩ := exists_startsNumber_integerText n
  have hwrite : chars (.int n) = c :: others := (chars_int hshort).trans htext
  obtain ⟨depth, rfl⟩ := exists_fuel_of_length_le (by simp [hwrite]) hfuel
  rw [hwrite, List.cons_append, readValue_scalar hstart.opens.1 (hstart.ne (by decide))
    (hstart.ne (by decide)), hstart.readScalar_eq, ← List.cons_append, ← htext]
  exact readNumber_integerText n hend

/-- A text is read back, whatever its characters are. -/
theorem readBack_text (s : String) : ReadBack (.text s) := by
  intro fuel rest _ hfuel
  obtain ⟨depth, rfl⟩ := exists_fuel_of_length_le (by simp [chars_text]) hfuel
  rw [chars_text, List.cons_append, List.append_assoc, List.singleton_append,
    readValue_scalar (by decide) (by decide) (by decide)]
  show (readString _).map _ = _
  rw [readString_written]
  rfl

/-! ### Lists -/

/-- The number ends in front of a character that is no part of it. -/
theorem endsNumber_cons {c : Char} (h : c.isDigit = false ∧ c ≠ '.' ∧ c ≠ 'e' ∧ c ≠ 'E')
    (rest : List Char) : EndsNumber (c :: rest) := by
  rintro d ⟨⟩
  exact h

theorem itemsText_singleton (item : Value) : itemsText [item] = chars item :=
  separated_singleton _

theorem itemsText_cons_cons (first second : Value) (others : List Value) :
    itemsText (first :: second :: others) =
      chars first ++ ',' :: ' ' :: itemsText (second :: others) :=
  separated_cons_cons ..

/-- The items of a list are read back up to its closing bracket. -/
theorem readItems_itemsText {items : List Value} (hne : items ≠ [])
    (hitems : ∀ item ∈ items, ReadBack item) (fuel : Nat) (rest : List Char)
    (hfuel : (itemsText items).length < fuel) :
    readItems fuel (itemsText items ++ ']' :: rest) = some (items, rest) := by
  induction items generalizing fuel with
  | nil => exact absurd rfl hne
  | cons item others ih =>
    obtain ⟨depth, rfl⟩ : ∃ depth, fuel = depth + 1 :=
      Nat.exists_eq_add_one.mpr (Nat.zero_lt_of_lt hfuel)
    have hitem : ReadBack item := hitems item List.mem_cons_self
    cases others with
    | nil =>
      rw [itemsText_singleton] at hfuel ⊢
      rw [readItems, hitem depth _ (endsNumber_cons (by decide) rest) (Nat.lt_succ_iff.mp hfuel)]
      rfl
    | cons second others =>
      rw [itemsText_cons_cons] at hfuel ⊢
      simp only [List.length_append, List.length_cons] at hfuel
      rw [List.append_assoc, List.cons_append, List.cons_append, readItems,
        hitem depth _ (endsNumber_cons (by decide) _) (by omega)]
      have hothers : ∀ other ∈ second :: others, ReadBack other :=
        fun other hother => hitems other (List.mem_cons_of_mem _ hother)
      have hrest := ih (List.cons_ne_nil _ _) hothers depth (by omega)
      -- The comma is read, and the blank behind it is skipped.
      show (readItems depth (' ' :: (itemsText (second :: others) ++ ']' :: rest))).bind _ = _
      rw [readItems_blank, hrest]
      rfl

/-- The items of a list do not start with its closing bracket. -/
theorem itemsText_opens {items : List Value} (hne : items ≠ []) (h : ∀ item ∈ items, Plain item)
    (hshort : ∀ item ∈ items, item.overlong = false) :
    ∃ c text, itemsText items = c :: text ∧ Opens c := by
  obtain ⟨item, others, rfl⟩ := List.exists_cons_of_ne_nil hne
  obtain ⟨c, text, hwrite, hopens⟩ :=
    (h item List.mem_cons_self).opens (hshort item List.mem_cons_self)
  cases others with
  | nil => exact ⟨c, text, by rw [itemsText_singleton, hwrite], hopens⟩
  | cons second others =>
    exact ⟨c, _, by rw [itemsText_cons_cons, hwrite, List.cons_append], hopens⟩

/-- Behind a bracket that is not closed at once the items of a list are read. -/
theorem readValue_openList {depth : Nat} {text : List Char} {c : Char} {rest : List Char}
    (htext : text.dropWhile isBlank = c :: rest) (hc : c ≠ ']') :
    readValue (depth + 1) ('[' :: text) =
      (readItems depth text).map fun (items, rest) => (.list items, rest) := by
  rw [readValue, List.dropWhile_cons_of_neg (by decide)]
  split
  next heq =>
    obtain rfl := (List.cons.inj heq).2
    split
    next hclosed => exact absurd (List.cons.inj (htext.symm.trans hclosed)).1 hc
    next => rfl
  next heq => cases (List.cons.inj heq).1
  next hother _ => exact absurd rfl (hother _)

/-- A list is read back if its items are. -/
theorem readBack_list {items : List Value} (hplain : ∀ item ∈ items, Plain item)
    (hshort : ∀ item ∈ items, item.overlong = false) (hitems : ∀ item ∈ items, ReadBack item) :
    ReadBack (.list items) := by
  intro fuel rest _ hfuel
  rw [chars_list hshort] at hfuel ⊢
  obtain ⟨depth, rfl⟩ := exists_fuel_of_length_le (List.cons_ne_nil _ _) hfuel
  rw [List.cons_append, List.append_assoc, List.singleton_append]
  rcases Decidable.em (items = []) with rfl | hne
  · rfl
  · simp only [List.length_append, List.length_cons, List.length_nil] at hfuel
    obtain ⟨c, text, htext, hblank, hbracket⟩ := itemsText_opens hne hplain hshort
    have hread := readItems_itemsText hne hitems depth rest (by omega)
    have hstart : (itemsText items ++ ']' :: rest).dropWhile isBlank =
        c :: (text ++ ']' :: rest) := by
      rw [htext, List.cons_append, List.dropWhile_cons_of_neg (by simp [hblank])]
    rw [readValue_openList hstart hbracket, hread]
    rfl

/-! ### Mappings -/

/-- To enter a text as a key is to insert the name into the table. -/
theorem insertEntry_entriesOf (fields : Fields) (name : String) (value : Value) :
    Value.insertEntry (entriesOf fields) (.text name) value =
      entriesOf (fields.insert name value) := by
  induction fields with
  | nil => rfl
  | cons field rest ih =>
    have hsame : (Key.text field.1).same (.text name) = decide (field.1 = name) := rfl
    show (if (Key.text field.1).same (.text name) then _ else _ :: Value.insertEntry _ _ _) = _
    rw [hsame, Table.insert]
    simp only [decide_eq_true_eq]
    split
    next => rfl
    next => exact congrArg _ ih

/-- To enter the fields of a table one after the other is to merge it. -/
theorem foldl_insertEntry_entriesOf (fields before : Fields) :
    (entriesOf fields).foldl (fun map (key, value) => Value.insertEntry map key value)
      (entriesOf before) = entriesOf (before.merge fields) := by
  induction fields generalizing before with
  | nil => rfl
  | cons field rest ih =>
    show (entriesOf rest).foldl _ (Value.insertEntry (entriesOf before) (.text field.1) field.2) = _
    rw [insertEntry_entriesOf, ih]
    rfl

/-- Entries under different names are a mapping as they stand. -/
theorem ofEntries_entriesOf {fields : Fields} (h : fields.keys.Nodup) :
    Value.ofEntries (entriesOf fields) = .record fields := by
  have hmerge : Table.merge [] fields = fields :=
    Table.merge_of_find?_eq_none h fun _ _ => rfl
  show Value.map ((entriesOf fields).foldl _ (entriesOf [])) = _
  rw [foldl_insertEntry_entriesOf, hmerge]
  rfl

/-- The name of a field is read up to the blank in front of its value. -/
theorem readName_fieldText (field : String × Value) (rest : List Char) :
    readName (fieldText field ++ rest) =
      some (.text field.1, ' ' :: (chars field.2 ++ rest)) := by
  have htext : fieldText field ++ rest =
      '"' :: (field.1.toList.flatMap escapeChar ++
        '"' :: ':' :: ' ' :: (chars field.2 ++ rest)) := by
    simp [fieldText]
  rw [htext, readName, List.dropWhile_cons_of_neg (by decide)]
  show (readString _).bind _ = _
  rw [readString_written]
  rfl

theorem fieldsText_singleton (field : String × Value) : fieldsText [field] = fieldText field :=
  separated_singleton _

theorem fieldsText_cons_cons (first second : String × Value) (others : Fields) :
    fieldsText (first :: second :: others) =
      fieldText first ++ ',' :: ' ' :: fieldsText (second :: others) :=
  separated_cons_cons ..

/-- The fuel that is left behind the name of a field is enough for its value. -/
theorem length_chars_lt_length_fieldText (field : String × Value) :
    (chars field.2).length < (fieldText field).length := by
  simp only [fieldText, List.length_cons, List.length_append]
  omega

/-- The entries of a mapping are read back up to its closing brace. -/
theorem readEntries_fieldsText {fields : Fields} (hne : fields ≠ [])
    (hvalues : ∀ field ∈ fields, ReadBack field.2) (fuel : Nat) (rest : List Char)
    (hfuel : (fieldsText fields).length < fuel) :
    readEntries fuel (fieldsText fields ++ '\x7d' :: rest) = some (entriesOf fields, rest) := by
  induction fields generalizing fuel with
  | nil => exact absurd rfl hne
  | cons field others ih =>
    obtain ⟨depth, rfl⟩ : ∃ depth, fuel = depth + 1 :=
      Nat.exists_eq_add_one.mpr (Nat.zero_lt_of_lt hfuel)
    have hvalue : ReadBack field.2 := hvalues field List.mem_cons_self
    have hlength := length_chars_lt_length_fieldText field
    cases others with
    | nil =>
      rw [fieldsText_singleton] at hfuel ⊢
      rw [readEntries, readName_fieldText]
      show (readValue depth (' ' :: _)).bind _ = _
      rw [readValue_blank, hvalue depth _ (endsNumber_cons (by decide) rest) (by omega)]
      rfl
    | cons second others =>
      rw [fieldsText_cons_cons] at hfuel ⊢
      simp only [List.length_append, List.length_cons] at hfuel
      have hothers : ∀ other ∈ second :: others, ReadBack other.2 :=
        fun other hother => hvalues other (List.mem_cons_of_mem _ hother)
      have hrest := ih (List.cons_ne_nil _ _) hothers depth (by omega)
      rw [List.append_assoc, List.cons_append, List.cons_append, readEntries, readName_fieldText]
      show (readValue depth (' ' :: _)).bind _ = _
      rw [readValue_blank, hvalue depth _ (endsNumber_cons (by decide) _) (by omega)]
      show (readEntries depth (' ' :: (fieldsText (second :: others) ++ '\x7d' :: rest))).bind _ = _
      rw [readEntries_blank, hrest]
      rfl

/-- The fields of a mapping do not start with its closing brace. -/
theorem fieldsText_opens {fields : Fields} (hne : fields ≠ []) :
    ∃ text, fieldsText fields = '"' :: text := by
  obtain ⟨field, others, rfl⟩ := List.exists_cons_of_ne_nil hne
  cases others with
  | nil => exact ⟨_, fieldsText_singleton field⟩
  | cons second others => exact ⟨_, fieldsText_cons_cons field second others⟩

/-- Behind a brace that is not closed at once the entries of a mapping are read. -/
theorem readValue_openMap {depth : Nat} {text : List Char} {c : Char} {rest : List Char}
    (htext : text.dropWhile isBlank = c :: rest) (hc : c ≠ '\x7d') :
    readValue (depth + 1) ('\x7b' :: text) =
      (readEntries depth text).map fun (entries, rest) => (Value.ofEntries entries, rest) := by
  rw [readValue, List.dropWhile_cons_of_neg (by decide)]
  split
  next heq => cases (List.cons.inj heq).1
  next heq =>
    obtain rfl := (List.cons.inj heq).2
    split
    next hclosed => exact absurd (List.cons.inj (htext.symm.trans hclosed)).1 hc
    next => rfl
  next hother => exact absurd rfl (hother _)

/-- A mapping under different names is read back if the values of its fields are. -/
theorem readBack_record {fields : Fields} (hdistinct : fields.keys.Nodup)
    (hshort : ∀ field ∈ fields, field.2.overlong = false)
    (hvalues : ∀ field ∈ fields, ReadBack field.2) : ReadBack (.record fields) := by
  intro fuel rest _ hfuel
  rw [chars_record hshort] at hfuel ⊢
  obtain ⟨depth, rfl⟩ := exists_fuel_of_length_le (List.cons_ne_nil _ _) hfuel
  rw [List.cons_append, List.append_assoc, List.singleton_append]
  rcases Decidable.em (fields = []) with rfl | hne
  · rfl
  · simp only [List.length_append, List.length_cons, List.length_nil] at hfuel
    obtain ⟨text, htext⟩ := fieldsText_opens hne
    have hread := readEntries_fieldsText hne hvalues depth rest (by omega)
    have hstart : (fieldsText fields ++ '\x7d' :: rest).dropWhile isBlank =
        '"' :: (text ++ '\x7d' :: rest) := by
      rw [htext, List.cons_append, List.dropWhile_cons_of_neg (by decide)]
    rw [readValue_openMap hstart (by decide), hread]
    show some (Value.ofEntries (entriesOf fields), rest) = _
    rw [ofEntries_entriesOf hdistinct]

/-! ### Every value -/

/-- Values of texts, integers, truth values, nothing, lists and mappings are read back. -/
theorem Plain.readBack {v : Value} (h : Plain v) (hshort : v.overlong = false) : ReadBack v := by
  induction h with
  | null => exact readBack_null
  | bool b => exact readBack_bool b
  | int n => exact readBack_int hshort
  | text s => exact readBack_text s
  | list items_plain ih =>
    have hitems := Value.overlongItems_eq_false_iff.mp hshort
    exact readBack_list items_plain hitems fun item hitem => ih item hitem (hitems item hitem)
  | record distinct _ ih =>
    have hvalues := overlong_record_iff.mp hshort
    exact readBack_record distinct hvalues fun field hfield =>
      ih field hfield (hvalues field hfield)

/-- **Round trip.** What is written for a value is read back as this value. -/
theorem Plain.read?_of_write {v : Value} {text : String} (h : Plain v)
    (hwrite : write v = .ok text) : read? text = some v := by
  have hshort := (writtenUnless_write v).eq_false_of_ok hwrite
  have hlength : (chars v).length ≤ text.length := by
    rw [chars_of_write hwrite]
    exact Nat.le_of_eq (String.length_toList ..)
  have hread := h.readBack hshort text.length [] nofun hlength
  rw [List.append_nil, chars_of_write hwrite] at hread
  rw [read?, hread]
  rfl

/-! ## What a written text is made of -/

/-- A character of ASCII that is shown: from the space to the tilde. -/
def Printable (c : Char) : Prop :=
  ' ' ≤ c ∧ c ≤ '~'

instance (c : Char) : Decidable (Printable c) :=
  inferInstanceAs (Decidable (' ' ≤ c ∧ c ≤ '~'))

/-- Whether a text is printable can be computed. -/
theorem printable_of_all {text : List Char} (h : text.all (decide <| Printable ·) = true) :
    ∀ c ∈ text, Printable c := by
  simpa only [List.all_eq_true, decide_eq_true_eq] using h

theorem printable_hexDigit {n : Nat} (h : n < 16) : Printable (Text.hexDigit n) := by
  have hall : ∀ n : Fin 16, Printable (Text.hexDigit n) := by decide
  exact hall ⟨n, h⟩

/-- Padded hexadecimal numbers are printable. -/
theorem printable_of_mem_hexPadded {width value : Nat} {c : Char}
    (h : c ∈ Text.hexPadded width value) : Printable c := by
  induction width generalizing value with
  | zero => cases h
  | succ width ih =>
    rcases List.mem_append.mp h with hbefore | hlast
    · exact ih hbefore
    · rw [List.mem_singleton.mp hlast]
      exact printable_hexDigit (Nat.mod_lt _ (by decide))

/-- Escapes with hexadecimal digits are printable. -/
theorem printable_of_mem_unitEscape {unit : Nat} {c : Char} (h : c ∈ unitEscape unit) :
    Printable c := by
  rcases List.mem_cons.mp h with rfl | h
  · decide
  rcases List.mem_cons.mp h with rfl | h
  · decide
  · exact printable_of_mem_hexPadded h

/-- All ways to write a character are printable. -/
theorem Escape.printable {c : Char} {written : List Char} (h : Escape c written) :
    ∀ d ∈ written, Printable d := by
  cases h with
  | plain _ _ hlower hupper =>
    intro d hd
    rw [List.mem_singleton.mp hd]
    exact ⟨hlower, hupper⟩
  | @short letter hstands =>
    have hall : ∀ entry ∈ shortEscapes, Printable entry.1 := by decide
    obtain ⟨before, after, hescapes, -⟩ := List.lookup_eq_some_iff.mp hstands
    have hmem : (letter, c) ∈ shortEscapes := hescapes ▸ List.mem_append_cons_self
    simpa using ⟨by decide, hall _ hmem⟩
  | unit => exact fun d => printable_of_mem_unitEscape
  | pair =>
    intro d hd
    rcases List.mem_append.mp hd with h | h <;> exact printable_of_mem_unitEscape h

/-- A text is written in printable characters, whatever characters it is made of. -/
theorem printable_string (text : String) : ∀ c ∈ (string text).toList, Printable c := by
  rw [toList_string]
  simp only [List.forall_mem_cons, List.forall_mem_append, List.forall_mem_flatMap]
  exact ⟨by decide, fun c _ => (escape_escapeChar c).printable, by decide, nofun⟩

theorem printable_of_isDigit {c : Char} (h : c.isDigit = true) : Printable c := by
  obtain ⟨hzero, hnine⟩ : '0'.val ≤ c.val ∧ c.val ≤ '9'.val := by
    simpa only [Char.isDigit, Bool.and_eq_true, decide_eq_true_eq] using h
  exact ⟨Char.le_trans (by decide) hzero, Char.le_trans hnine (by decide)⟩

/-- Integers are written in printable characters. -/
theorem printable_integerText (n : Int) : ∀ c ∈ (Decimal.integerText n).toList, Printable c := by
  have hdigits : ∀ c ∈ Decimal.naturalDigits n.natAbs, Printable c :=
    fun c hc => printable_of_isDigit (Decimal.isDigit_of_mem_naturalDigits hc)
  unfold Decimal.integerText
  split
  next hneg =>
    rw [String.toList_ofList]
    exact List.forall_mem_cons.mpr ⟨by decide, hdigits⟩
  next hnonneg =>
    rw [String.toList_ofList]
    exact hdigits

/-- Commas between printable texts leave the text printable. -/
theorem printable_separated {parts : List (List Char)}
    (h : ∀ part ∈ parts, ∀ c ∈ part, Printable c) : ∀ c ∈ separated parts, Printable c := by
  induction parts with
  | nil => nofun
  | cons first others ih =>
    obtain ⟨hfirst, hothers⟩ := List.forall_mem_cons.mp h
    cases others with
    | nil =>
      rw [separated_singleton]
      exact hfirst
    | cons second others =>
      rw [separated_cons_cons]
      simp only [List.forall_mem_append, List.forall_mem_cons]
      exact ⟨hfirst, by decide, by decide, ih hothers⟩

/-- A field is printable if its value is; its name always is. -/
theorem printable_fieldText {field : String × Value}
    (h : ∀ c ∈ chars field.2, Printable c) : ∀ c ∈ fieldText field, Printable c := by
  have hname : ∀ c ∈ field.1.toList.flatMap escapeChar, Printable c :=
    List.forall_mem_flatMap.mpr fun c _ => (escape_escapeChar c).printable
  simp only [fieldText, List.forall_mem_cons, List.forall_mem_append]
  exact ⟨by decide, hname, by decide, by decide, by decide, h⟩

/-- A value that can be written is written in printable characters, by induction on the value. -/
theorem Plain.printable_chars {v : Value} (h : Plain v) (hshort : v.overlong = false) :
    ∀ c ∈ chars v, Printable c := by
  induction h with
  | null => exact printable_of_all rfl
  | bool b => cases b <;> exact printable_of_all rfl
  | int n =>
    rw [chars_int hshort]
    exact printable_integerText n
  | text s => exact printable_string s
  | list _ ih =>
    have hitems := Value.overlongItems_eq_false_iff.mp hshort
    rw [chars_list hitems]
    simp only [List.forall_mem_cons, List.forall_mem_append]
    refine ⟨by decide, printable_separated ?_, by decide, nofun⟩
    exact List.forall_mem_map.mpr fun item hitem => ih item hitem (hitems item hitem)
  | @record fields _ _ ih =>
    have hvalues := overlong_record_iff.mp hshort
    rw [chars_record hvalues]
    simp only [List.forall_mem_cons, List.forall_mem_append]
    refine ⟨by decide, printable_separated ?_, by decide, nofun⟩
    exact List.forall_mem_map.mpr fun field hfield =>
      printable_fieldText (ih field hfield (hvalues field hfield))

/-- A value is written in printable characters of ASCII; in particular, on one line. -/
theorem Plain.printable_of_write {v : Value} {text : String} (h : Plain v)
    (hwrite : write v = .ok text) : ∀ c ∈ text.toList, Printable c := by
  rw [← chars_of_write hwrite]
  exact h.printable_chars ((writtenUnless_write v).eq_false_of_ok hwrite)

end Orchestration.Json
