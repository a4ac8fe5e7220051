import Mathlib.Data.List.TakeWhile
import Mathlib.Logic.ExistsUnique
import Orchestration.Template

/-!
# Rendering is one pass

A placeholder holds no brace in its name, so no placeholder of a template begins inside another one.
A template therefore can be laid out in exactly one way as literal texts with all of its
placeholders between them (`Layout.LaysOut`). Rendering puts what stands for the placeholders
between these literal texts; what is put in plays no part in where the placeholders are. It fails
only if a placeholder has a value that cannot be written (`Unwritable`).

The main statement is `render_one_pass`.
-/

namespace Orchestration.Template

/-! ## Placeholders in a text -/

/-- A text that can be the name of a placeholder: it is not empty and holds no brace. -/
structure IsName (name : List Char) : Prop where
  nonempty : name ≠ []
  no_opening : '\x7b' ∉ name
  no_closing : '\x7d' ∉ name

/-- The placeholder of a name, as it stands in a text. -/
abbrev placeholder (name : List Char) : List Char :=
  Segment.source (.placeholder name)

/-- A placeholder with the given name stands at a position of the text. -/
def OccursAt (text : List Char) (position : Nat) (name : List Char) : Prop :=
  IsName name ∧ ∃ before after, before.length = position ∧
    text = before ++ (placeholder name ++ after)

/-- A name is made of characters of names. -/
theorem IsName.isNameChar {name : List Char} (h : IsName name) :
    ∀ c ∈ name, isNameChar c = true := by
  intro c hc
  have hopening : c ≠ '\x7b' := fun heq => h.no_opening (heq ▸ hc)
  have hclosing : c ≠ '\x7d' := fun heq => h.no_closing (heq ▸ hc)
  simp [Template.isNameChar, hopening, hclosing]

/-- The characters before the first brace are a name, if there are any. -/
theorem isName_takeWhile {text : List Char} (h : text.takeWhile isNameChar ≠ []) :
    IsName (text.takeWhile isNameChar) where
  nonempty := h
  no_opening hmem := Bool.false_ne_true (List.mem_takeWhile_imp hmem)
  no_closing hmem := Bool.false_ne_true (List.mem_takeWhile_imp hmem)

/-- A placeholder is four braces longer than its name. -/
@[simp]
theorem length_placeholder (name : List Char) : (placeholder name).length = name.length + 4 := by
  simp [Segment.source]

/-- The name that a text leads with is that of the placeholder which the text starts with. -/
theorem leadingName?_eq_some_iff {text name : List Char} :
    leadingName? text = some name ↔ IsName name ∧ ∃ after, text = placeholder name ++ after := by
  constructor
  · intro h
    unfold leadingName? at h
    split at h
    next rest =>
      dsimp only at h
      split at h
      next after hrest =>
        split at h
        · cases h
        next hne =>
          cases h
          refine ⟨isName_takeWhile (by simpa using hne), after, ?_⟩
          have hsplit := List.takeWhile_append_dropWhile (p := isNameChar) (l := rest)
          rw [hrest] at hsplit
          simp [Segment.source, hsplit]
      next => cases h
    next => cases h
  · rintro ⟨hname, after, rfl⟩
    have htext : placeholder name ++ after =
        '\x7b' :: '\x7b' :: (name ++ '\x7d' :: '\x7d' :: after) := by
      simp [Segment.source]
    -- The closing braces end the name, since they are no characters of names.
    have hbrace : isNameChar '\x7d' = false := rfl
    rw [htext, leadingName?, List.takeWhile_append_of_pos hname.isNameChar,
      List.dropWhile_append_of_pos hname.isNameChar]
    simp [hbrace, hname.nonempty]

/-- A placeholder stands at a position exactly if the rest of the text from there leads with its
name. -/
theorem occursAt_iff {text name : List Char} {position : Nat} :
    OccursAt text position name ↔ leadingName? (text.drop position) = some name := by
  rw [leadingName?_eq_some_iff]
  refine and_congr_right fun _ => ?_
  constructor
  · rintro ⟨before, after, rfl, rfl⟩
    exact ⟨after, List.drop_left⟩
  · rintro ⟨after, hdrop⟩
    refine ⟨text.take position, after, ?_, ?_⟩
    · have hlength := congrArg List.length hdrop
      simp only [List.length_drop, List.length_append, length_placeholder] at hlength
      rw [List.length_take]
      omega
    · rw [← hdrop, List.take_append_drop]

theorem not_occursAt_nil (position : Nat) (name : List Char) : ¬ OccursAt [] position name := by
  rw [occursAt_iff, List.drop_nil]
  nofun

/-- What stands before a text does not matter to the placeholders in it. -/
theorem occursAt_append {before text name : List Char} {position : Nat} :
    OccursAt (before ++ text) (before.length + position) name ↔ OccursAt text position name := by
  rw [occursAt_iff, occursAt_iff, ← List.drop_drop, List.drop_left]

/-- The placeholders after a character that does not begin one. -/
theorem occursAt_cons_of_none {c : Char} {text name : List Char} {position : Nat}
    (h : leadingName? (c :: text) = none) :
    OccursAt (c :: text) position name ↔
      ∃ later, position = later + 1 ∧ OccursAt text later name := by
  cases position with
  | zero =>
    rw [occursAt_iff, List.drop_zero, h]
    simp
  | succ position => simp [occursAt_iff]

/-- Nothing but a brace begins a placeholder. -/
theorem leadingName?_cons_of_ne {c : Char} (h : c ≠ '\x7b') (text : List Char) :
    leadingName? (c :: text) = none := by
  simp [leadingName?, h]

/-- A single brace does not begin a placeholder. -/
theorem leadingName?_brace_of_ne {c : Char} (h : c ≠ '\x7b') (text : List Char) :
    leadingName? ('\x7b' :: c :: text) = none := by
  simp [leadingName?, h]

/-- No placeholder begins inside another one: behind the two braces comes a name without braces,
and behind that come two braces of the other sort. -/
theorem leadingName?_inside {name : List Char} (hname : IsName name) (text : List Char) {i : Nat}
    (hpos : 0 < i) (hlt : i < name.length + 4) :
    leadingName? ((placeholder name ++ text).drop i) = none := by
  have hbrace : ∀ c ∈ name, c ≠ '\x7b' := fun c hc heq => hname.no_opening (heq ▸ hc)
  have htext : placeholder name ++ text =
      '\x7b' :: '\x7b' :: (name ++ '\x7d' :: '\x7d' :: text) := by
    simp [Segment.source]
  rw [htext]
  match i, hpos with
  | 1, _ =>
    match name, hname.nonempty with
    | c :: name, _ => exact leadingName?_brace_of_ne (hbrace c List.mem_cons_self) _
  | j + 2, _ =>
    rw [List.drop_succ_cons, List.drop_succ_cons]
    rcases Nat.lt_or_ge j name.length with hj | hj
    · rw [List.drop_append_of_le_length (Nat.le_of_lt hj), List.drop_eq_getElem_cons hj]
      exact leadingName?_cons_of_ne (hbrace _ (List.getElem_mem hj)) _
    · rw [List.drop_append, List.drop_eq_nil_of_le hj, List.nil_append]
      have hcases : j - name.length = 0 ∨ j - name.length = 1 := by omega
      rcases hcases with h | h <;> rw [h] <;> exact leadingName?_cons_of_ne (by decide) _

/-- The placeholders of a text that starts with one: this one, and those behind it. -/
theorem occursAt_placeholder_append {name other text : List Char} {position : Nat}
    (hname : IsName name) :
    OccursAt (placeholder name ++ text) position other ↔
      (position = 0 ∧ other = name) ∨
        ∃ later, position = name.length + 4 + later ∧ OccursAt text later other := by
  -- A placeholder occurs at the front, or behind the first one; inside the first one there is none.
  rcases Nat.eq_zero_or_pos position with rfl | hpos
  · have hleads : leadingName? (placeholder name ++ text) = some name :=
      leadingName?_eq_some_iff.mpr ⟨hname, text, rfl⟩
    rw [occursAt_iff, List.drop_zero, hleads, Option.some_inj, eq_comm]
    refine ⟨fun h => .inl ⟨rfl, h⟩, ?_⟩
    rintro (⟨-, h⟩ | ⟨later, hlater, -⟩)
    · exact h
    · omega
  · rcases Nat.lt_or_ge position (name.length + 4) with hlt | hge
    · rw [occursAt_iff, leadingName?_inside hname text hpos hlt]
      refine iff_of_false nofun ?_
      rintro (⟨rfl, -⟩ | ⟨later, rfl, -⟩) <;> omega
    · obtain ⟨later, rfl⟩ := Nat.exists_eq_add_of_le hge
      have hbehind : OccursAt (placeholder name ++ text) (name.length + 4 + later) other ↔
          OccursAt text later other := by
        rw [← length_placeholder]
        exact occursAt_append
      rw [hbehind]
      refine ⟨fun h => .inr ⟨later, rfl, h⟩, ?_⟩
      rintro (⟨hzero, -⟩ | ⟨other, hother, h⟩)
      · omega
      · rwa [Nat.add_left_cancel hother]

/-- Placeholders do not overlap. -/
theorem OccursAt.disjoint {text first second : List Char} {i j : Nat}
    (hfirst : OccursAt text i first) (hsecond : OccursAt text j second) (hlt : i < j) :
    i + first.length + 4 ≤ j := by
  obtain ⟨hname, before, after, rfl, rfl⟩ := hfirst
  obtain ⟨offset, rfl⟩ := Nat.exists_eq_add_of_le (Nat.le_of_lt hlt)
  rw [occursAt_append, occursAt_placeholder_append hname] at hsecond
  rcases hsecond with ⟨rfl, -⟩ | ⟨later, rfl, -⟩ <;> omega

/-! ## Scanning -/

/-- What holds of the empty text, and is kept when a placeholder or a character that does not begin
one is put before a text, holds of every text. -/
theorem scan_induction {P : List Char → Prop} (nil : P [])
    (char : ∀ c rest, leadingName? (c :: rest) = none → P rest → P (c :: rest))
    (named : ∀ name rest, IsName name → P rest → P (placeholder name ++ rest))
    (text : List Char) : P text := by
  induction hlength : text.length using Nat.strongRecOn generalizing text with
  | ind n ih =>
    cases text with
    | nil => exact nil
    | cons c rest =>
      subst hlength
      cases hleads : leadingName? (c :: rest) with
      | none => exact char c rest hleads (ih rest.length (Nat.lt_succ_self _) rest rfl)
      | some name =>
        obtain ⟨hname, after, htext⟩ := leadingName?_eq_some_iff.mp hleads
        rw [htext]
        refine named name after hname (ih after.length ?_ after rfl)
        rw [htext, List.length_append, length_placeholder]
        omega

/-- To go on at a position is to go on with the text from there. -/
theorem segmentsFrom_eq_drop (skip : Nat) (text : List Char) :
    segmentsFrom skip text = segments (text.drop skip) := by
  induction skip generalizing text with
  | zero => rfl
  | succ skip ih =>
    cases text with
    | nil => rfl
    | cons c rest => exact ih rest

/-- A character that begins no placeholder stands for itself. -/
theorem segments_cons_of_none {c : Char} {rest : List Char} (h : leadingName? (c :: rest) = none) :
    segments (c :: rest) = .char c :: segments rest := by
  rw [segments, segmentsFrom, h]
  rfl

/-- A placeholder is taken as a whole, whatever stands behind it. -/
theorem segments_placeholder_append {name : List Char} (hname : IsName name) (rest : List Char) :
    segments (placeholder name ++ rest) = .placeholder name :: segments rest := by
  have hleads : leadingName? (placeholder name ++ rest) = some name :=
    leadingName?_eq_some_iff.mpr ⟨hname, rest, rfl⟩
  have htext : placeholder name ++ rest =
      '\x7b' :: (('\x7b' :: (name ++ ['\x7d', '\x7d'])) ++ rest) := rfl
  have hlength : name.length + 3 = ('\x7b' :: (name ++ ['\x7d', '\x7d'])).length := by simp
  rw [htext] at hleads ⊢
  rw [segments, segmentsFrom, hleads]
  dsimp only
  rw [segmentsFrom_eq_drop, hlength, List.drop_left]

/-! ## Layouts -/

/-- A text taken apart: literal texts, with a placeholder between any two of them. -/
inductive Layout where
  | last (literal : List Char)
  | next (literal name : List Char) (rest : Layout)

namespace Layout

/-- The text that a layout stands for. -/
def source : Layout → List Char
  | last literal => literal
  | next literal name rest => literal ++ (placeholder name ++ rest.source)

/-- The positions of the placeholders, with their names. -/
def marks : Layout → List (Nat × List Char)
  | last _ => []
  | next literal name rest =>
    (literal.length, name) ::
      rest.marks.map fun mark => (literal.length + (name.length + 4) + mark.1, mark.2)

/-- The names of the placeholders. -/
def names (layout : Layout) : List (List Char) :=
  layout.marks.map Prod.snd

/-- The text with what the names stand for in the places of the placeholders; a name that stands for
nothing leaves its placeholder as it is. -/
def filled (meaning : List Char → Option (List Char)) : Layout → List Char
  | last literal => literal
  | next literal name rest =>
    literal ++ ((meaning name).getD (placeholder name) ++ rest.filled meaning)

/-- The layout takes the text apart, and its placeholders are all that there are in the text. -/
structure LaysOut (layout : Layout) (text : List Char) : Prop where
  source : layout.source = text
  marks : ∀ position name, OccursAt text position name ↔ (position, name) ∈ layout.marks

/-- The layout with more literal text at its beginning. -/
def behind (literal : List Char) : Layout → Layout
  | last rest => last (literal ++ rest)
  | next first name rest => next (literal ++ first) name rest

/-- The layout that the parts of a template make up. -/
def ofSegments : List Segment → Layout
  | [] => last []
  | .char c :: rest => (ofSegments rest).behind [c]
  | .placeholder name :: rest => next [] name (ofSegments rest)

theorem behind_cons (c : Char) (literal : List Char) (layout : Layout) :
    layout.behind (c :: literal) = (layout.behind literal).behind [c] := by
  cases layout <;> rfl

@[simp]
theorem behind_nil (layout : Layout) : layout.behind [] = layout := by
  cases layout <;> rfl

/-- A literal stands in front of the source of the layout. -/
@[simp]
theorem source_behind (literal : List Char) (layout : Layout) :
    (layout.behind literal).source = literal ++ layout.source := by
  cases layout <;> simp [behind, source]

/-- A literal stands for itself, whatever the names mean. -/
@[simp]
theorem filled_behind (meaning : List Char → Option (List Char)) (literal : List Char)
    (layout : Layout) :
    (layout.behind literal).filled meaning = literal ++ layout.filled meaning := by
  cases layout <;> simp [behind, filled]

@[simp]
theorem names_next (literal name : List Char) (rest : Layout) :
    (next literal name rest).names = name :: rest.names := by
  simp [names, marks]

/-- A literal has no names. -/
@[simp]
theorem names_behind (literal : List Char) (layout : Layout) :
    (layout.behind literal).names = layout.names := by
  cases layout with
  | last => rfl
  | next => rw [behind, names_next, names_next]

/-- A literal moves the placeholders behind it by its length. -/
theorem mem_marks_behind {literal name : List Char} {layout : Layout} {position : Nat} :
    (position, name) ∈ (layout.behind literal).marks ↔
      ∃ later, position = later + literal.length ∧ (later, name) ∈ layout.marks := by
  cases layout with
  | last rest => simp [behind, marks]
  | next first other rest =>
    simp only [behind, marks, List.mem_cons, List.mem_map, Prod.mk.injEq, Prod.exists,
      List.length_append]
    constructor
    · rintro (⟨rfl, rfl⟩ | ⟨later, _, hmem, rfl, rfl⟩)
      · exact ⟨first.length, Nat.add_comm _ _, .inl ⟨rfl, rfl⟩⟩
      · exact ⟨_, by omega, .inr ⟨later, _, hmem, rfl, rfl⟩⟩
    · rintro ⟨_, rfl, ⟨rfl, rfl⟩ | ⟨later, _, hmem, rfl, rfl⟩⟩
      · exact .inl ⟨Nat.add_comm _ _, rfl⟩
      · exact .inr ⟨later, _, hmem, by omega, rfl⟩

/-! ## The layout of a template -/

/-- The parts of a template lay it out. -/
theorem laysOut_ofSegments (text : List Char) : (ofSegments (segments text)).LaysOut text := by
  induction text using scan_induction with
  | nil =>
    refine ⟨rfl, fun position name => iff_of_false (not_occursAt_nil position name) ?_⟩
    exact List.not_mem_nil
  | char c rest hnone ih =>
    rw [segments_cons_of_none hnone, ofSegments]
    refine ⟨by rw [source_behind, ih.source, List.singleton_append], fun position name => ?_⟩
    rw [occursAt_cons_of_none hnone, mem_marks_behind]
    simp only [ih.marks, List.length_singleton]
  | named name rest hname ih =>
    rw [segments_placeholder_append hname, ofSegments]
    refine ⟨by rw [source, ih.source, List.nil_append], fun position other => ?_⟩
    rw [occursAt_placeholder_append hname]
    simp only [ih.marks, marks, List.length_nil, Nat.zero_add, List.mem_cons, List.mem_map,
      Prod.mk.injEq, Prod.exists]
    refine or_congr_right ⟨?_, ?_⟩
    · rintro ⟨later, rfl, hmem⟩
      exact ⟨later, other, hmem, rfl, rfl⟩
    · rintro ⟨later, _, hmem, rfl, rfl⟩
      exact ⟨later, rfl, hmem⟩

/-- Literal text in which no placeholder begins stays literal. -/
theorem ofSegments_append {literal rest : List Char}
    (h : ∀ position < literal.length, ∀ name, ¬ OccursAt (literal ++ rest) position name) :
    ofSegments (segments (literal ++ rest)) = (ofSegments (segments rest)).behind literal := by
  induction literal with
  | nil => simp
  | cons c literal ih =>
    have hnone : leadingName? (c :: (literal ++ rest)) = none := by
      refine Option.eq_none_iff_forall_ne_some.mpr fun name hleads => ?_
      exact h 0 (Nat.zero_lt_succ _) name (occursAt_iff.mpr hleads)
    have hlater : ∀ position < literal.length, ∀ name,
        ¬ OccursAt (literal ++ rest) position name := by
      intro position hlt name hoccurs
      refine h (position + 1) (Nat.succ_lt_succ hlt) name ?_
      exact (occursAt_cons_of_none hnone).mpr ⟨position, rfl, hoccurs⟩
    rw [List.cons_append, segments_cons_of_none hnone, ofSegments, ih hlater, ← behind_cons]

/-- What comes after a placeholder of a layout is laid out by the rest of the layout. -/
theorem LaysOut.rest {literal name text : List Char} {rest : Layout}
    (h : (next literal name rest).LaysOut text) : rest.LaysOut rest.source := by
  refine ⟨rfl, fun position other => ?_⟩
  have hmarks := h.marks ((literal ++ placeholder name).length + position) other
  rw [← h.source, Layout.source, ← List.append_assoc, occursAt_append] at hmarks
  rw [hmarks, Layout.marks, List.length_append, length_placeholder]
  simp only [List.mem_cons, List.mem_map, Prod.mk.injEq, Nat.add_left_cancel_iff, Prod.exists]
  constructor
  · rintro (⟨hfirst, -⟩ | ⟨later, _, hmem, rfl, rfl⟩)
    · omega
    · exact hmem
  · exact fun hmem => .inr ⟨position, other, hmem, rfl, rfl⟩

/-- No template is laid out in another way than by its parts. -/
theorem LaysOut.eq_ofSegments {layout : Layout} {text : List Char} (h : layout.LaysOut text) :
    layout = ofSegments (segments text) := by
  induction layout generalizing text with
  | last literal =>
    obtain rfl : literal = text := h.source
    have hnone : ∀ position < literal.length, ∀ name,
        ¬ OccursAt (literal ++ []) position name := by
      intro position _ name hoccurs
      rw [List.append_nil] at hoccurs
      exact List.not_mem_nil ((h.marks position name).mp hoccurs)
    have hlayout := ofSegments_append hnone
    rw [List.append_nil] at hlayout
    rw [hlayout]
    exact congrArg last (List.append_nil _).symm
  | next literal name rest ih =>
    have htext : literal ++ (placeholder name ++ rest.source) = text := h.source
    have hfirst : (literal.length, name) ∈ (next literal name rest).marks := List.mem_cons_self
    have hname : IsName name := ((h.marks _ _).mpr hfirst).1
    -- All marks stand behind the first literal text.
    have hnone : ∀ position < literal.length, ∀ other,
        ¬ OccursAt (literal ++ (placeholder name ++ rest.source)) position other := by
      intro position hlt other hoccurs
      rw [htext, h.marks, Layout.marks] at hoccurs
      simp only [List.mem_cons, List.mem_map, Prod.mk.injEq] at hoccurs
      rcases hoccurs with ⟨rfl, -⟩ | ⟨mark, -, rfl, -⟩ <;> omega
    rw [← htext, ofSegments_append hnone, segments_placeholder_append hname, ofSegments,
      ← ih h.rest, behind, List.append_nil]

end Layout

/-! ## Rendering -/

/-- The name has a value, and that value cannot be written. -/
def Unwritable (values : Fields) (name : List Char) : Prop :=
  ∃ value, Table.find? values (String.ofList name) = some value ∧ value.overlong = true

/-- What the values put in the place of a placeholder. -/
def meaningIn (values : Fields) (name : List Char) : Option (List Char) :=
  (Table.find? values (String.ofList name)).bind fun value =>
    value.display.toOption.map String.toList

section

variable {values : Fields} {name : List Char} {parts : List Segment}

/-- A value that cannot be written fills nothing: the fault comes through. -/
theorem fill_of_unwritable (h : Unwritable values name) :
    Segment.fill values (.placeholder name) = .error .overlongInteger := by
  obtain ⟨value, hvalue, hlong⟩ := h
  simp only [Segment.fill, hvalue, value.writtenUnless_display.eq_error hlong]
  rfl

/-- A placeholder is filled with what its name means, and stays as it is if that is nothing. -/
theorem fill_placeholder (h : ¬ Unwritable values name) :
    Segment.fill values (.placeholder name) =
      .ok ((meaningIn values name).getD (placeholder name)) := by
  rw [Segment.fill, meaningIn]
  cases hfind : Table.find? values (String.ofList name) with
  | none => rfl
  | some value =>
    have hshort : value.overlong = false :=
      Bool.eq_false_iff.mpr fun hlong => h ⟨value, hfind, hlong⟩
    obtain ⟨text, htext⟩ := value.writtenUnless_display.exists_eq_ok hshort
    simp only [htext, Option.bind_some]
    rfl

/-- The parts of a template are filled in as the layout says if all that they need can be
written. -/
theorem mapM_fill
    (h : ∀ name ∈ (Layout.ofSegments parts).names, ¬ Unwritable values name) :
    ∃ pieces, parts.mapM (Segment.fill values) = .ok pieces ∧
      pieces.flatten = (Layout.ofSegments parts).filled (meaningIn values) := by
  induction parts with
  | nil => exact ⟨[], rfl, rfl⟩
  | cons part rest ih =>
    cases part with
    | char c =>
      rw [Layout.ofSegments, Layout.names_behind] at h
      obtain ⟨pieces, hpieces, hflat⟩ := ih h
      refine ⟨[c] :: pieces, by rw [List.mapM_cons, hpieces]; rfl, ?_⟩
      rw [List.flatten_cons, hflat, Layout.ofSegments, Layout.filled_behind]
    | placeholder name =>
      rw [Layout.ofSegments, Layout.names_next, List.forall_mem_cons] at h
      obtain ⟨pieces, hpieces, hflat⟩ := ih h.2
      refine ⟨_ :: pieces, by rw [List.mapM_cons, fill_placeholder h.1, hpieces]; rfl, ?_⟩
      rw [List.flatten_cons, hflat, Layout.ofSegments, Layout.filled, List.nil_append]

/-- Rendering puts the parts of a template together as they are filled in. -/
theorem render_eq_ok_iff {template text : String} :
    render values template = .ok text ↔
      ∃ pieces, (segments template.toList).mapM (Segment.fill values) = .ok pieces ∧
        text = String.ofList pieces.flatten := by
  rw [render]
  cases (segments template.toList).mapM (Segment.fill values) with
  | error fault => exact iff_of_false nofun fun ⟨_, h, _⟩ => nomatch h
  | ok pieces =>
    constructor
    · rintro ⟨⟩
      exact ⟨pieces, rfl, rfl⟩
    · rintro ⟨_, ⟨⟩, rfl⟩
      rfl

/-- A template is filled in as its parts lay it out if all that it needs can be written. -/
theorem render_eq_filled {template : String}
    (h : ∀ name ∈ (Layout.ofSegments (segments template.toList)).names, ¬ Unwritable values name) :
    render values template = .ok (String.ofList
      ((Layout.ofSegments (segments template.toList)).filled (meaningIn values))) := by
  obtain ⟨pieces, hpieces, hflat⟩ := mapM_fill h
  exact render_eq_ok_iff.mpr ⟨pieces, hpieces, congrArg String.ofList hflat.symm⟩

/-- The parts of a template cannot be filled in if one of them needs what cannot be written. -/
theorem mapM_fill_of_unwritable
    (h : ∃ name ∈ (Layout.ofSegments parts).names, Unwritable values name) :
    parts.mapM (Segment.fill values) = .error .overlongInteger := by
  induction parts with
  | nil =>
    obtain ⟨name, hname, -⟩ := h
    exact absurd hname List.not_mem_nil
  | cons part rest ih =>
    rw [List.mapM_cons]
    cases part with
    | char c =>
      rw [Layout.ofSegments, Layout.names_behind] at h
      rw [ih h]
      rfl
    | placeholder name =>
      simp only [Layout.ofSegments, Layout.names_next, List.mem_cons, exists_eq_or_imp] at h
      by_cases hname : Unwritable values name
      · rw [fill_of_unwritable hname]
        rfl
      · rw [fill_placeholder hname, ih (h.resolve_left hname)]
        rfl

end

/-- If none of the names of a layout stands for anything, its text is left as it is. -/
theorem Layout.filled_eq_source {meaning : List Char → Option (List Char)} {layout : Layout}
    (h : ∀ mark ∈ layout.marks, meaning mark.2 = none) : layout.filled meaning = layout.source := by
  induction layout with
  | last literal => rfl
  | next literal name rest ih =>
    rw [marks, List.forall_mem_cons, List.forall_mem_map] at h
    rw [filled, source, h.1, ih h.2, Option.getD_none]

/-- A placeholder of the template has a value that cannot be written. -/
def Unrenderable (values : Fields) (template : String) : Prop :=
  ∃ position name, OccursAt template.toList position name ∧ Unwritable values name

/-- The names that a template is laid out with are those of its placeholders. -/
theorem Layout.mem_names_ofSegments {text name : List Char} :
    name ∈ (ofSegments (segments text)).names ↔ ∃ position, OccursAt text position name := by
  simp only [names, List.mem_map, Prod.exists, exists_eq_right, (laysOut_ofSegments text).marks]

/-- If one of the placeholders has a value that cannot be written, then there is no text. -/
theorem render_eq_error {values : Fields} {template : String}
    (h : ∃ name ∈ (Layout.ofSegments (segments template.toList)).names, Unwritable values name) :
    render values template = .error .overlongInteger := by
  rw [render, mapM_fill_of_unwritable h]
  rfl

/-- A template has no text exactly if one of its placeholders has a value that cannot be written. -/
theorem render_cases (values : Fields) (template : String) :
    (Unrenderable values template ∧ render values template = .error .overlongInteger) ∨
      (¬ Unrenderable values template ∧ ∃ text, render values template = .ok text) := by
  by_cases h : Unrenderable values template
  · obtain ⟨position, name, hoccurs, hlong⟩ := h
    refine .inl ⟨⟨position, name, hoccurs, hlong⟩, ?_⟩
    exact render_eq_error ⟨name, Layout.mem_names_ofSegments.mpr ⟨position, hoccurs⟩, hlong⟩
  · refine .inr ⟨h, _, render_eq_filled fun name hname hlong => h ?_⟩
    obtain ⟨position, hoccurs⟩ := Layout.mem_names_ofSegments.mp hname
    exact ⟨position, name, hoccurs, hlong⟩

/-- A template none of whose placeholders has a value is left as it is. -/
theorem render_eq_self {values : Fields} {template : String}
    (h : ∀ position name, OccursAt template.toList position name →
      Table.find? values (String.ofList name) = none) : render values template = .ok template := by
  have hparts := Layout.laysOut_ofSegments template.toList
  have hwritten : ∀ name ∈ (Layout.ofSegments (segments template.toList)).names,
      ¬ Unwritable values name := by
    rintro name hname ⟨value, hvalue, -⟩
    obtain ⟨position, hoccurs⟩ := Layout.mem_names_ofSegments.mp hname
    cases (h position name hoccurs).symm.trans hvalue
  have hmeaning : ∀ mark ∈ (Layout.ofSegments (segments template.toList)).marks,
      meaningIn values mark.2 = none := by
    intro mark hmark
    rw [meaningIn, h mark.1 mark.2 ((hparts.marks _ _).mpr hmark), Option.bind_none]
  rw [render_eq_filled hwritten, Layout.filled_eq_source hmeaning, hparts.source,
    String.ofList_toList]

/-- Without values, a template is left as it is. -/
theorem render_nil (template : String) : render [] template = .ok template :=
  render_eq_self fun _ _ _ => rfl

/-- **Rendering is one pass.** Every template has exactly one layout, which does not depend on the
values: literal texts with placeholders between them, which are all the placeholders that occur in
the template. They do not overlap. Rendering the template puts the text of a value in the place of
each placeholder whose name has one, and leaves the other placeholders and all literal texts; it
fails if and only if one of these values cannot be written. If no name has a value, it leaves the
whole template. -/
theorem render_one_pass (template : String) :
    (∃! layout : Layout, layout.LaysOut template.toList) ∧
      (∀ i first j second, OccursAt template.toList i first → OccursAt template.toList j second →
        i < j → i + first.length + 4 ≤ j) ∧
      (∀ layout : Layout, layout.LaysOut template.toList → ∀ values : Fields,
        ((∀ name ∈ layout.names, ¬ Unwritable values name) →
          render values template = .ok (String.ofList (layout.filled fun name =>
            (Table.find? values (String.ofList name)).bind fun value =>
              value.display.toOption.map String.toList))) ∧
        ((∃ name ∈ layout.names, Unwritable values name) →
          render values template = .error .overlongInteger)) ∧
      ∀ values : Fields, (∀ position name, OccursAt template.toList position name →
        Table.find? values (String.ofList name) = none) →
          render values template = .ok template := by
  refine ⟨⟨_, Layout.laysOut_ofSegments _, fun layout hlayout => hlayout.eq_ofSegments⟩,
    fun i first j second => OccursAt.disjoint, fun layout hlayout values => ?_,
    fun values => render_eq_self⟩
  obtain rfl := hlayout.eq_ofSegments
  exact ⟨render_eq_filled, render_eq_error⟩

/-- Of three braces, the last two open the placeholder; what is put in is not looked at again. -/
example : render [("x", .text "\x7b\x7by\x7d\x7d"), ("y", .text "no")]
    "\x7b\x7b\x7bx\x7d\x7d\x7d" = .ok "\x7b\x7b\x7by\x7d\x7d\x7d" := by
  rfl

end Orchestration.Template
