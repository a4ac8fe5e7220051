import Orchestration.Capability.ClassPath

/-!
# How loading by class path fails

Whatever the class path is, loading should give a capability with the interface that is asked for,
or fail in the one way that is meant for it (`Contained`). It does so when there is no dot in the
path, when a module is missing or cannot be imported, when the module has no such member and when
the member is something else. But only faults of importing are looked out for, and only while the
module is found: a module path that is empty or relative, and a class that leaves operations open,
such as the interfaces themselves, come through as faults of other kinds (`Escapes`).

The main statement is `load_contained_iff`.
-/

namespace Orchestration.ClassPath

/-! ## What loading should do -/

/-- The path is that of a module with a name behind it. -/
structure Splits (path modulePath name : String) : Prop where
  whole : path = modulePath ++ "." ++ name
  last : Text.Unbroken '.' name

/-- Loading gives a capability with the interface that is asked for, or says why there is none. -/
def Contained (importer : Importer) (interface : Interface) (path : String) : Prop :=
  (∃ loaded, loadBy importer interface path = .ok loaded ∧ loaded.interface = interface) ∨
  ∃ message, loadBy importer interface path = .error (.registry message)

/-! ## What comes through -/

/-- The fault of a module path that is empty. -/
def emptyName : Fault :=
  .foreign .value "Empty module name"

/-- The fault comes through: nothing looks out for it. -/
inductive Escapes (importer : Importer) (interface : Interface) (path : String) : Fault → Prop
  | empty {name : String} (splits : Splits path "" name) : Escapes importer interface path emptyName
  | relative {rest name : String} (splits : Splits path ("." ++ rest) name) :
    Escapes importer interface path (relative ("." ++ rest))
  | unfinished {modulePath name className : String} {found : Catalogue.Module}
    {operations : List String} (splits : Splits path modulePath name)
    (leads : findModuleBy importer modulePath = .ok found)
    (holds : member? found name = some (.unfinished className interface operations)) :
    Escapes importer interface path (abstractFault className operations)

/-! ## Splitting a path -/

/-- A path that splits into a module and a name is split there. -/
theorem split?_of_splits {path modulePath name : String} (h : Splits path modulePath name) :
    split? path = some (modulePath, name) := by
  -- The name is the last piece, since there is no dot in it.
  have hpieces : Text.pieces '.' path = Text.pieces '.' modulePath ++ [name] := by
    rw [h.whole, ← Text.pieces_of_unbroken h.last]
    exact Text.pieces_append '.' modulePath name
  obtain ⟨part, parts, hreverse⟩ : ∃ part parts,
      (Text.pieces '.' modulePath).reverse = part :: parts :=
    List.exists_cons_of_ne_nil fun hnil =>
      Text.pieces_ne_nil '.' modulePath (List.reverse_eq_nil_iff.mp hnil)
  have hmodule : ".".intercalate (part :: parts).reverse = modulePath := by
    rw [← hreverse, List.reverse_reverse]
    exact Text.intercalate_pieces '.' modulePath
  rw [split?, hpieces, List.reverse_concat, hreverse]
  show some (".".intercalate (part :: parts).reverse, name) = _
  rw [hmodule]

/-- A path is split only where it splits into a module and a name. -/
theorem splits_of_split? {path modulePath name : String}
    (h : split? path = some (modulePath, name)) : Splits path modulePath name := by
  unfold split? at h
  split at h
  next last part parts hreverse =>
    cases h
    have hpieces : Text.pieces '.' path = (part :: parts).reverse ++ [name] := by
      rw [← List.reverse_reverse (Text.pieces '.' path), hreverse, List.reverse_cons]
    have hwhole : ".".intercalate (Text.pieces '.' path) = path := Text.intercalate_pieces '.' path
    have hlast : name ∈ Text.pieces '.' path := by
      rw [hpieces]
      exact List.mem_append_right _ List.mem_cons_self
    refine ⟨?_, Text.unbroken_of_mem_pieces hlast⟩
    rw [hpieces, String.intercalate_append_of_ne_nil (by simp) (by simp),
      String.intercalate_singleton] at hwhole
    exact hwhole.symm
  next => cases h

/-! ## Finding a module -/

section Finding

variable {importer : Importer}

/-- The fault is one of importing, which loading looks out for. -/
inductive OfImport : Fault → Prop
  | missing (message : String) : OfImport (.foreign .moduleNotFound message)
  | failing (message : String) : OfImport (.foreign .importing message)

/-- A module that is not found makes a fault of importing. -/
theorem ofImport_of_importAt {path : String} {missing fault : Fault} (hmissing : OfImport missing)
    (h : importAt importer path missing = .error fault) : OfImport fault := by
  unfold importAt at h
  split at h
  · cases h
  · cases h
    exact .failing _
  · cases h
    exact hmissing

/-- Going down the parts of a path fails with faults of importing only. -/
theorem ofImport_of_descend {path : String} {parent : Catalogue.Module} {parts : List String}
    {fault : Fault} (h : descend importer path parent parts = .error fault) : OfImport fault := by
  induction parts generalizing path parent with
  | nil => cases h
  | cons part rest ih =>
    rw [descend] at h
    cases hstep : importAt importer (path ++ "." ++ part)
        (if parent.isPackage then noModule (path ++ "." ++ part)
          else noPackage (path ++ "." ++ part) path) with
    | error other =>
      rw [hstep] at h
      cases h
      refine ofImport_of_importAt ?_ hstep
      split <;> exact .missing _
    | ok found =>
      rw [hstep] at h
      exact ih h

/-- An empty module path is refused by another fault than one of importing. -/
theorem findModuleBy_empty : findModuleBy importer "" = .error emptyName := rfl

/-- A relative module path is refused by another fault than one of importing. -/
theorem findModuleBy_relative (rest : String) :
    findModuleBy importer ("." ++ rest) = .error (relative ("." ++ rest)) := by
  have hpieces : Text.pieces '.' ("." ++ rest) = "" :: Text.pieces '.' rest :=
    Text.pieces_append '.' "" rest
  obtain ⟨part, parts, hrest⟩ := List.exists_cons_of_ne_nil (Text.pieces_ne_nil '.' rest)
  rw [findModuleBy, hpieces, hrest]
  rfl

/-- A module path that is neither empty nor relative leads to a module, or fails to be imported. -/
theorem ofImport_of_findModuleBy {path : String} {fault : Fault} (hempty : path ≠ "")
    (habsolute : ∀ rest, path ≠ "." ++ rest) (h : findModuleBy importer path = .error fault) :
    OfImport fault := by
  have hwhole : ".".intercalate (Text.pieces '.' path) = path := Text.intercalate_pieces '.' path
  unfold findModuleBy at h
  split at h
  next hpieces =>
    rw [hpieces, String.intercalate_singleton] at hwhole
    exact absurd hwhole.symm hempty
  next rest hsome hpieces =>
    -- The first of several pieces is empty, so that the path starts with a dot.
    rw [hpieces, String.intercalate_cons_of_ne_nil hsome, String.empty_append] at hwhole
    exact absurd hwhole.symm (habsolute _)
  next first rest _ _ _ =>
    cases hfirst : importAt importer first (noModule first) with
    | error other =>
      rw [hfirst] at h
      cases h
      exact ofImport_of_importAt (.missing _) hfirst
    | ok found =>
      rw [hfirst] at h
      exact ofImport_of_descend h
  next hpieces => exact absurd hpieces (Text.pieces_ne_nil '.' path)

end Finding

/-! ## Making a capability -/

section Making

variable {interface : Interface} {member : Member}

/-- An instance has the interface that was asked for. -/
theorem interface_of_instantiate? {loaded : Loaded}
    (h : instantiate? interface member = some (.ok loaded)) : loaded.interface = interface := by
  cases member with
  | tool =>
    obtain ⟨rfl, ⟨⟩⟩ := Option.ite_none_right_eq_some.mp h
    rfl
  | plugin =>
    obtain ⟨rfl, ⟨⟩⟩ := Option.ite_none_right_eq_some.mp h
    rfl
  | unfinished => cases (Option.ite_none_right_eq_some.mp h).2
  | provider => cases h
  | other => cases h

/-- Only an abstract class cannot be instantiated. -/
theorem unfinished_of_instantiate? {fault : Fault}
    (h : instantiate? interface member = some (.error fault)) :
    ∃ className operations, member = .unfinished className interface operations ∧
      fault = abstractFault className operations := by
  cases member with
  | tool => cases (Option.ite_none_right_eq_some.mp h).2
  | plugin => cases (Option.ite_none_right_eq_some.mp h).2
  | unfinished className found operations =>
    obtain ⟨rfl, ⟨⟩⟩ := Option.ite_none_right_eq_some.mp h
    exact ⟨className, operations, rfl, rfl⟩
  | provider => cases h
  | other => cases h

end Making

/-! ## Loading -/

section Loading

variable {importer : Importer} {interface : Interface} {path : String} {fault : Fault}

/-- The fault that a member has another interface. -/
def otherInterface (interface : Interface) (path : String) : Fault :=
  .registry (path ++ " is not a " ++ interface.className ++ " subclass")

/-- A path that leads to a member gives what is made of the member. -/
theorem loadBy_of_member {modulePath name : String} {found : Catalogue.Module} {member : Member}
    (hsplits : Splits path modulePath name) (hfind : findModuleBy importer modulePath = .ok found)
    (hmember : member? found name = some member) :
    loadBy importer interface path =
      (instantiate? interface member).getD (.error (otherInterface interface path)) := by
  rw [loadBy, split?_of_splits hsplits]
  simp only [hfind, hmember]
  cases instantiate? interface member <;> rfl

/-- A fault that nothing looks out for comes through. -/
theorem loadBy_of_escapes (h : Escapes importer interface path fault) :
    loadBy importer interface path = .error fault := by
  cases h with
  | empty splits =>
    rw [loadBy, split?_of_splits splits]
    simp only [findModuleBy_empty]
    rfl
  | relative splits =>
    rw [loadBy, split?_of_splits splits]
    simp only [findModuleBy_relative]
    rfl
  | @unfinished _ _ className _ operations splits leads holds =>
    have hmade : instantiate? interface (.unfinished className interface operations) =
        some (.error (abstractFault className operations)) := if_pos rfl
    rw [loadBy_of_member splits leads holds, hmade]
    rfl

/-- A module that is not found is told of in the one way, unless its path is empty or relative. -/
theorem contained_or_escapes_of_findModuleBy {modulePath name : String}
    (hsplits : Splits path modulePath name)
    (hfind : findModuleBy importer modulePath = .error fault) :
    Contained importer interface path ∨ ∃ other, Escapes importer interface path other := by
  by_cases hempty : modulePath = ""
  · subst hempty
    exact .inr ⟨_, .empty hsplits⟩
  by_cases hrelative : ∃ rest, modulePath = "." ++ rest
  · obtain ⟨rest, rfl⟩ := hrelative
    exact .inr ⟨_, .relative hsplits⟩
  -- What is left are faults of importing, and these are looked out for.
  left
  right
  refine ⟨"Cannot import module " ++ modulePath ++ ": " ++ fault.message, ?_⟩
  rw [loadBy, split?_of_splits hsplits]
  cases ofImport_of_findModuleBy hempty (not_exists.mp hrelative) hfind with
  | missing message => simp only [hfind]; rfl
  | failing message => simp only [hfind]; rfl

/-- A class path is dealt with, or one of the faults comes through that nothing looks out for. -/
theorem contained_or_escapes (importer : Importer) (interface : Interface) (path : String) :
    Contained importer interface path ∨ ∃ fault, Escapes importer interface path fault := by
  -- Each stage fails with a fault of the taxonomy, or with one that nothing looks out for.
  cases hsplit : split? path with
  | none => exact .inl (.inr ⟨_, by rw [loadBy, hsplit]⟩)
  | some parts =>
    obtain ⟨modulePath, name⟩ := parts
    have hsplits := splits_of_split? hsplit
    cases hfind : findModuleBy importer modulePath with
    | error fault => exact contained_or_escapes_of_findModuleBy hsplits hfind
    | ok found =>
      cases hmember : member? found name with
      | none => exact .inl (.inr ⟨_, by rw [loadBy, hsplit]; simp only [hfind, hmember]; rfl⟩)
      | some member =>
        have hload : loadBy importer interface path = _ := loadBy_of_member hsplits hfind hmember
        cases hmade : instantiate? interface member with
        | none =>
          rw [hmade] at hload
          exact .inl (.inr ⟨_, hload⟩)
        | some result =>
          rw [hmade] at hload
          cases result with
          | ok loaded => exact .inl (.inl ⟨loaded, hload, interface_of_instantiate? hmade⟩)
          | error fault =>
            obtain ⟨className, operations, rfl, -⟩ := unfinished_of_instantiate? hmade
            exact .inr ⟨_, .unfinished hsplits hfind hmember⟩

/-- What comes through is no fault of the one kind, and gives no capability. -/
theorem not_contained_of_escapes (h : Escapes importer interface path fault) :
    ¬ Contained importer interface path := by
  have hload := loadBy_of_escapes h
  rintro (⟨loaded, hloaded, -⟩ | ⟨message, hmessage⟩)
  · cases hload.symm.trans hloaded
  · have hfault : fault = .registry message := Except.error.inj (hload.symm.trans hmessage)
    cases h <;> cases hfault

/-- **Loading.** Loading by class path gives a capability with the interface that is asked for, or
fails in the one way that is meant for it, exactly if no fault comes through; and what comes through
is a module path that is empty or relative, or a class that leaves operations open. -/
theorem load_contained_iff (importer : Importer) (interface : Interface) (path : String) :
    (Contained importer interface path ↔ ∀ fault, ¬ Escapes importer interface path fault) ∧
    ∀ fault, Escapes importer interface path fault →
      loadBy importer interface path = .error fault := by
  refine ⟨⟨fun h fault hescapes => not_contained_of_escapes hescapes h, fun hnone => ?_⟩,
    fun fault => loadBy_of_escapes⟩
  rcases contained_or_escapes importer interface path with h | ⟨fault, hescapes⟩
  · exact h
  · exact absurd hescapes (hnone fault)

/-- Not every path is contained: a dot with a name behind it has an empty module path. -/
theorem not_contained_dot : ¬ ∀ path, Contained catalogued .tool path := by
  intro hall
  have hsplits : Splits ".Tool" "" "Tool" := ⟨rfl, by decide⟩
  exact not_contained_of_escapes (.empty hsplits) (hall ".Tool")

end Loading

end Orchestration.ClassPath
