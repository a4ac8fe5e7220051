/-!
# Tables in order of arrival

A table maps texts to values and remembers the order in which its keys first arrived. Writing to a
present key keeps its place; erasing a key and writing it again moves it to the end. Agents, tasks,
conversations, capabilities, parameters and memories are all kept in such tables.
-/

namespace Orchestration

/-- Keys with their values, in order of arrival. -/
abbrev Table (α : Type) := List (String × α)

namespace Table

variable {α β : Type}

/-- The value under a key. -/
def find? : Table α → String → Option α
  | [], _ => none
  | (k, v) :: rest, key => if k = key then some v else find? rest key

/-- The key is present. -/
def contains (table : Table α) (key : String) : Bool :=
  (find? table key).isSome

/-- Writes a value under a key: in place if the key is present, at the end if it is not. -/
def insert : Table α → String → α → Table α
  | [], key, value => [(key, value)]
  | (k, v) :: rest, key, value =>
    if k = key then (k, value) :: rest else (k, v) :: insert rest key value

/-- Removes a key with its value. -/
def erase (table : Table α) (key : String) : Table α :=
  table.filter (·.1 ≠ key)

/-- The keys in order of arrival. -/
def keys (table : Table α) : List String :=
  table.map (·.1)

/-- The values in order of arrival. -/
def values (table : Table α) : List α :=
  table.map (·.2)

/-- Writes all entries of the second table into the first one. -/
def merge (table entries : Table α) : Table α :=
  entries.foldl (fun table entry => insert table entry.1 entry.2) table

/-- The table that results from writing the entries one after the other. -/
def ofEntries (entries : List (String × α)) : Table α :=
  merge [] entries

/-- Adds to the count under a key, which starts from zero. -/
def count (table : Table Nat) (key : String) : Table Nat :=
  insert table key ((find? table key).getD 0 + 1)

/-- How often each text occurs, in order of first occurrence. -/
def countAll (keys : List String) : Table Nat :=
  keys.foldl count []

/-- The entries in ascending order of their keys. -/
def sorted (table : Table α) : Table α :=
  List.mergeSort table fun a b => decide (a.1 ≤ b.1)

@[simp]
theorem find?_nil (key : String) : find? ([] : Table α) key = none := rfl

/-- What is written under a key is found there. -/
@[simp]
theorem find?_insert_self (table : Table α) (key : String) (value : α) :
    find? (insert table key value) key = some value := by
  induction table with
  | nil => simp [insert, find?]
  | cons entry rest ih =>
    by_cases h : entry.1 = key <;> simp [insert, find?, h, ih]

/-- Writing under one key leaves the values under the others alone. -/
theorem find?_insert_of_ne (table : Table α) {key other : String} (value : α) (h : other ≠ key) :
    find? (insert table key value) other = find? table other := by
  induction table with
  | nil => simp [insert, find?, Ne.symm h]
  | cons entry rest ih =>
    by_cases hk : entry.1 = key
    · have : key ≠ other := Ne.symm h
      simp [insert, find?, hk, this]
    · simp [insert, find?, hk, ih]

/-- A key is found after a write if it was written or found before. -/
theorem find?_insert (table : Table α) (key other : String) (value : α) :
    find? (insert table key value) other =
      if other = key then some value else find? table other := by
  split
  next h => rw [h, find?_insert_self]
  next h => exact find?_insert_of_ne table value h

/-- Of two tables behind each other, the first one counts where it has the key. -/
theorem find?_append (first second : Table α) (key : String) :
    find? (first ++ second) key = (find? first key).or (find? second key) := by
  induction first with
  | nil => rfl
  | cons entry rest ih =>
    rw [List.cons_append, find?, find?]
    split
    · rfl
    · exact ih

/-- What is in a table after a write was written or was there before. -/
theorem mem_insert {table : Table α} {key : String} {value : α} {entry : String × α}
    (h : entry ∈ insert table key value) : entry = (key, value) ∨ entry ∈ table := by
  induction table with
  | nil => exact .inl (List.mem_singleton.mp h)
  | cons first rest ih =>
    by_cases hk : first.1 = key
    · subst hk
      rw [insert, if_pos rfl] at h
      exact (List.mem_cons.mp h).imp_right (List.mem_cons_of_mem _)
    · rw [insert, if_neg hk] at h
      rcases List.mem_cons.mp h with rfl | hrest
      · exact .inr List.mem_cons_self
      · exact (ih hrest).imp_right (List.mem_cons_of_mem _)

/-- Writing what is there already changes nothing. -/
theorem insert_of_find?_eq_some {table : Table α} {key : String} {value : α}
    (h : find? table key = some value) : insert table key value = table := by
  induction table with
  | nil => cases h
  | cons entry rest ih =>
    by_cases hk : entry.1 = key
    · rw [find?, if_pos hk] at h
      rw [insert, if_pos hk, ← Option.some.inj h]
    · rw [find?, if_neg hk] at h
      rw [insert, if_neg hk, ih h]

/-- A key that is not found is written at the end. -/
theorem insert_of_find?_eq_none {table : Table α} {key : String} (value : α)
    (h : find? table key = none) : insert table key value = table ++ [(key, value)] := by
  induction table with
  | nil => rfl
  | cons entry rest ih =>
    by_cases hk : entry.1 = key
    · simp [find?, hk] at h
    · simp only [find?, hk, if_false] at h
      simp [insert, hk, ih h]

/-- Of two writes under the same key, the second one counts. -/
theorem insert_insert_self (table : Table α) (key : String) (old value : α) :
    insert (insert table key old) key value = insert table key value := by
  induction table with
  | nil => simp [insert]
  | cons entry rest ih =>
    by_cases hk : entry.1 = key
    · simp [insert, hk]
    · simp [insert, hk, ih]

/-- What is written last under a key is found there, and what was there before if nothing is. -/
theorem find?_merge (table entries : Table α) (key : String) :
    find? (merge table entries) key = (find? (ofEntries entries) key).or (find? table key) := by
  induction entries generalizing table with
  | nil => rfl
  | cons entry rest ih =>
    have hfirst : (find? (insert [] entry.1 entry.2) key).or (find? table key) =
        find? (insert table entry.1 entry.2) key := by
      rw [find?_insert, find?_insert]
      split <;> rfl
    calc find? (merge table (entry :: rest)) key
        = (find? (ofEntries rest) key).or (find? (insert table entry.1 entry.2) key) := ih _
      _ = ((find? (ofEntries rest) key).or (find? (insert [] entry.1 entry.2) key)).or
            (find? table key) := by rw [Option.or_assoc, hfirst]
      _ = (find? (ofEntries (entry :: rest)) key).or (find? table key) := by
        rw [← ih (insert [] entry.1 entry.2)]
        rfl

/-- Entries under different keys that are not found are written at the end, in their order. -/
theorem merge_of_find?_eq_none {table entries : Table α} (hdifferent : (keys entries).Nodup)
    (hnew : ∀ key ∈ keys entries, find? table key = none) :
    merge table entries = table ++ entries := by
  induction entries generalizing table with
  | nil => exact (List.append_nil table).symm
  | cons entry rest ih =>
    obtain ⟨hentry, hrest⟩ : entry.1 ∉ keys rest ∧ (keys rest).Nodup :=
      List.nodup_cons.mp hdifferent
    have hfirst := insert_of_find?_eq_none entry.2 (hnew entry.1 List.mem_cons_self)
    have hnext : ∀ key ∈ keys rest, find? (insert table entry.1 entry.2) key = none := by
      intro key hkey
      have hne : key ≠ entry.1 := fun heq => hentry (heq ▸ hkey)
      rw [find?_insert_of_ne table entry.2 hne]
      exact hnew key (List.mem_cons_of_mem _ hkey)
    have hmerge : merge table (entry :: rest) = merge (insert table entry.1 entry.2) rest := rfl
    rw [hmerge, ih hrest hnext, hfirst, List.append_assoc]
    rfl

/-- The keys of a table are those under which a value is found. -/
theorem mem_keys_iff {table : Table α} {key : String} :
    key ∈ keys table ↔ (find? table key).isSome := by
  induction table with
  | nil => simp [keys]
  | cons entry rest ih =>
    have hkeys : key ∈ keys (entry :: rest) ↔ key = entry.1 ∨ key ∈ keys rest := List.mem_cons
    rw [hkeys, find?]
    split
    next heq => exact iff_of_true (.inl heq.symm) rfl
    next hne => rw [ih, or_iff_right (Ne.symm hne)]

/-- What is found is an entry of the table. -/
theorem mem_of_find? {table : Table α} {key : String} {value : α}
    (h : find? table key = some value) : (key, value) ∈ table := by
  induction table with
  | nil => cases h
  | cons entry rest ih =>
    by_cases hk : entry.1 = key
    · rw [find?, if_pos hk] at h
      cases h
      exact hk ▸ List.mem_cons_self
    · rw [find?, if_neg hk] at h
      exact List.mem_cons_of_mem _ (ih h)

/-- What is in a table that has no key twice is found there. -/
theorem find?_of_mem {table : Table α} (hnodup : (keys table).Nodup) {key : String} {value : α}
    (h : (key, value) ∈ table) : find? table key = some value := by
  induction table with
  | nil => cases h
  | cons entry rest ih =>
    obtain ⟨hentry, hrest⟩ : entry.1 ∉ keys rest ∧ (keys rest).Nodup := List.nodup_cons.mp hnodup
    rcases List.mem_cons.mp h with rfl | hmem
    · exact if_pos rfl
    · have hne : entry.1 ≠ key := fun heq => hentry (heq ▸ List.mem_map_of_mem hmem)
      rw [find?, if_neg hne]
      exact ih hrest hmem

/-- A write in place does not show to whoever cannot tell the new value from the old one. -/
theorem map_insert_of_find?_eq_some {table : Table α} {key : String} {old value : α}
    (hfound : find? table key = some old) {f : String × α → β} (h : f (key, value) = f (key, old)) :
    (insert table key value).map f = table.map f := by
  induction table with
  | nil => cases hfound
  | cons entry rest ih =>
    by_cases hk : entry.1 = key
    · rw [find?, if_pos hk] at hfound
      cases hfound
      subst hk
      rw [insert, if_pos rfl, List.map_cons, List.map_cons, h]
    · rw [find?, if_neg hk] at hfound
      rw [insert, if_neg hk, List.map_cons, List.map_cons, ih hfound]

/-- What a write in place adds to a value, it adds to the whole table. -/
theorem flatMap_insert_perm {table : Table α} {key : String} {old value : α}
    (hfound : find? table key = some old) {f : α → List β} {added : List β}
    (h : f value = f old ++ added) :
    ((values (insert table key value)).flatMap f).Perm ((values table).flatMap f ++ added) := by
  induction table with
  | nil => cases hfound
  | cons entry rest ih =>
    by_cases hk : entry.1 = key
    · rw [find?, if_pos hk] at hfound
      cases hfound
      rw [insert, if_pos hk]
      show (f value ++ (values rest).flatMap f).Perm
        (f entry.2 ++ (values rest).flatMap f ++ added)
      rw [h, List.append_assoc, List.append_assoc]
      exact List.perm_append_comm.append_left _
    · rw [find?, if_neg hk] at hfound
      rw [insert, if_neg hk]
      show (f entry.2 ++ (values (insert rest key value)).flatMap f).Perm
        (f entry.2 ++ (values rest).flatMap f ++ added)
      rw [List.append_assoc]
      exact (ih hfound).append_left _

/-- A key that is found is written in place. -/
theorem keys_insert_of_isSome {table : Table α} {key : String} (value : α)
    (h : (find? table key).isSome) : keys (insert table key value) = keys table := by
  induction table with
  | nil => cases h
  | cons entry rest ih =>
    by_cases hk : entry.1 = key
    · simp [insert, keys, hk]
    · rw [find?, if_neg hk] at h
      rw [insert, if_neg hk]
      exact congrArg (entry.1 :: ·) (ih h)

/-- A write leaves the keys in their places and brings at most one to the end. -/
theorem keys_prefix_insert (table : Table α) (key : String) (value : α) :
    keys table <+: keys (insert table key value) := by
  cases hfind : find? table key with
  | some old =>
    have hpresent : (find? table key).isSome := hfind ▸ rfl
    exact ⟨[], by rw [keys_insert_of_isSome value hpresent, List.append_nil]⟩
  | none =>
    have hkeys : keys (table ++ [(key, value)]) = keys table ++ [key] := List.map_append
    rw [insert_of_find?_eq_none value hfind, hkeys]
    exact List.prefix_append _ _

/-- A table that has no key twice has none twice after a write. -/
theorem nodup_keys_insert {table : Table α} (h : (keys table).Nodup) (key : String) (value : α) :
    (keys (insert table key value)).Nodup := by
  cases hfind : find? table key with
  | some old =>
    rw [keys_insert_of_isSome value (hfind ▸ rfl)]
    exact h
  | none =>
    have hnew : key ∉ keys table := by
      rw [mem_keys_iff, hfind]
      exact Bool.false_ne_true
    have hkeys : keys (table ++ [(key, value)]) = keys table ++ [key] := List.map_append
    rw [insert_of_find?_eq_none value hfind, hkeys, List.nodup_append]
    refine ⟨h, List.pairwise_singleton _ _, ?_⟩
    intro old hold other hother
    rw [List.mem_singleton.mp hother]
    exact fun heq => hnew (heq ▸ hold)

/-- What is found in a table whose values were changed is what was found there, changed. -/
theorem find?_map (table : Table α) (f : α → β) (key : String) :
    find? (table.map fun (k, value) => (k, f value)) key = (find? table key).map f := by
  induction table with
  | nil => rfl
  | cons entry rest ih =>
    rw [List.map_cons, find?, find?, ih]
    split <;> rfl

/-- Counts start from zero and go up by one for each occurrence. -/
theorem find?_foldl_count (table : Table Nat) (texts : List String) (key : String) :
    find? (texts.foldl count table) key =
      if key ∈ texts then some ((find? table key).getD 0 + texts.count key)
      else find? table key := by
  induction texts generalizing table with
  | nil => simp
  | cons text rest ih =>
    rw [List.foldl_cons, ih, count, find?_insert]
    by_cases hkey : key = text
    · subst hkey
      by_cases hrest : key ∈ rest
      · simp [hrest, Nat.add_right_comm, Nat.add_assoc]
      · simp [hrest, List.count_eq_zero_of_not_mem hrest]
    · by_cases hrest : key ∈ rest <;> simp [hrest, hkey, Ne.symm hkey]

theorem find?_countAll (texts : List String) (key : String) :
    find? (countAll texts) key = if key ∈ texts then some (texts.count key) else none := by
  rw [countAll, find?_foldl_count]
  simp

theorem getD_find?_countAll (texts : List String) (key : String) :
    (find? (countAll texts) key).getD 0 = texts.count key := by
  rw [find?_countAll]
  split
  next => rfl
  next hmem => exact (List.count_eq_zero_of_not_mem hmem).symm

/-- What is counted is what occurs. -/
theorem mem_keys_countAll {texts : List String} {key : String} :
    key ∈ keys (countAll texts) ↔ key ∈ texts := by
  rw [mem_keys_iff, find?_countAll]
  split <;> simp_all

theorem nodup_keys_countAll (texts : List String) : (keys (countAll texts)).Nodup := by
  have hfold : ∀ table : Table Nat, (keys table).Nodup →
      (keys (texts.foldl count table)).Nodup := by
    induction texts with
    | nil => exact fun _ h => h
    | cons text rest ih => exact fun table h => ih _ (nodup_keys_insert h _ _)
  exact hfold [] List.nodup_nil

/-- The count of a text is the number of its occurrences. -/
theorem eq_count_of_mem_countAll {texts : List String} {key : String} {n : Nat}
    (h : (key, n) ∈ countAll texts) : 0 < n ∧ n = texts.count key := by
  have hfound := find?_of_mem (nodup_keys_countAll texts) h
  rw [find?_countAll] at hfound
  split at hfound
  next hmem =>
    cases hfound
    exact ⟨List.count_pos_iff.mpr hmem, rfl⟩
  next => cases hfound

theorem nodup_keys_erase {table : Table α} (h : (keys table).Nodup) (key : String) :
    (keys (erase table key)).Nodup :=
  h.sublist (List.filter_sublist.map _)

/-- An erased key is not found. -/
@[simp]
theorem find?_erase_self (table : Table α) (key : String) : find? (erase table key) key = none := by
  induction table with
  | nil => rfl
  | cons entry rest ih =>
    by_cases h : entry.1 = key
    · simpa [erase, h] using ih
    · simpa [erase, find?, h] using ih

/-- Erasing one key leaves the values under the others alone. -/
theorem find?_erase_of_ne (table : Table α) {key other : String} (h : other ≠ key) :
    find? (erase table key) other = find? table other := by
  induction table with
  | nil => rfl
  | cons entry rest ih =>
    by_cases hk : entry.1 = key
    · have : entry.1 ≠ other := fun e => h (e ▸ hk)
      simpa [erase, find?, hk, this, Ne.symm h] using ih
    · by_cases ho : entry.1 = other
      · simp [erase, find?, ho, h]
      · simpa [erase, find?, hk, ho] using ih

/-- A key is found after another one was erased if it was found before. -/
theorem find?_erase (table : Table α) (key other : String) :
    find? (erase table key) other = if other = key then none else find? table other := by
  split
  next h => rw [h, find?_erase_self]
  next h => exact find?_erase_of_ne table h

end Table

end Orchestration
