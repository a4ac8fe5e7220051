import Mathlib.Algebra.BigOperators.Ring.Finset
import Mathlib.Data.List.Pairwise
import Orchestration.Table

/-!
# Sorted lists and counts

Whoever lists something from the oldest to the newest one gets every item once, and items of the
same age in the order in which they were kept (`SortedBy`). Sorting by merging does that
(`sortedBy_mergeSort`).

The counts of a list of texts add up to the length of the list (`sum_values_countAll`), and stand in
order of first occurrence (`pairwise_keys_countAll`). A name that may occur in several lists is in
as many of them as it occurs exactly if no list has it twice (`sum_count_eq_countP_mem_iff`).
-/

namespace Orchestration

/-! ## Lists in the order of a key -/

section Sorted

variable {α : Type}

/-- The second list has the items of the first one in ascending order of their keys; items with the
same key are in the same order. -/
structure SortedBy (key : α → Int) (items sorted : List α) : Prop where
  perm : sorted.Perm items
  ascending : sorted.Pairwise fun a b => key a ≤ key b
  ties : ∀ k, sorted.filter (key · = k) = items.filter (key · = k)

theorem sortedBy_mergeSort (key : α → Int) (items : List α) :
    SortedBy key items (items.mergeSort fun a b => decide (key a ≤ key b)) := by
  let le (a b : α) : Bool := decide (key a ≤ key b)
  have htrans : ∀ a b c, le a b → le b c → le a c := by
    simp only [le, decide_eq_true_eq]
    exact fun _ _ _ => Int.le_trans
  have htotal : ∀ a b, le a b || le b a := by
    simp only [le, Bool.or_eq_true, decide_eq_true_eq]
    exact fun _ _ => Int.le_total _ _
  have hperm := List.mergeSort_perm items le
  refine ⟨hperm, ?_, fun k => ?_⟩
  · exact (List.pairwise_mergeSort htrans htotal items).imp fun h => of_decide_eq_true h
  · let tied := items.filter (key · = k)
    have hequal : ∀ item ∈ tied, key item = k :=
      fun item hmem => of_decide_eq_true (List.mem_filter.mp hmem).2
    -- Items of one key are sorted as they stand, and the sort leaves what is sorted in its order.
    have hsorted : tied.Pairwise fun a b => le a b := by
      refine List.pairwise_of_forall_mem_list fun a ha b hb => ?_
      simp only [le, decide_eq_true_eq, hequal a ha, hequal b hb]
      exact Int.le_refl _
    have hsub : tied.Sublist (items.mergeSort le) :=
      List.sublist_mergeSort htrans htotal hsorted List.filter_sublist
    have hkept : tied.filter (key · = k) = tied :=
      List.filter_eq_self.mpr fun item hmem => decide_eq_true (hequal item hmem)
    have hfilter := hsub.filter fun item => decide (key item = k)
    rw [hkept] at hfilter
    exact (hfilter.eq_of_length (hperm.filter _).length_eq.symm).symm

/-- Sorting refines the order in which the items stood. -/
theorem SortedBy.pairwise {key : α → Int} {items sorted : List α} {R : α → α → Prop}
    (h : SortedBy key items sorted) (hitems : items.Pairwise R) :
    sorted.Pairwise fun a b => key a < key b ∨ key a = key b ∧ R a b := by
  rw [List.pairwise_iff_forall_sublist]
  intro a b hsub
  have hle : key a ≤ key b := List.pairwise_iff_forall_sublist.mp h.ascending hsub
  obtain hlt | heq := Int.lt_or_eq_of_le hle
  · exact .inl hlt
  · -- Both are among the items of one key, which stand as they stood.
    have htied := hsub.filter fun item => decide (key item = key b)
    rw [h.ties] at htied
    have hitem : [a, b].Sublist items := by
      simpa [heq] using htied.trans List.filter_sublist
    exact .inr ⟨heq, List.pairwise_iff_forall_sublist.mp hitems hitem⟩

end Sorted

/-! ## Counts of texts -/

namespace Table

theorem values_countAll (texts : List String) :
    values (countAll texts) = (keys (countAll texts)).map texts.count := by
  rw [values, keys, List.map_map]
  exact List.map_congr_left fun _ hmem => (eq_count_of_mem_countAll hmem).2

theorem keys_count (table : Table Nat) (key : String) :
    keys (count table key) = if key ∈ keys table then keys table else keys table ++ [key] := by
  rw [count]
  split
  next hmem =>
    exact keys_insert_of_isSome _ (mem_keys_iff.mp hmem)
  next hnew =>
    rw [mem_keys_iff, Bool.not_eq_true, Option.isSome_eq_false_iff, Option.isNone_iff_eq_none]
      at hnew
    rw [insert_of_find?_eq_none _ hnew]
    exact List.map_append

/-- Of the texts that are counted, those come first that occur first among all texts. -/
theorem pairwise_keys_countAll (p : String → Bool) (texts : List String) :
    (keys (countAll (texts.filter p))).Pairwise fun a b => texts.idxOf a < texts.idxOf b := by
  -- Whoever counts one more text, at the end, leaves the places of the texts before it alone.
  induction texts using List.reverseRecOn with
  | nil => exact .nil
  | append_singleton texts text ih =>
    have hmem : ∀ key ∈ keys (countAll (texts.filter p)), key ∈ texts := fun key hkey =>
      (List.mem_filter.mp (mem_keys_countAll.mp hkey)).1
    have hplace : ∀ key ∈ texts, (texts ++ [text]).idxOf key = texts.idxOf key := by
      intro key hkey
      rw [List.idxOf_append, if_pos hkey]
    have hbefore : (keys (countAll (texts.filter p))).Pairwise fun a b =>
        (texts ++ [text]).idxOf a < (texts ++ [text]).idxOf b := by
      refine ih.imp_of_mem fun ha hb hlt => ?_
      rwa [hplace _ (hmem _ ha), hplace _ (hmem _ hb)]
    rw [List.filter_append]
    by_cases htext : p text = true
    · rw [List.filter_cons_of_pos htext, List.filter_nil, countAll, List.foldl_append]
      show (keys (count (countAll (texts.filter p)) text)).Pairwise _
      rw [keys_count]
      split
      next => exact hbefore
      next hnew =>
        have hnone : text ∉ texts := fun h =>
          hnew (mem_keys_countAll.mpr (List.mem_filter.mpr ⟨h, htext⟩))
        rw [List.pairwise_append]
        refine ⟨hbefore, List.pairwise_singleton _ _, fun key hkey last hlast => ?_⟩
        cases List.mem_singleton.mp hlast
        rw [hplace key (hmem key hkey), List.idxOf_append, if_neg hnone]
        have hlt := List.idxOf_lt_length_of_mem (hmem key hkey)
        omega
    · rw [List.filter_cons_of_neg htext, List.filter_nil, List.append_nil]
      exact hbefore

theorem sum_values_count (table : Table Nat) (key : String) :
    (values (count table key)).sum = (values table).sum + 1 := by
  have hinsert : ∀ n, (values (insert table key ((find? table key).getD 0 + n))).sum =
      (values table).sum + n := by
    intro n
    induction table with
    | nil => simp [insert, values]
    | cons entry rest ih =>
      by_cases hk : entry.1 = key
      · simp only [find?, insert, if_pos hk]
        show entry.2 + n + (values rest).sum = entry.2 + (values rest).sum + n
        omega
      · simp only [find?, insert, if_neg hk]
        show entry.2 + (values _).sum = entry.2 + (values rest).sum + n
        rw [ih, Nat.add_assoc]
  exact hinsert 1

/-- Over all texts, the counts add up to the number of occurrences. -/
theorem sum_values_countAll (texts : List String) :
    (values (countAll texts)).sum = texts.length := by
  have hfold : ∀ table : Table Nat,
      (values (texts.foldl count table)).sum = (values table).sum + texts.length := by
    induction texts with
    | nil => exact fun _ => rfl
    | cons text rest ih =>
      intro table
      rw [List.foldl_cons, ih, sum_values_count, List.length_cons]
      omega
  exact (hfold []).trans (Nat.zero_add _)

end Table

/-! ## Names in lists -/

section Names

variable (names : List (List String)) (name : String)

/-- A name is in no more lists than it occurs. -/
theorem countP_mem_le_sum_count :
    (names.countP fun list => name ∈ list) ≤ (names.map (·.count name)).sum := by
  induction names with
  | nil => exact Nat.le_refl _
  | cons list rest ih =>
    rw [List.countP_cons, List.map_cons, List.sum_cons]
    by_cases hmem : name ∈ list
    · have hpositive : 0 < list.count name := List.count_pos_iff.mpr hmem
      rw [if_pos (decide_eq_true hmem)]
      omega
    · rw [if_neg (by simpa using hmem)]
      omega

/-- A name is in as many lists as it occurs exactly if no list has it twice. -/
theorem sum_count_eq_countP_mem_iff :
    (names.map (·.count name)).sum = (names.countP fun list => name ∈ list) ↔
      ∀ list ∈ names, list.count name ≤ 1 := by
  induction names with
  | nil => exact iff_of_true rfl nofun
  | cons list rest ih =>
    have hle := countP_mem_le_sum_count rest name
    rw [List.forall_mem_cons, ← ih, List.countP_cons, List.map_cons, List.sum_cons]
    by_cases hmem : name ∈ list
    · have hpositive : 0 < list.count name := List.count_pos_iff.mpr hmem
      rw [if_pos (decide_eq_true hmem)]
      omega
    · have hzero : list.count name = 0 := List.count_eq_zero_of_not_mem hmem
      rw [if_neg (by simpa using hmem)]
      omega

end Names

end Orchestration
