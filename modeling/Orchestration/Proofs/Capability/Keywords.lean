import Orchestration.Capability.Analysis
import Orchestration.Proofs.Collections
import Orchestration.Proofs.Text.Runs

/-!
# The keywords of a text

A text is read as its words in lower case (`Says`). The ranking of what is read has every word that
can be a keyword once, those that occur more often before others, and among those that occur equally
often those that occur first (`IsRanking`). There is one ranking (`IsRanking.eq`), and the analysis
answers with its first words, as many as it is asked for.

The main statement is `keywords_ranked`.
-/

namespace Orchestration.Analysis

/-! ## What is asked for -/

/-- The character belongs to a word: it is a letter or a digit, in ASCII, or an apostrophe. -/
def InWord (c : Char) : Prop :=
  'A' ≤ c ∧ c ≤ 'Z' ∨ 'a' ≤ c ∧ c ≤ 'z' ∨ '0' ≤ c ∧ c ≤ '9' ∨ c = '\''

/-- The words of the text, in lower case, from left to right. -/
def Says (text : String) (found : List String) : Prop :=
  ∃ runs, Text.MaximalRuns InWord text.toList runs ∧
    found = runs.map fun run => lowered (String.ofList run)

/-- The first word ranks before the second one: it occurs more often, or equally often and first. -/
def Precedes (found : List String) (a b : String) : Prop :=
  found.count b < found.count a ∨ found.count a = found.count b ∧ found.idxOf a < found.idxOf b

/-- The ranking of the words that are longer than two characters and no stopwords. -/
structure IsRanking (found ranked : List String) : Prop where
  distinct : ranked.Nodup
  mem_iff : ∀ word, word ∈ ranked ↔ word ∈ found ∧ 2 < word.length ∧ word ∉ stopwords
  sorted : ranked.Pairwise (Precedes found)

/-- The first words of the ranking, as many as the number says or all if there are fewer. There are
none if the number is not positive. -/
def Leads (text : String) (n : Int) (answer : List String) : Prop :=
  ∃ found ranked, Says text found ∧ IsRanking found ranked ∧ answer = ranked.take n.toNat

/-- The parameters ask for that number of keywords. -/
structure Asks (parameters : Fields) (n : Int) : Prop where
  type : Table.find? parameters "type" = some (.text "keywords")
  number : Table.find? parameters "top_n" = some (.int n)

/-! ## Reading the words -/

/-- The test for characters of words is right. -/
theorem isWordChar_iff (c : Char) : isWordChar c = true ↔ InWord c := by
  have hclasses : isWordChar c = (c.isUpper || c.isLower || c.isDigit || decide (c = '\'')) := rfl
  have hupper : c.isUpper = decide ('A' ≤ c ∧ c ≤ 'Z') := rfl
  have hlower : c.isLower = (decide ('a' ≤ c) && decide (c ≤ 'z')) := rfl
  have hdigit : c.isDigit = (decide ('0' ≤ c) && decide (c ≤ '9')) := rfl
  simp only [hclasses, hupper, hlower, hdigit, InWord, Bool.or_eq_true, Bool.and_eq_true,
    decide_eq_true_eq, or_assoc]

/-- A text says the words that its runs are, in small letters. -/
theorem says_iff {text : String} {found : List String} :
    Says text found ↔ found = (words text).map lowered := by
  have hwords : (words text).map lowered =
      (Text.runs isWordChar text.toList).map fun run => lowered (String.ofList run) := by
    rw [words, List.map_map]
    rfl
  constructor
  · rintro ⟨runs, hruns, rfl⟩
    rw [hwords, (Text.runs_eq_iff isWordChar_iff).mpr hruns]
  · rintro rfl
    exact ⟨_, (Text.runs_eq_iff isWordChar_iff).mp rfl, hwords⟩

/-! ## Ranking the words -/

section Ranking

variable {found ranked : List String}

/-- A keyword is a word that is long enough and no stopword. -/
theorem isKeyword_iff {word : String} :
    isKeyword word = true ↔ 2 < word.length ∧ word ∉ stopwords := by
  simp [isKeyword, and_comm]

/-- Of two words at most one precedes the other. -/
theorem Precedes.asymm {a b : String} (h : Precedes found a b) : ¬ Precedes found b a := by
  unfold Precedes at *
  omega

/-- There is one ranking. -/
theorem IsRanking.eq {other : List String} (h : IsRanking found ranked)
    (hother : IsRanking found other) : ranked = other := by
  have hperm : ranked.Perm other := by
    refine (List.perm_ext_iff_of_nodup h.distinct hother.distinct).mpr fun word => ?_
    rw [h.mem_iff, hother.mem_iff]
  refine List.Perm.eq_of_pairwise ?_ h.sorted hother.sorted hperm
  exact fun a b _ _ hab hba => absurd hba hab.asymm

/-- The words that are counted are the keywords of the text. -/
theorem mem_keys_keywordCounts {text word : String} : word ∈ (keywordCounts text).keys ↔
    word ∈ (words text).map lowered ∧ 2 < word.length ∧ word ∉ stopwords := by
  rw [keywordCounts, Table.mem_keys_countAll, List.mem_filter, isKeyword_iff]

/-- Other words than keywords do not change how often a keyword occurs. -/
theorem count_of_mem_keywordCounts {text word : String} {n : Nat}
    (h : (word, n) ∈ keywordCounts text) : ((words text).map lowered).count word = n := by
  have hkey : word ∈ (keywordCounts text).keys := List.mem_map_of_mem h
  have hkeyword : isKeyword word = true := isKeyword_iff.mpr (mem_keys_keywordCounts.mp hkey).2
  rw [(Table.eq_count_of_mem_countAll h).2, List.count_filter hkeyword]

/-- The counts come in the order in which the words first appear. -/
theorem pairwise_keywordCounts (text : String) : (keywordCounts text).Pairwise fun a b =>
    ((words text).map lowered).idxOf a.1 < ((words text).map lowered).idxOf b.1 := by
  have hkeys := Table.pairwise_keys_countAll isKeyword ((words text).map lowered)
  rwa [Table.keys, List.pairwise_map] at hkeys

/-- Among words of the same number, sorting by the numbers keeps the order of first occurrence. -/
theorem isRanking_ranking (text : String) :
    IsRanking ((words text).map lowered) (ranking text) := by
  let key (entry : String × Nat) : Int := -entry.2
  have hsorted := sortedBy_mergeSort key (keywordCounts text)
  have hranking : ranking text =
      ((keywordCounts text).mergeSort fun a b => decide (key a ≤ key b)).map (·.1) := by
    simp only [ranking, key, Int.neg_le_neg_iff, Int.ofNat_le]
  have hperm : (ranking text).Perm (keywordCounts text).keys := by
    rw [hranking]
    exact hsorted.perm.map _
  refine ⟨hperm.nodup_iff.mpr (Table.nodup_keys_countAll _), fun word => ?_, ?_⟩
  · rw [hperm.mem_iff, mem_keys_keywordCounts]
  · -- The words were counted in order of first occurrence, and sorting refines that.
    rw [hranking, List.pairwise_map]
    refine (hsorted.pairwise (pairwise_keywordCounts text)).imp_of_mem ?_
    intro a b ha hb hab
    have hfirst := count_of_mem_keywordCounts (hsorted.perm.mem_iff.mp ha)
    have hsecond := count_of_mem_keywordCounts (hsorted.perm.mem_iff.mp hb)
    rw [Precedes, hfirst, hsecond]
    simp only [key] at hab
    omega

end Ranking

/-! ## Answering -/

/-- The leading keywords are determined by what it means to lead. -/
theorem leads_iff {text : String} {n : Int} {answer : List String} :
    Leads text n answer ↔ answer = keywords text n := by
  constructor
  · rintro ⟨found, ranked, hsays, hranked, rfl⟩
    cases says_iff.mp hsays
    rw [keywords, hranked.eq (isRanking_ranking text)]
  · rintro rfl
    exact ⟨_, ranking text, says_iff.mpr rfl, isRanking_ranking text, rfl⟩

/-- The plugin answers with the keywords if it is asked for a number of them. -/
theorem execute_eq_keywords {parameters : Fields} {n : Int} (h : Asks parameters n)
    (text : String) : execute text parameters = .ok (.texts (keywords text n)) := by
  simp [execute, h.type, h.number, limit, Value.display, Except.map, bind, Except.bind]

/-- An analysis that is asked for keywords answers with the first words of the ranking, each of them
once, and goes on with more words if it is asked for more of them. -/
theorem keywords_ranked (text : String) {parameters : Fields} {n : Int} (h : Asks parameters n) :
    ∃ answer, execute text parameters = .ok (.texts answer) ∧
      (∀ other, Leads text n other ↔ other = answer) ∧ answer.Nodup ∧
      ∀ m others, n ≤ m → Asks others m →
        ∃ longer, execute text others = .ok (.texts longer) ∧ answer <+: longer := by
  refine ⟨keywords text n, execute_eq_keywords h text, fun _ => leads_iff, ?_, ?_⟩
  · exact (isRanking_ranking text).distinct.sublist (List.take_sublist _ _)
  · intro m others hle hothers
    refine ⟨keywords text m, execute_eq_keywords hothers text, ?_⟩
    exact List.take_prefix_take_left (by omega)

example : keywords "Orchestration of agents and orchestration of tasks" 2 =
    ["orchestration", "agents"] := by cbv

/-- A text with a stopword and a word in two letter cases. -/
theorem keywords_ranked_orchestration :
    Asks [("type", .text "keywords"), ("top_n", .int 2)] 2 ∧
      ∃ answer, execute "Orchestration of agents and orchestration of tasks"
          [("type", .text "keywords"), ("top_n", .int 2)] = .ok (.texts answer) ∧
        Leads "Orchestration of agents and orchestration of tasks" 2 answer := by
  have hasks : Asks [("type", .text "keywords"), ("top_n", .int 2)] 2 := ⟨rfl, rfl⟩
  obtain ⟨answer, hanswer, hleads, -⟩ :=
    keywords_ranked "Orchestration of agents and orchestration of tasks" hasks
  exact ⟨hasks, answer, hanswer, (hleads answer).mpr rfl⟩

end Orchestration.Analysis
