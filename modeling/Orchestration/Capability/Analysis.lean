import Orchestration.Capability
import Orchestration.Decimal.Fixed
import Orchestration.Numeral
import Orchestration.Text.Blank
import Orchestration.Text.Runs
import Orchestration.Value.Display

/-!
# Text analysis

A plugin that looks at the words of a text. A word is a maximal run of ASCII letters, digits and
apostrophes. The plugin gives a summary, figures, or the keywords of the text: its most frequent
words in any letter case, those that occur first before others of the same frequency, without short
words and without words that every text has.
-/

namespace Orchestration.Analysis

/-- The character belongs to a word. -/
def isWordChar (c : Char) : Bool :=
  c.isAlphanum || c = '\''

/-- The words of a text. -/
def words (text : String) : List String :=
  (Text.runs isWordChar text.toList).map String.ofList

/-- A word in lower case. -/
def lowered (word : String) : String :=
  word.map Char.toLower

/-- The character ends a sentence. -/
def isStop (c : Char) : Bool :=
  c = '.' || c = '!' || c = '?'

/-- The number of sentences: runs of characters that do not end a sentence and are not all blank. -/
def sentenceCount (text : String) : Nat :=
  (Text.runs (!isStop ·) text.toList).countP (·.any (!Text.isBlank ·))

/-- The words that are no keywords. -/
def stopwords : List String :=
  ["a", "an", "and", "are", "as", "at", "be", "by", "for", "from", "has", "have", "in", "is", "it",
    "its", "of", "on", "or", "that", "the", "this", "to", "was", "were", "will", "with"]

/-- The word, in lower case, can be a keyword. -/
def isKeyword (word : String) : Bool :=
  !stopwords.contains word && decide (2 < word.length)

/-- The keywords of a text with their numbers of occurrences, in order of first occurrence. -/
def keywordCounts (text : String) : Table Nat :=
  Table.countAll (((words text).map lowered).filter isKeyword)

/-- The keywords of a text, from the most frequent one to the least frequent one. -/
def ranking (text : String) : List String :=
  ((keywordCounts text).mergeSort fun a b => decide (b.2 ≤ a.2)).map (·.1)

/-- The first keywords of the ranking; none if their number is not positive. -/
def keywords (text : String) (limit : Int) : List String :=
  (ranking text).take limit.toNat

/-- The number of words, of different words, and of characters. -/
def summary (text : String) : String :=
  let words := words text
  Decimal.integerText words.length ++ " words (" ++
    Decimal.integerText (words.map lowered).eraseDups.length ++ " unique), " ++
    Decimal.integerText text.length ++ " characters"

/-- The mean length of the words; zero if there are none. -/
def averageWordLength (words : List String) : Float :=
  let letters : Nat := (words.map String.length).foldr (· + ·) 0
  if words.isEmpty then 0.0 else Decimal.ofInteger letters / Decimal.ofInteger words.length

/-- The figures of a text. -/
def statistics (text : String) : Value :=
  let words := words text
  .record [("characters", .int text.length), ("words", .int words.length),
    ("sentences", .int (sentenceCount text)),
    ("avg_word_length", .float (Decimal.roundTo (averageWordLength words) 2))]

/-- The fault of a text, as it is shown, that is no numeral. -/
def notANumeral (shown : String) : Fault :=
  .foreign .value ("invalid literal for int() with base 10: " ++
    String.ofList (shown.toList.take 200))

/-- The integer that a value stands for. Numbers are rounded toward zero. -/
def limit (value : Value) : Except Fault Int :=
  match value with
  | .int n => .ok n
  | .bool b => .ok b.toInt
  | .float x =>
    match Decimal.Reading.ofFloat x with
    | .finite value => .ok value.truncated
    | .nan => .error (.foreign .value "cannot convert float NaN to integer")
    | .infinite _ => .error (.foreign .overflow "cannot convert float infinity to integer")
  | .text s =>
    match Numeral.integer? s.toList with
    | none => .error (notANumeral (Text.quoted s))
    | some n =>
      let digits := Numeral.digitCount s.toList
      if digits > Numeral.digitLimit then .error (.tooManyDigits digits) else .ok n
  | .kind k => .error (notANumeral k.shown)
  | value =>
    .error (.wrongType ("int() argument must be a string, a bytes-like object or a real number, " ++
        "not '" ++ value.typeName ++ "'"))

/-- Answers a call. -/
def execute (text : String) (parameters : Fields) : Except Fault Value := do
  let type ← ((Table.find? parameters "type").getD (.text "summary")).display
  match type with
  | "summary" => .ok (.text (summary text))
  | "statistics" => .ok (statistics text)
  | "keywords" =>
    (limit ((Table.find? parameters "top_n").getD (.int 5))).map fun n => .texts (keywords text n)
  | _ => .error (.foreign .value ("unsupported analysis type: " ++ Text.quoted type))

/-- The analysis. -/
def plugin : Plugin where
  name := "data_analysis"
  description := "Analyse input text: type=summary | statistics | keywords"
  execute _ text parameters := execute text parameters

end Orchestration.Analysis
