import Orchestration.Text.CaseTable

/-!
# Letter case

Lower, upper and title case of whole texts. A character may have several characters as its image,
and a capital sigma becomes the final form at the end of a word: when a cased character stands
before it and none after it, looking through the characters that case mapping ignores. Title case
gives the first character of each maximal run of cased characters its title form and the others
their lower case.
-/

namespace Orchestration.Text

/-- The image of a character under one direction of case mapping. -/
def CaseMap.image (map : CaseMap) (c : Char) : List Char :=
  let code := c.toNat
  match map.expansions.find? (·.1 = code) with
  | some (_, codes) => codes.map Char.ofNat
  | none =>
    match map.runs.find? fun (first, last, step, _) =>
        first ≤ code && code ≤ last && (code - first) % step = 0 with
    | some (first, _, _, target) => [Char.ofNat (target + (code - first))]
    | none => [c]

/-- The character has a case. -/
def isCased (c : Char) : Bool :=
  casedRanges.contains c.toNat

/-- Case mapping looks through the character. -/
def isCaseIgnorable (c : Char) : Bool :=
  caseIgnorableRanges.contains c.toNat

/-- The nearest character that case mapping does not look through has a case. -/
def nearestIsCased (text : List Char) : Bool :=
  match text.find? (!isCaseIgnorable ·) with
  | some c => isCased c
  | none => false

/-- The lower case of a character between `before`, given from right to left, and `after`. -/
def lowerAt (before : List Char) (c : Char) (after : List Char) : List Char :=
  -- A sigma at the end of a word has a form of its own.
  if c = 'Σ' then
    if nearestIsCased before && !nearestIsCased after then ['ς'] else ['σ']
  else
    lowerMap.image c

/-- The lower case of `rest` after the characters `before`, given from right to left. -/
def lowerFrom (before : List Char) : (rest : List Char) → List Char
  | [] => []
  | c :: after => lowerAt before c after ++ lowerFrom (c :: before) after

/-- The title case of `rest` after the characters `before`, given from right to left. -/
def titleFrom (before : List Char) : (rest : List Char) → List Char
  | [] => []
  | c :: after =>
    let inside := match before with
      | [] => false
      | previous :: _ => isCased previous
    (if inside then lowerAt before c after else titleMap.image c) ++ titleFrom (c :: before) after

/-- The text in lower case. -/
def lower (text : String) : String :=
  String.ofList (lowerFrom [] text.toList)

/-- The text in upper case. -/
def upper (text : String) : String :=
  String.ofList (text.toList.flatMap upperMap.image)

/-- The text with each word in title case. -/
def title (text : String) : String :=
  String.ofList (titleFrom [] text.toList)

end Orchestration.Text
