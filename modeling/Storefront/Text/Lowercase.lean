import Storefront.Text.CaseTable
import Storefront.Text.Classes

/-!
# Lower case for every script

The full lower case of a text: each character by `Storefront.Text.lowerRuns`, `İ` as an `i` with a
dot above, and the capital sigma by its place in the word – final at the end of a word, medial
elsewhere. The place of a sigma is read off its neighbours (`Text.endsWord`): some cased letter
stands before it and none after, marks and apostrophes being passed over.

Synonyms are compared in this form, so that a term and its query need not agree in case.
-/

namespace Storefront.Text

/-- Whether the character has a case. -/
def isCased (c : Char) : Bool :=
  inRanges casedRanges c.toNat

/-- Whether the character is passed over when the neighbouring letter is sought. -/
def isCaseIgnorable (c : Char) : Bool :=
  inRanges caseIgnorableRanges c.toNat

/-- The lower case of a character that has one of one character; otherwise the character. -/
def lowerOne (c : Char) : Char :=
  let n := c.toNat
  match lowerRuns.find? fun run =>
      run.first ≤ n && n ≤ run.last && (n - run.first) % run.step == 0 with
  | some run => Char.ofNat (n + run.shift).toNat
  | none => c

/-- Whether the nearest character that is not passed over has a case. -/
def nextIsCased (cs : List Char) : Bool :=
  match cs.dropWhile isCaseIgnorable with
  | c :: _ => isCased c
  | [] => false

/-- Whether a letter between `before` (nearest first) and `rest` ends its word. -/
def endsWord (before rest : List Char) : Bool :=
  nextIsCased before && !nextIsCased rest

/-- The lower case of the character `c` between `before` (nearest first) and `rest`. -/
def lowerIn (before : List Char) (c : Char) (rest : List Char) : List Char :=
  if c = 'Σ' then [if endsWord before rest then 'ς' else 'σ']
  else if c = 'İ' then ['i', '\u0307']
  else [lowerOne c]

/-- The lower case of `cs`, which `before` (nearest first) precedes. -/
def lowerAfter (before : List Char) : List Char → List Char
  | [] => []
  | c :: rest => lowerIn before c rest ++ lowerAfter (c :: before) rest

/-- The text in lower case. -/
def lowercase (s : String) : String :=
  String.ofList (lowerAfter [] s.toList)

end Storefront.Text
