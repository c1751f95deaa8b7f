/-!
# Identifiers

The names that go into a statement unquoted – the index, the ranking formula, the weighted
fields – have to be identifiers: ASCII letters, digits and underscores, no digit in front. A name
is tested once, when it becomes an `Sql.Identifier`.
-/

namespace Storefront.Sql

/-- What an identifier may begin with. -/
def isIdentifierStart (c : Char) : Bool :=
  c.isAlpha || c = '_'

/-- What an identifier may go on with. -/
def isIdentifierChar (c : Char) : Bool :=
  c.isAlphanum || c = '_'

/-- Whether the text is an identifier. -/
def isIdentifier (s : String) : Bool :=
  match s.toList with
  | [] => false
  | c :: cs => isIdentifierStart c && cs.all isIdentifierChar

/-- An identifier is not empty and goes on as it began. -/
theorem isIdentifierChar_of_isIdentifier {s : String} (h : isIdentifier s = true) :
    s.toList ≠ [] ∧ ∀ c ∈ s.toList, isIdentifierChar c = true := by
  rw [isIdentifier] at h
  split at h
  · cases h
  · rename_i first rest hs
    rw [Bool.and_eq_true, List.all_eq_true] at h
    obtain ⟨hfirst, hrest⟩ := h
    rw [hs]
    refine ⟨List.cons_ne_nil _ _, fun c hc => ?_⟩
    rcases List.mem_cons.1 hc with rfl | hc
    · simp only [isIdentifierStart, Bool.or_eq_true, decide_eq_true_eq] at hfirst
      rcases hfirst with hfirst | hfirst
      · simp [isIdentifierChar, Char.isAlphanum, hfirst]
      · simp [isIdentifierChar, hfirst]
    · exact hrest c hc

/-- A name that may stand in a statement without quotes. -/
structure Identifier where
  text : String
  isIdentifier_text : isIdentifier text = true
deriving DecidableEq

/-- The identifier of a text that is one. -/
def Identifier.ofString? (s : String) : Option Identifier :=
  if h : isIdentifier s then some ⟨s, h⟩ else none

theorem Identifier.ofString?_eq_some_iff {s : String} {name : Identifier} :
    Identifier.ofString? s = some name ↔ name.text = s := by
  simp only [ofString?]
  split
  · constructor
    · rintro h; cases h; rfl
    · rintro rfl; rfl
  · rename_i hs
    constructor
    · simp
    · rintro rfl; exact absurd name.isIdentifier_text hs

end Storefront.Sql
