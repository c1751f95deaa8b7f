import Storefront.Sql.Literal

/-!
# The wording of a text query

What a shopper types is a list of words, all of which have to match. Each word may be matched in
several variants – the word itself, a synonym, the beginning of a longer word – of which one is
enough. So a wording is a conjunction of disjunctions, and `Wording.expression` writes it in the
engine's full-text language: juxtaposition for "and", a bar between parentheses for "or", quotes
around a phrase, a star after the beginning of a word.

`Wording.plain` is the wording without any variants.
-/

namespace Storefront

open Text Sql

/-- One way to match a word of the query. -/
inductive Variant where
  /-- A word or phrase, matched as it stands. -/
  | exact (term : String)
  /-- The beginning of a word. -/
  | start (term : String)
deriving DecidableEq

/-- The ways to match one word of the query; the first is the word itself. -/
structure Alternatives where
  variants : List Variant
deriving DecidableEq

/-- A text query: every one of the groups has to match, in one of its variants. -/
structure Wording where
  groups : List Alternatives
deriving DecidableEq

/-- The variant in the full-text language. -/
def Variant.expression : Variant → String
  | .exact term => if isPhrase term then "\"" ++ escapeMatch term ++ "\"" else escapeMatch term
  | .start term => escapeMatch term ++ "*"

/-- The group in the full-text language; a single variant needs no parentheses. -/
def Alternatives.expression (group : Alternatives) : String :=
  match group.variants with
  | [variant] => variant.expression
  | variants => "(" ++ joinWith " | " (variants.map Variant.expression) ++ ")"

namespace Wording

/-- The wording of a text without any variants: each word as it stands. -/
def plain (text : String) : Wording :=
  ⟨(words text).map fun word => ⟨[.exact word]⟩⟩

/-- Whether the wording asks for nothing. -/
def isEmpty (wording : Wording) : Bool :=
  wording.groups.isEmpty

/-- **The wording in the full-text language**, escaped for the literal of a `MATCH`. -/
def expression (wording : Wording) : String :=
  joinWith " " (wording.groups.map Alternatives.expression)

end Wording

end Storefront
