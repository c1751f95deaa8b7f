import Storefront.Text.Category
import Storefront.Text.Joining
import Storefront.Text.Lowercase
import Storefront.Text.VariantTable

/-!
# What characters stand for in names

A name of a domain is compared without regard to case, width and ornament. Each character that is
not taken apart therefore stands for text of its own (`Text.variant?`): a letter for itself in lower
case, a variant for what it is a variant of, some for nothing at all. What is written by nothing
stands in no name, joiners excepted, and neither do a few characters that could be taken for a point
of their own or for a blank.
-/

namespace Storefront.Text

/-- The tables of characters that stand for the same text from a first to a last. -/
def variantTables : List (List (Nat × Nat × List Nat)) :=
  [letterVariants, ideographVariants, squareVariants, formVariants, wideVariants]

/-- The codes that a variant stands for. -/
def variantCodes? (n : Nat) : Option (List Nat) :=
  match shiftedVariants.find? fun (first, last, _) => first ≤ n && n ≤ last with
  | some (first, _, target) => some [target + (n - first)]
  | none =>
    variantTables.findSome? fun table =>
      (table.find? fun (first, last, _) => first ≤ n && n ≤ last).map (·.2.2)

/-- Whether a character beyond ASCII stands in no name. -/
def isRefused (c : Char) : Bool :=
  inRanges refusedRanges c.toNat || (isFormless c && !isJoiner c)

/-- **The text that a character stands for in a name**; none if it stands in no name. -/
def variant? (c : Char) : Option (List Char) :=
  if isAscii c then some [c.toLower]
  else if inRanges ignoredRanges c.toNat then some []
  else if isRefused c then none
  else
    match variantCodes? c.toNat with
    | some codes => some (codes.map Char.ofNat)
    | none => some [lowerOne c]

/-- **The form that text has in a name**, in which equal names are equal: each piece of each
character gives way to what it stands for, and the rest is composed. -/
def nameForm? (cs : List Char) : Option (List Char) :=
  ((cs.flatMap pieces).mapM variant?).map fun texts => composed texts.flatten

/-- Whether text is its own form in a name, with nothing in it that stands for nothing. -/
def isNameForm (cs : List Char) : Bool :=
  !(cs.flatMap pieces).any (fun c => variant? c = some []) && nameForm? cs = some cs

end Storefront.Text
