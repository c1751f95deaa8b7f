import Storefront.Address.Punycode
import Storefront.Text.Direction
import Storefront.Text.Variant
import Storefront.Text.Words

/-!
# Names of domains

A name is made of labels with points between them, and its characters may be those of any script.
It is read in the form in which equal names are equal (`Text.nameForm?`); a label that stands for
another one is replaced by it, which then has to be in that form already.

A label does not begin with a mark, has joiners only where they belong, and is not very long unless
it is ASCII. Where a letter of any label runs to the left, every label keeps to one direction.

* `DomainName.labels?` – the labels of a name, none if it is no name.
-/

namespace Storefront.DomainName

open Text

/-- The greatest length of what stands for a label. -/
def maxEncoded : Nat := 2000

/-- The greatest length of a label that is not ASCII. -/
def maxLength : Nat := 1000

/-- The label that one stands for, itself if for no other. -/
def spelt? : List Char → Option (List Char)
  | 'x' :: 'n' :: '-' :: '-' :: rest =>
    if rest.length ≤ maxEncoded then (Punycode.decode? rest).filter isNameForm else none
  | label => some label

/-- Whether a name may have a label, whatever the others are. -/
def isLabel (label : List Char) : Bool :=
  !label.head?.any isMark && joinersFit [] label &&
    (label.all isAscii || label.length ≤ maxLength)

/-- Whether each label keeps to its direction, should any character run to the left. -/
def keepDirections (labels : List (List Char)) : Bool :=
  !labels.any (·.any isLeftward) || labels.all keepsDirection

/-- **The labels of a name.** -/
def labels? (name : List Char) : Option (List (List Char)) := do
  let form ← nameForm? name
  let labels ← (fieldsBy '.' form).mapM spelt?
  if labels.all isLabel && keepDirections labels then some labels else none

end Storefront.DomainName
