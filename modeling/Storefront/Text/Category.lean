import Storefront.Text.CategoryTable
import Storefront.Text.Classes

/-!
# Characters without a form, and marks

Three questions about a character that its general category answers: whether anything is written
for it at all (`Text.isFormless`), whether it is a mark on the character before it (`Text.isMark`),
and whether it is one that takes no room of its own (`Text.isNonspacing`).
-/

namespace Storefront.Text

/-- Whether nothing is written for a character. A blank has its room. -/
def isFormless (c : Char) : Bool :=
  c.toNat < 0x20 || c.toNat = 0x7F || inRanges formlessRanges c.toNat

/-- Whether a character is a mark that takes no room of its own. -/
def isNonspacing (c : Char) : Bool :=
  inRanges nonspacingRanges c.toNat

/-- Whether a character is a mark on the one before it. -/
def isMark (c : Char) : Bool :=
  isNonspacing c || inRanges spacingRanges c.toNat

/-- Whether a character is one of ASCII. -/
def isAscii (c : Char) : Bool :=
  c.toNat < 0x80

end Storefront.Text
