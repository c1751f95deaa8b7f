import Storefront.Text.Category
import Storefront.Text.DirectionTable

/-!
# Directions

Most letters run to the right and those of some scripts to the left; digits, marks and signs go with
what surrounds them. Text in which both directions meet can be read in two ways, so a name may mix
them only as `Text.keepsDirection` says: each label begins with a letter, holds letters of that
direction only, and ends with one of them or with a digit; and to the left, all its digits are of
one kind.
-/

namespace Storefront.Text

/-- Which way a character runs. -/
inductive Direction where
  | rightward
  | leftward
  | europeanDigit
  | arabicDigit
  /-- It goes where the character before it goes. -/
  | mark
  | neutral
deriving DecidableEq

/-- The direction of a character of ASCII. -/
def asciiDirection (c : Char) : Direction :=
  if c.isDigit then .europeanDigit else if c.isAlpha then .rightward else .neutral

/-- The direction of a character that a name may hold. -/
def direction (c : Char) : Direction :=
  let n := c.toNat
  if isAscii c then asciiDirection c
  else if inRanges leftwardRanges n then .leftward
  else if inRanges arabicDigitRanges n then .arabicDigit
  else if inRanges europeanDigitRanges n then .europeanDigit
  else if inRanges neutralRanges n then .neutral
  else if isNonspacing c && !inRanges rightwardMarks n then .mark
  else .rightward

/-- Whether a character asks for the other direction. -/
def isLeftward (c : Char) : Bool :=
  direction c = .leftward || direction c = .arabicDigit

/-- The directions after which a label that runs to the right may end. -/
def rightwardEnds : List Direction :=
  [.rightward, .europeanDigit]

/-- The directions after which a label that runs to the left may end. -/
def leftwardEnds : List Direction :=
  [.leftward, .europeanDigit, .arabicDigit]

/-- **Whether a label keeps to one direction.** The marks at its end do not count. -/
def keepsDirection (label : List Char) : Bool :=
  let directions := label.map direction
  let lasting := directions.reverse.dropWhile (· = .mark)
  let allIn (ends : List Direction) : Bool :=
    directions.all fun d => ends.contains d || d = .mark || d = .neutral
  match directions.head? with
  | none => true
  | some .rightward => lasting.head?.all rightwardEnds.contains && allIn rightwardEnds
  | some .leftward =>
    lasting.head?.all leftwardEnds.contains && allIn leftwardEnds &&
      !(directions.contains .europeanDigit && directions.contains .arabicDigit)
  | some _ => false

end Storefront.Text
