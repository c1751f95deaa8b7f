import Storefront.Text.Category
import Storefront.Text.Composition
import Storefront.Text.JoiningTable

/-!
# Joiners

Two characters show nothing and say how the letters around them are joined: `U+200D` joins them and
`U+200C` keeps them apart. They may stand only where that makes a difference: behind a mark that
drops a vowel, and to keep apart also between two letters that would be joined – the marks on
letters do not count there (`Text.joinersFit`).
-/

namespace Storefront.Text

/-- The character that keeps letters apart. -/
def nonJoiner : Char := '\u200C'

/-- The character that joins letters. -/
def joiner : Char := '\u200D'

/-- Whether a character is one of the two. -/
def isJoiner (c : Char) : Bool :=
  c = nonJoiner || c = joiner

/-- The class of the marks that drop a vowel. -/
def vowelDroppingClass : Nat := 9

/-- Whether letters are joined over a character. -/
def isTransparent (c : Char) : Bool :=
  isNonspacing c || c.toNat = 0x1E94B

/-- Whether a letter is joined to the next one. -/
def joinsNext (c : Char) : Bool :=
  inRanges bothJoiningRanges c.toNat || inRanges nextJoiningRanges c.toNat

/-- Whether a letter is joined to the one before it. -/
def joinsLast (c : Char) : Bool :=
  inRanges bothJoiningRanges c.toNat || inRanges lastJoiningRanges c.toNat

/-- The nearest character that letters are not joined over. -/
def nearest? (cs : List Char) : Option Char :=
  cs.find? fun c => !isTransparent c

/-- Whether a joiner may stand between characters, of which those before it are given last
first. -/
def joinerFits (before : List Char) (c : Char) (rest : List Char) : Bool :=
  before.head?.any (fun last => combiningClass last = vowelDroppingClass) ||
    (c = nonJoiner && (nearest? before).any joinsNext && (nearest? rest).any joinsLast)

/-- **Whether the joiners of characters may stand where they do**; those before are given last
first. -/
def joinersFit (before : List Char) : List Char → Bool
  | [] => true
  | c :: rest => (!isJoiner c || joinerFits before c rest) && joinersFit (c :: before) rest

end Storefront.Text
