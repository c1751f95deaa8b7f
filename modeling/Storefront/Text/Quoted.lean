import Storefront.Text.Category

/-!
# Text in quotes

A complaint quotes what it is about. Inside the quotes a quote and a backslash are written after a
backslash, a null character, a tabulator and the two line breaks by their letters, and any other
character that does not show by its code (`Text.quoted`). What does not show by itself is what has
no form, what only extends the character before it, and what fills an empty place in a syllable.
-/

namespace Storefront.Text

/-- The letters of Hangul that fill an empty place. -/
def fillers : List Char :=
  ['\u115F', '\u1160', '\u3164', '\uFFA0']

/-- Whether a character does not show by itself. -/
def isHidden (c : Char) : Bool :=
  isFormless c || isNonspacing c || inRanges extendingRanges c.toNat || fillers.contains c

/-- A character as it is written between quotes. -/
def quotedChar (c : Char) : List Char :=
  if c = '"' || c = '\\' then ['\\', c]
  else if c = '\x00' then ['\\', '0']
  else if c = '\t' then ['\\', 't']
  else if c = '\r' then ['\\', 'r']
  else if c = '\n' then ['\\', 'n']
  else if isHidden c then ['\\', 'u', '\x7b'] ++ Nat.toDigits 16 c.toNat ++ ['\x7d']
  else [c]

/-- **Text in double quotes.** -/
def quoted (cs : List Char) : String :=
  String.ofList ('"' :: (cs.flatMap quotedChar ++ ['"']))

end Storefront.Text
