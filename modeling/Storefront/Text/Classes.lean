/-!
# Character classes of search text

What counts as blank, as control and as an ASCII letter when shoppers' text is read. Blank is the
Unicode property `White_Space` and control is the general category `Cc`; both are finite unions of
ranges that no later version of the standard extends, so they are written out here rather than
kept in a table.

* `Text.isBlank`, `Text.isControl` – the two Unicode classes;
* `Text.isSeparator` – what separates the words of a query: blank or control;
* `Text.foldCase`, `Text.sameLetters` – equality up to the case of ASCII letters;
* `Text.hexValue?` – the digits of numbers to the base sixteen.
-/

namespace Storefront.Text

/-- Whether the code point lies in one of the ranges. -/
def inRanges (ranges : List (Nat × Nat)) (n : Nat) : Bool :=
  ranges.any fun (first, last) => first ≤ n && n ≤ last

/-- Blank characters: the Unicode property `White_Space`. -/
def isBlank (c : Char) : Bool :=
  let n := c.toNat
  (9 ≤ n && n ≤ 13) || n == 0x20 || n == 0x85 || n == 0xA0 || n == 0x1680 ||
    (0x2000 ≤ n && n ≤ 0x200A) || n == 0x2028 || n == 0x2029 || n == 0x202F || n == 0x205F ||
    n == 0x3000

/-- Control characters: the general category `Cc`. -/
def isControl (c : Char) : Bool :=
  let n := c.toNat
  n < 0x20 || (0x7F ≤ n && n < 0xA0)

/-- The characters that separate the words of a query. -/
def isSeparator (c : Char) : Bool :=
  isBlank c || isControl c

/-- ASCII letters in lower case, every other character unchanged. -/
def foldCase (cs : List Char) : List Char :=
  cs.map Char.toLower

/-- The text with its ASCII letters in lower case. -/
def lowerAscii (s : String) : String :=
  String.ofList (foldCase s.toList)

/-- Equality up to the case of ASCII letters. -/
def sameLetters (s t : String) : Bool :=
  foldCase s.toList == foldCase t.toList

/-- The value of a hexadecimal digit. -/
def hexValue? (c : Char) : Option Nat :=
  if c.isDigit then some (c.toNat - '0'.toNat)
  else if 'a' ≤ c && c ≤ 'f' then some (c.toNat - 'a'.toNat + 10)
  else if 'A' ≤ c && c ≤ 'F' then some (c.toNat - 'A'.toNat + 10)
  else none

/-- Every blank of the core library's smaller class is blank. -/
theorem isBlank_of_isWhitespace {c : Char} (h : c.isWhitespace = true) : isBlank c = true := by
  simp only [Char.isWhitespace, Bool.or_eq_true, decide_eq_true_eq] at h
  rcases h with ((rfl | rfl) | rfl) | rfl <;> decide

end Storefront.Text
