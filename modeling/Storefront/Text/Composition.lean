import Storefront.Text.Classes
import Storefront.Text.CompositionTable

/-!
# One form for every text

The same text can be spelt with a letter and its accent or with one character for both. The
**composed form** settles it: every character is taken apart as far as it goes, the marks behind a
letter are put in the order of their classes, and then each mark that nothing shields from the
letter is put together with it, if there is a character for both.

* `Text.pieces` – what a character is taken apart into;
* `Text.arranged` – marks in order, which moves none over another of its class;
* `Text.composed` – the composed form of a text.

Syllables of Hangul are put together by arithmetic from a leading consonant, a vowel and perhaps a
trailing consonant (`Text.syllableCodes?`, `Text.syllable?`).
-/

namespace Storefront.Text

/-! ### Syllables of Hangul -/

/-- The two or three letters of a syllable. -/
def syllableCodes? (n : Nat) : Option (List Nat) :=
  if 0xAC00 ≤ n && n < 0xD7A4 then
    let index := n - 0xAC00
    let lead := [0x1100 + index / 588, 0x1161 + index % 588 / 28]
    some (if index % 28 = 0 then lead else lead ++ [0x11A7 + index % 28])
  else none

/-- The syllable of two letters, or of a syllable without a trailing consonant and one. -/
def syllable? (a b : Nat) : Option Nat :=
  if 0x1100 ≤ a && a < 0x1113 && 0x1161 ≤ b && b < 0x1176 then
    some (0xAC00 + 28 * (21 * (a - 0x1100) + (b - 0x1161)))
  else if 0xAC00 ≤ a && a < 0xD7A4 && (a - 0xAC00) % 28 = 0 && 0x11A8 ≤ b && b < 0x11C3 then
    some (a + (b - 0x11A7))
  else none

/-! ### Taking apart -/

/-- The two parts of a character that is put together. -/
def compositeCodes? (n : Nat) : Option (List Nat) :=
  (composites.find? fun row => row.1 = n).map fun (_, first, last) => [first, last]

/-- The character that another is only a name of. -/
def aliasCodes? (n : Nat) : Option (List Nat) :=
  (aliases.find? fun (first, names) => first ≤ n && n < first + names.length).map
    fun (first, names) => (names.drop (n - first)).take 1

/-- The parts of a character that has any. -/
def partCodes? (n : Nat) : Option (List Nat) :=
  ((syllableCodes? n).or (compositeCodes? n)).or ((divided.lookup n).or (aliasCodes? n))

/-- The parts of a character, and their parts, down to a depth. -/
def pieceCodes : Nat → Nat → List Nat
  | 0, n => [n]
  | depth + 1, n =>
    match partCodes? n with
    | some codes => codes.flatMap (pieceCodes depth)
    | none => [n]

/-- **What a character is taken apart into.** No character has parts below the fourth level. -/
def pieces (c : Char) : List Char :=
  (pieceCodes 4 c.toNat).map Char.ofNat

/-! ### Marks in order -/

/-- The combining class of a character: where it stands among the marks of a letter, 0 if it is no
such mark. -/
def combiningClass (c : Char) : Nat :=
  match classRanges.find? fun (first, last, _) => first ≤ c.toNat && c.toNat ≤ last with
  | some (_, _, place) => place
  | none => 0

/-- A character in front of arranged ones, moved behind the marks of lower classes. -/
def arrange (c : Char) : List Char → List Char
  | [] => [c]
  | d :: rest =>
    if 0 < combiningClass d && combiningClass d < combiningClass c then d :: arrange c rest
    else c :: d :: rest

/-- **The characters with their marks in order.** -/
def arranged (cs : List Char) : List Char :=
  cs.foldr arrange []

theorem arrange_perm (c : Char) (cs : List Char) : (arrange c cs).Perm (c :: cs) := by
  induction cs with
  | nil => exact .refl _
  | cons d rest ih =>
    unfold arrange
    split
    · exact (ih.cons d).trans (.swap c d rest)
    · exact .refl _

/-- Nothing is lost by arranging and nothing added. -/
theorem arranged_perm (cs : List Char) : (arranged cs).Perm cs := by
  induction cs with
  | nil => exact .refl _
  | cons c rest ih => exact (arrange_perm c _).trans (ih.cons c)

/-! ### Putting together -/

/-- The character for two. -/
def composite? (a b : Char) : Option Char :=
  let row := composites.find? fun (_, first, last) => first = a.toNat && last = b.toNat
  ((syllable? a.toNat b.toNat).or (row.map (·.1))).map Char.ofNat

/-- The characters put together from the character `c` on, behind which the marks `kept`, last
first, are left over. A mark is shielded from `c` by a kept one of its class or a higher one, and
what is no mark by any. -/
def composeFrom (c : Char) (kept : List Char) : List Char → List Char
  | [] => c :: kept.reverse
  | d :: rest =>
    let shielded := match kept with
      | [] => false
      | k :: _ => combiningClass d ≤ combiningClass k
    match if shielded then none else composite? c d with
    | some both => composeFrom both kept rest
    | none =>
      if combiningClass d = 0 then (c :: kept.reverse) ++ composeFrom d [] rest
      else composeFrom c (d :: kept) rest

/-- **The composed form of a text.** -/
def composed (cs : List Char) : List Char :=
  match arranged (cs.flatMap pieces) with
  | [] => []
  | c :: rest => composeFrom c [] rest

end Storefront.Text
