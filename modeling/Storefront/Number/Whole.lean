/-!
# Whole numbers in decimal

Reading a whole number that has to fit a machine word: an optional sign, then ASCII digits and
nothing else. A number out of range is no number. The ranges are those of the data that the shop
exchanges – identifiers are signed words of 64 bits, counts unsigned words of 64 bits, page
numbers unsigned words of 32 bits – and all arithmetic on them is done in `Int` and `Nat`.
-/

namespace Storefront.Number

/-! ### Ranges -/

/-- The least signed word of 64 bits. -/
def minId : Int := -9223372036854775808

/-- The greatest signed word of 64 bits. -/
def maxId : Int := 9223372036854775807

/-- The greatest unsigned word of 64 bits. -/
def maxCount : Nat := 18446744073709551615

/-- The greatest unsigned word of 32 bits. -/
def maxPage : Nat := 4294967295

/-- The sum of two counts, modulo the size of the word. -/
def addCounts (a b : Nat) : Nat :=
  (a + b) % (maxCount + 1)

/-- The sum of two counts, held at the greatest one. -/
def addCountsUpTo (a b : Nat) : Nat :=
  min (a + b) maxCount

/-- A signed number as a count: negative ones count as none. -/
def countOfId (n : Int) : Nat :=
  n.toNat

/-! ### Reading -/

/-- The value of a run of ASCII digits after the digits of `n`; nothing else may occur in it. -/
def digitsFrom? (n : Nat) : List Char → Option Nat
  | [] => some n
  | c :: cs => if c.isDigit then digitsFrom? (10 * n + (c.toNat - '0'.toNat)) cs else none

/-- The value of a non-empty run of ASCII digits. -/
def natOfDigits? : List Char → Option Nat
  | [] => none
  | c :: cs => digitsFrom? 0 (c :: cs)

/-- A signed number of 64 bits: an optional sign, then digits. -/
def readId? (cs : List Char) : Option Int :=
  let value : Option Int := match cs with
    | '-' :: ds => (natOfDigits? ds).map fun n => -(n : Int)
    | '+' :: ds => (natOfDigits? ds).map fun n => (n : Int)
    | ds => (natOfDigits? ds).map fun n => (n : Int)
  value.filter fun n => minId ≤ n && n ≤ maxId

/-- An unsigned number up to `greatest`: an optional plus sign, then digits. -/
def readUpTo? (greatest : Nat) (cs : List Char) : Option Nat :=
  let value := match cs with
    | '+' :: ds => natOfDigits? ds
    | ds => natOfDigits? ds
  value.filter (· ≤ greatest)

/-- The greatest number that a run of ASCII digits at the front spells, with what follows it. -/
def takeDigits (cs : List Char) : List Char × List Char :=
  (cs.takeWhile Char.isDigit, cs.dropWhile Char.isDigit)

theorem readId?_range {cs : List Char} {n : Int} (h : readId? cs = some n) :
    minId ≤ n ∧ n ≤ maxId := by
  simp only [readId?, Option.filter_eq_some_iff, Bool.and_eq_true, decide_eq_true_eq] at h
  exact h.2

theorem readUpTo?_le {greatest : Nat} {cs : List Char} {n : Nat}
    (h : readUpTo? greatest cs = some n) : n ≤ greatest := by
  simp only [readUpTo?, Option.filter_eq_some_iff, decide_eq_true_eq] at h
  exact h.2

end Storefront.Number
