import Storefront.Text.Category

/-!
# Labels of international names

A label of a domain's name that begins with `xn--` stands for one with characters beyond ASCII. What
follows is the label's ASCII characters, a hyphen, and the places of the others, written as
differences in digits to the base 36. Each difference is a number whose digits come
lowest first; how large a digit ends it depends on the digit's place and on the numbers before.
`Punycode.decode?` is the label that is stood for.
-/

namespace Storefront.Punycode

/-- The value of a digit. -/
def digit? (c : Char) : Option Nat :=
  if 'a' ≤ c && c ≤ 'z' then some (c.toNat - 'a'.toNat)
  else if c.isDigit then some (c.toNat - '0'.toNat + 26)
  else none

/-- The least digit at a place that does not end its number. -/
def threshold (place bias : Nat) : Nat :=
  if place ≤ bias then 1 else min (place - bias) 26

/-- A difference divided by 35 until it is small, and 36 for each division. -/
def settle (delta k : Nat) : Nat × Nat :=
  if 455 < delta then settle (delta / 35) (k + 36) else (delta, k)
termination_by delta
decreasing_by exact Nat.div_lt_self (by omega) (by omega)

/-- The bias after a difference, with so many characters placed; the first difference counts
less. -/
def adapt (delta placed : Nat) (first : Bool) : Nat :=
  let delta := if first then delta / 700 else delta / 2
  let (delta, k) := settle (delta + delta / placed) 0
  k + 36 * delta / (delta + 38)

/-- The greatest weight that a digit may have. -/
def maxWeight : Nat := 0xFFFFFFFF

/-- Where the reading of the differences has come to: the characters that are placed, the code of
the last, the sum of the differences when the last number ended and so far, and of the number being
read the place and the weight of its next digit. -/
structure State where
  text : List Char
  code : Nat
  bias : Nat
  ended : Nat
  sum : Nat
  place : Nat
  weight : Nat

/-- The state in which the ASCII characters are placed. -/
def State.start (ascii : List Char) : State :=
  ⟨ascii, 0x80, 72, 0, 0, 36, 1⟩

/-- The state after the last digit of a number: a character is placed, if the code is that of
one. -/
def State.place? (s : State) : Option State :=
  let placed := s.text.length + 1
  let code := s.code + s.sum / placed
  let index := s.sum % placed
  if code.isValidChar then
    let bias := adapt (s.sum - s.ended) placed (s.ended = 0)
    some ⟨s.text.insertIdx index (Char.ofNat code), code, bias, index + 1, index + 1, 36, 1⟩
  else none

/-- The state after a digit. -/
def State.step? (s : State) (d : Nat) : Option State :=
  let t := threshold s.place s.bias
  let s := { s with sum := s.sum + d * s.weight }
  if d < t then s.place?
  else if maxWeight < s.weight * (36 - t) then none
  else some { s with place := s.place + 36, weight := s.weight * (36 - t) }

/-- **The label that one in lower case, without its first four characters, stands for.** The last
number has to be complete, and there has to be one. -/
def decode? (label : List Char) : Option (List Char) :=
  let differences := (label.reverse.takeWhile (· ≠ '-')).reverse
  let ascii := label.take (label.length - differences.length - 1)
  if differences.isEmpty || !ascii.all Text.isAscii ||
      (ascii.isEmpty && differences.length ≠ label.length) then none
  else
    let last := differences.foldlM (fun s c => (digit? c).bind s.step?) (State.start ascii)
    (last.filter (·.place = 36)).map (·.text)

end Storefront.Punycode
