import Storefront.Json.Basic

/-!
# The numbers of a JSON document

A number is spelt by a sign, the digits of its whole part and, if it has them, those of a fraction
and of an exponent. Without fraction and exponent it is whole if it fits 64 bits, signed or
unsigned; `-0` and all others are fractional.

The value of a fractional number is not the double nearest to it. It is scaled: the leading digits
are a whole number of 64 bits, the *significand*, and that is multiplied or divided once by a power
of ten. Each of the three steps rounds, so the last digit of a long number may come out changed.

* `Numeral.significand` – the leading digits and the power of ten they are counted in;
* `Binary64.scaled?` – a number times a power of ten;
* `Numeral.toJson?` – the document of a number.
-/

namespace Storefront

open Number

/-! ### Powers of ten -/

namespace Binary64

/-- The greatest exponent of a power of ten that is a finite number. -/
def greatestPower : Nat := 308

/-- The number nearest to a power of ten. -/
def powerOfTen (exponent : Nat) : Binary64 :=
  ofNat (Nat.pow 10 exponent)

/-- A number divided by a power of ten, by the greatest one as long as the exponent exceeds it. -/
def scaledDown (x : Binary64) (exponent : Nat) : Binary64 :=
  if exponent ≤ greatestPower then x.div (powerOfTen exponent)
  else if x.isZero then x
  else scaledDown (x.div (powerOfTen greatestPower)) (exponent - greatestPower)
termination_by exponent
decreasing_by
  simp only [greatestPower] at *
  omega

/-- **A number times a power of ten**, by one multiplication or by divisions. A number that would
be infinite is none. -/
def scaled? (x : Binary64) : Int → Option Binary64
  | .ofNat exponent =>
    if exponent ≤ greatestPower then
      let product := x.mul (powerOfTen exponent)
      if product.isFinite then some product else none
    else if x.isZero then some x
    else none
  | .negSucc exponent => some (x.scaledDown (exponent + 1))

/-- The number with the other sign. -/
def opposite : Binary64 → Binary64
  | .nan => .nan
  | .infinite negative => .infinite !negative
  | .finite negative code => .finite (!negative) code

end Binary64

namespace Json

/-! ### Spelling -/

/-- The spelling of a number. The exponent is a sign, set if it is negative, and digits. -/
structure Numeral where
  negative : Bool
  whole : List Char
  fraction : Option (List Char)
  exponent : Option (Bool × List Char)

/-- Whether digits are the whole part of a number: some, and no zero in front of others. -/
def isWholePart : List Char → Bool
  | [] => false
  | '0' :: more => more.isEmpty
  | _ => true

/-- The digits after a point, at least one, or nothing, and the rest. -/
def fractionPart? : List Char → Option (Option (List Char) × List Char)
  | '.' :: rest =>
    match takeDigits rest with
    | ([], _) => none
    | (digits, rest) => some (some digits, rest)
  | cs => some (none, cs)

/-- The exponent of a number, or nothing, and the rest. -/
def exponentPart? : List Char → Option (Option (Bool × List Char) × List Char)
  | c :: rest =>
    if c = 'e' || c = 'E' then
      let (negative, rest) := match rest with
        | '-' :: rest => (true, rest)
        | '+' :: rest => (false, rest)
        | rest => (false, rest)
      match takeDigits rest with
      | ([], _) => none
      | (digits, rest) => some (some (negative, digits), rest)
    else some (none, c :: rest)
  | [] => some (none, [])

/-- The number at the front and the rest. -/
def numeral? (cs : List Char) : Option (Numeral × List Char) := do
  let (negative, cs) := match cs with
    | '-' :: rest => (true, rest)
    | rest => (false, rest)
  let (digits, cs) := takeDigits cs
  if isWholePart digits then
    let (decimals, cs) ← fractionPart? cs
    let (exponent, cs) ← exponentPart? cs
    pure (⟨negative, digits, decimals, exponent⟩, cs)
  else none

/-! ### Value -/

/-- The digits of `n` with as many more behind them as fit 64 bits, and the digits left out. -/
def appendDigits (n : Nat) : List Char → Nat × List Char
  | [] => (n, [])
  | c :: cs =>
    let next := 10 * n + (c.toNat - '0'.toNat)
    if next ≤ maxCount then appendDigits next cs else (n, c :: cs)

theorem appendDigits_le {n : Nat} (h : n ≤ maxCount) (cs : List Char) :
    (appendDigits n cs).1 ≤ maxCount := by
  induction cs generalizing n with
  | nil => exact h
  | cons c cs ih =>
    simp only [appendDigits]
    split
    · next hnext => exact ih hnext
    · exact h

/-- Whether a whole number fits 64 bits, signed or unsigned. -/
def fitsWord (n : Int) : Bool :=
  minId ≤ n && n ≤ (maxCount : Int)

namespace Numeral

/-- **The leading digits** as one whole number, and the power of ten they are counted in. Of the
whole part, and then of the fraction, the digits from the first that does not fit are left out. -/
def significand (n : Numeral) : Nat × Int :=
  let (digits, left) := appendDigits 0 n.whole
  let decimals := n.fraction.getD []
  let (digits, unread) := appendDigits digits decimals
  (digits, (left.length : Int) - (decimals.length - unread.length : Nat))

/-- The leading digits fit 64 bits. -/
theorem significand_le (n : Numeral) : n.significand.1 ≤ maxCount :=
  appendDigits_le (appendDigits_le (Nat.zero_le _) _) _

/-- The exponent, zero if there is none. -/
def power (n : Numeral) : Int :=
  match n.exponent with
  | some (negative, digits) =>
    let size : Int := (digitsFrom? 0 digits).getD 0
    if negative then -size else size
  | none => 0

/-- The value as a double; numbers out of its range have none. -/
def toBinary64? (n : Numeral) : Option Binary64 :=
  let (digits, places) := n.significand
  ((Binary64.ofNat digits).scaled? (places + n.power)).map fun x =>
    if n.negative then x.opposite else x

/-- The value as a whole number; those with a fraction or an exponent have none. -/
def toInt? (n : Numeral) : Option Int :=
  match n.fraction, n.exponent with
  | none, none =>
    let size : Int := (digitsFrom? 0 n.whole).getD 0
    some (if n.negative then -size else size)
  | _, _ => none

/-- **The document of a number.** -/
def toJson? (n : Numeral) : Option Json :=
  match n.toInt?.filter fun i => fitsWord i && !(n.negative && i == 0) with
  | some i => some (.whole i)
  | none => n.toBinary64?.map .fraction

end Numeral

/-- The document of the number at the front and the rest. -/
def leadingNumber? (cs : List Char) : Option (Json × List Char) := do
  let (n, rest) ← numeral? cs
  pure (← n.toJson?, rest)

end Json

end Storefront
