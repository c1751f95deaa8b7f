import Storefront.Number.Binary64

/-!
# Doubles in decimal

A double is written with the fewest digits that read back as the same double, and of those with
the digits nearest to it. Which digits these are is settled on grids: the grid of `k` digits
holds the multiples of a power of ten among which the number has `k` digits, and a digit string
reads back when its point lies between the midpoints to the neighbouring doubles (the midpoints
included when the code is even, because ties are read to the even code). If a grid has a point in
there at all, one of the number's two neighbours on it is such a point, so only those two are
tried, for one digit, two digits and so on.

* `Number.shortest` – the digits and their exponent;
* `Binary64.toText` – positional text, never with an exponent: `49.5`, `0.0000001`, `-0`;
* `Binary64.toJsonText` – the same digits in the spelling of JSON documents: `49.5`, `1e-7`;
* `Binary64.read?` – text to the nearest double.
-/

namespace Storefront.Number

/-! ### The shortest digits -/

/-- A positive decimal number: `digits · 10 ^ exponent`. -/
structure Digits where
  digits : Nat
  exponent : Int
deriving DecidableEq, Repr

/-- The power of ten that a decimal is multiplied by, and the one that it is divided by. -/
def tenPowers (exponent : Int) : Nat × Nat :=
  (Nat.pow 10 exponent.toNat, Nat.pow 10 (-exponent).toNat)

/-- **Whether a decimal reads back as the code.** Twice its value is compared with the sums of the
neighbouring magnitudes; the end points belong to the even code. -/
def readsBack (code : Nat) (d : Digits) : Bool :=
  let (up, down) := tenPowers d.exponent
  let low := (units (code - 1) + units code) * down
  let high := (units code + units (code + 1)) * down
  let twice := 2 * d.digits * up * unitsOfOne
  if code % 2 = 0 then low ≤ twice && twice ≤ high else low < twice && twice < high

/-- The neighbours of the code's magnitude on the grid of the power of ten, the lower first. -/
def neighbours (code : Nat) (exponent : Int) : Digits × Digits :=
  let (up, down) := tenPowers exponent
  let below := units code * down / (up * unitsOfOne)
  (⟨below, exponent⟩, ⟨below + 1, exponent⟩)

/-- Whether the upper neighbour on the grid is at least as near as the lower one. -/
def upperIsNearer (code : Nat) (lower : Digits) : Bool :=
  let (up, down) := tenPowers lower.exponent
  (2 * lower.digits + 1) * up * unitsOfOne ≤ 2 * units code * down

/-- The point of a grid that stands for the code, if one of the neighbours reads back. -/
def onGrid? (code : Nat) (exponent : Int) : Option Digits :=
  let (lower, upper) := neighbours code exponent
  match readsBack code lower, readsBack code upper with
  | true, true => some (if upperIsNearer code lower then upper else lower)
  | true, false => some lower
  | false, true => some upper
  | false, false => none

/-- The least `e` with the code's magnitude below `10 ^ e`, for the code of a positive number. -/
def decimalExponent (code : Nat) : Int :=
  ((Nat.toDigits 10 (units code * Nat.pow 10 400 / unitsOfOne)).length : Int) - 400

/-- The same number with no zero at the end of its digits; `fuel` bounds the zeros taken off. -/
def Digits.trimZeros : Nat → Digits → Digits
  | 0, d => d
  | fuel + 1, d =>
    if d.digits ≠ 0 ∧ d.digits % 10 = 0 then trimZeros fuel ⟨d.digits / 10, d.exponent + 1⟩ else d

/-- **The shortest decimal that reads back as the code** of a positive number. Seventeen digits
always do. -/
def shortest (code : Nat) : Digits :=
  let e := decimalExponent code
  let found := (List.range 17).findSome? fun k => onGrid? code (e - (k + 1 : Nat))
  (found.getD (neighbours code (e - 17)).1).trimZeros 18

/-! ### Layout -/

/-- The decimal digits of a natural number. -/
def digitChars (n : Nat) : List Char :=
  Nat.toDigits 10 n

/-- The decimal in positional notation, with a point only if it has a fraction. -/
def Digits.positional (d : Digits) : List Char :=
  let ds := digitChars d.digits
  let places := (-d.exponent).toNat
  if 0 ≤ d.exponent then ds ++ List.replicate d.exponent.toNat '0'
  else if places < ds.length then
    ds.take (ds.length - places) ++ '.' :: ds.drop (ds.length - places)
  else '0' :: '.' :: (List.replicate (places - ds.length) '0' ++ ds)

/-- The decimal in scientific notation, without a plus sign or zeros in the exponent. -/
def Digits.scientific (d : Digits) : List Char :=
  let ds := digitChars d.digits
  let fraction := match ds.drop 1 with
    | [] => []
    | more => '.' :: more
  ds.take 1 ++ fraction ++ 'e' :: (toString (d.exponent + ds.length - 1)).toList

/-- JSON documents write numbers from `10 ^ (-5)` to below `10 ^ 16` positionally and with a
fraction, others with an exponent. -/
def Digits.inJson (d : Digits) : List Char :=
  let point := d.exponent + (digitChars d.digits).length
  if -5 < point ∧ point ≤ 16 then
    d.positional ++ (if 0 ≤ d.exponent then ['.', '0'] else [])
  else d.scientific

end Storefront.Number

namespace Storefront.Binary64

open Number

/-- The sign in front of a negative number. -/
def signChars (negative : Bool) : List Char :=
  if negative then ['-'] else []

/-- The number in positional notation, with the fewest digits that read back. -/
def toText : Binary64 → String
  | .nan => "NaN"
  | .infinite negative => String.ofList (signChars negative ++ ['i', 'n', 'f'])
  | .finite negative code =>
    let magnitude := if code.val = 0 then ['0'] else (shortest code.val).positional
    String.ofList (signChars negative ++ magnitude)

/-- The spelling in JSON documents, which have none for numbers that are not finite. -/
def toJsonText : Binary64 → String
  | .finite negative code =>
    let magnitude := if code.val = 0 then ['0', '.', '0'] else (shortest code.val).inJson
    String.ofList (signChars negative ++ magnitude)
  | _ => "null"

/-! ### Reading -/

/-- The double nearest to `digits · 10 ^ exponent`. Numbers of more than 400 places before the
point are infinite and those with more than 400 zeros after it are zero, whatever their digits;
the powers of ten stay small that way. -/
def ofDecimal (negative : Bool) (digits : Nat) (exponent : Int) : Binary64 :=
  let point := exponent + (digitChars digits).length
  if digits = 0 ∨ point < -400 then ofRatio negative 0 1
  else if 400 < point then .infinite negative
  else
    let (up, down) := tenPowers exponent
    ofRatio negative (digits * up) down

/-- The exponent at the end of a number: nothing, or a letter `e`, an optional sign and digits. -/
def readExponent? : List Char → Option Int
  | [] => some 0
  | c :: cs =>
    if c.toLower = 'e' then
      match cs with
      | '-' :: ds => (natOfDigits? ds).map fun n => -(n : Int)
      | '+' :: ds => (natOfDigits? ds).map fun n => (n : Int)
      | ds => (natOfDigits? ds).map fun n => (n : Int)
    else none

/-- Digits with an optional point among or beside them, at least one digit, and an optional
exponent. -/
def readUnsigned? (negative : Bool) (cs : List Char) : Option Binary64 :=
  let (whole, rest) := takeDigits cs
  let (fraction, rest) := match rest with
    | '.' :: rest => takeDigits rest
    | rest => ([], rest)
  match natOfDigits? (whole ++ fraction), readExponent? rest with
  | some digits, some exponent => some (ofDecimal negative digits (exponent - fraction.length))
  | _, _ => none

/-- Digits, or one of the words for infinity and not a number in any case of letters. -/
def readMagnitude? (negative : Bool) (cs : List Char) : Option Binary64 :=
  let word := cs.map Char.toLower
  if word = "inf".toList || word = "infinity".toList then some (.infinite negative)
  else if word = "nan".toList then some .nan
  else readUnsigned? negative cs

/-- **The number that a text spells**, correctly rounded: an optional sign, then a magnitude. -/
def read? : List Char → Option Binary64
  | '-' :: cs => readMagnitude? true cs
  | '+' :: cs => readMagnitude? false cs
  | cs => readMagnitude? false cs

end Storefront.Binary64
