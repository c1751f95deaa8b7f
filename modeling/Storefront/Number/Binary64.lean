import Storefront.Number.Whole

/-!
# Double-precision numbers

Prices, ratings and relevance are IEEE 754 double-precision numbers. They are held here by their
*code*: the bit pattern without the sign, read as a natural number. Codes are in the order of the
magnitudes they stand for, so comparing two numbers is comparing two integers, and rounding a
ratio to the nearest double is one rounded division of natural numbers.

* `Number.units` – the magnitude of a code, as a multiple of the least positive double;
* `Number.nearestCode` – the code of the double nearest to a ratio, ties to the even code;
* `Binary64.lt`, `Binary64.max`, `Binary64.min` – the order, which both zeros share and no NaN
  takes part in;
* `Binary64.add`, `Binary64.mul`, `Binary64.div` – the correctly rounded operations.

There is one NaN: nothing the program writes tells two of them apart.
-/

namespace Storefront.Number

/-! ### Codes and magnitudes -/

/-- The number of codes of finite magnitudes; it is itself the code of infinity. -/
def finiteCodes : Nat := 0x7FF0000000000000

/-- The number of codes that share one step, `2 ^ 52`. -/
def codesPerStep : Nat := 0x10000000000000

/-- **The magnitude of a code**, as a multiple of the least positive double `2 ^ (-1074)`. The first
`2 ^ 52` codes are their own magnitudes; the second go on with the same step, and each further
`2 ^ 52` codes double it. -/
def units (code : Nat) : Nat :=
  if code < codesPerStep then code
  else (codesPerStep + code % codesPerStep) <<< (code / codesPerStep - 1)

/-- One, in the units that magnitudes are counted in. -/
def unitsOfOne : Nat := Nat.pow 2 1074

/-- The quotient rounded to the nearest whole number, a tie to the even one. -/
def divNearest (num den : Nat) : Nat :=
  let q := num / den
  let r := num % den
  if 2 * r < den then q
  else if den < 2 * r then q + 1
  else q + q % 2

/-- **The code nearest to a ratio**, given in units. The ratio is brought to 53 binary digits, or
to whole units if it has fewer, and rounded there. The answer may exceed the finite codes. -/
def nearestCode (num den : Nat) : Nat :=
  let spare := (num / den).log2 - 52
  spare <<< 52 + divNearest num (den <<< spare)

end Storefront.Number

namespace Storefront

open Number

/-- A double-precision number: not a number, infinite, or finite with its sign and its code. -/
inductive Binary64 where
  | nan
  | infinite (negative : Bool)
  | finite (negative : Bool) (code : Fin finiteCodes)
deriving DecidableEq

namespace Binary64

/-! ### Building -/

/-- The number with the given code, infinite if the code is past the finite ones. -/
def ofCode (negative : Bool) (code : Nat) : Binary64 :=
  if h : code < finiteCodes then .finite negative ⟨code, h⟩ else .infinite negative

/-- The number nearest to `num / den`. -/
def ofRatio (negative : Bool) (num den : Nat) : Binary64 :=
  ofCode negative (nearestCode (num * unitsOfOne) den)

/-- The number nearest to a natural number. -/
def ofNat (n : Nat) : Binary64 :=
  ofRatio false n 1

/-- The number nearest to an integer. -/
def ofInt (n : Int) : Binary64 :=
  ofRatio (decide (n < 0)) n.natAbs 1

/-- The positive zero. -/
def zero : Binary64 :=
  .finite false ⟨0, by decide⟩

instance : Inhabited Binary64 := ⟨zero⟩

/-! ### Order -/

/-- The place of a number in the order; both zeros share theirs and NaN has none. -/
def rank? : Binary64 → Option Int
  | .nan => none
  | .infinite negative => some (if negative then -(finiteCodes : Int) else finiteCodes)
  | .finite negative code => some (if negative then -(code.val : Int) else code.val)

/-- Whether `x` is less than `y`; never so with NaN. -/
def lt (x y : Binary64) : Bool :=
  match x.rank?, y.rank? with
  | some a, some b => a < b
  | _, _ => false

/-- Whether the number is neither infinite nor NaN. -/
def isFinite : Binary64 → Bool
  | .finite _ _ => true
  | _ => false

/-- The greater of two numbers; of two that compare equal the second, of a number and NaN the
number. -/
def max (x y : Binary64) : Binary64 :=
  match x, y with
  | .nan, _ => y
  | _, .nan => x
  | _, _ => if y.lt x then x else y

/-- The lesser of two numbers; of two that compare equal the second, of a number and NaN the
number. -/
def min (x y : Binary64) : Binary64 :=
  match x, y with
  | .nan, _ => y
  | _, .nan => x
  | _, _ => if x.lt y then x else y

/-! ### Arithmetic -/

/-- The sign and the magnitude of a finite number, in units. -/
def parts? : Binary64 → Option (Bool × Nat)
  | .finite negative code => some (negative, units code)
  | _ => none

/-- Whether the number is written with a minus sign. -/
def isNegative : Binary64 → Bool
  | .nan => false
  | .infinite negative => negative
  | .finite negative _ => negative

/-- Whether the number is one of the two zeros. -/
def isZero (x : Binary64) : Bool :=
  x.rank? == some 0

/-- The sum, correctly rounded. -/
def add (x y : Binary64) : Binary64 :=
  match x, y with
  | .nan, _ => .nan
  | _, .nan => .nan
  | .infinite s, .infinite t => if s = t then .infinite s else .nan
  | .infinite s, _ => .infinite s
  | _, .infinite t => .infinite t
  | .finite s a, .finite t b =>
    let signed (negative : Bool) (code : Nat) : Int :=
      if negative then -(units code : Int) else units code
    let sum := signed s a + signed t b
    ofCode (if sum = 0 then s && t else decide (sum < 0)) (nearestCode sum.natAbs 1)

/-- The product, correctly rounded. -/
def mul (x y : Binary64) : Binary64 :=
  let negative := x.isNegative != y.isNegative
  match x.parts?, y.parts? with
  | some (_, a), some (_, b) => ofCode negative (nearestCode (a * b) unitsOfOne)
  | _, _ =>
    if x = .nan || y = .nan || x.isZero || y.isZero then .nan else .infinite negative

/-- The quotient, correctly rounded. -/
def div (x y : Binary64) : Binary64 :=
  let negative := x.isNegative != y.isNegative
  match x.parts?, y.parts? with
  | some (_, a), some (_, b) =>
    if b = 0 then (if a = 0 then .nan else .infinite negative)
    else ofCode negative (nearestCode (a * unitsOfOne) b)
  | some _, none => if y = .nan then .nan else .finite negative ⟨0, by decide⟩
  | none, some _ => if x = .nan then .nan else .infinite negative
  | none, none => .nan

/-- The quotient of two counts, each rounded to a double first; zero if there is nothing to
divide by. -/
def share (part whole : Nat) : Binary64 :=
  if whole = 0 then zero else (ofNat part).div (ofNat whole)

/-! ### To whole numbers -/

/-- The number without its fraction as a signed word, held at the ends of the range; zero for
NaN. -/
def toId : Binary64 → Int
  | .nan => 0
  | .infinite negative => if negative then minId else maxId
  | .finite negative code =>
    let whole : Int := (units code / unitsOfOne : Nat)
    if negative then Max.max minId (-whole) else Min.min maxId whole

/-- The number of `parts` that a finite number is made of, to the nearest whole one, a tie to the
even one; negative numbers and those that are not finite have none. -/
def countOf (parts : Nat) : Binary64 → Nat
  | .finite false code => divNearest (units code * parts) unitsOfOne
  | _ => 0

/-! ### The order read back -/

@[simp] theorem lt_nan (x : Binary64) : x.lt .nan = false := by
  cases x <;> rfl

@[simp] theorem nan_lt (x : Binary64) : Binary64.nan.lt x = false := by
  cases x <;> rfl

theorem lt_irrefl (x : Binary64) : x.lt x = false := by
  cases x <;> simp [lt, rank?]

theorem lt_asymm {x y : Binary64} (h : x.lt y = true) : y.lt x = false := by
  simp only [lt] at *
  split at h
  · rename_i a b ha hb
    simp only [ha, hb, decide_eq_true_eq] at *
    simp; omega
  · simp at h

end Binary64

end Storefront
