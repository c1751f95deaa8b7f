import Mathlib.Tactic.SplitIfs
import Storefront.Number.Decimal

/-!
# The characters of numbers

Numbers stand in statements without quotes, next to commas, blanks and parentheses. What they are
made of – digits, a sign, a point, and the letters of the words for what is not finite – keeps them
apart from all of these (`Number.isNumeralChar`). A whole number is also determined by its digits
(`Number.toString_inj`), so whatever can be cut out of a statement can be read back.
-/

namespace Storefront.Number

/-- The characters that numbers are written with. -/
def isNumeralChar (c : Char) : Bool :=
  c.isAlphanum || c = '-' || c = '.'

theorem isNumeralChar_of_isDigit {c : Char} (h : c.isDigit = true) : isNumeralChar c = true := by
  simp [isNumeralChar, Char.isAlphanum, h]

/-! ### Whole numbers -/

theorem isDigit_of_mem_digitChars {n : Nat} {c : Char} (h : c ∈ digitChars n) :
    c.isDigit = true :=
  Nat.isDigit_of_mem_toDigits (by decide) (by decide) h

theorem isNumeralChar_of_mem_digitChars {n : Nat} {c : Char} (h : c ∈ digitChars n) :
    isNumeralChar c = true :=
  isNumeralChar_of_isDigit (isDigit_of_mem_digitChars h)

theorem toList_toString_nat (n : Nat) : (toString n).toList = digitChars n :=
  Nat.toList_repr

theorem isNumeralChar_of_mem_nat {n : Nat} {c : Char} (h : c ∈ (toString n).toList) :
    isNumeralChar c = true :=
  isNumeralChar_of_mem_digitChars (toList_toString_nat n ▸ h)

/-- A negative number is written as a minus sign and the digits of its magnitude. -/
theorem toList_toString_negSucc (n : Nat) :
    (toString (Int.negSucc n)).toList = '-' :: digitChars (n + 1) := by
  change ("-" ++ (n + 1).repr).toList = _
  rw [String.toList_append, ← toList_toString_nat]
  rfl

theorem isNumeralChar_of_mem_int {n : Int} {c : Char} (h : c ∈ (toString n).toList) :
    isNumeralChar c = true := by
  cases n with
  | ofNat n => exact isNumeralChar_of_mem_nat h
  | negSucc n =>
    rw [toList_toString_negSucc] at h
    rcases List.mem_cons.1 h with rfl | h
    · rfl
    · exact isNumeralChar_of_mem_digitChars h

/-- A whole number is determined by its digits. -/
theorem toString_inj {m n : Nat} (h : toString m = toString n) : m = n := by
  have hdigits : digitChars m = digitChars n := by
    rw [← toList_toString_nat, ← toList_toString_nat, h]
  simpa [digitChars] using congrArg (Nat.ofDigitChars 10 · 0) hdigits

/-! ### Doubles -/

theorem isNumeralChar_of_mem_positional {d : Digits} {c : Char} (h : c ∈ d.positional) :
    isNumeralChar c = true := by
  have hdigit : ∀ c ∈ digitChars d.digits, isNumeralChar c = true :=
    fun c hc => isNumeralChar_of_mem_digitChars hc
  rw [Digits.positional] at h
  split_ifs at h with hwhole hplaces
  · rcases List.mem_append.1 h with h | h
    · exact hdigit c h
    · rw [(List.mem_replicate.1 h).2]
      rfl
  · rcases List.mem_append.1 h with h | h
    · exact hdigit c (List.mem_of_mem_take h)
    · rcases List.mem_cons.1 h with rfl | h
      · rfl
      · exact hdigit c (List.mem_of_mem_drop h)
  · rcases List.mem_cons.1 h with rfl | h
    · rfl
    rcases List.mem_cons.1 h with rfl | h
    · rfl
    rcases List.mem_append.1 h with h | h
    · rw [(List.mem_replicate.1 h).2]
      rfl
    · exact hdigit c h

theorem isNumeralChar_of_mem_signChars {negative : Bool} {c : Char}
    (h : c ∈ Binary64.signChars negative) : isNumeralChar c = true := by
  cases negative with
  | false => simp [Binary64.signChars] at h
  | true =>
    obtain rfl : c = '-' := by simpa [Binary64.signChars] using h
    rfl

/-- Every character of a number is one that numbers are written with. -/
theorem isNumeralChar_of_mem_toText {x : Binary64} {c : Char} (h : c ∈ x.toText.toList) :
    isNumeralChar c = true := by
  cases x with
  | nan =>
    have hall : "NaN".toList.all isNumeralChar = true := by decide
    exact List.all_eq_true.1 hall c h
  | infinite negative =>
    rw [Binary64.toText, String.toList_ofList] at h
    rcases List.mem_append.1 h with h | h
    · exact isNumeralChar_of_mem_signChars h
    · have hall : ['i', 'n', 'f'].all isNumeralChar = true := by decide
      exact List.all_eq_true.1 hall c h
  | finite negative code =>
    rw [Binary64.toText, String.toList_ofList] at h
    rcases List.mem_append.1 h with h | h
    · exact isNumeralChar_of_mem_signChars h
    · split_ifs at h with hzero
      · obtain rfl : c = '0' := by simpa using h
        rfl
      · exact isNumeralChar_of_mem_positional h

end Storefront.Number
