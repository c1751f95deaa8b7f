import Storefront.Number.Binary64

/-!
# The order of doubles

Doubles are compared by their ranks, in which both zeros share a place and NaN has none. So "at
most" (`Binary64.le`) is not the contrary of "greater" where NaN is concerned, but it is for finite
numbers (`Binary64.le_iff_lt_eq_false`); and two numbers of one rank are the same number, unless
they are zeros (`Binary64.eq_of_rank?_eq`).
-/

namespace Storefront

open Number

/-- Whether `x` is at most `y`; never so with NaN. -/
def Binary64.le (x y : Binary64) : Bool :=
  match x.rank?, y.rank? with
  | some a, some b => a ≤ b
  | _, _ => false

namespace Binary64

variable {x y : Binary64}

theorem lt_iff : x.lt y = true ↔ ∃ a ∈ x.rank?, ∃ b ∈ y.rank?, a < b := by
  rw [lt]
  cases x.rank? <;> cases y.rank? <;> simp

theorem le_iff : x.le y = true ↔ ∃ a ∈ x.rank?, ∃ b ∈ y.rank?, a ≤ b := by
  rw [le]
  cases x.rank? <;> cases y.rank? <;> simp

/-- A finite number has a rank. -/
theorem exists_rank?_of_isFinite (h : x.isFinite = true) : ∃ a, x.rank? = some a := by
  cases x with
  | nan => cases h
  | infinite => cases h
  | finite negative code => exact ⟨_, rfl⟩

/-- **Of finite numbers, what is not greater is at most the other.** -/
theorem le_iff_lt_eq_false (hx : x.isFinite = true) (hy : y.isFinite = true) :
    x.le y = true ↔ y.lt x = false := by
  obtain ⟨a, ha⟩ := exists_rank?_of_isFinite hx
  obtain ⟨b, hb⟩ := exists_rank?_of_isFinite hy
  simp [le, lt, ha, hb]

theorem le_self (hx : x.isFinite = true) : x.le x = true :=
  (le_iff_lt_eq_false hx hx).2 (lt_irrefl x)

theorem le_of_lt (h : x.lt y = true) : x.le y = true := by
  obtain ⟨a, ha, b, hb, hab⟩ := lt_iff.1 h
  exact le_iff.2 ⟨a, ha, b, hb, Int.le_of_lt hab⟩

/-- A number is made of its rank, unless it is a zero. -/
theorem eq_ofCode_of_rank? {a : Int} (h : x.rank? = some a) (ha : a ≠ 0) :
    x = ofCode (decide (a < 0)) a.natAbs := by
  cases x with
  | nan => cases h
  | infinite negative =>
    cases negative <;> obtain rfl := Option.some.inj h <;> rfl
  | finite negative code =>
    have hcode := code.isLt
    cases negative with
    | false =>
      obtain rfl : (code.val : Int) = a := Option.some.inj h
      have hsign : decide ((code.val : Int) < 0) = false := by simp
      rw [hsign, Int.natAbs_natCast, ofCode, dif_pos hcode]
    | true =>
      obtain rfl : -(code.val : Int) = a := Option.some.inj h
      have hsign : decide (-(code.val : Int) < 0) = true := by simp; omega
      rw [hsign, Int.natAbs_neg, Int.natAbs_natCast, ofCode, dif_pos hcode]

/-- **A rank belongs to one number**, but for that of the zeros. -/
theorem eq_of_rank?_eq {a : Int} (hx : x.rank? = some a) (hy : y.rank? = some a) (ha : a ≠ 0) :
    x = y := by
  rw [eq_ofCode_of_rank? hx ha, eq_ofCode_of_rank? hy ha]

end Binary64

end Storefront
