import Mathlib.Tactic.Linarith
import Mathlib.Tactic.Ring
import Storefront.Number.Binary64

/-!
# Rounding to the nearest double

Between the magnitudes of two neighbouring codes lies their midpoint, and a ratio between the two
midpoints next to a code is nearest to that code; at a midpoint itself it is the even one of the two
codes that counts (`Number.RoundsTo`). Here it is shown that the rounding that the program does, one
division of natural numbers, finds this code (`Number.RoundsTo.nearestCode_eq`).

Magnitudes are spaced by a step that doubles after every `2 ^ 52` codes. Away from the places where
it doubles, the two midpoints are half a step off, and the division by the step rounds as it should.
The first code of a step is the exception: below it the midpoint is only a quarter of a step off,
and a ratio between that midpoint and the code is divided by the step below, where it is rounded up
to the end of that step.
-/

namespace Storefront.Number

/-! ### Rounded division -/

/-- **The rounded quotient is the whole number nearest to the quotient**, of two that are equally
near the even one. -/
theorem divNearest_eq {num den n : Nat} (hden : 0 < den) (hlow : 2 * n * den ≤ 2 * num + den)
    (hhigh : 2 * num ≤ (2 * n + 1) * den)
    (hodd : n % 2 = 1 → 2 * n * den < 2 * num + den ∧ 2 * num < (2 * n + 1) * den) :
    divNearest num den = n := by
  have hnum := Nat.div_add_mod num den
  have hrest := Nat.mod_lt num hden
  rw [divNearest]
  generalize num / den = q at hnum ⊢
  generalize num % den = r at hnum hrest ⊢
  have hle : q ≤ n := by
    have : 2 * q * den < (2 * n + 2) * den := by nlinarith
    have := Nat.lt_of_mul_lt_mul_right this
    omega
  have hge : n ≤ q + 1 := by
    have : 2 * n * den < (2 * q + 3) * den := by nlinarith
    have := Nat.lt_of_mul_lt_mul_right this
    omega
  -- the quotient without its fraction is the whole number, or the one below it
  rcases Nat.lt_or_eq_of_le hle with hlt | rfl
  · obtain rfl : n = q + 1 := by omega
    have hupper : den ≤ 2 * r := by nlinarith
    have hstrict : q % 2 = 0 → den < 2 * r := fun heven => by
      have := (hodd (by omega)).1
      nlinarith
    split_ifs <;> omega
  · have hlower : 2 * r ≤ den := by nlinarith
    have hstrict : q % 2 = 1 → 2 * r < den := fun hq => by
      have := (hodd hq).2
      nlinarith
    split_ifs <;> omega

/-! ### Magnitudes -/

theorem codesPerStep_pos : 0 < codesPerStep := by decide

theorem codesPerStep_even : codesPerStep % 2 = 0 := by decide

/-- **Within a step magnitudes go on evenly**, up to the first one of the next step. -/
theorem units_step (step place : Nat) (h : place ≤ codesPerStep) :
    units ((step + 1) * codesPerStep + place) = (codesPerStep + place) * 2 ^ step := by
  have hge : ∀ n, ¬ (step + 1) * codesPerStep + n < codesPerStep := by
    intro n
    rw [Nat.add_mul]
    omega
  rcases Nat.lt_or_eq_of_le h with hlt | rfl
  · rw [units, if_neg (hge place), Nat.mul_add_mod', Nat.mod_eq_of_lt hlt, Nat.shiftLeft_eq,
      Nat.add_comm (_ * _) place, Nat.add_mul_div_right _ _ codesPerStep_pos, Nat.div_eq_of_lt hlt,
      Nat.zero_add, Nat.add_sub_cancel]
  · have hnext : (step + 1) * codesPerStep + codesPerStep = (step + 2) * codesPerStep := by ring
    rw [units, if_neg (hge _), hnext, Nat.mul_mod_left, Nat.mul_div_cancel _ codesPerStep_pos,
      Nat.shiftLeft_eq, Nat.add_sub_cancel (m := 1), Nat.pow_succ]
    ring

/-- Only the code of zero has no magnitude. -/
theorem units_pos {code : Nat} (h : 0 < code) : 0 < units code := by
  rw [units]
  split_ifs
  · exact h
  · rw [Nat.shiftLeft_eq]
    exact Nat.mul_pos (Nat.add_pos_left codesPerStep_pos _) (Nat.two_pow_pos _)

/-- A magnitude is made up of fewer than `2 ^ 53` steps. -/
theorem units_le (code : Nat) : units code ≤ 2 * codesPerStep * 2 ^ (code / codesPerStep) := by
  rw [units]
  split_ifs with hlt
  · rw [Nat.div_eq_of_lt hlt]
    omega
  · rw [Nat.shiftLeft_eq]
    refine Nat.mul_le_mul ?_ (Nat.pow_le_pow_right (by decide) (Nat.sub_le _ _))
    have := Nat.mod_lt code codesPerStep_pos
    omega

/-- The first two steps are one unit each, so magnitudes count the codes there. -/
theorem units_eq_self {code : Nat} (h : code ≤ 2 * codesPerStep) : units code = code := by
  rcases Nat.lt_or_ge code codesPerStep with hlt | hge
  · exact if_pos hlt
  · obtain ⟨place, rfl⟩ := Nat.exists_eq_add_of_le hge
    simpa using units_step 0 place (by omega)

/-- The last magnitude of a step, which is half a step of the next one off its first. -/
theorem units_before (step : Nat) :
    units ((step + 2) * codesPerStep - 1) = (2 * codesPerStep - 1) * 2 ^ step := by
  have hcode : (step + 2) * codesPerStep - 1 = (step + 1) * codesPerStep + (codesPerStep - 1) := by
    rw [Nat.add_mul, Nat.add_mul]
    have := codesPerStep_pos
    omega
  have hplaces : codesPerStep + (codesPerStep - 1) = 2 * codesPerStep - 1 := by
    have := codesPerStep_pos
    omega
  rw [hcode, units_step step _ (Nat.sub_le _ _), hplaces]

/-- The codes past the first two steps, by their step and their place in it. -/
theorem exists_place {code : Nat} (h : 2 * codesPerStep ≤ code) :
    ∃ step place, place < codesPerStep ∧ code = (step + 2) * codesPerStep + place := by
  have htwo : 2 ≤ code / codesPerStep := (Nat.le_div_iff_mul_le codesPerStep_pos).2 h
  refine ⟨code / codesPerStep - 2, code % codesPerStep, Nat.mod_lt _ codesPerStep_pos, ?_⟩
  rw [Nat.sub_add_cancel htwo, Nat.mul_comm, Nat.div_add_mod]

/-! ### Gaps -/

/-- **The magnitude below a code is at least the code's `2 ^ 53`rd part off.** -/
theorem units_gap_below (code : Nat) :
    2 * codesPerStep * units (code - 1) + units code ≤ 2 * codesPerStep * units code := by
  rcases Nat.lt_or_ge code (2 * codesPerStep) with hlt | hge
  · rw [units_eq_self hlt.le, units_eq_self (by omega)]
    cases code with
    | zero => simp
    | succ code =>
      rw [Nat.add_sub_cancel]
      linarith
  · obtain ⟨step, place, hplace, rfl⟩ := exists_place hge
    rw [units_step (step + 1) place hplace.le]
    cases place with
    | zero =>
      obtain ⟨last, hlast⟩ := Nat.exists_eq_succ_of_ne_zero codesPerStep_pos.ne'
      rw [Nat.add_zero, units_before, hlast, show 2 * (last + 1) - 1 = 2 * last + 1 by omega,
        Nat.pow_succ]
      linarith
    | succ place =>
      have hbefore := units_step (step + 1) place (by omega)
      rw [← Nat.add_assoc, Nat.add_sub_cancel, hbefore]
      nlinarith [Nat.mul_le_mul_right (2 ^ (step + 1)) hplace.le]

/-- The same of the magnitude above. -/
theorem units_gap_above (code : Nat) :
    2 * codesPerStep * units code + units code ≤ 2 * codesPerStep * units (code + 1) := by
  rcases Nat.lt_or_ge code (2 * codesPerStep) with hlt | hge
  · rw [units_eq_self hlt.le, units_eq_self (by omega)]
    linarith
  · obtain ⟨step, place, hplace, rfl⟩ := exists_place hge
    rw [Nat.add_assoc, units_step (step + 1) place hplace.le,
      units_step (step + 1) (place + 1) hplace]
    nlinarith [Nat.mul_le_mul_right (2 ^ (step + 1)) hplace.le]

/-! ### Rounded ratios -/

/-- **The code is nearest to the ratio**: the ratio, in units, lies between the midpoints to the
neighbouring magnitudes. The midpoints themselves belong to the even code. -/
structure RoundsTo (num den code : Nat) : Prop where
  low : (units (code - 1) + units code) * den ≤ 2 * num
  high : 2 * num ≤ (units code + units (code + 1)) * den
  low_of_odd : code % 2 = 1 → (units (code - 1) + units code) * den < 2 * num
  high_of_odd : code % 2 = 1 → 2 * num < (units code + units (code + 1)) * den

/-- Strictly between the midpoints the parity of the code does not matter. -/
theorem RoundsTo.of_lt {num den code : Nat} (hlow : (units (code - 1) + units code) * den < 2 * num)
    (hhigh : 2 * num < (units code + units (code + 1)) * den) : RoundsTo num den code :=
  ⟨hlow.le, hhigh.le, fun _ => hlow, fun _ => hhigh⟩

/-- Comparisons with a ratio depend on its value only. -/
theorem le_iff_of_proportional {num den num' den' : Nat} (hden : 0 < den) (hden' : 0 < den')
    (hvalue : num * den' = num' * den) (a : Nat) :
    (a * den' ≤ 2 * num' ↔ a * den ≤ 2 * num) ∧ (2 * num' ≤ a * den' ↔ 2 * num ≤ a * den) := by
  have ha : a * den' * den = a * den * den' := Nat.mul_right_comm _ _ _
  have hnum : 2 * num' * den = 2 * num * den' := by rw [Nat.mul_assoc, ← hvalue, ← Nat.mul_assoc]
  constructor
  · rw [← Nat.mul_le_mul_right_iff hden, ha, hnum, Nat.mul_le_mul_right_iff hden']
  · rw [← Nat.mul_le_mul_right_iff hden, ha, hnum, Nat.mul_le_mul_right_iff hden']

/-- Only the value of the ratio matters. -/
theorem RoundsTo.of_proportional {num den num' den' code : Nat} (h : RoundsTo num den code)
    (hden : 0 < den) (hden' : 0 < den') (hvalue : num * den' = num' * den) :
    RoundsTo num' den' code := by
  have hle := le_iff_of_proportional hden hden' hvalue
  refine ⟨(hle _).1.2 h.low, (hle _).2.2 h.high, fun hodd => ?_, fun hodd => ?_⟩
  · exact Nat.lt_of_not_le fun hge => Nat.not_le_of_lt (h.low_of_odd hodd) ((hle _).2.1 hge)
  · exact Nat.lt_of_not_le fun hge => Nat.not_le_of_lt (h.high_of_odd hodd) ((hle _).1.1 hge)

/-- The code of a ratio, by the step that the ratio is in: what is left is to round the ratio
divided by the step. -/
theorem nearestCode_eq_add {num den : Nat} (step : Nat) (hden : 0 < den)
    (hlow : step ≠ 0 → codesPerStep * 2 ^ step * den ≤ num)
    (hhigh : num < 2 * codesPerStep * 2 ^ step * den) :
    nearestCode num den = step * codesPerStep + divNearest num (den * 2 ^ step) := by
  have hlt : num / den < 2 ^ (53 + step) := by
    rw [Nat.div_lt_iff_lt_mul hden, Nat.pow_add]
    exact hhigh
  have hspare : (num / den).log2 - 52 = step := by
    rcases Nat.eq_zero_or_pos step with rfl | hpos
    · rcases Nat.eq_zero_or_pos (num / den) with hzero | hq
      · rw [hzero]
        rfl
      · have := (Nat.log2_lt hq.ne').2 hlt
        omega
    · have hge : 2 ^ (52 + step) ≤ num / den := by
        rw [Nat.le_div_iff_mul_le hden, Nat.pow_add]
        exact hlow hpos.ne'
      have hne : num / den ≠ 0 := (Nat.lt_of_lt_of_le (Nat.two_pow_pos _) hge).ne'
      have := (Nat.log2_lt hne).2 hlt
      have := (Nat.le_log2 hne).2 hge
      omega
  rw [nearestCode, hspare, Nat.shiftLeft_eq, Nat.shiftLeft_eq]
  rfl

/-- A ratio within a step is rounded to the place in the step that is nearest to it. -/
theorem nearestCode_within {num den step place : Nat} (hden : 0 < den)
    (hge : codesPerStep * (den * 2 ^ step) ≤ num)
    (hlt : num < 2 * codesPerStep * (den * 2 ^ step))
    (hlow : 2 * (codesPerStep + place) * (den * 2 ^ step) ≤ 2 * num + den * 2 ^ step)
    (hhigh : 2 * num ≤ (2 * (codesPerStep + place) + 1) * (den * 2 ^ step))
    (hodd : place % 2 = 1 →
      2 * (codesPerStep + place) * (den * 2 ^ step) < 2 * num + den * 2 ^ step ∧
        2 * num < (2 * (codesPerStep + place) + 1) * (den * 2 ^ step)) :
    nearestCode num den = (step + 1) * codesPerStep + place := by
  have hcodes : codesPerStep % 2 = 0 := by decide
  have hround : divNearest num (den * 2 ^ step) = codesPerStep + place :=
    divNearest_eq (Nat.mul_pos hden (Nat.two_pow_pos _)) hlow hhigh fun h => hodd (by omega)
  rw [nearestCode_eq_add step hden (fun _ => by linarith) (by linarith), hround]
  ring

namespace RoundsTo

variable {num den code step place : Nat}

/-- Where the step is one unit, the ratio is rounded as it stands. -/
theorem nearestCode_of_lt (h : RoundsTo num den code) (hden : 0 < den)
    (hcode : code < 2 * codesPerStep) : nearestCode num den = code := by
  obtain ⟨hlow, hhigh, hlow', hhigh'⟩ := h
  rw [units_eq_self hcode.le, units_eq_self (by omega)] at hlow hlow' hhigh hhigh'
  have hround : divNearest num den = code := by
    cases code with
    | zero => exact divNearest_eq hden (by omega) (by linarith) (by omega)
    | succ code =>
      rw [Nat.add_sub_cancel] at hlow hlow'
      exact divNearest_eq hden (by linarith) (by linarith) fun hodd =>
        ⟨by linarith [hlow' hodd], by linarith [hhigh' hodd]⟩
  rw [nearestCode_eq_add 0 hden (fun h => absurd rfl h) (by nlinarith), Nat.zero_mul,
    Nat.zero_add, pow_zero, Nat.mul_one, hround]

/-- Behind the first code of a step, both midpoints are half a step off. -/
theorem nearestCode_of_place (h : RoundsTo num den ((step + 2) * codesPerStep + (place + 1)))
    (hden : 0 < den) (hplace : place + 1 < codesPerStep) :
    nearestCode num den = (step + 2) * codesPerStep + (place + 1) := by
  obtain ⟨hlow, hhigh, hlow', hhigh'⟩ := h
  have heven : ((step + 2) * codesPerStep + (place + 1)) % 2 = (place + 1) % 2 := by
    rw [Nat.add_mod, Nat.mul_mod, codesPerStep_even]
    simp
  have hbefore : (step + 2) * codesPerStep + (place + 1) - 1 =
      (step + 2) * codesPerStep + place := by
    omega
  have hafter : (step + 2) * codesPerStep + (place + 1) + 1 =
      (step + 2) * codesPerStep + (place + 2) := by
    omega
  rw [heven, hbefore, units_step (step + 1) place (by omega),
    units_step (step + 1) (place + 1) hplace.le] at hlow'
  rw [hbefore, units_step (step + 1) place (by omega),
    units_step (step + 1) (place + 1) hplace.le] at hlow
  rw [heven, hafter, units_step (step + 1) (place + 1) hplace.le,
    units_step (step + 1) (place + 2) hplace] at hhigh'
  rw [hafter, units_step (step + 1) (place + 1) hplace.le,
    units_step (step + 1) (place + 2) hplace] at hhigh
  have hstep : 0 < den * 2 ^ (step + 1) := Nat.mul_pos hden (Nat.two_pow_pos _)
  have hlast : (place + 2) * (den * 2 ^ (step + 1)) ≤ codesPerStep * (den * 2 ^ (step + 1)) :=
    Nat.mul_le_mul_right _ hplace
  exact nearestCode_within hden (by nlinarith) (by nlinarith) (by linarith) (by linarith)
    fun hodd => ⟨by linarith [hlow' hodd], by linarith [hhigh' hodd]⟩

/-- The first code of a step is even, and the midpoint below it is only a quarter of the step off. A
ratio that is not below the code is rounded in the step, and one that is in the step before. -/
theorem nearestCode_of_step (h : RoundsTo num den ((step + 2) * codesPerStep)) (hden : 0 < den) :
    nearestCode num den = (step + 2) * codesPerStep := by
  have hlow := h.low
  have hhigh := h.high
  have hfirst : units ((step + 2) * codesPerStep) = codesPerStep * 2 ^ (step + 1) := by
    simpa only [Nat.add_zero] using units_step (step + 1) 0 (Nat.zero_le _)
  rw [units_before, hfirst] at hlow
  rw [hfirst, units_step (step + 1) 1 codesPerStep_pos] at hhigh
  have heven := codesPerStep_even
  have hunit (k : Nat) : 0 < den * 2 ^ k ∧ den * 2 ^ k ≤ codesPerStep * (den * 2 ^ k) :=
    ⟨Nat.mul_pos hden (Nat.two_pow_pos k), Nat.le_mul_of_pos_left _ codesPerStep_pos⟩
  obtain ⟨hpos, hle⟩ := hunit step
  obtain ⟨hpos', hle'⟩ := hunit (step + 1)
  rcases Nat.lt_or_ge num (codesPerStep * (den * 2 ^ (step + 1))) with hlt | hge
  · have hquarter : 4 * codesPerStep * (den * 2 ^ step) ≤ 2 * num + den * 2 ^ step := by
      obtain ⟨last, hlast⟩ := Nat.exists_eq_succ_of_ne_zero codesPerStep_pos.ne'
      rw [hlast, Nat.pow_succ, show 2 * (last + 1) - 1 = 2 * last + 1 by omega] at hlow
      rw [hlast]
      linarith
    rw [Nat.pow_succ] at hlt
    have hround : nearestCode num den = (step + 1) * codesPerStep + codesPerStep :=
      nearestCode_within hden (by linarith) (by linarith) (by linarith) (by linarith) (by omega)
    rw [hround]
    ring
  · have hround : nearestCode num den = (step + 1 + 1) * codesPerStep + 0 :=
      nearestCode_within hden hge (by linarith) (by linarith) (by linarith) (by omega)
    rw [hround, Nat.add_zero]

/-- **A ratio is rounded to the code it is nearest to.** -/
theorem nearestCode_eq (h : RoundsTo num den code) (hden : 0 < den) :
    nearestCode num den = code := by
  rcases Nat.lt_or_ge code (2 * codesPerStep) with hlt | hge
  · exact h.nearestCode_of_lt hden hlt
  · obtain ⟨step, place, hplace, rfl⟩ := exists_place hge
    cases place with
    | zero =>
      rw [Nat.add_zero] at h ⊢
      exact h.nearestCode_of_step hden
    | succ place => exact h.nearestCode_of_place hden hplace

end RoundsTo

end Storefront.Number
