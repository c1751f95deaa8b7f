import Storefront.Number.Decimal
import Storefront.Proofs.Number.Rounding

/-!
# The shortest digits

The digits that a double is written with are sought on ever finer grids of decimals, and taken as
soon as a grid has a point that reads back. Here it is shown that there is always such a point, at
the latest on the grid of seventeen digits (`Number.roundsTo_shortest`), and that reading a decimal
which reads back by this test really gives the double (`Binary64.ofDecimal_eq`).

The first needs the grid to be finer than the doubles. Seventeen digits are: the nearer of the two
neighbours on that grid is off by at most half a step of the grid, which is less than the number's
`2 ^ 54`th part, and a midpoint is off by at least that much (`Number.units_gap_below`).
-/

namespace Storefront

namespace Number

/-! ### Powers of ten -/

theorem tenPowers_fst_pos (exponent : Int) : 0 < (tenPowers exponent).1 :=
  Nat.pow_pos (by decide)

theorem tenPowers_snd_pos (exponent : Int) : 0 < (tenPowers exponent).2 :=
  Nat.pow_pos (by decide)

/-- The two powers of ten are in the proportion that the exponent says. -/
theorem tenPowers_mul {exponent : Int} {a b : Nat} (h : exponent + a = b) :
    (tenPowers exponent).1 * 10 ^ a = (tenPowers exponent).2 * 10 ^ b := by
  change 10 ^ exponent.toNat * 10 ^ a = 10 ^ (-exponent).toNat * 10 ^ b
  rw [← Nat.pow_add, ← Nat.pow_add]
  congr 1
  omega

/-- A power more in the exponent is a power more in the proportion. -/
theorem tenPowers_succ (exponent : Int) :
    10 * (tenPowers exponent).1 * (tenPowers (exponent + 1)).2 =
      (tenPowers (exponent + 1)).1 * (tenPowers exponent).2 := by
  change 10 * 10 ^ exponent.toNat * 10 ^ (-(exponent + 1)).toNat =
    10 ^ (exponent + 1).toNat * 10 ^ (-exponent).toNat
  rw [← Nat.pow_succ', ← Nat.pow_add, ← Nat.pow_add]
  congr 1
  omega

/-! ### Decimals that read back -/

/-- **The code is nearest to the decimal**, which is a ratio of units. -/
def Digits.RoundsTo (d : Digits) (code : Nat) : Prop :=
  Number.RoundsTo (d.digits * (tenPowers d.exponent).1 * unitsOfOne) (tenPowers d.exponent).2 code

/-- **Whether a decimal reads back** is whether the code is nearest to it. -/
theorem readsBack_iff {code : Nat} {d : Digits} : readsBack code d = true ↔ d.RoundsTo code := by
  have htwice : 2 * d.digits * (tenPowers d.exponent).1 * unitsOfOne =
      2 * (d.digits * (tenPowers d.exponent).1 * unitsOfOne) := by ring
  simp only [readsBack, htwice]
  split_ifs with heven
  · rw [Bool.and_eq_true, decide_eq_true_eq, decide_eq_true_eq]
    exact ⟨fun h => ⟨h.1, h.2, by omega, by omega⟩, fun h => ⟨h.low, h.high⟩⟩
  · rw [Bool.and_eq_true, decide_eq_true_eq, decide_eq_true_eq]
    exact ⟨fun h => ⟨h.1.le, h.2.le, fun _ => h.1, fun _ => h.2⟩,
      fun h => ⟨h.low_of_odd (by omega), h.high_of_odd (by omega)⟩⟩

/-- A zero taken off the end of the digits is made up for by the exponent. -/
theorem Digits.RoundsTo.dropZero {digits : Nat} {exponent : Int} {code : Nat}
    (h : Digits.RoundsTo ⟨10 * digits, exponent⟩ code) :
    Digits.RoundsTo ⟨digits, exponent + 1⟩ code := by
  refine h.of_proportional (tenPowers_snd_pos _) (tenPowers_snd_pos _) ?_
  calc 10 * digits * (tenPowers exponent).1 * unitsOfOne * (tenPowers (exponent + 1)).2
      = digits * unitsOfOne * (10 * (tenPowers exponent).1 * (tenPowers (exponent + 1)).2) := by
        ring
    _ = digits * unitsOfOne * ((tenPowers (exponent + 1)).1 * (tenPowers exponent).2) := by
        rw [tenPowers_succ]
    _ = digits * (tenPowers (exponent + 1)).1 * unitsOfOne * (tenPowers exponent).2 := by ring

/-- A power of ten may stand in the digits. -/
theorem Digits.RoundsTo.whole {d : Digits} {code : Nat} (h : d.RoundsTo code)
    (hexponent : 0 ≤ d.exponent) :
    Digits.RoundsTo ⟨d.digits * 10 ^ d.exponent.toNat, 0⟩ code := by
  refine h.of_proportional (tenPowers_snd_pos _) (tenPowers_snd_pos _) ?_
  have hnone : tenPowers 0 = (1, 1) := rfl
  have hup : (tenPowers d.exponent).1 = 10 ^ d.exponent.toNat := rfl
  have hdown : (tenPowers d.exponent).2 = 1 := by
    change 10 ^ (-d.exponent).toNat = 1
    rw [show (-d.exponent).toNat = 0 by omega, Nat.pow_zero]
  simp only [hnone, hup, hdown, Nat.mul_one]

/-- Taking zeros off the end of the digits keeps the value. -/
theorem Digits.RoundsTo.trimZeros {d : Digits} {code : Nat} (h : d.RoundsTo code) (fuel : Nat) :
    (d.trimZeros fuel).RoundsTo code := by
  fun_induction Digits.trimZeros fuel d with
  | case1 => exact h
  | case2 fuel d hzero ih =>
    refine ih (Digits.RoundsTo.dropZero ?_)
    rwa [show 10 * (d.digits / 10) = d.digits by omega]
  | case3 => exact h

/-! ### The grids -/

/-- Between the multiples of a step that is small enough, the nearer one to a magnitude is nearer to
it than the midpoints are. -/
theorem roundsTo_multiple {code step den : Nat} (hpos : 0 < step)
    (hstep : 2 * codesPerStep * step < units code * den) :
    RoundsTo (units code * den / step * step) den code ∨
      RoundsTo ((units code * den / step + 1) * step) den code := by
  have hbelow : units (code - 1) * den + step < units code * den := by
    refine Nat.lt_of_mul_lt_mul_left (a := 2 * codesPerStep) ?_
    linarith [Nat.mul_le_mul_right den (units_gap_below code)]
  have habove : units code * den + step < units (code + 1) * den := by
    refine Nat.lt_of_mul_lt_mul_left (a := 2 * codesPerStep) ?_
    linarith [Nat.mul_le_mul_right den (units_gap_above code)]
  have hmultiple := Nat.div_add_mod (units code * den) step
  have hrest := Nat.mod_lt (units code * den) hpos
  generalize units code * den / step = q at hmultiple ⊢
  generalize units code * den % step = r at hmultiple hrest
  rcases Nat.lt_or_ge step (2 * r) with hupper | hlower
  · exact .inr (.of_lt (by linarith) (by linarith))
  · exact .inl (.of_lt (by linarith) (by linarith))

/-- **On a grid that is fine enough a neighbour of the code reads back.** -/
theorem exists_onGrid? {code : Nat} {exponent : Int}
    (h : 2 * codesPerStep * ((tenPowers exponent).1 * unitsOfOne) <
      units code * (tenPowers exponent).2) : ∃ d, onGrid? code exponent = some d := by
  have hpos : 0 < (tenPowers exponent).1 * unitsOfOne :=
    Nat.mul_pos (tenPowers_fst_pos exponent) (by decide +kernel)
  have hnear : readsBack code (neighbours code exponent).1 = true ∨
      readsBack code (neighbours code exponent).2 = true := by
    rw [readsBack_iff, readsBack_iff, Digits.RoundsTo, Digits.RoundsTo, Nat.mul_assoc,
      Nat.mul_assoc]
    exact roundsTo_multiple hpos h
  rw [onGrid?]
  generalize neighbours code exponent = pair at hnear ⊢
  obtain ⟨lower, upper⟩ := pair
  rcases hnear with hlower | hupper
  · cases hupper : readsBack code upper <;> simp [hlower, hupper]
  · cases hlower : readsBack code lower <;> simp [hlower, hupper]

/-- The point of a grid that stands for a code reads back. -/
theorem readsBack_of_onGrid? {code : Nat} {exponent : Int} {d : Digits}
    (h : onGrid? code exponent = some d) : readsBack code d = true := by
  rw [onGrid?] at h
  generalize neighbours code exponent = pair at h
  obtain ⟨lower, upper⟩ := pair
  cases hlower : readsBack code lower <;> cases hupper : readsBack code upper <;>
    simp only [hlower, hupper, Option.some.injEq, reduceCtorEq] at h
  · exact h ▸ hupper
  · exact h ▸ hlower
  · split_ifs at h
    · exact h ▸ hupper
    · exact h ▸ hlower

/-! ### Seventeen digits -/

theorem lt_pow_length_digitChars (n : Nat) : n < 10 ^ (digitChars n).length :=
  (Nat.length_toDigits_le_iff (by decide) Nat.length_toDigits_pos).1 (Nat.le_refl _)

theorem pow_length_digitChars_le {n : Nat} (hpos : 0 < n) :
    10 ^ ((digitChars n).length - 1) ≤ n := by
  rcases Nat.eq_zero_or_pos ((digitChars n).length - 1) with hone | hmore
  · rwa [hone]
  · refine Nat.le_of_not_lt fun hlt => ?_
    have hlength := (Nat.length_toDigits_le_iff (by decide) hmore).2 hlt
    have : (digitChars n).length ≤ (digitChars n).length - 1 := hlength
    omega

/-- The exponent of a code comes from the number of its digits before the point, counted with four
hundred places more, and the first of these digits is not zero. -/
theorem exists_decimalExponent_eq {code : Nat} (hpos : 0 < code) :
    ∃ places, decimalExponent code = ((places + 1 : Nat) : Int) - 400 ∧
      10 ^ places * unitsOfOne ≤ units code * Nat.pow 10 400 := by
  have hone : 0 < unitsOfOne ∧ unitsOfOne ≤ Nat.pow 10 400 := by decide +kernel
  obtain ⟨whole, hwhole⟩ : ∃ whole, whole = units code * Nat.pow 10 400 / unitsOfOne := ⟨_, rfl⟩
  have hpositive : 0 < whole := by
    rw [hwhole]
    exact Nat.div_pos (hone.2.trans (Nat.le_mul_of_pos_left _ (units_pos hpos))) hone.1
  have hlength : 0 < (digitChars whole).length := Nat.length_toDigits_pos
  refine ⟨(digitChars whole).length - 1, ?_, ?_⟩
  · rw [Nat.sub_add_cancel hlength, decimalExponent, ← hwhole]
    rfl
  · refine (Nat.mul_le_mul_right _ (pow_length_digitChars_le hpositive)).trans ?_
    rw [hwhole]
    exact Nat.div_mul_le_self _ _

/-- **Seventeen digits are finer than the doubles.** -/
theorem onGrid?_seventeen {code : Nat} (hpos : 0 < code) :
    ∃ d, onGrid? code (decimalExponent code - 17) = some d := by
  obtain ⟨places, hexponent, hplaces⟩ := exists_decimalExponent_eq hpos
  have hpowers := tenPowers_mul (show decimalExponent code - 17 + (417 : Nat) =
    (places + 1 : Nat) by omega)
  have hdown := tenPowers_snd_pos (decimalExponent code - 17)
  have hfine : 2 * codesPerStep * 10 * Nat.pow 10 400 < 10 ^ 417 := by decide +kernel
  refine exists_onGrid? (Nat.lt_of_mul_lt_mul_right (a := 10 ^ 417) ?_)
  generalize (tenPowers (decimalExponent code - 17)).1 = up at hpowers ⊢
  generalize (tenPowers (decimalExponent code - 17)).2 = down at hpowers hdown ⊢
  generalize 10 ^ 417 = scale at hpowers hfine ⊢
  generalize Nat.pow 10 400 = wide at hplaces hfine
  calc 2 * codesPerStep * (up * unitsOfOne) * scale
      = 2 * codesPerStep * unitsOfOne * (up * scale) := by ring
    _ = 2 * codesPerStep * 10 * down * (10 ^ places * unitsOfOne) := by
        rw [hpowers]
        ring
    _ ≤ 2 * codesPerStep * 10 * down * (units code * wide) := Nat.mul_le_mul_left _ hplaces
    _ = units code * down * (2 * codesPerStep * 10 * wide) := by ring
    _ < units code * down * scale :=
        Nat.mul_lt_mul_of_pos_left hfine (Nat.mul_pos (units_pos hpos) hdown)

/-- **The shortest digits of a code read back.** -/
theorem roundsTo_shortest {code : Nat} (hpos : 0 < code) : (shortest code).RoundsTo code := by
  obtain ⟨d, hd⟩ := onGrid?_seventeen hpos
  rw [shortest]
  refine Digits.RoundsTo.trimZeros ?_ 18
  cases hfound : (List.range 17).findSome? fun k =>
      onGrid? code (decimalExponent code - (k + 1 : Nat)) with
  | some found =>
    obtain ⟨k, -, hk⟩ := List.exists_of_findSome?_eq_some hfound
    exact readsBack_iff.1 (readsBack_of_onGrid? hk)
  | none =>
    have hlast := List.findSome?_eq_none_iff.1 hfound 16 (by decide)
    rw [show ((16 + 1 : Nat) : Int) = 17 by rfl, hd] at hlast
    cases hlast

/-! ### Reading a decimal -/

/-- Twice the unit is as small as four hundred zeros behind the point make it. -/
theorem two_mul_unitsOfOne_le {zeros : Nat} (h : 400 ≤ zeros) : 2 * unitsOfOne ≤ 10 ^ zeros := by
  obtain ⟨least, hleast, hle⟩ : ∃ least ≤ 400, 2 * unitsOfOne ≤ 10 ^ least :=
    ⟨400, Nat.le_refl _, by decide +kernel⟩
  exact hle.trans (Nat.pow_le_pow_right (by decide) (hleast.trans h))

/-- No finite magnitude has more than four hundred places before the point. -/
theorem units_lt {code places : Nat} (h : code ≤ finiteCodes) (hplaces : 400 ≤ places) :
    units code < 10 ^ places * unitsOfOne := by
  obtain ⟨last, least, hlast, hleast, hall⟩ : ∃ last least, code / codesPerStep ≤ last ∧
      least ≤ 400 ∧ 2 * codesPerStep * 2 ^ last < 10 ^ least * unitsOfOne :=
    ⟨2047, 400, Nat.div_le_div_right h, Nat.le_refl _, by decide +kernel⟩
  calc units code ≤ 2 * codesPerStep * 2 ^ (code / codesPerStep) := units_le code
    _ ≤ 2 * codesPerStep * 2 ^ last :=
        Nat.mul_le_mul_left _ (Nat.pow_le_pow_right (by decide) hlast)
    _ < 10 ^ least * unitsOfOne := hall
    _ ≤ 10 ^ places * unitsOfOne :=
        Nat.mul_le_mul_right _ (Nat.pow_le_pow_right (by decide) (hleast.trans hplaces))

namespace Digits.RoundsTo

variable {d : Digits} {code : Nat}

theorem digits_pos (h : d.RoundsTo code) (hpos : 0 < code) : 0 < d.digits := by
  have hlow := h.low
  have hleft : 0 < (units (code - 1) + units code) * (tenPowers d.exponent).2 :=
    Nat.mul_pos (Nat.add_pos_right _ (units_pos hpos)) (tenPowers_snd_pos _)
  refine Nat.pos_of_ne_zero fun hzero => ?_
  rw [hzero, Nat.zero_mul, Nat.zero_mul] at hlow
  omega

/-- The decimal has no more than four hundred places before the point. -/
theorem point_le (h : d.RoundsTo code) (hpos : 0 < code) (hcode : code < finiteCodes) :
    d.exponent + (digitChars d.digits).length ≤ 400 := by
  by_contra hlong
  have hlength : 0 < (digitChars d.digits).length := Nat.length_toDigits_pos
  obtain ⟨places, hplaces⟩ := Int.eq_ofNat_of_zero_le
    (show 0 ≤ d.exponent + (digitChars d.digits).length - 1 by omega)
  have hpowers := tenPowers_mul
    (show d.exponent + ((digitChars d.digits).length - 1 : Nat) = places by omega)
  have hdown := tenPowers_snd_pos d.exponent
  have hsmall : (units code + units (code + 1)) * (tenPowers d.exponent).2 <
      2 * (10 ^ places * unitsOfOne) * (tenPowers d.exponent).2 := by
    have hcode' := units_lt hcode.le (show 400 ≤ places by omega)
    have hnext := units_lt (show code + 1 ≤ finiteCodes from hcode) (show 400 ≤ places by omega)
    exact Nat.mul_lt_mul_of_pos_right (by omega) hdown
  have hlarge : 10 ^ places * (tenPowers d.exponent).2 ≤ d.digits * (tenPowers d.exponent).1 := by
    rw [Nat.mul_comm, ← hpowers, Nat.mul_comm]
    exact Nat.mul_le_mul_right _ (pow_length_digitChars_le (h.digits_pos hpos))
  have hhigh := h.high
  nlinarith

/-- The decimal has no more than four hundred zeros behind the point. -/
theorem le_point (h : d.RoundsTo code) (hpos : 0 < code) :
    -400 ≤ d.exponent + (digitChars d.digits).length := by
  by_contra hlong
  obtain ⟨zeros, hzeros⟩ := Int.eq_ofNat_of_zero_le
    (show 0 ≤ -(d.exponent + (digitChars d.digits).length) by omega)
  have hpowers := tenPowers_mul
    (show d.exponent + ((digitChars d.digits).length + zeros : Nat) = (0 : Nat) by omega)
  have hdown := tenPowers_snd_pos d.exponent
  have hlow := h.low
  have hdigits := lt_pow_length_digitChars d.digits
  have hunits := units_pos hpos
  have hzeros' := two_mul_unitsOfOne_le (show 400 ≤ zeros by omega)
  rw [Nat.pow_zero, Nat.mul_one, Nat.pow_add] at hpowers
  have hup := tenPowers_fst_pos d.exponent
  refine Nat.lt_irrefl (tenPowers d.exponent).2 ?_
  calc (tenPowers d.exponent).2
      ≤ (units (code - 1) + units code) * (tenPowers d.exponent).2 :=
        Nat.le_mul_of_pos_left _ (Nat.add_pos_right _ hunits)
    _ ≤ 2 * (d.digits * (tenPowers d.exponent).1 * unitsOfOne) := hlow
    _ = d.digits * ((tenPowers d.exponent).1 * (2 * unitsOfOne)) := by ring
    _ ≤ d.digits * ((tenPowers d.exponent).1 * 10 ^ zeros) :=
        Nat.mul_le_mul_left _ (Nat.mul_le_mul_left _ hzeros')
    _ < 10 ^ (digitChars d.digits).length * ((tenPowers d.exponent).1 * 10 ^ zeros) :=
        Nat.mul_lt_mul_of_pos_right hdigits (Nat.mul_pos hup (Nat.pow_pos (by decide)))
    _ = (tenPowers d.exponent).2 := by
        rw [← hpowers]
        ring

end Digits.RoundsTo

end Number

open Number in
/-- **A decimal that a code is nearest to is read as the code.** -/
theorem Binary64.ofDecimal_eq (negative : Bool) {d : Digits} {code : Fin finiteCodes}
    (hpos : 0 < code.val) (h : d.RoundsTo code.val) :
    ofDecimal negative d.digits d.exponent = .finite negative code := by
  have hdigits := h.digits_pos hpos
  have hle := h.point_le hpos code.isLt
  have hge := h.le_point hpos
  have hround := Number.RoundsTo.nearestCode_eq h (tenPowers_snd_pos d.exponent)
  rw [ofDecimal, if_neg (by omega), if_neg (by omega)]
  change ofCode negative (nearestCode (d.digits * (tenPowers d.exponent).1 * unitsOfOne)
    (tenPowers d.exponent).2) = _
  rw [hround, ofCode, dif_pos code.isLt]

end Storefront
