import Storefront.Proofs.Number.Numeral
import Storefront.Proofs.Number.Shortest

/-!
# Numbers read back

A number in a statement stands there as its digits, and whoever reads the statement has only those.
Here numbers are read back from their text.

* `Number.readWhole?_toString` – the text of a signed number of any size, read as an optional sign
  and the digits of a natural number (`Number.natOfDigits?_digitChars`);
* `Binary64.read?_toText` – the text of a double. It is written with as few digits as tell it from
  its neighbours, in positional notation. The digits are read without the point, whose place comes
  back as the exponent (`Number.Digits.IsSpelt`), and the double that is nearest to the decimal is
  the one that was written (`Number.roundsTo_shortest`, `Binary64.ofDecimal_eq`).
-/

namespace Storefront.Number

/-! ### Runs of digits -/

/-- The longest run at the front of a text, if what follows the run does not go on with it. -/
theorem takeWhile_append_of_ends {p : Char → Bool} {run rest : List Char}
    (hrun : ∀ c ∈ run, p c = true) (hrest : ∀ c ∈ rest.head?, p c = false) :
    (run ++ rest).takeWhile p = run ∧ (run ++ rest).dropWhile p = rest := by
  rw [List.takeWhile_append_of_pos hrun, List.dropWhile_append_of_pos hrun]
  cases rest with
  | nil => simp
  | cons c rest =>
    have hc : p c = false := hrest c rfl
    simp [hc]

/-- Reading digits is evaluating them to the base ten. -/
theorem digitsFrom?_eq_some {cs : List Char} (h : ∀ c ∈ cs, c.isDigit = true) (n : Nat) :
    digitsFrom? n cs = some (Nat.ofDigitChars 10 cs n) := by
  induction cs generalizing n with
  | nil => rfl
  | cons c cs ih =>
    rw [digitsFrom?, if_pos (h c List.mem_cons_self), Nat.ofDigitChars_cons]
    exact ih (fun d hd => h d (List.mem_cons_of_mem _ hd)) _

theorem digitChars_ne_nil (n : Nat) : digitChars n ≠ [] :=
  Nat.toDigits_ne_nil

/-- A run of digits, if there is one, is evaluated to the base ten. -/
theorem natOfDigits?_eq_some {cs : List Char} (hne : cs ≠ [])
    (h : ∀ c ∈ cs, c.isDigit = true) : natOfDigits? cs = some (Nat.ofDigitChars 10 cs 0) := by
  cases cs with
  | nil => exact absurd rfl hne
  | cons c cs => exact digitsFrom?_eq_some h 0

/-- **The digits of a natural number spell it.** -/
theorem natOfDigits?_digitChars (n : Nat) : natOfDigits? (digitChars n) = some n := by
  rw [natOfDigits?_eq_some (digitChars_ne_nil n) fun _ hc => isDigit_of_mem_digitChars hc,
    digitChars, Nat.ofDigitChars_toDigits (by decide) (by decide)]

/-- The whole number that a text spells, of any size: an optional minus sign, then digits. -/
def readWhole? : List Char → Option Int
  | '-' :: ds => (natOfDigits? ds).map fun n : Nat => -(n : Int)
  | ds => (natOfDigits? ds).map fun n : Nat => (n : Int)

theorem readWhole?_digitChars (n : Nat) : readWhole? (digitChars n) = some (n : Int) := by
  have hsign : ∀ ds, digitChars n ≠ '-' :: ds := by
    intro ds h
    have hdigit : ('-' : Char).isDigit = true :=
      isDigit_of_mem_digitChars (n := n) (by rw [h]; exact List.mem_cons_self)
    exact absurd hdigit (by decide)
  rw [readWhole?.eq_2 _ hsign, natOfDigits?_digitChars, Option.map_some]

/-- **The text of a whole number spells it.** -/
theorem readWhole?_toString (n : Int) : readWhole? (toString n).toList = some n := by
  cases n with
  | ofNat n =>
    change readWhole? (toString n).toList = _
    rw [toList_toString_nat, readWhole?_digitChars]
    rfl
  | negSucc n =>
    rw [toList_toString_negSucc, readWhole?, natOfDigits?_digitChars, Option.map_some,
      Int.negSucc_eq]
    rfl

/-! ### Digits with zeros -/

theorem isDigit_of_mem_zeros {zeros : Nat} {c : Char} (h : c ∈ List.replicate zeros '0') :
    c.isDigit = true := by
  rw [(List.mem_replicate.1 h).2]
  rfl

/-- Zeros behind the digits of a number are powers of ten. -/
theorem natOfDigits?_append_zeros (n zeros : Nat) :
    natOfDigits? (digitChars n ++ List.replicate zeros '0') = some (n * 10 ^ zeros) := by
  have hdigits : ∀ c ∈ digitChars n ++ List.replicate zeros '0', c.isDigit = true := fun c hc =>
    (List.mem_append.1 hc).elim isDigit_of_mem_digitChars isDigit_of_mem_zeros
  rw [natOfDigits?_eq_some (List.append_ne_nil_of_left_ne_nil (digitChars_ne_nil n) _) hdigits,
    Nat.ofDigitChars_append, Nat.ofDigitChars_replicate_zero, digitChars,
    Nat.ofDigitChars_toDigits (by decide) (by decide), Nat.mul_comm]

/-- Zeros in front of the digits of a number do not count. -/
theorem natOfDigits?_zeros_append (n zeros : Nat) :
    natOfDigits? (List.replicate zeros '0' ++ digitChars n) = some n := by
  have hdigits : ∀ c ∈ List.replicate zeros '0' ++ digitChars n, c.isDigit = true := fun c hc =>
    (List.mem_append.1 hc).elim isDigit_of_mem_zeros isDigit_of_mem_digitChars
  rw [natOfDigits?_eq_some (List.append_ne_nil_of_right_ne_nil _ (digitChars_ne_nil n)) hdigits,
    Nat.ofDigitChars_append, Nat.ofDigitChars_replicate_zero, Nat.mul_zero, digitChars,
    Nat.ofDigitChars_toDigits (by decide) (by decide)]

/-! ### Positional notation -/

/-- A text of digits with a point among them, or without one: where the digits are, what number they
make up, and how many of them are behind the point. -/
structure Digits.IsSpelt (d : Digits) (whole fraction : List Char) : Prop where
  whole_ne_nil : whole ≠ []
  isDigit_whole : ∀ c ∈ whole, c.isDigit = true
  isDigit_fraction : ∀ c ∈ fraction, c.isDigit = true
  natOfDigits?_eq : natOfDigits? (whole ++ fraction) = some d.digits
  length_fraction : -(fraction.length : Int) = d.exponent

/-- A decimal without a fraction is written as the digits of a whole number. -/
theorem Digits.positional_of_nonneg {d : Digits} (h : 0 ≤ d.exponent) :
    Digits.IsSpelt ⟨d.digits * 10 ^ d.exponent.toNat, 0⟩ d.positional [] := by
  rw [positional, if_pos h]
  refine ⟨List.append_ne_nil_of_left_ne_nil (digitChars_ne_nil _) _, fun c hc => ?_, by simp,
    ?_, rfl⟩
  · exact (List.mem_append.1 hc).elim isDigit_of_mem_digitChars isDigit_of_mem_zeros
  · rw [List.append_nil, natOfDigits?_append_zeros]

/-- A decimal with a fraction is written with a point among its digits, or zeros before them. -/
theorem Digits.positional_of_neg {d : Digits} (h : d.exponent < 0) :
    ∃ whole fraction, d.positional = whole ++ '.' :: fraction ∧ d.IsSpelt whole fraction := by
  have hds : ∀ c ∈ digitChars d.digits, c.isDigit = true :=
    fun c hc => isDigit_of_mem_digitChars hc
  rw [positional, if_neg (by omega)]
  split_ifs with hplaces
  · refine ⟨_, _, rfl, ?_, fun c hc => hds c (List.mem_of_mem_take hc),
      fun c hc => hds c (List.mem_of_mem_drop hc), ?_, ?_⟩
    · rw [ne_eq, List.take_eq_nil_iff, not_or]
      exact ⟨by omega, digitChars_ne_nil _⟩
    · rw [List.take_append_drop, natOfDigits?_digitChars]
    · rw [List.length_drop]
      omega
  · refine ⟨['0'], _, rfl, List.cons_ne_nil _ _, by simp, fun c hc => ?_, ?_, ?_⟩
    · exact (List.mem_append.1 hc).elim isDigit_of_mem_zeros (hds c)
    · rw [← List.append_assoc]
      exact natOfDigits?_zeros_append d.digits (_ + 1)
    · rw [List.length_append, List.length_replicate]
      omega

/-- The text of a decimal begins with a digit. -/
theorem Digits.exists_positional_eq_cons (d : Digits) :
    ∃ c cs, d.positional = c :: cs ∧ c.isDigit = true := by
  have hfront : ∀ {whole : List Char} (rest : List Char), whole ≠ [] →
      (∀ c ∈ whole, c.isDigit = true) → ∃ c cs, whole ++ rest = c :: cs ∧ c.isDigit = true := by
    rintro (_ | ⟨c, cs⟩) rest hne hdigits
    · exact absurd rfl hne
    · exact ⟨c, cs ++ rest, rfl, hdigits c List.mem_cons_self⟩
  rcases Int.lt_or_le d.exponent 0 with hneg | hnonneg
  · obtain ⟨whole, fraction, htext, hspelt⟩ := positional_of_neg hneg
    rw [htext]
    exact hfront _ hspelt.whole_ne_nil hspelt.isDigit_whole
  · have hspelt := positional_of_nonneg hnonneg
    simpa using hfront [] hspelt.whole_ne_nil hspelt.isDigit_whole

end Storefront.Number

namespace Storefront.Binary64

open Number

/-! ### Doubles -/

/-- The digits at the front of a text are taken if something else follows. -/
theorem takeDigits_append {run rest : List Char} (hrun : ∀ c ∈ run, c.isDigit = true)
    (hrest : ∀ c ∈ rest.head?, c.isDigit = false) : takeDigits (run ++ rest) = (run, rest) := by
  obtain ⟨htake, hdrop⟩ := takeWhile_append_of_ends hrun hrest
  rw [takeDigits, htake, hdrop]

theorem takeDigits_self {run : List Char} (hrun : ∀ c ∈ run, c.isDigit = true) :
    takeDigits run = (run, []) := by
  have hnil : ∀ c ∈ ([] : List Char).head?, c.isDigit = false := fun _ h => nomatch h
  simpa using takeDigits_append hrun hnil

/-- A run of digits is read as a whole number. -/
theorem readUnsigned?_whole (negative : Bool) {d : Digits} {whole : List Char}
    (h : d.IsSpelt whole []) :
    readUnsigned? negative whole = some (ofDecimal negative d.digits d.exponent) := by
  have hn := h.natOfDigits?_eq
  rw [readUnsigned?, takeDigits_self h.isDigit_whole, ← h.length_fraction]
  simp only [hn, readExponent?, List.length_nil]
  rfl

/-- Digits with a point among them are read without the point, and the places behind it are counted
off. -/
theorem readUnsigned?_point (negative : Bool) {d : Digits} {whole fraction : List Char}
    (h : d.IsSpelt whole fraction) :
    readUnsigned? negative (whole ++ '.' :: fraction) =
      some (ofDecimal negative d.digits d.exponent) := by
  have hn := h.natOfDigits?_eq
  have htake : takeDigits (whole ++ '.' :: fraction) = (whole, '.' :: fraction) :=
    takeDigits_append h.isDigit_whole (by simp)
  rw [readUnsigned?, htake, ← h.length_fraction]
  simp [hn, takeDigits_self h.isDigit_fraction, readExponent?]

/-- **The text of a decimal is read as the code that it is nearest to.** -/
theorem readUnsigned?_positional (negative : Bool) {d : Digits} {code : Fin finiteCodes}
    (hpos : 0 < code.val) (h : d.RoundsTo code.val) :
    readUnsigned? negative d.positional = some (.finite negative code) := by
  rcases Int.lt_or_le d.exponent 0 with hneg | hnonneg
  · obtain ⟨whole, fraction, htext, hspelt⟩ := Digits.positional_of_neg hneg
    rw [htext, readUnsigned?_point negative hspelt, ofDecimal_eq negative hpos h]
  · rw [readUnsigned?_whole negative (Digits.positional_of_nonneg hnonneg)]
    exact congrArg some (ofDecimal_eq negative hpos (Digits.RoundsTo.whole h hnonneg))

/-- A digit is no letter, so it is its own lower case. -/
theorem toLower_of_isDigit {c : Char} (h : c.isDigit = true) : c.toLower = c := by
  refine dif_neg fun hupper => ?_
  have hle : c.toNat ≤ '9'.toNat := (Char.isDigit_iff_toNat.1 h).2
  have hge : 'A'.toNat ≤ c.toNat := hupper.1
  exact absurd (hge.trans hle) (by decide)

/-- What begins with a digit is none of the words that a number may be. -/
theorem readMagnitude?_of_isDigit (negative : Bool) {c : Char} (hc : c.isDigit = true)
    (cs : List Char) : readMagnitude? negative (c :: cs) = readUnsigned? negative (c :: cs) := by
  have hword : ∀ d word, d.isDigit = false → (c :: cs).map Char.toLower ≠ d :: word := by
    rintro d word hd heq
    rw [List.map_cons, toLower_of_isDigit hc] at heq
    rw [(List.cons.inj heq).1, hd] at hc
    cases hc
  have hinf : (c :: cs).map Char.toLower ≠ "inf".toList := hword 'i' ['n', 'f'] rfl
  have hinfinity : (c :: cs).map Char.toLower ≠ "infinity".toList :=
    hword 'i' ['n', 'f', 'i', 'n', 'i', 't', 'y'] rfl
  have hnan : (c :: cs).map Char.toLower ≠ "nan".toList := hword 'n' ['a', 'n'] rfl
  simp only [readMagnitude?, hinf, hinfinity, hnan, decide_false, Bool.or_false,
    Bool.false_eq_true, if_false]

/-- Behind the sign of a number stands its magnitude. -/
theorem read?_signChars (negative : Bool) {c : Char} (hc : c.isDigit = true) (cs : List Char) :
    read? (signChars negative ++ c :: cs) = readUnsigned? negative (c :: cs) := by
  rw [← readMagnitude?_of_isDigit negative hc]
  cases negative with
  | true => rfl
  | false =>
    refine read?.eq_3 _ ?_ ?_ <;>
    · rintro ds ⟨⟩
      cases hc

/-- **The text of a double spells it.** -/
theorem read?_toText (x : Binary64) : read? x.toText.toList = some x := by
  cases x with
  | nan => decide
  | infinite negative => cases negative <;> decide
  | finite negative code =>
    rw [toText, String.toList_ofList]
    rcases Nat.eq_zero_or_pos code.val with hzero | hpos
    · obtain rfl : code = ⟨0, by decide⟩ := Fin.ext hzero
      cases negative <;> decide +kernel
    · have hround := roundsTo_shortest hpos
      obtain ⟨c, cs, htext, hc⟩ := (shortest code.val).exists_positional_eq_cons
      have hread := readUnsigned?_positional negative hpos hround
      rw [htext] at hread
      rw [if_neg hpos.ne', htext, read?_signChars negative hc, hread]

end Storefront.Binary64
