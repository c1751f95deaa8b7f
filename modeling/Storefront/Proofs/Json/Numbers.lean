import Storefront.Json.Numeral
import Storefront.Proofs.Number.Spelling

/-!
# Numbers in JSON documents

A number ends where something follows that cannot belong to it (`Json.EndsNumber`), so what a text
spells by itself it also spells in front of a comma or a closing bracket
(`Json.leadingNumber?_append`).

A whole number of 64 bits is read as what it was written as (`Json.leadingNumber?_toString`). That
is not so for all doubles, because the reader rounds more than once; those for which it is are told
by writing and reading them (`Binary64.survivesJson`).
-/

namespace Storefront

open Number

namespace Json

/-! ### Where a number ends -/

/-- What may follow a number without going on with it. -/
def EndsNumber (rest : List Char) : Prop :=
  ∀ c ∈ rest.head?, c.isDigit = false ∧ c ≠ '.' ∧ c ≠ 'e' ∧ c ≠ 'E'

theorem endsNumber_nil : EndsNumber [] := fun _ h => nomatch h

theorem EndsNumber.isDigit {rest : List Char} (h : EndsNumber rest) :
    ∀ c ∈ rest.head?, c.isDigit = false :=
  fun c hc => (h c hc).1

variable {cs rest left : List Char}

theorem takeDigits_append_rest (h : EndsNumber rest) (cs : List Char) :
    takeDigits (cs ++ rest) = ((takeDigits cs).1, (takeDigits cs).2 ++ rest) := by
  induction cs with
  | nil => exact Binary64.takeDigits_append (fun _ h => nomatch h) h.isDigit
  | cons c cs ih =>
    obtain ⟨hrun, hleft⟩ := Prod.mk.inj ih
    cases hc : c.isDigit <;> simp [takeDigits, hc, hrun, hleft]

/-- Digits that have to be there are there in front of more text, too. -/
theorem digitsThen_append {α : Type} {f : List Char → α} {value : α} (h : EndsNumber rest)
    (hread : (match takeDigits cs with
      | ([], _) => none
      | (digits, left) => some (f digits, left)) = some (value, left)) :
    (match takeDigits (cs ++ rest) with
      | ([], _) => none
      | (digits, left) => some (f digits, left)) = some (value, left ++ rest) := by
  rw [takeDigits_append_rest h]
  generalize takeDigits cs = taken at hread ⊢
  obtain ⟨_ | ⟨d, ds⟩, tail⟩ := taken
  · cases hread
  · cases hread
    rfl

theorem fractionPart?_append {fraction : Option (List Char)} (h : EndsNumber rest)
    (hread : fractionPart? cs = some (fraction, left)) :
    fractionPart? (cs ++ rest) = some (fraction, left ++ rest) := by
  cases cs with
  | nil =>
    cases hread
    cases rest with
    | nil => rfl
    | cons c rest => simp [fractionPart?, (h c rfl).2.1]
  | cons c cs =>
    by_cases hc : c = '.'
    · subst hc
      exact digitsThen_append h hread
    · have hnone (cs : List Char) : fractionPart? (c :: cs) = some (none, c :: cs) := by
        simp [fractionPart?, hc]
      rw [hnone] at hread
      cases hread
      exact hnone (cs ++ rest)

theorem exponentPart?_append {exponent : Option (Bool × List Char)} (h : EndsNumber rest)
    (hread : exponentPart? cs = some (exponent, left)) :
    exponentPart? (cs ++ rest) = some (exponent, left ++ rest) := by
  cases cs with
  | nil =>
    cases hread
    cases rest with
    | nil => rfl
    | cons c rest => simp [exponentPart?, (h c rfl).2.2]
  | cons c cs =>
    by_cases hc : (c = 'e' || c = 'E') = true
    · simp only [List.cons_append, exponentPart?, hc, if_true] at hread ⊢
      cases cs with
      | nil => cases hread
      | cons d ds =>
        -- a sign may come first
        by_cases hminus : d = '-'
        · subst hminus
          exact digitsThen_append h hread
        by_cases hplus : d = '+'
        · subst hplus
          exact digitsThen_append h hread
        simp only [List.cons_append, List.cons.injEq, hminus, hplus, false_and, imp_self,
          implies_true] at hread ⊢
        exact digitsThen_append h hread
    · have hnone (cs : List Char) : exponentPart? (c :: cs) = some (none, c :: cs) := by
        simp only [exponentPart?, if_neg hc]
      rw [hnone] at hread
      cases hread
      exact hnone (cs ++ rest)

/-- The number at the front, its sign already read, and the rest. -/
def magnitude? (negative : Bool) (cs : List Char) : Option (Numeral × List Char) :=
  if isWholePart (takeDigits cs).1 then
    (fractionPart? (takeDigits cs).2).bind fun (decimals, cs') =>
      (exponentPart? cs').bind fun (exponent, cs'') =>
        some (⟨negative, (takeDigits cs).1, decimals, exponent⟩, cs'')
  else none

theorem numeral?_minus (cs : List Char) : numeral? ('-' :: cs) = magnitude? true cs := rfl

theorem numeral?_of_ne {c : Char} (h : c ≠ '-') (cs : List Char) :
    numeral? (c :: cs) = magnitude? false (c :: cs) := by
  simp only [numeral?, h, List.cons.injEq, false_and, imp_self, implies_true]
  rfl

theorem magnitude?_append {negative : Bool} {n : Numeral} (h : EndsNumber rest)
    (hread : magnitude? negative cs = some (n, left)) :
    magnitude? negative (cs ++ rest) = some (n, left ++ rest) := by
  rw [magnitude?] at hread ⊢
  rw [takeDigits_append_rest h]
  split_ifs at hread with hwhole
  obtain ⟨⟨decimals, tail⟩, hfraction, hread⟩ := Option.bind_eq_some_iff.1 hread
  obtain ⟨⟨exponent, tail'⟩, hexponent, hread⟩ := Option.bind_eq_some_iff.1 hread
  cases hread
  simp only [if_pos hwhole, fractionPart?_append h hfraction, Option.bind_some,
    exponentPart?_append h hexponent]

/-- **A number is read by itself or in front of what ends it.** -/
theorem numeral?_append {n : Numeral} (h : EndsNumber rest) (hread : numeral? cs = some (n, left)) :
    numeral? (cs ++ rest) = some (n, left ++ rest) := by
  cases cs with
  | nil => cases hread
  | cons c cs =>
    by_cases hminus : c = '-'
    · subst hminus
      exact magnitude?_append h hread
    · rw [numeral?_of_ne hminus] at hread
      rw [List.cons_append, numeral?_of_ne hminus]
      exact magnitude?_append h hread

theorem leadingNumber?_of_numeral? {n : Numeral} {json : Json} (h : numeral? cs = some (n, left))
    (hjson : n.toJson? = some json) : leadingNumber? cs = some (json, left) := by
  rw [leadingNumber?, h]
  change n.toJson?.bind _ = _
  rw [hjson]
  rfl

/-- The document of a number is, too. -/
theorem leadingNumber?_append {json : Json} (h : EndsNumber rest)
    (hread : leadingNumber? cs = some (json, [])) :
    leadingNumber? (cs ++ rest) = some (json, rest) := by
  obtain ⟨⟨n, left⟩, hnumeral, hread⟩ := Option.bind_eq_some_iff.1 hread
  obtain ⟨value, hvalue, hread⟩ := Option.bind_eq_some_iff.1 hread
  cases hread
  exact leadingNumber?_of_numeral? (numeral?_append h hnumeral) hvalue

/-- A number begins with a sign or a digit. -/
theorem exists_eq_cons_of_leadingNumber? {json : Json} (h : leadingNumber? cs = some (json, left)) :
    ∃ c tail, cs = c :: tail ∧ (c = '-' ∨ c.isDigit = true) := by
  obtain ⟨⟨n, left⟩, hnumeral, -⟩ := Option.bind_eq_some_iff.1 h
  cases cs with
  | nil => cases hnumeral
  | cons c tail =>
    refine ⟨c, tail, rfl, or_iff_not_imp_left.2 fun hminus => ?_⟩
    by_contra hdigit
    have hnone : (takeDigits (c :: tail)).1 = [] := by simp [takeDigits, hdigit]
    simp [numeral?, hminus, hnone, isWholePart] at hnumeral

/-! ### Whole numbers -/

/-- A number above zero is not written with a zero in front. -/
theorem head?_digitChars_ne {n : Nat} (hpos : 0 < n) : (digitChars n).head? ≠ some '0' := by
  -- by the recursion of the digits: the last is split off, and the first stays
  induction n using Nat.strongRecOn with
  | ind n ih =>
    rcases Nat.lt_or_ge n 10 with hlt | hge
    · rw [digitChars, Nat.toDigits_of_lt_base hlt, List.head?_cons, ne_eq, Option.some.injEq,
        Nat.digitChar_eq_zero]
      omega
    · have hrest := ih (n / 10) (by omega) (by omega)
      obtain ⟨c, cs, hcs⟩ := List.exists_cons_of_ne_nil (digitChars_ne_nil (n / 10))
      rw [digitChars, Nat.toDigits_of_base_le (by decide) hge, ← digitChars, hcs]
      rwa [hcs] at hrest

theorem isWholePart_digitChars (n : Nat) : isWholePart (digitChars n) = true := by
  rcases Nat.eq_zero_or_pos n with rfl | hpos
  · rfl
  · have hfirst := head?_digitChars_ne hpos
    obtain ⟨c, cs, hcs⟩ := List.exists_cons_of_ne_nil (digitChars_ne_nil n)
    rw [hcs, List.head?_cons, ne_eq, Option.some.injEq] at hfirst
    rw [hcs]
    simp [isWholePart, hfirst]

theorem magnitude?_digitChars (negative : Bool) (n : Nat) :
    magnitude? negative (digitChars n) = some (⟨negative, digitChars n, none, none⟩, []) := by
  rw [magnitude?, Binary64.takeDigits_self fun c hc => isDigit_of_mem_digitChars hc,
    if_pos (isWholePart_digitChars n)]
  rfl

theorem digitsFrom?_digitChars (n : Nat) : digitsFrom? 0 (digitChars n) = some n := by
  have hread := natOfDigits?_digitChars n
  obtain ⟨c, cs, hcs⟩ := List.exists_cons_of_ne_nil (digitChars_ne_nil n)
  rwa [hcs] at hread ⊢

/-- A number without fraction and exponent is whole, but for a zero with a sign. -/
theorem toJson?_of_digitChars {negative : Bool} {n : Nat} {i : Int}
    (hvalue : (if negative then -(n : Int) else n) = i) (hfits : fitsWord i = true)
    (hzero : (negative && i == 0) = false) :
    Numeral.toJson? ⟨negative, digitChars n, none, none⟩ = some (.whole i) := by
  have hint : Numeral.toInt? ⟨negative, digitChars n, none, none⟩ = some i := by
    rw [← hvalue, Numeral.toInt?, digitsFrom?_digitChars]
    rfl
  rw [Numeral.toJson?, hint, Option.filter_some, if_pos (by simp [hfits, hzero])]

theorem numeral?_digitChars (n : Nat) :
    numeral? (digitChars n) = some (⟨false, digitChars n, none, none⟩, []) := by
  obtain ⟨c, cs, hcs⟩ := List.exists_cons_of_ne_nil (digitChars_ne_nil n)
  have hdigit : c.isDigit = true := isDigit_of_mem_digitChars (hcs ▸ List.mem_cons_self ..)
  have hminus : c ≠ '-' := by rintro rfl; cases hdigit
  rw [hcs, numeral?_of_ne hminus, ← hcs, magnitude?_digitChars]

/-- **A whole number of 64 bits is read as what it was written as.** -/
theorem leadingNumber?_toString {n : Int} (h : fitsWord n = true) :
    leadingNumber? (toString n).toList = some (.whole n, []) := by
  cases n with
  | ofNat m =>
    change leadingNumber? (toString m).toList = _
    rw [toList_toString_nat]
    exact leadingNumber?_of_numeral? (numeral?_digitChars m) (toJson?_of_digitChars rfl h rfl)
  | negSucc m =>
    have hnumeral : numeral? ('-' :: digitChars (m + 1)) =
        some (⟨true, digitChars (m + 1), none, none⟩, []) := by
      rw [numeral?_minus, magnitude?_digitChars]
    rw [toList_toString_negSucc]
    exact leadingNumber?_of_numeral? hnumeral (toJson?_of_digitChars rfl h rfl)

end Json

/-! ### Doubles -/

/-- **A double that is read as what it was written as.** -/
def Binary64.survivesJson (x : Binary64) : Bool :=
  match Json.leadingNumber? x.toJsonText.toList with
  | some (.fraction y, []) => y = x
  | _ => false

theorem Binary64.leadingNumber?_toJsonText {x : Binary64} (h : x.survivesJson = true) :
    Json.leadingNumber? x.toJsonText.toList = some (.fraction x, []) := by
  unfold survivesJson at h
  split at h
  · next y hread => rw [hread, of_decide_eq_true h]
  · cases h

end Storefront
