import Mathlib.Tactic.SplitIfs
import Storefront.Text.Lowercase

/-!
# Lower case is reached in one step

Writing a text in lower case a second time changes nothing (`Text.lowercase_lowercase`). That is a
fact about the case table, not about how it is used: the table could lead from one character with a
lower case to another. So the table is compared with itself, run by run (`Text.lowerRuns_misses`).
Where a run of the table meets the characters another one leads to, it does so between their steps:
from `Ā` to `Į` every other character is a capital, and its lower case is the one that follows it.

The two characters that are not lowered by the table, `Σ` and `İ`, have rules of their own. The one
is in the table all the same, the other is looked for like a run of it (`Text.dottedRun`).
-/

namespace Storefront.Text

/-! ### The case table compared with itself -/

namespace CaseRun

/-- Whether the run has a lower case for the code point. -/
def Maps (run : CaseRun) (n : Nat) : Prop :=
  run.first ≤ n ∧ n ≤ run.last ∧ (n - run.first) % run.step = 0

instance (run : CaseRun) (n : Nat) : Decidable (run.Maps n) :=
  inferInstanceAs (Decidable (_ ∧ _ ∧ _))

/-- The code point of the lower case. -/
def lower (run : CaseRun) (n : Nat) : Nat :=
  (n + run.shift).toNat

/-- Whether the run leads past the other: it leads to somewhere else, or between the steps of the
other. The comparisons are those that the kernel computes on numerals. -/
def misses (run other : CaseRun) : Bool :=
  Nat.blt (run.lower run.last) other.first || Nat.blt other.last (run.lower run.first) ||
    (Nat.beq other.step 2 && (Nat.beq run.step 2 || Nat.beq run.first run.last) &&
      Nat.beq ((run.lower run.first + other.first) % 2) 1)

/-- Whether the code points of the run stay natural numbers in lower case. -/
def IsSound (run : CaseRun) : Prop :=
  0 ≤ run.first + run.shift

instance (run : CaseRun) : Decidable run.IsSound :=
  inferInstanceAs (Decidable (_ ≤ _))

/-- A run that leads past another one leads to nothing the other maps. -/
theorem not_maps_lower {run other : CaseRun} (hsound : run.IsSound) (hmisses : run.misses other)
    {n : Nat} (hn : run.Maps n) : ¬ other.Maps (run.lower n) := by
  rintro ⟨hfirst', hlast', hstep'⟩
  obtain ⟨hfirst, hlast, hstep⟩ := hn
  simp only [IsSound] at hsound
  simp only [misses, lower, Bool.or_eq_true, Bool.and_eq_true, Nat.blt_eq, Nat.beq_eq] at hmisses
  simp only [lower] at hfirst' hlast' hstep'
  rcases hmisses with (hbelow | habove) | ⟨⟨htwo, hsteps⟩, hodd⟩
  · omega
  · omega
  · -- the lower cases keep the parity of the first of them, which the other run does not have
    rw [htwo] at hstep'
    rcases hsteps with htwo' | hone
    · rw [htwo'] at hstep
      omega
    · omega

end CaseRun

/-- `İ`, whose lower case has two characters, as if it were a run of the table. -/
def dottedRun : CaseRun :=
  ⟨0x130, 0x130, 1, 0⟩

/-- No lower case that the table leads to has a lower case of its own. -/
theorem lowerRuns_misses :
    (lowerRuns.all fun run => (dottedRun :: lowerRuns).all run.misses) = true := by
  decide +kernel

theorem lowerRuns_sound : ∀ run ∈ lowerRuns, run.IsSound := by
  decide +kernel

/-! ### Characters in lower case -/

/-- Whether neither the table nor the rule for `İ` gives the character another lower case. -/
def IsLower (c : Char) : Prop :=
  ∀ run ∈ dottedRun :: lowerRuns, ¬ run.Maps c.toNat

instance (c : Char) : Decidable (IsLower c) :=
  inferInstanceAs (Decidable (∀ _ ∈ _, _))

/-- **The lower case of a character**: what a run leads to that maps it, or else the character. -/
theorem lowerOne_cases (c : Char) :
    (∃ run ∈ lowerRuns, run.Maps c.toNat ∧ lowerOne c = Char.ofNat (run.lower c.toNat)) ∨
      (∀ run ∈ lowerRuns, ¬ run.Maps c.toNat) ∧ lowerOne c = c := by
  rw [lowerOne]
  split
  · rename_i run hrun
    have hmaps := List.find?_some hrun
    simp only [Bool.and_eq_true, decide_eq_true_eq, beq_iff_eq, and_assoc] at hmaps
    exact .inl ⟨run, List.mem_of_find?_eq_some hrun, hmaps, rfl⟩
  · rename_i hnone
    refine .inr ⟨fun run hrun hmaps => ?_, rfl⟩
    have hnot := List.find?_eq_none.1 hnone run hrun
    simp only [Bool.and_eq_true, decide_eq_true_eq, beq_iff_eq, and_assoc] at hnot
    exact hnot hmaps

/-- The character with a code point, or the character zero if there is none. -/
theorem toNat_ofNat (n : Nat) :
    (Char.ofNat n).toNat = n ∨ Char.ofNat n = '\x00' := by
  by_cases hvalid : n.isValidChar
  · refine .inl ?_
    rw [Char.ofNat, dif_pos hvalid]
    rfl
  · refine .inr ?_
    rw [Char.ofNat, dif_neg hvalid]
    rfl

theorem isLower_lowerOne {c : Char} (hdotted : c ≠ 'İ') : IsLower (lowerOne c) := by
  rcases lowerOne_cases c with ⟨run, hrun, hmaps, heq⟩ | ⟨hnone, heq⟩
  · rw [heq]
    rcases toNat_ofNat (run.lower c.toNat) with hcode | hzero
    · intro other hother
      rw [hcode]
      have hmisses := List.all_eq_true.1 (List.all_eq_true.1 lowerRuns_misses run hrun) other hother
      exact CaseRun.not_maps_lower (lowerRuns_sound run hrun) hmisses hmaps
    · rw [hzero]
      decide +kernel
  · rw [heq]
    intro run hrun hmaps
    rcases List.mem_cons.1 hrun with rfl | hrun
    · have hcode : c.toNat = ('İ').toNat := Nat.le_antisymm hmaps.2.1 hmaps.1
      exact hdotted (Char.toNat_inj.1 hcode)
    · exact hnone run hrun hmaps

theorem isLower_of_mem_lowerIn {before rest : List Char} {c d : Char}
    (h : d ∈ lowerIn before c rest) : IsLower d := by
  rw [lowerIn] at h
  split_ifs at h with _ _ hdotted
  · rw [List.mem_singleton.1 h]
    decide +kernel
  · rw [List.mem_singleton.1 h]
    decide +kernel
  · rcases List.mem_cons.1 h with rfl | hdot
    · decide +kernel
    · rw [List.mem_singleton.1 hdot]
      decide +kernel
  · rw [List.mem_singleton.1 h]
    exact isLower_lowerOne hdotted

theorem isLower_of_mem_lowerAfter {cs before : List Char} {d : Char}
    (h : d ∈ lowerAfter before cs) : IsLower d := by
  induction cs generalizing before with
  | nil => cases h
  | cons c cs ih =>
    rw [lowerAfter] at h
    rcases List.mem_append.1 h with hhere | hlater
    · exact isLower_of_mem_lowerIn hhere
    · exact ih hlater

/-- A character in lower case is left as it is, wherever it stands. -/
theorem IsLower.lowerIn_eq {c : Char} (h : IsLower c) (before rest : List Char) :
    lowerIn before c rest = [c] := by
  have hsigma : c ≠ 'Σ' := by
    rintro rfl
    exact absurd h (by decide +kernel)
  have hdotted : c ≠ 'İ' := by
    rintro rfl
    exact absurd h (by decide +kernel)
  rw [lowerIn, if_neg hsigma, if_neg hdotted]
  rcases lowerOne_cases c with ⟨run, hrun, hmaps, -⟩ | ⟨-, heq⟩
  · exact absurd hmaps (h run (List.mem_cons_of_mem _ hrun))
  · rw [heq]

theorem lowerAfter_eq_self {cs : List Char} (h : ∀ c ∈ cs, IsLower c) (before : List Char) :
    lowerAfter before cs = cs := by
  induction cs generalizing before with
  | nil => rfl
  | cons c cs ih =>
    obtain ⟨hc, hcs⟩ := List.forall_mem_cons.1 h
    rw [lowerAfter, hc.lowerIn_eq, ih hcs, List.singleton_append]

/-- **Lower case is its own lower case.** -/
@[simp] theorem lowercase_lowercase (s : String) : lowercase (lowercase s) = lowercase s := by
  rw [lowercase, lowercase, String.toList_ofList,
    lowerAfter_eq_self fun _ => isLower_of_mem_lowerAfter]

end Storefront.Text
