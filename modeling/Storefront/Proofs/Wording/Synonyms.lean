import Mathlib.Data.List.Induction
import Mathlib.Data.List.TakeWhile
import Mathlib.Tactic.SplitIfs
import Storefront.Proofs.Wording.Groups

/-!
# What stands for a word

A word of a query is widened to itself and its synonyms, and the program leaves out a synonym that
differs from the word, or from a synonym it already has, by the case of ASCII letters alone. What is
left is described here without the loop that leaves them out: the synonyms that stay come in the
order of the map, no two of them are alike up to case, and every synonym of the map is like one that
stays (`StandIns`, `exists_standIns`).

All synonyms of a map are also *something to search for*: a member of a group is trimmed and not
empty, and writing it in lower case leaves a character that is not blank
(`SynonymMap.hasLetter_of_mem_lookup`).
-/

namespace Storefront

open Text

/-! ### Texts that are not blank -/

namespace Text

/-- A text with a character that is not blank. -/
def HasLetter (cs : List Char) : Prop :=
  ∃ c ∈ cs, isBlank c = false

/-- Trimming leaves nothing exactly of blank texts. -/
theorem trimChars_eq_nil_iff {cs : List Char} : trimChars cs = [] ↔ ¬ HasLetter cs := by
  have hall (ds : List Char) : ds.dropWhile isBlank = [] ↔ ∀ c ∈ ds, isBlank c = true :=
    List.dropWhile_eq_nil_iff
  rw [trimChars, List.reverse_eq_nil_iff, hall]
  simp only [List.mem_reverse, HasLetter, not_exists, not_and, Bool.not_eq_false]
  constructor
  · intro h
    -- what is left by the first cut begins with a letter, so nothing is left
    cases hdrop : cs.dropWhile isBlank with
    | nil => exact (hall cs).1 hdrop
    | cons c rest =>
      have hhead := List.head?_dropWhile_not isBlank cs
      rw [hdrop] at h hhead
      have := h c List.mem_cons_self
      simp [this] at hhead
  · intro h c hc
    exact h c ((List.dropWhile_sublist _).subset hc)

/-- What trimming leaves has a letter. -/
theorem hasLetter_trimChars {cs : List Char} (h : trimChars cs ≠ []) :
    HasLetter (trimChars cs) := by
  rw [trimChars, ne_eq, List.reverse_eq_nil_iff] at h
  -- the second cut stops in front of a letter
  obtain ⟨c, rest, hrest⟩ := List.exists_cons_of_ne_nil h
  have hhead := List.head?_dropWhile_not isBlank (cs.dropWhile isBlank).reverse
  rw [hrest] at hhead
  refine ⟨c, ?_, by simpa using hhead⟩
  rw [trimChars, hrest]
  simp

/-! ### Lower case -/

/-- The code points that are blank. -/
def blankRanges : List (Nat × Nat) :=
  [(9, 13), (0x20, 0x20), (0x85, 0x85), (0xA0, 0xA0), (0x1680, 0x1680), (0x2000, 0x200A),
    (0x2028, 0x2029), (0x202F, 0x202F), (0x205F, 0x205F), (0x3000, 0x3000)]

theorem isBlank_eq (c : Char) : isBlank c = inRanges blankRanges c.toNat := by
  rw [Bool.eq_iff_iff]
  simp only [isBlank, inRanges, blankRanges, List.any_cons, List.any_nil, Bool.or_eq_true,
    Bool.and_eq_true, decide_eq_true_eq, beq_iff_eq, Bool.or_false]
  omega

/-- No case mapping leads to a blank. -/
theorem lowerRuns_not_blank : ∀ run ∈ lowerRuns, ∀ range ∈ blankRanges,
    (run.last : Int) + run.shift < range.1 ∨ (range.2 : Int) < run.first + run.shift := by
  decide +kernel

theorem isBlank_lowerOne {c : Char} (h : isBlank c = false) : isBlank (lowerOne c) = false := by
  rcases lowerOne_cases c with ⟨run, hrun, hmaps, heq⟩ | ⟨-, heq⟩
  · rw [heq]
    rcases toNat_ofNat (run.lower c.toNat) with hcode | hzero
    · rw [isBlank_eq, hcode, inRanges, List.any_eq_false]
      intro range hrange hblank
      have hapart := lowerRuns_not_blank run hrun range hrange
      have hsound := lowerRuns_sound run hrun
      obtain ⟨hfirst, hlast, -⟩ := hmaps
      simp only [Bool.and_eq_true, decide_eq_true_eq] at hblank
      rw [CaseRun.lower] at hblank
      rw [CaseRun.IsSound] at hsound
      omega
    · rw [hzero]
      decide
  · rwa [heq]

/-- **Lower case keeps letters letters.** -/
theorem hasLetter_lowerAfter {cs : List Char} (h : HasLetter cs) (before : List Char) :
    HasLetter (lowerAfter before cs) := by
  obtain ⟨c, hc, hletter⟩ := h
  induction cs generalizing before with
  | nil => cases hc
  | cons d cs ih =>
    rw [lowerAfter]
    rcases List.mem_cons.1 hc with rfl | hc
    · have hhere : HasLetter (lowerIn before c cs) := by
        rw [lowerIn]
        split_ifs
        · exact ⟨'ς', by simp, by decide⟩
        · exact ⟨'σ', by simp, by decide⟩
        · exact ⟨'i', by simp, by decide⟩
        · exact ⟨lowerOne c, by simp, isBlank_lowerOne hletter⟩
      obtain ⟨e, he, hletter⟩ := hhere
      exact ⟨e, List.mem_append_left _ he, hletter⟩
    · obtain ⟨e, he, hletter⟩ := ih (d :: before) hc
      exact ⟨e, List.mem_append_right _ he, hletter⟩

end Text

namespace SynonymMap

/-! ### The synonyms of a map -/

/-- A member of a group is not blank. -/
theorem hasLetter_of_mem_members {group : SynonymGroup} {s : String} (h : s ∈ group.members) :
    HasLetter s.toList := by
  rw [SynonymGroup.members, List.mem_filter] at h
  obtain ⟨hmem, hne⟩ := h
  obtain ⟨t, -, rfl⟩ := List.mem_map.1 hmem
  have htrim : trimChars t.toList ≠ [] := by
    intro hnil
    rw [trim, hnil] at hne
    exact absurd hne (by decide)
  rw [lowercase, trim, String.toList_ofList, String.toList_ofList]
  exact hasLetter_lowerAfter (hasLetter_trimChars htrim) []

/-- **Every synonym of a map has a letter.** -/
theorem hasLetter_of_mem_lookup {groups : List SynonymGroup} {term s : String}
    (h : s ∈ (ofGroups groups).lookup term) : HasLetter s.toList := by
  obtain ⟨group, -, -, hs⟩ := (mem_lookup_ofGroups_iff.1 h).2
  exact hasLetter_of_mem_members hs

end SynonymMap

/-! ### The synonyms that stay -/

/-- **What is left of the synonyms of a word**: in their order, no two of them or the word alike up
to the case of ASCII letters, and each synonym is like the word or like one that is left. -/
structure StandIns (word : String) (synonyms kept : List String) : Prop where
  sublist : kept.Sublist synonyms
  distinct : (word :: kept).Pairwise fun a b => sameLetters a b = false
  covered : ∀ s ∈ synonyms, ∃ t ∈ word :: kept, sameLetters t s = true

theorem StandIns.nil (word : String) : StandIns word [] [] :=
  ⟨.slnil, List.pairwise_singleton _ _, by simp⟩

/-- Whether a synonym is covered is whether it is like a term that is there. -/
theorem any_covers_map_exact (terms : List String) (s : String) :
    (terms.map Variant.exact).any (Variant.covers s) = true ↔
      ∃ t ∈ terms, sameLetters t s = true := by
  simp [Variant.covers]

/-- **Widening a word adds the synonyms that stay**, and nothing else. -/
theorem exists_standIns (word : String) (synonyms : List String) :
    ∃ kept, StandIns word synonyms kept ∧
      synonyms.foldl addSynonym [.exact word] = (word :: kept).map Variant.exact := by
  induction synonyms using List.reverseRecOn with
  | nil => exact ⟨[], .nil word, rfl⟩
  | append_singleton synonyms s ih =>
    obtain ⟨kept, hkept, hfold⟩ := ih
    rw [List.foldl_append, hfold, List.foldl_cons, List.foldl_nil, addSynonym]
    split_ifs with hcovered
    · obtain ⟨t, ht, hsame⟩ := (any_covers_map_exact _ s).1 hcovered
      refine ⟨kept, ⟨hkept.sublist.trans (List.sublist_append_left _ _), hkept.distinct, ?_⟩, rfl⟩
      intro other hother
      rcases List.mem_append.1 hother with hother | hother
      · exact hkept.covered other hother
      · rw [List.mem_singleton.1 hother]
        exact ⟨t, ht, hsame⟩
    · have hnew : ∀ t ∈ word :: kept, sameLetters t s = false := fun t ht =>
        Bool.eq_false_iff.2 fun hsame => hcovered ((any_covers_map_exact _ s).2 ⟨t, ht, hsame⟩)
      refine ⟨kept ++ [s], ⟨hkept.sublist.append (List.Sublist.refl [s]), ?_, ?_⟩, by simp⟩
      · rw [← List.cons_append, List.pairwise_append]
        refine ⟨hkept.distinct, List.pairwise_singleton _ _, fun t ht other hother => ?_⟩
        rw [List.mem_singleton.1 hother]
        exact hnew t ht
      · intro other hother
        rcases List.mem_append.1 hother with hother | hother
        · obtain ⟨t, ht, hsame⟩ := hkept.covered other hother
          exact ⟨t, by simpa using (List.mem_cons.1 ht).imp_right Or.inl, hsame⟩
        · rw [List.mem_singleton.1 hother]
          exact ⟨s, by simp, by simp [sameLetters]⟩

end Storefront
