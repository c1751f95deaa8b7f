import Mathlib.Data.List.TakeWhile
import Storefront.Proofs.Wording.FullText
import Storefront.Proofs.Wording.Synonyms

/-!
# What a wording asks for

A wording is a conjunction of disjunctions, and its expression should be read as just that. Whether
it is depends on the terms alone. A term without backslashes and control characters is written so
that no character of it is an operator, and it is read as its only word or, between quotation marks,
as the phrase of its words (`Variant.readsAs`). From there on the marks that the wording is written
with are those that the reader knows (`Alternatives.readsAs`).

A word of a query is widened to itself, the synonyms that stay, and maybe its beginning
(`Alternatives.IsWidened`), and this is what its group is read as
(`Alternatives.isWidened_ofWord`, `Alternatives.readsAs_ofWord`).
-/

namespace Storefront

open FullText Sql Text

/-! ### Terms -/

namespace Text

theorem takeWhile_dropWhile_congr {p q : Char → Bool} {cs : List Char}
    (h : ∀ c ∈ cs, p c = q c) :
    cs.takeWhile p = cs.takeWhile q ∧ cs.dropWhile p = cs.dropWhile q := by
  induction cs with
  | nil => exact ⟨rfl, rfl⟩
  | cons c cs ih =>
    obtain ⟨hc, hcs⟩ := List.forall_mem_cons.1 h
    obtain ⟨htake, hdrop⟩ := ih hcs
    simp only [List.takeWhile_cons, List.dropWhile_cons, hc, htake, hdrop, and_self]

/-- Classes that agree on the characters of a text cut it alike. -/
theorem wordsBy_congr {sep other : Char → Bool} {cs : List Char}
    (h : ∀ c ∈ cs, sep c = other c) : wordsBy sep cs = wordsBy other cs := by
  fun_induction wordsBy sep cs with
  | case1 => rw [wordsBy]
  | case2 c cs hc ih =>
    obtain ⟨hhead, hcs⟩ := List.forall_mem_cons.1 h
    rw [ih hcs, wordsBy.eq_2 other, if_pos (hhead ▸ hc)]
  | case3 c cs hc ih =>
    obtain ⟨hhead, hcs⟩ := List.forall_mem_cons.1 h
    have hnot : ∀ d ∈ cs, (!sep d) = !other d := fun d hd => by rw [hcs d hd]
    obtain ⟨htake, hdrop⟩ := takeWhile_dropWhile_congr hnot
    have hrest : ∀ d ∈ cs.dropWhile (!sep ·), sep d = other d := fun d hd =>
      hcs d ((List.dropWhile_sublist _).subset hd)
    rw [ih hrest, wordsBy.eq_2 other, if_neg (hhead ▸ hc), htake, hdrop]

/-- Without control characters words are cut at blanks only. -/
theorem isPhrase_iff {s : String} (h : ∀ c ∈ s.toList, isControl c = false) :
    isPhrase s = true ↔ 2 ≤ (words s).length := by
  have hcut : wordsBy isBlank s.toList = wordsBy isSeparator s.toList :=
    wordsBy_congr fun c hc => by rw [isSeparator, h c hc, Bool.or_false]
  rw [isPhrase, words, hcut, decide_eq_true_eq, List.length_map]

/-- A text without separators is one word. -/
theorem wordsBy_eq_singleton {sep : Char → Bool} {cs : List Char} (hne : cs ≠ [])
    (h : ∀ c ∈ cs, sep c = false) : wordsBy sep cs = [cs] := by
  obtain ⟨c, rest, rfl⟩ := List.exists_cons_of_ne_nil hne
  have hrest : ∀ d ∈ rest, (!sep d) = true := fun d hd => by
    rw [h d (List.mem_cons_of_mem _ hd)]
    rfl
  have hdrop : rest.dropWhile (!sep ·) = [] := List.dropWhile_eq_nil_iff.2 hrest
  have htake : rest.takeWhile (!sep ·) = rest := List.takeWhile_eq_self_iff.2 hrest
  rw [wordsBy, if_neg (by simp [h c List.mem_cons_self]), htake, hdrop, wordsBy]

/-- A text with a character that does not separate has a word. -/
theorem wordsBy_ne_nil {sep : Char → Bool} {cs : List Char} (h : ∃ c ∈ cs, sep c = false) :
    wordsBy sep cs ≠ [] := by
  fun_induction wordsBy sep cs with
  | case1 => simp at h
  | case2 c cs hc ih =>
    refine ih ?_
    obtain ⟨d, hd, hletter⟩ := h
    rcases List.mem_cons.1 hd with rfl | hd
    · simp [hc] at hletter
    · exact ⟨d, hd, hletter⟩
  | case3 => simp

/-- The characters of words are those of the text. -/
theorem mem_of_mem_wordsBy {sep : Char → Bool} {cs w : List Char} (h : w ∈ wordsBy sep cs)
    {c : Char} (hc : c ∈ w) : c ∈ cs := by
  fun_induction wordsBy sep cs with
  | case1 => cases h
  | case2 d cs _ ih => exact List.mem_cons_of_mem _ (ih h)
  | case3 d cs _ ih =>
    rcases List.mem_cons.1 h with rfl | h
    · exact (List.cons_subset_cons d (List.takeWhile_sublist _).subset) hc
    · exact List.mem_cons_of_mem _ ((List.dropWhile_sublist _).subset (ih h))

/-- What a word of a text is made of. -/
theorem toList_of_mem_words {text word : String} (h : word ∈ words text) :
    word.toList ≠ [] ∧ (∀ c ∈ word.toList, c ∈ text.toList) ∧
      ∀ c ∈ word.toList, isSeparator c = false := by
  obtain ⟨w, hw, rfl⟩ := List.mem_map.1 h
  rw [String.toList_ofList]
  exact ⟨ne_nil_of_mem_wordsBy hw, fun c hc => mem_of_mem_wordsBy hw hc, not_sep_of_mem_wordsBy hw⟩

end Text

/-- A term as a query: its only word, or a phrase of its words. -/
def FullText.Query.ofTerm (term : String) : Query :=
  match words term with
  | [single] => .word single
  | several => .phrase several

namespace Variant

/-- A variant as a query. -/
def query : Variant → Query
  | .exact term => .ofTerm term
  | .start term => .start term

/-- A variant that can be searched for as it stands: a term without backslashes and control
characters, with at least one word, and just one if it is to be the beginning of others. -/
def IsPlain : Variant → Prop
  | .exact term =>
    '\\' ∉ term.toList ∧ (∀ c ∈ term.toList, isControl c = false) ∧ words term ≠ []
  | .start term =>
    '\\' ∉ term.toList ∧ (∀ c ∈ term.toList, isSeparator c = false) ∧ term.toList ≠ []

theorem toList_escapeMatch (s : String) : (escapeMatch s).toList = escapeMatchChars s.toList := by
  rw [escapeMatch, String.toList_ofList]

section Readers

variable {term : String} {frame : Frame} {outer : List Frame} {body : List Char} {query : Query}

/-- Between quotation marks a term is read as its words. -/
theorem read?_quoted_term (found : List String) (lexemes : List Lexeme) :
    (Reader.quoted found frame outer).read? ((wordsBy isSeparator term.toList).map
      (fun word => .word (String.ofList word)) ++ lexemes) =
    (Reader.quoted (found ++ words term) frame outer).read? lexemes := by
  rw [← Reader.read?_quoted, words, List.map_map]
  rfl

/-- A term of several words is read as their phrase. -/
theorem completes_phrase (hb : '\\' ∉ term.toList)
    (h : (Reader.between (frame.push (.phrase (words term))) outer).Completes body query) :
    (Reader.between frame outer).Completes
      ('"' :: (escapeMatchChars term.toList ++ '"' :: body)) query := by
  have hclose : (Reader.quoted (words term) frame outer).Completes ('"' :: body) query :=
    h.mark_cons rfl rfl
  have hterm : (Reader.quoted [] frame outer).Completes
      (escapeMatchChars term.toList ++ '"' :: body) query :=
    hclose.term_append hb rfl (read?_quoted_term [])
  exact hterm.mark_cons rfl rfl

/-- A term of one word is read as the word. -/
theorem completes_word {single : String} (hsingle : words term = [single])
    (hb : '\\' ∉ term.toList) (hends : endsTerm body = true)
    (h : (Reader.between (frame.push (.word single)) outer).Completes body query) :
    (Reader.between frame outer).Completes (escapeMatchChars term.toList ++ body) query := by
  refine h.term_append hb hends fun lexemes => ?_
  have hlexemes : (wordsBy isSeparator term.toList).map
      (fun word => Lexeme.word (String.ofList word)) = [.word single] := by
    have := congrArg (List.map Lexeme.word) hsingle
    simpa [words] using this
  rw [hlexemes]
  exact Reader.read?_cons rfl lexemes

end Readers

/-- **A variant is read as the query it stands for.** -/
theorem readsAs {variant : Variant} (hplain : variant.IsPlain) :
    ReadsAs variant.expression variant.query := by
  intro frame outer body query hends h
  cases variant with
  | start term =>
    obtain ⟨hb, hletters, hne⟩ := hplain
    have hstar : (Reader.between frame outer).Completes
        (escapeMatchChars term.toList ++ '*' :: body) query :=
      h.start_append hb hne hletters (by rw [String.ofList_toList]; rfl)
    simpa [expression, toList_escapeMatch] using hstar
  | «exact» term =>
    obtain ⟨hb, hcontrol, hwords⟩ := hplain
    have hsome := List.length_pos_iff.2 hwords
    rw [expression]
    split_ifs with hphrase
    · have hmany := (isPhrase_iff hcontrol).1 hphrase
      have hquery : Query.ofTerm term = .phrase (words term) := by
        rw [Query.ofTerm]
        split
        · rename_i single heq
          rw [heq, List.length_singleton] at hmany
          omega
        · rfl
      rw [Variant.query, hquery] at h
      simpa [toList_escapeMatch] using completes_phrase hb h
    · have hfew := (isPhrase_iff hcontrol).not.1 hphrase
      obtain ⟨single, hsingle⟩ := List.length_eq_one_iff.1
        (show (words term).length = 1 by omega)
      rw [Variant.query, Query.ofTerm, hsingle] at h
      rw [toList_escapeMatch]
      exact completes_word hsingle hb hends h

end Variant

/-! ### Groups and wordings -/

namespace Alternatives

/-- A group as a query: any of its variants. -/
def query (group : Alternatives) : Query :=
  anyOf (group.variants.map Variant.query)

/-- **A group is read as any of its variants.** -/
theorem readsAs {group : Alternatives} (hne : group.variants ≠ [])
    (hplain : ∀ variant ∈ group.variants, variant.IsPlain) :
    ReadsAs group.expression group.query := by
  obtain ⟨variants⟩ := group
  match variants with
  | [variant] => exact Variant.readsAs (hplain variant List.mem_cons_self)
  | first :: second :: rest =>
    exact readsAs_choices hne fun variant hvariant => Variant.readsAs (hplain variant hvariant)

/-- The ways to match a word: as it stands, by the synonyms that stay, and as a beginning if its
length allows. -/
def IsWidened (map : SynonymMap) (lengths : StartLengths) (word : String)
    (choices : List Query) : Prop :=
  ∃ kept, StandIns word (map.lookup word) kept ∧
    choices = .word word :: kept.map Query.ofTerm ++
      (if lengths.least ≤ word.toList.length ∧ word.toList.length ≤ lengths.greatest then
        [.start word] else [])

variable {map : SynonymMap} {lengths : StartLengths} {word : String}

/-- A text without separators is its own only word. -/
theorem words_eq_singleton (hne : word.toList ≠ [])
    (hletters : ∀ c ∈ word.toList, isSeparator c = false) : words word = [word] := by
  rw [words, wordsBy_eq_singleton hne hletters, List.map_singleton, String.ofList_toList]

/-- **A word is widened to itself, its synonyms and, by its length, its beginning.** -/
theorem isWidened_ofWord (hne : word.toList ≠ [])
    (hletters : ∀ c ∈ word.toList, isSeparator c = false) :
    IsWidened map lengths word ((ofWord map lengths word).variants.map Variant.query) := by
  obtain ⟨kept, hkept, hfold⟩ := exists_standIns word (map.lookup word)
  have hword : Query.ofTerm word = .word word := by
    rw [Query.ofTerm, words_eq_singleton hne hletters]
  refine ⟨kept, hkept, ?_⟩
  rw [ofWord, hfold]
  split_ifs <;> simp [Variant.query, Function.comp_def, hword]

/-- All ways to match a word are plain. -/
theorem isPlain_of_mem_ofWord (hb : '\\' ∉ word.toList) (hne : word.toList ≠ [])
    (hletters : ∀ c ∈ word.toList, isSeparator c = false)
    (hsynonyms : ∀ s ∈ map.lookup word, (Variant.exact s).IsPlain) :
    ∀ variant ∈ (ofWord map lengths word).variants, variant.IsPlain := by
  obtain ⟨kept, hkept, hfold⟩ := exists_standIns word (map.lookup word)
  have hcontrol : ∀ c ∈ word.toList, isControl c = false := fun c hc =>
    (Bool.or_eq_false_iff.1 (hletters c hc)).2
  have hall : ∀ variant ∈ (word :: kept).map Variant.exact, variant.IsPlain := by
    intro variant hvariant
    obtain ⟨term, hterm, rfl⟩ := List.mem_map.1 hvariant
    rcases List.mem_cons.1 hterm with rfl | hterm
    · exact ⟨hb, hcontrol, by rw [words_eq_singleton hne hletters]; simp⟩
    · exact hsynonyms term (hkept.sublist.subset hterm)
  rw [ofWord, hfold]
  intro variant hvariant
  split_ifs at hvariant
  · rcases List.mem_append.1 hvariant with hvariant | hvariant
    · exact hall variant hvariant
    · rw [List.mem_singleton.1 hvariant]
      exact ⟨hb, hletters, hne⟩
  · exact hall variant hvariant

/-- **A widened word is read as any of the ways to match it.** -/
theorem readsAs_ofWord (hb : '\\' ∉ word.toList) (hne : word.toList ≠ [])
    (hletters : ∀ c ∈ word.toList, isSeparator c = false)
    (hsynonyms : ∀ s ∈ map.lookup word, (Variant.exact s).IsPlain) :
    ReadsAs (ofWord map lengths word).expression (ofWord map lengths word).query := by
  refine readsAs ?_ (isPlain_of_mem_ofWord hb hne hletters hsynonyms)
  intro hnil
  obtain ⟨kept, -, hchoices⟩ : IsWidened map lengths word _ := isWidened_ofWord hne hletters
  simp [hnil] at hchoices

end Alternatives

/-- A synonym without backslashes and control characters can be searched for. -/
theorem SynonymMap.isPlain_of_mem_lookup {groups : List SynonymGroup} {term s : String}
    (h : s ∈ (ofGroups groups).lookup term) (hb : '\\' ∉ s.toList)
    (hcontrol : ∀ c ∈ s.toList, isControl c = false) : (Variant.exact s).IsPlain := by
  obtain ⟨c, hc, hblank⟩ := hasLetter_of_mem_lookup h
  refine ⟨hb, hcontrol, ?_⟩
  rw [words, ne_eq, List.map_eq_nil_iff]
  exact wordsBy_ne_nil ⟨c, hc, by rw [isSeparator, hblank, hcontrol c hc, Bool.or_false]⟩

end Storefront
