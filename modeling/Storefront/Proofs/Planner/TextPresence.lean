import Mathlib.Data.List.TFAE
import Storefront.Origin.Query
import Storefront.Proofs.Planner.Expression
import Storefront.Proofs.Planner.Recovery

/-!
# Whether there is a text to search for

Six places decide by themselves whether a filter has a text: the filter, which looks for a word; the
full-text expression, which must not be blank when it is written; the clause of each statement,
which begins with a `MATCH` or does not; the columns, the order and the options of a page; and the
origin store, which looks for words once the blanks at both ends are gone. A place that saw it
differently would have a page ordered by a relevance that the engine knows nothing of, or the origin
store asked for other documents than the engine.

| place | sees a text by |
|---|---|
| `Filter.hasText` | a word, between blanks and control characters |
| `Planner.matchExpression` | a character of the expression that is not blank |
| `Sql.Statement.Matches` | the first condition of the clause |
| `Sql.Statement.Scored` | the second column |
| `OriginQuery.words` | a word of the text, unless this is blank |

They agree because a word is written with at least one character that is not blank: its own, or an
operator's backslash, or the parenthesis around its variants.

Main statement: they agree on every filter whose words are widened from its own text or not at all,
and by this a page is sorted by relevance and ranked by weights only where there is a `MATCH`
(`Planner.tfae_hasText`).
-/

namespace Storefront

open Sql Text

/-! ### What is written of a word -/

/-- A join begins with its first part. -/
theorem Text.exists_joinWith_cons (separator first : String) (rest : List String) :
    ∃ more, joinWith separator (first :: rest) = first ++ more := by
  cases rest with
  | nil => exact ⟨"", (String.append_empty).symm⟩
  | cons next rest => exact ⟨_, String.append_assoc ..⟩

/-- A word is written with a character that is not blank. -/
theorem Sql.hasLetter_escapeMatch {word : String} (hne : word.toList ≠ [])
    (hletters : ∀ c ∈ word.toList, isSeparator c = false) :
    HasLetter (escapeMatch word).toList := by
  obtain ⟨c, rest, hcons⟩ := List.exists_cons_of_ne_nil hne
  have hseparator := hletters c (by rw [hcons]; exact List.mem_cons_self)
  rw [isSeparator, Bool.or_eq_false_iff] at hseparator
  obtain ⟨hblank, hcontrol⟩ := hseparator
  obtain ⟨d, hd, hletter⟩ : ∃ d ∈ escapeMatchChar c, isBlank d = false := by
    rw [escapeMatchChar]
    split_ifs with hoperator hquote hcontrol'
    · exact ⟨'\\', by simp, by decide⟩
    · exact ⟨'\\', by simp, by decide⟩
    · rw [hcontrol] at hcontrol'
      cases hcontrol'
    · exact ⟨c, by simp, hblank⟩
  refine ⟨d, ?_, hletter⟩
  rw [Variant.toList_escapeMatch, escapeMatchChars, hcons, List.flatMap_cons]
  exact List.mem_append_left _ hd

theorem Text.HasLetter.append_left {cs : List Char} (h : HasLetter cs) (ds : List Char) :
    HasLetter (cs ++ ds) := by
  obtain ⟨c, hc, hletter⟩ := h
  exact ⟨c, List.mem_append_left _ hc, hletter⟩

/-- The word itself, in quotation marks or not. -/
theorem Variant.hasLetter_expression_exact {word : String} (hne : word.toList ≠ [])
    (hletters : ∀ c ∈ word.toList, isSeparator c = false) :
    HasLetter (Variant.exact word).expression.toList := by
  obtain ⟨c, hc, hletter⟩ := hasLetter_escapeMatch hne hletters
  refine ⟨c, ?_, hletter⟩
  rw [expression]
  split_ifs
  · rw [String.toList_append, String.toList_append]
    exact List.mem_append_left _ (List.mem_append_right _ hc)
  · exact hc

/-- **A group is written with a character that is not blank** if its only variant is: several
variants stand in parentheses. -/
theorem Alternatives.hasLetter_expression {group : Alternatives}
    (h : ∀ variant, group.variants = [variant] → HasLetter variant.expression.toList) :
    HasLetter group.expression.toList := by
  unfold expression
  split
  · rename_i variant hone
    exact h variant hone
  · refine ⟨'(', ?_, by decide⟩
    rw [String.toList_append, String.toList_append]
    exact List.mem_append_left _ (List.mem_append_left _ (by decide))

/-- The only variant of a widened word is the word. -/
theorem Alternatives.eq_exact_of_ofWord {map : SynonymMap} {lengths : StartLengths} {word : String}
    {variant : Variant} (h : (ofWord map lengths word).variants = [variant]) :
    variant = .exact word := by
  obtain ⟨kept, -, hfold⟩ := exists_standIns word (map.lookup word)
  rw [ofWord, hfold] at h
  split_ifs at h
  · exact (List.cons.inj h).1.symm
  · exact (List.cons.inj h).1.symm

/-- A wording of groups that are not written blank is not written blank. -/
theorem Wording.hasLetter_expression {wording : Wording} (hne : wording.groups ≠ [])
    (h : ∀ group ∈ wording.groups, HasLetter group.expression.toList) :
    HasLetter wording.expression.toList := by
  obtain ⟨first, rest, hcons⟩ := List.exists_cons_of_ne_nil hne
  obtain ⟨more, hmore⟩ :=
    exists_joinWith_cons " " first.expression (rest.map Alternatives.expression)
  rw [expression, hcons, List.map_cons, hmore, String.toList_append]
  exact (h first (by rw [hcons]; exact List.mem_cons_self)).append_left _

/-- A group for each word, of which the word is the only variant if there is just one. -/
theorem Wording.hasLetter_map {text : String} {group : String → Alternatives}
    (hgroup : ∀ word variant, (group word).variants = [variant] → variant = .exact word)
    (h : words text ≠ []) : HasLetter (⟨(words text).map group⟩ : Wording).expression.toList := by
  refine hasLetter_expression (by simpa using h) fun other hother => ?_
  obtain ⟨word, hword, rfl⟩ := List.mem_map.1 hother
  obtain ⟨hne, -, hletters⟩ := toList_of_mem_words hword
  refine Alternatives.hasLetter_expression fun variant hone => ?_
  rw [hgroup word variant hone]
  exact Variant.hasLetter_expression_exact hne hletters

/-- Trimming leaves something of a text with a letter. -/
theorem Text.isEmpty_trim_eq_false {text : String} (h : HasLetter text.toList) :
    (trim text).isEmpty = false := by
  rw [Bool.eq_false_iff, ne_eq, String.isEmpty_iff, ← String.toList_inj, trim,
    String.toList_ofList]
  exact fun hnil => trimChars_eq_nil_iff.1 hnil h

/-! ### The words of a filter -/

namespace Filter

/-- **A filter words its own text**: its words are widened, by whatever synonyms and lengths, or
they are left as they stand. -/
def WordsItsText (filter : Filter) : Prop :=
  ∀ wording ∈ filter.wording, ∃ map lengths, wording = .widened map lengths (filter.text.getD "")

variable {filter : Filter}

theorem hasText_iff : filter.hasText = true ↔ words (filter.text.getD "") ≠ [] := by
  cases htext : filter.text with
  | none => simpa [hasText, htext] using (by decide +kernel : words "" = [])
  | some text => simp [hasText, htext]

theorem WordsItsText.hasLetter_wordingOf (h : filter.WordsItsText) (htext : filter.hasText = true) :
    HasLetter (Planner.wordingOf filter).expression.toList := by
  have hwords := hasText_iff.1 htext
  have hplain : HasLetter (Wording.plain (filter.text.getD "")).expression.toList :=
    Wording.hasLetter_map (fun word variant hone => (List.cons.inj hone).1.symm) hwords
  rw [Planner.wordingOf]
  cases hwording : filter.wording with
  | none => exact hplain
  | some wording =>
    obtain ⟨map, lengths, rfl⟩ := h wording hwording
    dsimp only
    split_ifs
    · exact hplain
    · exact Wording.hasLetter_map (fun word variant => Alternatives.eq_exact_of_ofWord) hwords

/-- Relevance counts where there is a text, unless another order is asked for. -/
theorem key_effectiveOrder_iff :
    filter.effectiveOrder.key = .relevance ↔
      filter.hasText = true ∧ ∀ order ∈ filter.order, order.key = .relevance := by
  rw [effectiveOrder]
  cases horder : filter.order with
  | none => cases filter.hasText <;> simp [SortOrder.natural]
  | some order =>
    by_cases hkey : order.key = .relevance
    · cases filter.hasText <;> simp [SortOrder.natural, hkey]
    · simp [hkey]

end Filter

/-- A blank text has no words. -/
theorem Text.not_isEmpty_trim {text : String} (h : words text ≠ []) :
    (trim text).isEmpty = false := by
  obtain ⟨word, hword⟩ := List.exists_mem_of_ne_nil _ h
  obtain ⟨hne, hmem, hletters⟩ := toList_of_mem_words hword
  obtain ⟨c, hc⟩ := List.exists_mem_of_ne_nil _ hne
  have hseparator := hletters c hc
  rw [isSeparator, Bool.or_eq_false_iff] at hseparator
  exact isEmpty_trim_eq_false ⟨c, hmem c hc, hseparator.1⟩

/-- **The origin store looks for the words of the text**: a blank text, which it is not given, has
none. -/
theorem OriginQuery.words_ofFilter (filter : Filter) :
    (ofFilter filter).words = Text.words (filter.text.getD "") := by
  rw [words, ofFilter]
  cases filter.text with
  | none => exact (by decide +kernel : [] = Text.words "")
  | some text =>
    rw [Option.filter_some]
    by_cases hwords : Text.words text = []
    · split_ifs <;> simp [hwords]
    · rw [if_pos (by rw [not_isEmpty_trim hwords]; rfl)]
      rfl

/-! ### The parts of a statement -/

namespace Sql.Statement

/-- The text of a statement up to its conditions. -/
def head : Statement → String
  | .page index _ scored _ _ _ _ _ => "SELECT id" ++ Planner.columnText scored ++ " FROM " ++ index
  | .count index _ => "SELECT COUNT(*) FROM " ++ index
  | .countByStock index _ => "SELECT stock_status, COUNT(*) AS cnt FROM " ++ index
  | .facet index _ _ _ _ => "SELECT id FROM " ++ index

/-- The statement without its ranking. -/
def unranked : Statement → Statement
  | .page index conditions scored order offset rows window _ =>
    .page index conditions scored order offset rows window none
  | statement => statement

/-- **The clause begins with a full-text condition.** -/
def Matches (statement : Statement) : Prop :=
  ∃ rest, statement.render = statement.head ++ (" WHERE MATCH('" ++ rest)

/-- **The relevance is a column.** -/
def Scored (statement : Statement) : Prop :=
  ∃ rest, statement.render = "SELECT id, WEIGHT() AS relevance FROM " ++ rest

/-- **The relevance comes first in the order**, which follows the clause. -/
def SortsByRelevance (statement : Statement) : Prop :=
  ∃ rest, statement.render =
    statement.head ++ (renderWhere statement.conditions ++ (" ORDER BY relevance " ++ rest))

/-- **Weights and a ranking formula are named** among the options. -/
def NamesWeights (ranker : String) (statement : Statement) : Prop :=
  ∃ weights, statement.render =
    statement.unranked.render ++ (", field_weights=(" ++ weights ++ "), ranker=" ++ ranker)

end Sql.Statement

namespace Planner

variable {planner : Planner} {filter : Filter}

/-- **The expression is there exactly if there is a text.** -/
theorem isSome_matchExpression_iff (planner : Planner) (hwording : filter.WordsItsText) :
    (planner.matchExpression filter).isSome = true ↔ filter.hasText = true := by
  rw [matchExpression]
  by_cases htext : filter.hasText = true
  · have htrim := isEmpty_trim_eq_false (hwording.hasLetter_wordingOf htext)
    simp [htext, htrim]
  · simp [htext]

/-- A choice of texts begins with its field. -/
theorem exists_render_textAmong (field : String) (values : List String) :
    ∃ rest, (Condition.textAmong field values).render = field ++ rest := by
  match values with
  | [value] => exact ⟨_, String.append_assoc ..⟩
  | [] => exact ⟨_, by rw [Condition.render, String.append_assoc, String.append_assoc]; simp⟩
  | _ :: _ :: _ =>
    exact ⟨_, by rw [Condition.render, String.append_assoc, String.append_assoc]; simp⟩

/-- A clause begins with its first condition. -/
theorem exists_renderWhere_cons (condition : Condition) (conditions : List Condition) :
    ∃ rest, renderWhere (condition :: conditions) = " WHERE " ++ (condition.render ++ rest) := by
  obtain ⟨rest, hrest⟩ :=
    exists_joinWith_cons " AND " condition.render (conditions.map Condition.render)
  exact ⟨rest, by rw [renderWhere, List.map_cons, hrest]⟩

/-- **The clause of a filter** begins with its expression, or else with the types of documents. -/
theorem exists_renderWhere_conditions (planner : Planner) (filter : Filter)
    (half : Option StockHalf) :
    ∃ rest, renderWhere (planner.conditions filter half) =
      " WHERE " ++ ((if (planner.matchExpression filter).isSome then "MATCH('" else "post_type") ++
        rest) := by
  rw [conditions_eq]
  cases planner.matchExpression filter with
  | some expression =>
    obtain ⟨rest, hrest⟩ := exists_renderWhere_cons (.fullText expression)
      (planner.fieldConditions filter half)
    refine ⟨expression ++ "')" ++ rest, hrest.trans ?_⟩
    rw [Option.isSome_some, if_pos rfl, Condition.render]
    simp only [String.append_assoc]
  | none =>
    obtain ⟨more, hmore⟩ :=
      exists_render_textAmong "post_type" (valuesOr "product" filter.postTypes)
    obtain ⟨conditions, hconditions⟩ : ∃ conditions, planner.fieldConditions filter half =
        .textAmong "post_type" (valuesOr "product" filter.postTypes) :: conditions := by
      simp [fieldConditions]
    obtain ⟨rest, hrest⟩ := exists_renderWhere_cons
      (.textAmong "post_type" (valuesOr "product" filter.postTypes)) conditions
    refine ⟨more ++ rest, ?_⟩
    rw [hconditions, Option.map_none, Option.toList_none, List.nil_append, hrest, hmore,
      Option.isSome_none, if_neg Bool.false_ne_true, String.append_assoc]

/-- **A statement on the conditions of a filter matches its text**, if it has one. -/
theorem matches_iff {statement : Statement} {half : Option StockHalf}
    (h : ∃ tail, statement.render =
      statement.head ++ (renderWhere (planner.conditions filter half) ++ tail)) :
    statement.Matches ↔ (planner.matchExpression filter).isSome = true := by
  have hmatch : " WHERE MATCH('" = " WHERE " ++ "MATCH('" := by decide +kernel
  obtain ⟨tail, htail⟩ := h
  obtain ⟨rest, hrest⟩ := planner.exists_renderWhere_conditions filter half
  rw [Statement.Matches, htail, hrest, hmatch]
  simp only [String.append_right_inj, String.append_assoc]
  cases (planner.matchExpression filter).isSome with
  | true => exact iff_of_true ⟨rest ++ tail, rfl⟩ rfl
  | false =>
    refine iff_of_false ?_ Bool.false_ne_true
    rintro ⟨other, hother⟩
    exact append_ne_append 0 (by decide) (by decide) (by decide) _ _ hother

/-- The ranking formula of a planner is that of its settings. -/
theorem text_ranker {schema : Schema} {settings : Settings}
    (hplanner : ofSettings schema settings = .ok planner) :
    planner.ranker.text = settings.ranker := by
  rw [ofSettings] at hplanner
  split at hplanner
  · cases hplanner
  · split at hplanner
    · cases hplanner
    · rename_i ranker hranker
      cases hplanner
      exact Identifier.ofString?_eq_some_iff.1 hranker

section Page

variable (planner : Planner) (filter : Filter) (half : Option StockHalf) (offset limit : Nat)

theorem render_page_eq_head :
    (planner.page filter half offset limit).render =
      (planner.page filter half offset limit).head ++
        (renderWhere (planner.conditions filter half) ++ planner.pageTail filter offset limit) := by
  have hhead : (planner.page filter half offset limit).head =
      "SELECT id" ++ columnText filter.hasText ++ " FROM " ++ planner.index.text := rfl
  rw [hhead, render_page_eq]
  simp only [String.append_assoc]

theorem exists_render_count :
    ∃ tail, (planner.count filter half).render = (planner.count filter half).head ++
      (renderWhere (planner.conditions filter half) ++ tail) :=
  ⟨"", congrArg ((planner.count filter half).head ++ ·) String.append_empty.symm⟩

theorem exists_render_countByStock :
    ∃ tail, (planner.countByStock filter).render = (planner.countByStock filter).head ++
      (renderWhere (planner.conditions filter none) ++ tail) :=
  ⟨" GROUP BY stock_status", String.append_assoc ..⟩

theorem exists_render_facet (field : String) :
    ∃ tail, (planner.facet filter field limit).render = (planner.facet filter field limit).head ++
      (renderWhere (planner.conditions filter none) ++ tail) := by
  have hhead : (planner.facet filter field limit).head = "SELECT id FROM " ++ planner.index.text :=
    rfl
  rw [hhead, facet, Statement.render_facet]
  simp only [String.append_assoc]
  exact ⟨_, rfl⟩

theorem scored_page_iff :
    (planner.page filter half offset limit).Scored ↔ filter.hasText = true := by
  rw [Statement.Scored, render_page_eq]
  cases filter.hasText with
  | true =>
    have hcolumns : "SELECT id, WEIGHT() AS relevance FROM " =
        "SELECT id" ++ (columnText true ++ " FROM ") := by decide +kernel
    refine iff_of_true ⟨planner.index.text ++ (renderWhere (planner.conditions filter half) ++
      planner.pageTail filter offset limit), ?_⟩ rfl
    rw [hcolumns]
    simp only [String.append_assoc]
  | false =>
    refine iff_of_false ?_ Bool.false_ne_true
    rintro ⟨rest, hrest⟩
    rw [columnText, if_neg Bool.false_ne_true, String.empty_append, ← String.append_assoc] at hrest
    exact append_ne_append 9 (by decide +kernel) (by decide +kernel) (by decide +kernel) _ _ hrest

/-- Only the order by relevance begins with it. -/
theorem exists_renderOrder_iff (order : SortOrder) (more : String) :
    (∃ rest, renderOrder order ++ more = "relevance " ++ rest) ↔ order.key = .relevance := by
  obtain ⟨behind, hbehind⟩ :
      ∃ behind, renderOrder order = sortColumn order.key ++ " " ++ behind := by
    rw [renderOrder]
    split_ifs
    · exact ⟨_, rfl⟩
    · exact ⟨_, String.append_assoc ..⟩
  rw [hbehind, String.append_assoc]
  cases order.key with
  | relevance => exact iff_of_true ⟨behind ++ more, rfl⟩ rfl
  | _ =>
    refine iff_of_false ?_ nofun
    rintro ⟨rest, hrest⟩
    exact append_ne_append 0 (by decide) (by decide) (by decide) _ _ hrest

theorem sortsByRelevance_page_iff :
    (planner.page filter half offset limit).SortsByRelevance ↔
      filter.hasText = true ∧ ∀ order ∈ filter.order, order.key = .relevance := by
  have hword : " ORDER BY relevance " = " ORDER BY " ++ "relevance " := by decide +kernel
  have hconditions : (planner.page filter half offset limit).conditions =
      planner.conditions filter half := rfl
  rw [Statement.SortsByRelevance, render_page_eq_head, hconditions, hword, pageTail]
  simp only [String.append_right_inj, String.append_assoc]
  rw [exists_renderOrder_iff, Filter.key_effectiveOrder_iff]

/-- The ranking stands at the end. -/
theorem render_page_eq_unranked :
    (planner.page filter half offset limit).render =
      (planner.page filter half offset limit).unranked.render ++
        renderRanking (planner.ranking filter) := by
  have hunranked : (planner.page filter half offset limit).unranked =
      .page planner.index.text (planner.conditions filter half) filter.hasText
        filter.effectiveOrder offset (max limit 1)
        (max planner.maxMatches (Number.addCountsUpTo offset (max limit 1))) none := rfl
  have hnone : renderRanking none = "" := rfl
  rw [hunranked, page, Statement.render_page, Statement.render_page, hnone, String.append_empty]

theorem namedWeights_ne_empty (weights ranker : String) :
    ", field_weights=(" ++ weights ++ "), ranker=" ++ ranker ≠ "" := by
  intro hempty
  obtain ⟨hfields, -⟩ := String.append_eq_empty_iff.1 hempty
  obtain ⟨hfields, -⟩ := String.append_eq_empty_iff.1 hfields
  obtain ⟨hfields, -⟩ := String.append_eq_empty_iff.1 hfields
  exact absurd hfields (by decide)

/-- **Weights and the ranking formula are named together**, or neither is. -/
theorem namesWeights_page_iff {schema : Schema} {settings : Settings}
    (hplanner : ofSettings schema settings = .ok planner) :
    ((planner.page filter half offset limit).NamesWeights settings.ranker ↔
      filter.hasText = true ∧ settings.searchedFields schema ≠ []) ∧
    ((planner.page filter half offset limit).render =
        (planner.page filter half offset limit).unranked.render ↔
      ¬ (filter.hasText = true ∧ settings.searchedFields schema ≠ [])) := by
  have hranked : (filter.hasText && !planner.weights.isEmpty) = true ↔
      filter.hasText = true ∧ settings.searchedFields schema ≠ [] := by
    rw [← map_field_weights hplanner]
    simp
  rw [Statement.NamesWeights, render_page_eq_unranked, ← hranked, ranking]
  simp only [String.append_right_inj, String.append_eq_left_iff]
  split_ifs with h
  · have hnamed := renderRanking_some
      ⟨planner.weights.map fun w => (w.field.text, w.weight), planner.ranker.text⟩
    rw [hnamed, text_ranker hplanner]
    exact ⟨iff_of_true ⟨_, rfl⟩ h,
      iff_of_false (namedWeights_ne_empty _ _) (not_not_intro h)⟩
  · refine ⟨iff_of_false ?_ h, iff_of_true rfl h⟩
    rintro ⟨weights, hnamed⟩
    exact namedWeights_ne_empty _ _ hnamed.symm

end Page

/-- **All agree on whether there is a text to search for**: the filter, the words of its text, the
full-text expression, the conditions, the clauses of pages and counts, of all matches or of one half
of them, the columns of a page, and the origin store. Exactly then a page is sorted by relevance,
unless another order is asked for, and ranked by weights, unless there is no field to search; a page
that is not ranked says nothing of a ranking. -/
theorem tfae_hasText {schema : Schema} {settings : Settings}
    (hplanner : ofSettings schema settings = .ok planner) (hwording : filter.WordsItsText)
    (half counted : Option StockHalf) (offset rows : Nat) (field : String) (limit : Nat) :
    [filter.hasText = true,
      words (filter.text.getD "") ≠ [],
      (planner.matchExpression filter).isSome = true,
      ∃ expression, Condition.fullText expression ∈ planner.conditions filter counted,
      (planner.page filter half offset rows).Matches,
      (planner.count filter counted).Matches,
      (planner.countByStock filter).Matches,
      (planner.facet filter field limit).Matches,
      (planner.page filter half offset rows).Scored,
      (OriginQuery.ofFilter filter).words ≠ []].TFAE ∧
    ((planner.page filter half offset rows).SortsByRelevance ↔
      filter.hasText = true ∧ ∀ order ∈ filter.order, order.key = .relevance) ∧
    ((planner.page filter half offset rows).NamesWeights settings.ranker ↔
      filter.hasText = true ∧ settings.searchedFields schema ≠ []) ∧
    ((planner.page filter half offset rows).render =
        (planner.page filter half offset rows).unranked.render ↔
      ¬ (filter.hasText = true ∧ settings.searchedFields schema ≠ [])) := by
  have hexpression := planner.isSome_matchExpression_iff hwording
  refine ⟨List.tfae_of_forall (filter.hasText = true) _ ?_, sortsByRelevance_page_iff ..,
    namesWeights_page_iff _ _ _ _ _ hplanner⟩
  have hcondition : (∃ expression, Condition.fullText expression ∈
      planner.conditions filter counted) ↔ (planner.matchExpression filter).isSome = true := by
    simp only [fullText_mem_conditions_iff, Option.isSome_iff_exists]
  have hpage := matches_iff ⟨_, planner.render_page_eq_head filter half offset rows⟩
  have hcount := matches_iff (planner.exists_render_count filter counted)
  have hstock := matches_iff (planner.exists_render_countByStock filter)
  have hfacet := matches_iff (planner.exists_render_facet filter limit field)
  have hscored := planner.scored_page_iff filter half offset rows
  have horigin : (OriginQuery.ofFilter filter).words ≠ [] ↔ filter.hasText = true := by
    rw [OriginQuery.words_ofFilter, Filter.hasText_iff]
  simp only [List.forall_mem_cons]
  exact ⟨trivial, Filter.hasText_iff.symm, hexpression, hcondition.trans hexpression,
    hpage.trans hexpression, hcount.trans hexpression, hstock.trans hexpression,
    hfacet.trans hexpression, hscored, horigin, List.forall_mem_nil _⟩

/-- A search for a color, with its synonyms, in the order of relevance and by the standard weights.
-/
theorem matches_redSearch :
    ofSettings (Schema.products "products" []) Settings.standard = .ok products ∧
      redSearch.WordsItsText ∧ (products.page redSearch none 0 12).Matches ∧
      (products.page redSearch none 0 12).SortsByRelevance ∧
      (products.page redSearch none 0 12).NamesWeights Settings.standard.ranker := by
  have hwording : redSearch.WordsItsText := fun wording h =>
    ⟨.ofGroups redGroups, ⟨3, 4⟩, (Option.some.inj h).symm⟩
  have htext : redSearch.hasText = true := by decide +kernel
  obtain ⟨hagree, hsorts, hweights, -⟩ :=
    tfae_hasText ofSettings_products hwording none none 0 12 "product_cat" 10
  exact ⟨ofSettings_products, hwording, (hagree.out 0 4).1 htext, hsorts.2 ⟨htext, nofun⟩,
    hweights.2 ⟨htext, by decide +kernel⟩⟩

end Planner

end Storefront
