import Mathlib.Data.List.Forall2
import Storefront.Proofs.Planner.Names
import Storefront.Proofs.Wording.Meaning

/-!
# What the expression of a filter asks for

A filter with a text is searched by the wording that the text has been widened to, in each of the
weighted fields that can be searched. The expression goes through two readers on its way: it stands
in the literal of a `MATCH`, and its content is a full-text expression.

Main statement: what arrives is what was meant (`Planner.exists_readBody?_matchExpression`). Read
within its quotes, the expression is a query for all the words of the text, each in any of the ways
to match it, in any of the searched fields. Backslashes have to be kept out: of the text, because a
backslash in it is not the reader's when it arrives, and of the synonyms; so have control characters
of the synonyms, which a phrase would be cut at.
-/

namespace Storefront

open FullText Sql Text

/-- The query in any of the fields, and anywhere without a field. -/
def FullText.overFields (fields : List String) (query : Query) : Query :=
  match fields with
  | [] => query
  | fields => anyOf (fields.map (.within · query))

/-- The weighted fields that can be searched: above zero, on an identifier, on a field of the
index. -/
def Settings.searchedFields (settings : Settings) (schema : Schema) : List String :=
  (settings.fieldWeights.filter fun weight =>
    decide (0 < weight.weight) && isIdentifier weight.field &&
      schema.hasTextField weight.field).map (·.field)

namespace Planner

variable {planner : Planner}

/-- The name of a weight that can be used. -/
theorem map_weightedField? (schema : Schema) (weight : FieldWeight) :
    (weightedField? schema weight).map (·.field.text) =
      if 0 < weight.weight ∧ isIdentifier weight.field = true ∧
        schema.hasTextField weight.field = true then some weight.field else none := by
  by_cases hname : isIdentifier weight.field = true <;>
    simp only [weightedField?, Identifier.ofString?, hname, Bool.and_eq_true, decide_eq_true_eq,
      true_and, false_and, and_false, dif_pos, dite_false, Bool.false_eq_true, reduceIte] <;>
    split_ifs <;> rfl

/-- The fields of the planner are those of its settings that can be searched. -/
theorem map_field_weights {schema : Schema} {settings : Settings}
    (h : ofSettings schema settings = .ok planner) :
    planner.weights.map (·.field.text) = settings.searchedFields schema := by
  have hweights : planner.weights = settings.fieldWeights.filterMap (weightedField? schema) := by
    rw [ofSettings] at h
    split at h
    · cases h
    · split at h
      · cases h
      · cases h
        rfl
  rw [hweights, Settings.searchedFields, List.map_filterMap]
  induction settings.fieldWeights with
  | nil => rfl
  | cons weight weights ih =>
    rw [List.filterMap_cons, map_weightedField?, List.filter_cons]
    split_ifs <;> simp_all

/-- **The expression over the fields of a planner**, read by itself. -/
theorem completes_overFields (planner : Planner) {α : Type} {text : α → String}
    {meaning : α → Query} {as : List α}
    (hne : as ≠ []) (h : ∀ a ∈ as, ReadsAs (text a) (meaning a)) :
    (Reader.between .fresh []).Completes
      (planner.overFields (joinWith " " (as.map text))).toList
      (FullText.overFields (planner.weights.map (·.field.text)) (allOf (as.map meaning))) := by
  rw [Planner.overFields]
  split
  · rename_i hweights
    rw [hweights]
    exact completes_allOf hne h
  · rename_i weights hsome
    let within (w : WeightedField) : Query := .within w.field.text (allOf (as.map meaning))
    have hfields : ∀ w ∈ planner.weights, ReadsAs
        ("(@" ++ w.field.text ++ " " ++ joinWith " " (as.map text) ++ ")") (within w) :=
      fun w _ => readsAs_within w.field.isIdentifier_text hne h
    have hover : FullText.overFields (planner.weights.map (·.field.text))
        (allOf (as.map meaning)) = anyOf (planner.weights.map within) := by
      obtain ⟨w, ws, hw⟩ := List.exists_cons_of_ne_nil hsome
      simp [FullText.overFields, hw, Function.comp_def, within]
    rw [hover]
    exact completes_anyOf hsome hfields

/-- The expression of a text whose words are widened. -/
theorem matchExpression_widened {map : SynonymMap} {lengths : StartLengths} {text : String}
    {filter : Filter} (htext : filter.text = some text)
    (hwording : filter.wording = some (.widened map lengths text)) (hwords : words text ≠ [])
    (hletter : HasLetter (Wording.widened map lengths text).expression.toList) :
    planner.matchExpression filter =
      some (planner.overFields (Wording.widened map lengths text).expression) := by
  have hhas : filter.hasText = true := by
    simpa [Filter.hasText, htext] using hwords
  have hwide : wordingOf filter = .widened map lengths text := by
    rw [wordingOf, hwording]
    simp [Wording.isEmpty, Wording.widened, hwords]
  have htrim : (trim (Wording.widened map lengths text).expression).isEmpty = false := by
    have hne : trimChars (Wording.widened map lengths text).expression.toList ≠ [] :=
      fun hnil => trimChars_eq_nil_iff.1 hnil hletter
    rw [trim, Bool.eq_false_iff, ne_eq, String.isEmpty_iff, ← String.toList_inj,
      String.toList_ofList]
    exact hne
  rw [matchExpression, if_pos hhas, hwide]
  simp [htrim]

/-- **The expression of a filter asks for its words, widened, in one of the fields.** -/
theorem exists_readBody?_matchExpression {schema : Schema} {settings : Settings}
    (hplanner : ofSettings schema settings = .ok planner) {groups : List SynonymGroup}
    {lengths : StartLengths} {text : String} {filter : Filter} (htext : filter.text = some text)
    (hwording : filter.wording = some (.widened (.ofGroups groups) lengths text))
    (hwords : words text ≠ []) (hb : '\\' ∉ text.toList)
    (hsynonyms : ∀ word ∈ words text, ∀ s ∈ (SynonymMap.ofGroups groups).lookup word,
      '\\' ∉ s.toList ∧ ∀ c ∈ s.toList, isControl c = false) :
    ∃ expression choices, planner.matchExpression filter = some expression ∧
      (words text).Forall₂ (Alternatives.IsWidened (.ofGroups groups) lengths) choices ∧
      readBody? expression.toList =
        some (FullText.overFields (settings.searchedFields schema) (allOf (choices.map anyOf))) := by
  let group (word : String) : Alternatives := .ofWord (.ofGroups groups) lengths word
  have hreads : ∀ word ∈ words text, ReadsAs (group word).expression (group word).query := by
    intro word hmem
    obtain ⟨hne, hchars, hletters⟩ := toList_of_mem_words hmem
    refine Alternatives.readsAs_ofWord (fun h => hb (hchars _ h)) hne hletters fun s hs => ?_
    obtain ⟨hplain, hcontrol⟩ := hsynonyms word hmem s hs
    exact SynonymMap.isPlain_of_mem_lookup hs hplain hcontrol
  have hexpression : (Wording.widened (.ofGroups groups) lengths text).expression =
      joinWith " " ((words text).map fun word => (group word).expression) := by
    rw [Wording.expression, Wording.widened, List.map_map]
    rfl
  have hletter := (completes_allOf hwords hreads).exists_not_blank
  have hread := (completes_overFields planner hwords hreads).readBody?
  rw [← hexpression] at hletter hread
  refine ⟨_, (words text).map fun word => (group word).variants.map Variant.query,
    matchExpression_widened htext hwording hwords hletter, ?_, ?_⟩
  · rw [List.forall₂_map_right_iff, List.forall₂_same]
    intro word hmem
    obtain ⟨hne, -, hletters⟩ := toList_of_mem_words hmem
    exact Alternatives.isWidened_ofWord hne hletters
  · rw [hread, map_field_weights hplanner, List.map_map]
    rfl

/-- Synonyms for a color: one of two words, and one that differs from another by its case alone. -/
def redGroups : List SynonymGroup :=
  [⟨"red", ["crimson", "dark red", "Crimson"]⟩, ⟨"RED", ["o'ruby"]⟩]

/-- A search for the color, which is short enough to be a beginning, and for a name with quotes,
parentheses and a star. -/
def redSearch : Filter :=
  { Filter.products with
    text := some "Red (\"o'neil\")*"
    wording := some (.widened (.ofGroups redGroups) ⟨3, 4⟩ "Red (\"o'neil\")*") }

theorem exists_readBody?_redSearch :
    ∃ expression choices, products.matchExpression redSearch = some expression ∧
      (words "Red (\"o'neil\")*").Forall₂
        (Alternatives.IsWidened (.ofGroups redGroups) ⟨3, 4⟩) choices ∧
      readBody? expression.toList = some (FullText.overFields
        (Settings.standard.searchedFields (Schema.products "products" []))
        (allOf (choices.map anyOf))) := by
  have hclean : ((words "Red (\"o'neil\")*").all fun word =>
      ((SynonymMap.ofGroups redGroups).lookup word).all fun s =>
        s.toList.all fun c => c ≠ '\\' && !isControl c) = true := by decide +kernel
  simp only [List.all_eq_true, Bool.and_eq_true, decide_eq_true_eq, Bool.not_eq_true'] at hclean
  refine exists_readBody?_matchExpression ofSettings_products rfl rfl (by decide +kernel)
    (by decide +kernel) fun word hword s hs => ⟨?_, fun c hc => (hclean word hword s hs c hc).2⟩
  exact fun hmem => (hclean word hword s hs _ hmem).1 rfl

end Planner

end Storefront
