import Mathlib.Data.List.Flatten
import Storefront.Facet
import Storefront.Proofs.Map.Entries
import Storefront.Proofs.Planner.Keys
import Storefront.Proofs.Planner.Meaning
import Storefront.Proofs.Request.Precedence

/-!
# What the counts of a taxonomy are restricted by

The counts of a taxonomy should be those of the filter without anything that it says of the
taxonomy's field, and with everything else: choosing one color must not hide the other colors. But
what is taken out of the filter is looked for by the *taxonomy*, as it is spelled, and categories and
tags by theirs; and it is the *field* that the conditions of a statement are on. Several taxonomies
have one field:

| said of the field | taken out for its counts under |
|---|---|
| a category, a tag | the taxonomy of categories, of tags |
| the terms of an attribute | the spelling that the filter has for it, and no other |

So what is said of the field under another name stays in, and restricts the counts. And what the
filter has under the name of the categories as an *attribute* is taken out, though it is said of
another field. `Filter.OnlyUnder` says that neither occurs.

Main statement: all statements for the counts of some taxonomies are those with every condition on
the field left out, and no other, exactly if the filter speaks of each field only under the taxonomy
that is counted (`Planner.executed_facetCountsFor_iff`). From left to right the statements are read
back: the text of a clause tells how many conditions it has on each field
(`Planner.fields_of_renderWhere`).
-/

namespace Storefront

open Sql Text

/-! ### Fields of taxonomies -/

/-- The fields of the terms of taxonomies have this ending. -/
def Taxonomy.IsTermField (field : String) : Prop :=
  "_ids".toList <:+ field.toList

instance (field : String) : Decidable (Taxonomy.IsTermField field) :=
  inferInstanceAs (Decidable (_ <:+ _))

theorem Taxonomy.isTermField_field (taxonomy : String) : IsTermField (field taxonomy) := by
  rw [IsTermField, field, String.toList_append]
  exact List.suffix_append _ _

/-- A taxonomy is counted in a field of the index for terms, and categories and tags in theirs. -/
structure Schema.CountsIn (schema : Schema) (taxonomy field : String) : Prop where
  declared : schema.hasMultiValued field = true
  isTermField : Taxonomy.IsTermField field
  categories : taxonomy = Taxonomy.categories → field = Taxonomy.categoryField
  tags : taxonomy = Taxonomy.tags → field = Taxonomy.tagField

theorem Schema.countsIn_of_facetField? {schema : Schema} {taxonomy field : String}
    (h : schema.facetField? taxonomy = some field) : schema.CountsIn taxonomy field := by
  rw [facetField?] at h
  split_ifs at h with hcategories hdeclared htags hdeclared
  · obtain rfl := Option.some.inj h
    subst hcategories
    exact ⟨hdeclared, by decide, fun _ => rfl, by decide⟩
  · obtain rfl := Option.some.inj h
    subst htags
    exact ⟨hdeclared, by decide, by decide, fun _ => rfl⟩
  · rw [taxonomyField?] at h
    split_ifs at h with hdeclared
    obtain rfl := Option.some.inj h
    exact ⟨hdeclared, Taxonomy.isTermField_field taxonomy, fun h => absurd h hcategories,
      fun h => absurd h htags⟩

/-- **A filter speaks of a field only under one taxonomy**, and under this of no other field. -/
structure Filter.OnlyUnder (filter : Filter) (schema : Schema) (taxonomy field : String) :
    Prop where
  category : field = Taxonomy.categoryField → taxonomy ≠ Taxonomy.categories →
    filter.category = none
  tag : field = Taxonomy.tagField → taxonomy ≠ Taxonomy.tags → filter.tag = none
  attributes : ∀ entry ∈ filter.attributes.entries,
    schema.hasMultiValued (Taxonomy.field entry.1) = true →
      (Taxonomy.field entry.1 = field ↔ entry.1 = taxonomy)

theorem Filter.onlyUnder_iff {filter : Filter} {schema : Schema} {taxonomy field : String} :
    filter.OnlyUnder schema taxonomy field ↔
      (field = Taxonomy.categoryField → taxonomy ≠ Taxonomy.categories → filter.category = none) ∧
      (field = Taxonomy.tagField → taxonomy ≠ Taxonomy.tags → filter.tag = none) ∧
      ∀ entry ∈ filter.attributes.entries,
        schema.hasMultiValued (Taxonomy.field entry.1) = true →
          (Taxonomy.field entry.1 = field ↔ entry.1 = taxonomy) :=
  ⟨fun h => ⟨h.category, h.tag, h.attributes⟩, fun h => ⟨h.1, h.2.1, h.2.2⟩⟩

instance (filter : Filter) (schema : Schema) (taxonomy field : String) :
    Decidable (filter.OnlyUnder schema taxonomy field) :=
  decidable_of_iff' _ Filter.onlyUnder_iff

namespace Planner

variable {planner : Planner} {filter : Filter} {taxonomy field : String}

/-! ### The conditions on terms -/

/-- The conditions of a filter in front of those on terms. -/
def conditionsBefore (planner : Planner) (filter : Filter) : List Condition :=
  [.textAmong "post_type" (valuesOr "product" filter.postTypes),
    .textAmong "post_status" (valuesOr "publish" filter.postStatuses)] ++
    (if !filter.includeHidden && planner.schema.hasAttribute "visibility" then
      [.textDiffers "visibility" "hidden"] else [])

/-- The conditions of a filter on the terms of taxonomies. -/
def termConditions (planner : Planner) (filter : Filter) : List Condition :=
  planner.termCondition Taxonomy.categoryField filter.category ++
    planner.termCondition Taxonomy.tagField filter.tag ++
    filter.attributes.entries.flatMap planner.attributeConditions

/-- The conditions of a filter behind those on terms. -/
def conditionsBehind (planner : Planner) (filter : Filter) : List Condition :=
  planner.boundCondition "price" filter.minPrice (.atLeast "price") ++
    planner.boundCondition "price" filter.maxPrice (.atMost "price") ++
    planner.statusCondition filter.stock ++
    planner.boundCondition "average_rating" filter.minRating (.atLeast "average_rating") ++
    includeCondition filter.includeIds ++
    excludeCondition filter.excludeIds

theorem fieldConditions_eq (planner : Planner) (filter : Filter) :
    planner.fieldConditions filter none =
      planner.conditionsBefore filter ++ planner.termConditions filter ++
        planner.conditionsBehind filter := by
  simp only [fieldConditions, conditionsBefore, termConditions, conditionsBehind, halfCondition,
    List.append_assoc, List.append_nil]

theorem exists_of_mem_boundCondition {bound : Option Binary64} {condition : Binary64 → Condition}
    {c : Condition} (h : c ∈ planner.boundCondition field bound condition) :
    ∃ x, c = condition x := by
  rw [boundCondition] at h
  split at h
  · split_ifs at h
    · exact ⟨_, List.mem_singleton.1 h⟩
    · cases h
  · cases h

/-- A condition that is not on the terms of a taxonomy. -/
def IsScalar (condition : Condition) : Prop :=
  ∀ field ∈ condition.field?, ¬ Taxonomy.IsTermField field

theorem isScalar_of_field? {condition : Condition} (hfield : condition.field? = some field)
    (h : ¬ Taxonomy.IsTermField field) : IsScalar condition := by
  rintro other hother
  rw [Option.mem_def, hfield] at hother
  rwa [← Option.some.inj hother]

theorem isScalar_of_mem_before {condition : Condition}
    (h : condition ∈ planner.conditionsBefore filter) : IsScalar condition := by
  rw [conditionsBefore, List.mem_append, List.mem_cons, List.mem_singleton] at h
  rcases h with (rfl | rfl) | h
  · exact isScalar_of_field? rfl (by decide)
  · exact isScalar_of_field? rfl (by decide)
  · split_ifs at h
    · obtain rfl := List.mem_singleton.1 h
      exact isScalar_of_field? rfl (by decide)
    · cases h

theorem isScalar_of_mem_behind {condition : Condition}
    (h : condition ∈ planner.conditionsBehind filter) : IsScalar condition := by
  simp only [conditionsBehind, List.mem_append] at h
  rcases h with ((((h | h) | h) | h) | h) | h
  · obtain ⟨x, rfl⟩ := exists_of_mem_boundCondition h
    exact isScalar_of_field? rfl (by decide)
  · obtain ⟨x, rfl⟩ := exists_of_mem_boundCondition h
    exact isScalar_of_field? rfl (by decide)
  · unfold statusCondition at h
    split at h
    · split_ifs at h
      · obtain rfl := List.mem_singleton.1 h
        exact isScalar_of_field? rfl (by decide)
      · cases h
    · cases h
  · obtain ⟨x, rfl⟩ := exists_of_mem_boundCondition h
    exact isScalar_of_field? rfl (by decide)
  · unfold includeCondition at h
    split at h
    · cases h
    · obtain rfl := List.mem_singleton.1 h
      exact isScalar_of_field? rfl (by decide)
    · obtain rfl := List.mem_singleton.1 h
      exact isScalar_of_field? rfl (by decide)
  · rw [excludeCondition] at h
    split_ifs at h
    · cases h
    · obtain rfl := List.mem_singleton.1 h
      exact isScalar_of_field? rfl (by decide)

/-- The conditions of a taxonomy's terms are on the field of the taxonomy. -/
theorem field?_of_mem_attributeConditions {entry : String × TermFilter} {condition : Condition}
    (h : condition ∈ planner.attributeConditions entry) :
    condition.field? = some (Taxonomy.field entry.1) := by
  obtain ⟨spelling, terms⟩ := entry
  rw [attributeConditions] at h
  split_ifs at h
  · cases h
  split at h
  · cases h
  rename_i field hfield
  rw [Schema.taxonomyField?] at hfield
  split_ifs at hfield
  obtain rfl := Option.some.inj hfield
  split at h
  · obtain ⟨term, -, rfl⟩ := List.mem_map.1 h
    rfl
  · obtain rfl := List.mem_singleton.1 h
    rfl

/-- There are such conditions exactly if there are terms and the index has the field. -/
theorem attributeConditions_eq_nil_iff {entry : String × TermFilter} :
    planner.attributeConditions entry = [] ↔
      entry.2.terms = [] ∨ planner.schema.hasMultiValued (Taxonomy.field entry.1) = false := by
  obtain ⟨spelling, terms, combinator⟩ := entry
  by_cases hterms : terms = []
  · simp [attributeConditions, hterms]
  by_cases hdeclared : planner.schema.hasMultiValued (Taxonomy.field spelling) = true
  · cases combinator <;> simp [attributeConditions, Schema.taxonomyField?, hterms, hdeclared]
  · simp [attributeConditions, Schema.taxonomyField?, hterms, hdeclared]

/-! ### Conditions with a field left out -/

/-- The conditions that are not on the field. -/
def beside (field : String) (conditions : List Condition) : List Condition :=
  conditions.filter fun c => c.field? ≠ some field

/-- **The counts of a field among the matches of all that a filter says of other fields.** -/
def facetBeside (planner : Planner) (filter : Filter) (field : String) (limit : Nat) : Statement :=
  .facet planner.index.text (beside field (planner.conditions filter none)) field
    planner.maxMatches (max limit 1)

@[simp] theorem beside_append (field : String) (conditions more : List Condition) :
    beside field (conditions ++ more) = beside field conditions ++ beside field more :=
  List.filter_append ..

theorem beside_of_isScalar {conditions : List Condition} (hfield : Taxonomy.IsTermField field)
    (h : ∀ c ∈ conditions, IsScalar c) : beside field conditions = conditions := by
  refine List.filter_eq_self.2 fun c hc => ?_
  rw [decide_eq_true_eq]
  intro heq
  exact h c hc field heq hfield

theorem beside_termCondition (field own : String) (term : Option Int) :
    beside field (planner.termCondition own term) =
      if own = field then [] else planner.termCondition own term := by
  unfold termCondition
  split
  · split_ifs with hdeclared hown hown <;> simp [beside, Condition.field?, hown]
  · split_ifs <;> rfl

theorem beside_attributeConditions (field : String) (entry : String × TermFilter) :
    beside field (planner.attributeConditions entry) =
      if Taxonomy.field entry.1 = field then [] else planner.attributeConditions entry := by
  split_ifs with hown
  · refine List.filter_eq_nil_iff.2 fun c hc => ?_
    rw [field?_of_mem_attributeConditions hc, hown]
    simp
  · refine List.filter_eq_self.2 fun c hc => ?_
    rw [field?_of_mem_attributeConditions hc]
    simpa using hown

/-- The conditions beside a field are on other fields. -/
theorem notMem_fields_beside (field : String) (conditions : List Condition) :
    field ∉ (beside field conditions).filterMap Condition.field? := by
  intro h
  obtain ⟨c, hc, hfield⟩ := List.mem_filterMap.1 h
  rw [beside, List.mem_filter, decide_eq_true_eq] at hc
  exact hc.2 hfield

/-- All that is left out is on the field. -/
theorem count_fields_beside {other : String} (h : other ≠ field) (conditions : List Condition) :
    ((beside field conditions).filterMap Condition.field?).count other =
      (conditions.filterMap Condition.field?).count other := by
  induction conditions with
  | nil => rfl
  | cons c cs ih =>
    rw [beside, List.filter_cons]
    by_cases hc : c.field? = some field
    · rw [if_neg (by simp [hc]), List.filterMap_cons_some hc, List.count_cons_of_ne (Ne.symm h)]
      exact ih
    · rw [if_pos (by simpa using hc)]
      cases hfield : c.field? with
      | none =>
        rw [List.filterMap_cons_none hfield, List.filterMap_cons_none hfield]
        exact ih
      | some own =>
        rw [List.filterMap_cons_some hfield, List.filterMap_cons_some hfield, List.count_cons,
          List.count_cons]
        exact congrArg (· + _) ih

/-! ### What is taken out of a filter -/

theorem category_withoutTaxonomy (filter : Filter) (taxonomy : String) :
    (filter.withoutTaxonomy taxonomy).category =
      if taxonomy = Taxonomy.categories then none else filter.category := by
  unfold Filter.withoutTaxonomy
  split_ifs <;> rfl

theorem tag_withoutTaxonomy (filter : Filter) (taxonomy : String) :
    (filter.withoutTaxonomy taxonomy).tag =
      if taxonomy = Taxonomy.tags then none else filter.tag := by
  unfold Filter.withoutTaxonomy
  split_ifs with hcategories htags
  · exact absurd (hcategories.symm.trans htags) (by decide)
  · rfl
  · rfl
  · rfl

theorem entries_withoutTaxonomy (filter : Filter) (taxonomy : String) :
    (filter.withoutTaxonomy taxonomy).attributes.entries =
      filter.attributes.entries.filter fun e => e.1 ≠ taxonomy := by
  rw [← SortedMap.entries_erase]
  unfold Filter.withoutTaxonomy
  split_ifs <;> rfl

/-- Nothing but the conditions on terms changes. -/
theorem fieldConditions_withoutTaxonomy (planner : Planner) (filter : Filter) (taxonomy : String) :
    planner.fieldConditions (filter.withoutTaxonomy taxonomy) none =
      planner.conditionsBefore filter ++
        planner.termConditions (filter.withoutTaxonomy taxonomy) ++
          planner.conditionsBehind filter := by
  rw [fieldConditions_eq]
  unfold Filter.withoutTaxonomy
  split_ifs <;> rfl

theorem conditions_withoutTaxonomy (planner : Planner) (filter : Filter) (taxonomy : String) :
    planner.conditions (filter.withoutTaxonomy taxonomy) none =
      ((planner.matchExpression filter).map Condition.fullText).toList ++
        (planner.conditionsBefore filter ++
          planner.termConditions (filter.withoutTaxonomy taxonomy) ++
            planner.conditionsBehind filter) := by
  rw [conditions_eq, fieldConditions_withoutTaxonomy]
  unfold Filter.withoutTaxonomy
  split_ifs <;> rfl

theorem beside_conditions (hfield : Taxonomy.IsTermField field) :
    beside field (planner.conditions filter none) =
      ((planner.matchExpression filter).map Condition.fullText).toList ++
        (planner.conditionsBefore filter ++ beside field (planner.termConditions filter) ++
          planner.conditionsBehind filter) := by
  rw [conditions_eq, fieldConditions_eq, beside_append, beside_append, beside_append,
    beside_of_isScalar hfield fun _ => isScalar_of_mem_before,
    beside_of_isScalar hfield fun _ => isScalar_of_mem_behind]
  congr 1
  cases planner.matchExpression filter <;> rfl

/-- Attributes of other spellings are those of other fields, as far as they have conditions. -/
theorem flatMap_attributeConditions_eq {entries : List (String × TermFilter)}
    (h : ∀ e ∈ entries, planner.attributeConditions e ≠ [] →
      (Taxonomy.field e.1 = field ↔ e.1 = taxonomy)) :
    (entries.filter fun e => e.1 ≠ taxonomy).flatMap planner.attributeConditions =
      beside field (entries.flatMap planner.attributeConditions) := by
  induction entries with
  | nil => rfl
  | cons e entries ih =>
    obtain ⟨he, hentries⟩ := List.forall_mem_cons.1 h
    rw [List.flatMap_cons, beside_append, beside_attributeConditions, ← ih hentries,
      List.filter_cons]
    by_cases hnil : planner.attributeConditions e = []
    · split_ifs <;> simp [hnil]
    · by_cases hspelling : e.1 = taxonomy
      · rw [if_neg (by simpa using hspelling), if_pos ((he hnil).2 hspelling), List.nil_append]
      · rw [if_pos (by simpa using hspelling), if_neg (fun hown => hspelling ((he hnil).1 hown)),
          List.flatMap_cons]

section Term

variable {own base : String} {term : Option Int}

/-- A term that is taken out with its own taxonomy, and is not there under another, leaves the
conditions beside the field. -/
theorem termCondition_eq_beside (hbase : taxonomy = base → field = own)
    (honly : field = own → taxonomy ≠ base → term = none) :
    planner.termCondition own (if taxonomy = base then none else term) =
      beside field (planner.termCondition own term) := by
  rw [beside_termCondition]
  by_cases htaxonomy : taxonomy = base
  · rw [if_pos htaxonomy, if_pos (hbase htaxonomy).symm]
    rfl
  · rw [if_neg htaxonomy]
    split_ifs with hfield
    · rw [honly hfield.symm htaxonomy]
      rfl
    · rfl

theorem termCondition_sublist :
    (planner.termCondition own (if taxonomy = base then none else term)).Sublist
      (planner.termCondition own term) := by
  split_ifs
  · exact List.nil_sublist _
  · exact List.Sublist.refl _

/-- A term has a condition on its field, if the index has it. -/
theorem term_eq_none (hdeclared : planner.schema.hasMultiValued field = true)
    (h : ∀ c ∈ planner.termCondition field term, c.field? ≠ some field) : term = none := by
  cases hterm : term with
  | none => rfl
  | some id =>
    rw [hterm, termCondition, if_pos hdeclared] at h
    exact absurd rfl (h _ (List.mem_singleton_self _))

end Term

/-- **Where a filter speaks of a field only under the taxonomy**, taking out the taxonomy leaves out
the conditions on the field, and no others. -/
theorem termConditions_withoutTaxonomy (hcounts : planner.schema.CountsIn taxonomy field)
    (honly : filter.OnlyUnder planner.schema taxonomy field) :
    planner.termConditions (filter.withoutTaxonomy taxonomy) =
      beside field (planner.termConditions filter) := by
  have hattributes : (filter.withoutTaxonomy taxonomy).attributes.entries.flatMap
      planner.attributeConditions =
        beside field (filter.attributes.entries.flatMap planner.attributeConditions) := by
    rw [entries_withoutTaxonomy]
    refine flatMap_attributeConditions_eq fun e he hnil => ?_
    rw [ne_eq, attributeConditions_eq_nil_iff, not_or, Bool.not_eq_false] at hnil
    exact honly.attributes e he hnil.2
  rw [termConditions, termConditions, beside_append, beside_append, category_withoutTaxonomy,
    tag_withoutTaxonomy, termCondition_eq_beside hcounts.categories honly.category,
    termCondition_eq_beside hcounts.tags honly.tag, hattributes]

/-- Where conditions on a field are taken out, fewer are left. -/
theorem count_fields_lt_of_sublist {front taken back rest : List Condition}
    (hrest : rest.Sublist (front ++ back)) (htaken : ∃ c ∈ taken, c.field? = some field) :
    (rest.filterMap Condition.field?).count field <
      ((front ++ (taken ++ back)).filterMap Condition.field?).count field := by
  have hcount := (hrest.filterMap Condition.field?).count_le field
  have hpos : 0 < (taken.filterMap Condition.field?).count field :=
    List.count_pos_iff.2 (List.mem_filterMap.2 htaken)
  rw [List.filterMap_append, List.count_append] at hcount ⊢
  rw [List.filterMap_append, List.count_append]
  omega

/-- What is taken out with a taxonomy that has terms leaves fewer conditions on their field. -/
theorem count_fields_lt {terms : TermFilter}
    (hentry : (taxonomy, terms) ∈ filter.attributes.entries)
    (hne : planner.attributeConditions (taxonomy, terms) ≠ []) :
    ((planner.termConditions (filter.withoutTaxonomy taxonomy)).filterMap
        Condition.field?).count (Taxonomy.field taxonomy) <
      ((planner.termConditions filter).filterMap Condition.field?).count
        (Taxonomy.field taxonomy) := by
  obtain ⟨front, back, hsplit⟩ := List.append_of_mem hentry
  have hentries : (filter.withoutTaxonomy taxonomy).attributes.entries.Sublist (front ++ back) := by
    rw [entries_withoutTaxonomy, hsplit, List.filter_append, List.filter_cons_of_neg (by simp)]
    exact List.filter_sublist.append List.filter_sublist
  have hleft : (planner.termConditions (filter.withoutTaxonomy taxonomy)).Sublist
      (planner.termCondition Taxonomy.categoryField filter.category ++
        planner.termCondition Taxonomy.tagField filter.tag ++
          (front ++ back).flatMap planner.attributeConditions) := by
    rw [termConditions, category_withoutTaxonomy, tag_withoutTaxonomy]
    exact (termCondition_sublist.append termCondition_sublist).append (hentries.flatMap _)
  rw [List.flatMap_append, ← List.append_assoc] at hleft
  obtain ⟨c, hc⟩ := List.exists_mem_of_ne_nil _ hne
  have hright : planner.termConditions filter =
      planner.termCondition Taxonomy.categoryField filter.category ++
        planner.termCondition Taxonomy.tagField filter.tag ++
          front.flatMap planner.attributeConditions ++
            (planner.attributeConditions (taxonomy, terms) ++
              back.flatMap planner.attributeConditions) := by
    rw [termConditions, hsplit, List.flatMap_append, List.flatMap_cons, ← List.append_assoc]
  have hlt := count_fields_lt_of_sublist hleft ⟨c, hc, field?_of_mem_attributeConditions hc⟩
  rw [hright]
  exact hlt

/-- **What the fields of the conditions tell**: if they are the same whether the taxonomy is taken
out or the field left out, the filter speaks of the field only under the taxonomy. -/
theorem onlyUnder_of_fields (hcounts : planner.schema.CountsIn taxonomy field)
    (hterms : ∀ e ∈ filter.attributes.entries, e.2.terms ≠ [])
    (h : (planner.termConditions (filter.withoutTaxonomy taxonomy)).filterMap Condition.field? =
      (beside field (planner.termConditions filter)).filterMap Condition.field?) :
    filter.OnlyUnder planner.schema taxonomy field := by
  have hnone : ∀ c ∈ planner.termConditions (filter.withoutTaxonomy taxonomy),
      c.field? ≠ some field := by
    intro c hc hfield
    refine notMem_fields_beside field (planner.termConditions filter) ?_
    rw [← h]
    exact List.mem_filterMap.2 ⟨c, hc, hfield⟩
  simp only [termConditions, category_withoutTaxonomy, tag_withoutTaxonomy,
    entries_withoutTaxonomy, List.forall_mem_append] at hnone
  obtain ⟨⟨hcategory, htag⟩, hattributes⟩ := hnone
  refine ⟨?_, ?_, ?_⟩
  · rintro rfl htaxonomy
    rw [if_neg htaxonomy] at hcategory
    exact term_eq_none hcounts.declared hcategory
  · rintro rfl htaxonomy
    rw [if_neg htaxonomy] at htag
    exact term_eq_none hcounts.declared htag
  · rintro ⟨spelling, terms⟩ hentry hdeclared
    obtain ⟨c, hc⟩ : ∃ c, c ∈ planner.attributeConditions (spelling, terms) := by
      refine List.exists_mem_of_ne_nil _ fun hnil => ?_
      rcases attributeConditions_eq_nil_iff.1 hnil with hempty | hmissing
      · exact hterms _ hentry hempty
      · rw [hdeclared] at hmissing
        cases hmissing
    have hfield := field?_of_mem_attributeConditions hc
    constructor
    · intro hown
      by_contra hspelling
      have hkept : (spelling, terms) ∈ filter.attributes.entries.filter fun e => e.1 ≠ taxonomy :=
        List.mem_filter.2 ⟨hentry, by simpa using hspelling⟩
      rw [hown] at hfield
      exact hattributes c (List.mem_flatMap.2 ⟨_, hkept, hc⟩) hfield
    · -- what is said under the taxonomy is taken out, so conditions on its field are missing
      rintro rfl
      by_contra hother
      have hfewer := count_fields_lt hentry (List.ne_nil_of_mem hc)
      rw [h, count_fields_beside hother] at hfewer
      exact Nat.lt_irrefl _ hfewer

/-! ### Reading the fields of a clause -/

/-- The field that a predicate is on. -/
def fieldOf : Predicate → String
  | .textAmong field _ | .textNotAmong field _ | .idAmong field _ | .idNotAmong field _
  | .atLeast field _ | .atMost field _ => field

theorem map_fieldOf (conditions : List Condition) :
    (conditions.filterMap Condition.predicate?).map fieldOf =
      conditions.filterMap Condition.field? := by
  rw [List.map_filterMap]
  congr 1
  funext c
  cases c <;> rfl

/-- **The text of a clause tells the fields of its conditions**, behind one full-text expression. -/
theorem fields_of_renderWhere {expression : Option String} {conditions others : List Condition}
    (hne : conditions ≠ []) (hothers : others ≠ []) (h : ∀ c ∈ conditions, c.IsReadable)
    (hreadable : ∀ c ∈ others, c.IsReadable)
    (heq : renderWhere ((expression.map Condition.fullText).toList ++ conditions) =
      renderWhere ((expression.map Condition.fullText).toList ++ others)) :
    conditions.filterMap Condition.field? = others.filterMap Condition.field? := by
  have hwhere : renderWhere conditions = renderWhere others := by
    cases expression with
    | none => exact heq
    | some text =>
      obtain ⟨c, cs, rfl⟩ := List.exists_cons_of_ne_nil hne
      obtain ⟨d, ds, rfl⟩ := List.exists_cons_of_ne_nil hothers
      simp only [renderWhere, Option.map_some, Option.toList_some, List.singleton_append,
        List.map_cons, joinWith, String.append_right_inj] at heq
      simpa only [renderWhere, List.map_cons, String.append_right_inj] using heq
  have hread := congrArg readWhere? hwhere
  rw [readWhere?_renderWhere hne h, readWhere?_renderWhere hothers hreadable,
    Option.some.injEq] at hread
  rw [← map_fieldOf, ← map_fieldOf, hread]

/-- A filter in normal form has terms for each of its attributes. -/
theorem terms_ne_nil_of_isNormal (h : filter.IsNormal) :
    ∀ e ∈ filter.attributes.entries, e.2.terms ≠ [] := by
  obtain ⟨defaultPageSize, maxPageSize, raw, wording, rfl⟩ := h
  rintro ⟨spelling, terms⟩ hentry
  have hget : (Filter.normalAttributes raw.attributes).get? spelling = some terms :=
    SortedMap.mem_entries_iff.1 hentry
  obtain ⟨_, _, _, hnormal, _⟩ := Filter.get?_normalAttributes_iff.1 hget
  exact (Filter.normalPair?_eq_some_iff.1 hnormal).2.1

/-- **One statement**: the counts of a taxonomy have the clause with every condition on the field left
out, and no other, exactly if the filter speaks of the field only under the taxonomy. -/
theorem renderWhere_withoutTaxonomy_iff (hcounts : planner.schema.CountsIn taxonomy field)
    (hterms : ∀ e ∈ filter.attributes.entries, e.2.terms ≠ []) :
    renderWhere (planner.conditions (filter.withoutTaxonomy taxonomy) none) =
        renderWhere (beside field (planner.conditions filter none)) ↔
      filter.OnlyUnder planner.schema taxonomy field := by
  rw [conditions_withoutTaxonomy, beside_conditions hcounts.isTermField]
  constructor
  · intro h
    have hbeside : ∀ c ∈ planner.conditionsBefore filter ++
        beside field (planner.termConditions filter) ++ planner.conditionsBehind filter,
        c.IsReadable := by
      intro c hc
      have hmem : c ∈ planner.fieldConditions filter none := by
        rw [fieldConditions_eq]
        simp only [List.mem_append] at hc ⊢
        exact hc.imp_left (Or.imp_right fun h => List.mem_of_mem_filter h)
      exact (asks_of_mem_fieldConditions hmem).isReadable
    have hkept : ∀ c ∈ planner.conditionsBefore filter ++
        planner.termConditions (filter.withoutTaxonomy taxonomy) ++
          planner.conditionsBehind filter, c.IsReadable := by
      rw [← fieldConditions_withoutTaxonomy]
      exact fun c hc => (asks_of_mem_fieldConditions hc).isReadable
    have hfields := fields_of_renderWhere (by simp [conditionsBefore]) (by simp [conditionsBefore])
      hkept hbeside h
    simp only [List.filterMap_append] at hfields
    exact onlyUnder_of_fields hcounts hterms
      (List.append_cancel_left (List.append_cancel_right hfields))
  · intro h
    rw [termConditions_withoutTaxonomy hcounts h]

/-! ### The statements for several taxonomies -/

variable {σ : Type}

/-- Two statements for the counts of a field differ exactly in their clauses. -/
theorem render_facet_inj {index : String} {conditions others : List Condition}
    {window limit : Nat} :
    (Statement.facet index conditions field window limit).render =
        (Statement.facet index others field window limit).render ↔
      renderWhere conditions = renderWhere others := by
  simp [Statement.render_facet]

/-- What the engine is asked for the counts of one taxonomy. -/
theorem executed_facetCounts (planner : Planner) (engine : Engine σ) (limit : Nat)
    (filter : Filter) (taxonomy : String) (s : Witnessed σ) :
    (planner.facetCounts engine.witnessed.execute limit filter taxonomy s).2.executed =
      s.executed ++ ((planner.schema.facetField? taxonomy).map fun field =>
        (planner.facet filter field limit).render).toList := by
  unfold facetCounts
  cases planner.schema.facetField? taxonomy with
  | none => exact (List.append_nil _).symm
  | some field =>
    rcases hreply : engine.execute (planner.facet filter field limit).render s.inner with
      ⟨reply, inner⟩
    simp only [bind, StateT.bind, Engine.witnessed, hreply]
    cases reply with
    | error fault => rfl
    | ok answer =>
      dsimp only
      cases answer.facetCounts? <;> rfl

/-- **What the engine is asked for the counts of some taxonomies**: one statement for each that has a
field in the index, in the order of the taxonomies. -/
theorem executed_facetCountsFor (planner : Planner) (engine : Engine σ) (limit : Nat)
    (filter : Filter) (taxonomies : List String) (s : Witnessed σ) :
    (planner.facetCountsFor engine.witnessed.execute limit filter taxonomies s).2.executed =
      s.executed ++ taxonomies.filterMap fun taxonomy =>
        (planner.schema.facetField? taxonomy).map fun field =>
          (planner.facet (filter.withoutTaxonomy taxonomy) field limit).render := by
  induction taxonomies generalizing s with
  | nil => exact (List.append_nil _).symm
  | cons taxonomy taxonomies ih =>
    have hone := executed_facetCounts planner engine limit (filter.withoutTaxonomy taxonomy)
      taxonomy s
    rcases hcounts : planner.facetCounts engine.witnessed.execute limit
      (filter.withoutTaxonomy taxonomy) taxonomy s with ⟨counts, after⟩
    rw [hcounts] at hone
    have hcons : (planner.facetCountsFor engine.witnessed.execute limit filter
        (taxonomy :: taxonomies) s).2 =
          (planner.facetCountsFor engine.witnessed.execute limit filter taxonomies after).2 := by
      rw [facetCountsFor, List.mapM_cons]
      simp only [bind, StateT.bind, hcounts]
      rfl
    rw [hcons, ih after, hone, List.append_assoc]
    cases hfield : planner.schema.facetField? taxonomy <;> simp [hfield]

/-- The statements for the counts of several taxonomies are those of others exactly if they are one
by one. -/
theorem filterMap_map_eq_iff {α β γ : Type} {keys : List α} {value? : α → Option β}
    {make other : α → β → γ} :
    keys.filterMap (fun key => (value? key).map (make key)) =
        keys.filterMap (fun key => (value? key).map (other key)) ↔
      ∀ key ∈ keys, ∀ value ∈ value? key, make key value = other key value := by
  induction keys with
  | nil => simp
  | cons key keys ih =>
    rw [List.forall_mem_cons, ← ih]
    cases hvalue : value? key with
    | none => simp [hvalue]
    | some value => simp [hvalue]

/-- **The counts of a taxonomy are restricted by everything but its own field** exactly if the filter
speaks of the field under this taxonomy alone: the statements for the counts of some taxonomies, in
their order, are those with every condition on the field left out, and no other. -/
theorem executed_facetCountsFor_iff {filter : Filter} (hnormal : filter.IsNormal)
    (planner : Planner) (engine : Engine σ) (limit : Nat) (taxonomies : List String)
    (s : Witnessed σ) :
    (planner.facetCountsFor engine.witnessed.execute limit filter taxonomies s).2.executed =
        s.executed ++ taxonomies.filterMap (fun taxonomy =>
          (planner.schema.facetField? taxonomy).map fun field =>
            (planner.facetBeside filter field limit).render) ↔
      ∀ taxonomy ∈ taxonomies, ∀ field ∈ planner.schema.facetField? taxonomy,
        filter.OnlyUnder planner.schema taxonomy field := by
  rw [executed_facetCountsFor, List.append_cancel_left_eq, filterMap_map_eq_iff]
  refine forall₄_congr fun taxonomy _ field hfield => ?_
  rw [facet, facetBeside, render_facet_inj]
  exact renderWhere_withoutTaxonomy_iff (Schema.countsIn_of_facetField? hfield)
    (terms_ne_nil_of_isNormal hnormal)

/-- A search by a category, a tag and three attributes, two of them indexed. -/
def byEverything : Filter :=
  Filter.normalize 12 100
    { Filter.products with
      text := some "lamp"
      category := some 5
      tag := some 3
      attributes := .ofList
        [("pa_color", ⟨[7], .all⟩), (" pa_size", ⟨[9], .any⟩), ("brand", ⟨[2], .any⟩)] }

/-- The planner of an index with two attribute taxonomies. -/
def coloredProducts : Planner :=
  { products with schema := Schema.products "products" ["pa_color", "pa_size"] }

/-- The counts beside a search by everything: of two taxonomies of attributes, of the categories and
the tags, and none of a taxonomy without a field. -/
theorem executed_facetCountsFor_byEverything :
    byEverything.IsNormal ∧
      (coloredProducts.facetCountsFor
        (Engine.ofFunction fun _ => .ok ⟨[]⟩).witnessed.execute 50 byEverything
        ["pa_color", "product_cat", "product_tag", "pa_size", "brand"] ⟨(), [], 0⟩).2.executed =
      [] ++ (["pa_color", "product_cat", "product_tag", "pa_size", "brand"].filterMap
        fun taxonomy => (coloredProducts.schema.facetField? taxonomy).map fun field =>
          (coloredProducts.facetBeside byEverything field 50).render) :=
  have hnormal : byEverything.IsNormal := Filter.isNormal_normalize 12 100 _
  ⟨hnormal, (executed_facetCountsFor_iff hnormal coloredProducts _ 50 _ _).2 (by decide +kernel)⟩

/-- A search by a color under a spelling of its own. -/
def byColor : Filter :=
  Filter.normalize 12 100
    { Filter.products with attributes := .ofList [("pa_Color", ⟨[5], .any⟩)] }

/-- **Another spelling of the taxonomy stays in.** The colors beside a search for one color are
counted among the documents of this color only. -/
theorem not_forall_executed_facetCountsFor :
    ¬ ∀ (filter : Filter) (planner : Planner) (engine : Engine Unit) (limit : Nat)
      (taxonomies : List String) (s : Witnessed Unit), filter.IsNormal →
        (planner.facetCountsFor engine.witnessed.execute limit filter taxonomies s).2.executed =
          s.executed ++ taxonomies.filterMap (fun taxonomy =>
            (planner.schema.facetField? taxonomy).map fun field =>
              (planner.facetBeside filter field limit).render) := by
  intro h
  have hcounts := h byColor coloredProducts (.ofFunction fun _ => .ok ⟨[]⟩) 1000 ["pa_color"]
    ⟨(), [], 0⟩ (Filter.isNormal_normalize 12 100 _)
  rw [executed_facetCountsFor] at hcounts
  exact absurd hcounts (by decide +kernel)

end Planner

end Storefront
