import Mathlib.Tactic.SplitIfs
import Storefront.Planner
import Storefront.Proofs.Sql.Pieces

/-!
# The names that a planner writes

Fields stand in a statement without quotes, so it matters where their names come from. Most are
fixed. The field of a taxonomy is not: its name is made from the taxonomy's, which a request may
spell as it likes. But it is written only if the schema declares a field of that name, and it is made
of nothing but the characters of identifiers. In the end every name in a statement is one that the
planner knew before it saw the filter (`Planner.names`), and may stand without quotes
(`Planner.Knows`).
-/

namespace Storefront

open Number Sql Text

/-- Every character of a sanitized taxonomy may stand in an identifier. -/
theorem Taxonomy.isIdentifierChar_fieldChar (c : Char) : isIdentifierChar (fieldChar c) = true := by
  rw [fieldChar]
  split_ifs with h
  · simp only [Bool.or_eq_true, decide_eq_true_eq] at h
    rcases h with (h | h) | h
    · have halpha : c.toLower.isAlpha = true := by
        change (c.toLower.isUpper || c.toLower.isLower) = true
        rw [h, Bool.or_true]
      simp [isIdentifierChar, Char.isAlphanum, halpha]
    · simp [isIdentifierChar, Char.isAlphanum, h]
    · simp [isIdentifierChar, h]
  · rfl

/-- Whatever a taxonomy is called, the field of its terms is an identifier but for its first
character. -/
theorem Taxonomy.isIdentifierChar_of_mem_field {taxonomy : String} {c : Char}
    (h : c ∈ (field taxonomy).toList) : isIdentifierChar c = true := by
  rw [field, sanitize, String.toList_append, String.toList_ofList] at h
  rcases List.mem_append.1 h with h | h
  · obtain ⟨d, -, rfl⟩ := List.mem_map.1 h
    exact isIdentifierChar_fieldChar d
  · have hall : "_ids".toList.all isIdentifierChar = true := by decide
    exact List.all_eq_true.1 hall c h

theorem Sql.Identifier.isIdentifierChar_of_mem {name : Identifier} {c : Char}
    (h : c ∈ name.text.toList) : isIdentifierChar c = true :=
  (isIdentifierChar_of_isIdentifier name.isIdentifier_text).2 c h

namespace Planner

/-- The fields that every planner has conditions on. -/
def fixedFields : List String :=
  ["post_type", "post_status", "visibility", Taxonomy.categoryField, Taxonomy.tagField, "price",
    "stock_status", "average_rating", "id"]

/-- **The names that a planner knows**, whatever it is asked: of its index, its ranking formula and
its weighted fields, the fields of all products, and the multi-valued fields of its schema. -/
def names (planner : Planner) : List String :=
  planner.index.text :: planner.ranker.text :: planner.weights.map (·.field.text) ++
    fixedFields ++ planner.schema.multiValued.keys

/-- A name that the planner knows and that may stand without quotes. -/
def Knows (planner : Planner) (name : String) : Prop :=
  name ∈ planner.names ∧ ∀ c ∈ name.toList, isIdentifierChar c = true

variable {planner : Planner}

theorem knows_of_mem_fixedFields {name : String} (h : name ∈ fixedFields) : planner.Knows name := by
  have hall : (fixedFields.all fun name => name.toList.all isIdentifierChar) = true := by decide
  exact ⟨List.mem_append_left _ (List.mem_append_right _ h),
    List.all_eq_true.1 (List.all_eq_true.1 hall name h)⟩

theorem knows_index : planner.Knows planner.index.text :=
  ⟨by simp [names], fun _ hc => Identifier.isIdentifierChar_of_mem hc⟩

theorem knows_ranker : planner.Knows planner.ranker.text :=
  ⟨by simp [names], fun _ hc => Identifier.isIdentifierChar_of_mem hc⟩

theorem knows_weight {weight : WeightedField} (h : weight ∈ planner.weights) :
    planner.Knows weight.field.text := by
  refine ⟨?_, fun _ hc => Identifier.isIdentifierChar_of_mem hc⟩
  simp only [names, List.cons_append, List.mem_cons, List.mem_append, List.mem_map]
  exact .inr (.inr (.inl (.inl ⟨weight, h, rfl⟩)))

/-- The field of a taxonomy is one that the schema declares. -/
theorem knows_taxonomyField {taxonomy field : String}
    (h : planner.schema.taxonomyField? taxonomy = some field) : planner.Knows field := by
  rw [Schema.taxonomyField?] at h
  split_ifs at h with hdeclared
  obtain rfl := Option.some.inj h
  refine ⟨List.mem_append_right _ ?_, fun _ hc => Taxonomy.isIdentifierChar_of_mem_field hc⟩
  obtain ⟨value, hvalue⟩ := Option.isSome_iff_exists.1 hdeclared
  exact List.mem_map.2 ⟨_, SortedMap.mem_entries_iff.2 hvalue, rfl⟩

/-- The field that a taxonomy is counted in as well. -/
theorem knows_facetField {taxonomy field : String}
    (h : planner.schema.facetField? taxonomy = some field) : planner.Knows field := by
  rw [Schema.facetField?] at h
  split_ifs at h
  · obtain rfl := Option.some.inj h
    exact knows_of_mem_fixedFields (by decide)
  · obtain rfl := Option.some.inj h
    exact knows_of_mem_fixedFields (by decide)
  · exact knows_taxonomyField h

/-! ### The conditions of a filter -/

/-- The fields that a planner writes conditions on: the fixed ones, and those of the taxonomies that
its schema declares. -/
def IsField (planner : Planner) (field : String) : Prop :=
  field ∈ fixedFields ∨ ∃ taxonomy, planner.schema.taxonomyField? taxonomy = some field

theorem IsField.knows {field : String} (h : planner.IsField field) : planner.Knows field := by
  rcases h with h | ⟨taxonomy, h⟩
  · exact knows_of_mem_fixedFields h
  · exact knows_taxonomyField h

/-- **The conditions that a planner writes**, other than a full-text expression: each is on a field
that the planner knows, no list is empty, and every bound is finite. -/
inductive Asks (planner : Planner) : Condition → Prop
  | textAmong {field : String} {values : List String} (hfield : field ∈ fixedFields)
      (hvalues : values ≠ []) : Asks planner (.textAmong field values)
  | textDiffers {field : String} (value : String) (hfield : field ∈ fixedFields) :
      Asks planner (.textDiffers field value)
  | idIs {field : String} (id : Int) (hfield : planner.IsField field) :
      Asks planner (.idIs field id)
  | idAmong {field : String} {ids : List Int} (hfield : planner.IsField field) (hids : ids ≠ []) :
      Asks planner (.idAmong field ids)
  | idNotAmong {ids : List Int} (hids : ids ≠ []) : Asks planner (.idNotAmong "id" ids)
  | atLeast {field : String} {bound : Binary64} (hfield : field ∈ fixedFields)
      (hfinite : bound.isFinite = true) :
      Asks planner (.atLeast field bound)
  | atMost {field : String} {bound : Binary64} (hfield : field ∈ fixedFields)
      (hfinite : bound.isFinite = true) :
      Asks planner (.atMost field bound)

variable {filter : Filter}

theorem valuesOr_ne_nil (default : String) (values : List String) :
    valuesOr default values ≠ [] := by
  cases values <;> simp [valuesOr]

theorem asks_termCondition {field : String} (hfield : field ∈ fixedFields) (term : Option Int) :
    ∀ c ∈ planner.termCondition field term, planner.Asks c := by
  unfold termCondition
  split
  · split_ifs
    · exact List.forall_mem_singleton.2 (.idIs _ (.inl hfield))
    · exact List.forall_mem_nil _
  · exact List.forall_mem_nil _

theorem asks_attributeConditions (entry : String × TermFilter) :
    ∀ c ∈ planner.attributeConditions entry, planner.Asks c := by
  obtain ⟨taxonomy, terms⟩ := entry
  rw [attributeConditions]
  split_ifs with hterms
  · exact List.forall_mem_nil _
  split
  · exact List.forall_mem_nil _
  rename_i field hfield
  have hdeclared : planner.IsField field := .inr ⟨taxonomy, hfield⟩
  split
  · intro c hc
    obtain ⟨term, -, rfl⟩ := List.mem_map.1 hc
    exact .idIs term hdeclared
  · exact List.forall_mem_singleton.2 (.idAmong hdeclared (by simpa using hterms))

theorem asks_boundCondition (field : String) {bound : Option Binary64}
    {condition : Binary64 → Condition}
    (h : ∀ x, x.isFinite = true → planner.Asks (condition x)) :
    ∀ c ∈ planner.boundCondition field bound condition, planner.Asks c := by
  rw [boundCondition]
  split
  · rename_i x hx
    obtain ⟨-, hfinite⟩ := Option.filter_eq_some_iff.1 hx
    split_ifs
    · exact List.forall_mem_singleton.2 (h x hfinite)
    · exact List.forall_mem_nil _
  · exact List.forall_mem_nil _

theorem asks_statusCondition (status : Option StockStatus) :
    ∀ c ∈ planner.statusCondition status, planner.Asks c := by
  unfold statusCondition
  split
  · split_ifs
    · exact List.forall_mem_singleton.2 (.textAmong (by decide) (by simp))
    · exact List.forall_mem_nil _
  · exact List.forall_mem_nil _

theorem asks_includeCondition (ids : Option (List Int)) :
    ∀ c ∈ includeCondition ids, planner.Asks c := by
  unfold includeCondition
  split
  · exact List.forall_mem_nil _
  · exact List.forall_mem_singleton.2 (.idIs 0 (.inl (by decide)))
  · rename_i ids hne
    exact List.forall_mem_singleton.2 (.idAmong (.inl (by decide)) fun h => hne (by rw [h]))

theorem asks_excludeCondition (ids : List Int) :
    ∀ c ∈ excludeCondition ids, planner.Asks c := by
  rw [excludeCondition]
  split_ifs with hids
  · exact List.forall_mem_nil _
  · exact List.forall_mem_singleton.2 (.idNotAmong (by simpa using hids))

theorem asks_halfCondition (half : Option StockHalf) :
    ∀ c ∈ halfCondition half, planner.Asks c := by
  unfold halfCondition
  split
  · exact List.forall_mem_nil _
  · exact List.forall_mem_singleton.2 (.textAmong (by decide) (by simp))
  · exact List.forall_mem_singleton.2 (.textDiffers _ (by decide))

/-- The conditions of a filter beside its full-text expression. -/
def fieldConditions (planner : Planner) (filter : Filter) (half : Option StockHalf) :
    List Condition :=
  [.textAmong "post_type" (valuesOr "product" filter.postTypes),
    .textAmong "post_status" (valuesOr "publish" filter.postStatuses)] ++
    (if !filter.includeHidden && planner.schema.hasAttribute "visibility" then
      [.textDiffers "visibility" "hidden"] else []) ++
    planner.termCondition Taxonomy.categoryField filter.category ++
    planner.termCondition Taxonomy.tagField filter.tag ++
    filter.attributes.entries.flatMap planner.attributeConditions ++
    planner.boundCondition "price" filter.minPrice (.atLeast "price") ++
    planner.boundCondition "price" filter.maxPrice (.atMost "price") ++
    planner.statusCondition filter.stock ++
    planner.boundCondition "average_rating" filter.minRating (.atLeast "average_rating") ++
    includeCondition filter.includeIds ++
    excludeCondition filter.excludeIds ++
    halfCondition half

theorem conditions_eq (planner : Planner) (filter : Filter) (half : Option StockHalf) :
    planner.conditions filter half =
      ((planner.matchExpression filter).map Condition.fullText).toList ++
        planner.fieldConditions filter half := by
  simp only [conditions, fieldConditions, List.append_assoc]

/-- **What a filter is turned into**, condition by condition. -/
theorem asks_of_mem_fieldConditions {half : Option StockHalf} {condition : Condition}
    (h : condition ∈ planner.fieldConditions filter half) : planner.Asks condition := by
  have hvisible : ∀ c ∈ (if !filter.includeHidden && planner.schema.hasAttribute "visibility" then
      [.textDiffers "visibility" "hidden"] else []), planner.Asks c := by
    split_ifs
    · exact List.forall_mem_singleton.2 (.textDiffers _ (by decide))
    · exact List.forall_mem_nil _
  simp only [fieldConditions, List.mem_append, List.mem_cons, List.not_mem_nil, or_false,
    List.mem_flatMap] at h
  rcases h with
    (((((((((((rfl | rfl) | h) | h) | h) | ⟨entry, -, h⟩) | h) | h) | h) | h) | h) | h) | h
  · exact .textAmong (by decide) (valuesOr_ne_nil _ _)
  · exact .textAmong (by decide) (valuesOr_ne_nil _ _)
  · exact hvisible condition h
  · exact asks_termCondition (by decide) _ condition h
  · exact asks_termCondition (by decide) _ condition h
  · exact asks_attributeConditions entry condition h
  · exact asks_boundCondition _ (fun _ => .atLeast (by decide)) condition h
  · exact asks_boundCondition _ (fun _ => .atMost (by decide)) condition h
  · exact asks_statusCondition _ condition h
  · exact asks_boundCondition _ (fun _ => .atLeast (by decide)) condition h
  · exact asks_includeCondition _ condition h
  · exact asks_excludeCondition _ condition h
  · exact asks_halfCondition _ condition h

theorem Asks.exists_field {condition : Condition} (h : planner.Asks condition) :
    ∃ field, condition.field? = some field ∧ planner.IsField field := by
  cases h with
  | textAmong hfield | textDiffers _ hfield | atLeast hfield | atMost hfield =>
    exact ⟨_, rfl, .inl hfield⟩
  | idIs _ hfield | idAmong hfield => exact ⟨_, rfl, hfield⟩
  | idNotAmong => exact ⟨_, rfl, .inl (by decide)⟩

/-- All the conditions are on fields that the planner knows. -/
def OnKnownFields (planner : Planner) (conditions : List Condition) : Prop :=
  ∀ condition ∈ conditions, ∃ field, condition.field? = some field ∧ planner.Knows field

/-- **All conditions but the full-text expression are on fields that the planner knows.** -/
theorem onKnownFields_fieldConditions (filter : Filter) (half : Option StockHalf) :
    planner.OnKnownFields (planner.fieldConditions filter half) := by
  intro condition h
  obtain ⟨field, hfield, hknown⟩ := (asks_of_mem_fieldConditions h).exists_field
  exact ⟨field, hfield, hknown.knows⟩

/-- The only full-text expression among the conditions is that of the filter. -/
theorem fullText_mem_conditions_iff {filter : Filter} {half : Option StockHalf}
    {expression : String} :
    .fullText expression ∈ planner.conditions filter half ↔
      planner.matchExpression filter = some expression := by
  rw [conditions_eq, List.mem_append, Option.mem_toList, Option.map_eq_some_iff]
  constructor
  · rintro (⟨other, hother, heq⟩ | h)
    · rw [hother, Condition.fullText.inj heq]
    -- all other conditions are on a field, and a full-text expression is on none
    · obtain ⟨field, hfield, -⟩ := onKnownFields_fieldConditions filter half _ h
      exact absurd hfield (by simp [Condition.field?])
  · exact fun h => .inl ⟨expression, h, rfl⟩

/-- The fields of all conditions are known. -/
theorem knows_of_mem_conditions {filter : Filter} {half : Option StockHalf} {field : String}
    (h : field ∈ (planner.conditions filter half).filterMap Condition.field?) :
    planner.Knows field := by
  obtain ⟨condition, hcondition, hfield⟩ := List.mem_filterMap.1 h
  rw [conditions_eq, List.mem_append, Option.mem_toList, Option.map_eq_some_iff] at hcondition
  rcases hcondition with ⟨expression, -, rfl⟩ | hcondition
  · exact absurd hfield (by simp [Condition.field?])
  · obtain ⟨other, hother, hknows⟩ := onKnownFields_fieldConditions filter half _ hcondition
    rwa [Option.some.inj (hfield.symm.trans hother)]

/-- The fields and the formula of a ranking are known. -/
theorem knows_of_mem_ranking {filter : Filter} {name : String}
    (h : name ∈ rankingNames (planner.ranking filter)) : planner.Knows name := by
  rw [ranking] at h
  split_ifs at h
  · rcases List.mem_append.1 h with h | h
    · simp only [List.map_map, List.mem_map] at h
      obtain ⟨weight, hweight, rfl⟩ := h
      exact knows_weight hweight
    · rw [List.mem_singleton.1 h]
      exact knows_ranker
  · simp [rankingNames] at h

/-! ### The planner of a product index -/

/-- The planner of a product index without attribute taxonomies, under the standard settings. -/
def products : Planner where
  schema := Schema.products "products" []
  index := ⟨"products", by decide⟩
  weights :=
    [⟨⟨"title", by decide⟩, 10⟩, ⟨⟨"sku", by decide⟩, 8⟩, ⟨⟨"categories", by decide⟩, 3⟩,
      ⟨⟨"tags", by decide⟩, 2⟩, ⟨⟨"content", by decide⟩, 1⟩]
  ranker := ⟨"proximity_bm25", by decide⟩
  maxMatches := 10000

theorem ofSettings_products :
    ofSettings (Schema.products "products" []) Settings.standard = .ok products := by
  decide +kernel

end Planner

end Storefront
