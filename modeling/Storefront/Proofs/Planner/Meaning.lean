import Storefront.Proofs.Planner.Names
import Storefront.Proofs.Sql.Predicate

/-!
# What a filter selects

A filter says which documents of an index it is about (`Filter.Selects`): of the types and statuses
it lists, visible, in its category, within its bounds, and so on, where a field that the schema does
not declare decides nothing. A planner turns the filter into conditions and the conditions into the
text of a clause, and the engine has nothing but that text.

Main statement: the text says what the filter says. Without a text to search for, the clause is read
as a conjunction of predicates that hold of exactly the documents that the filter selects
(`Planner.exists_all_holds_iff_selects`). The clause is taken apart as it was put together: each
group of conditions has a lemma on what it asks of a document, and all of them are readable.
-/

namespace Storefront

open Number Sql Text

/-! ### What a filter is about -/

/-- The text is the default of a list without values, or one of the values but for control
characters. -/
def IsOneOf (default : String) (values : List String) (text : String) : Prop :=
  values = [] ∧ text = default ∨ ∃ value ∈ values, text = withoutControls value

/-- Whether a document with these terms has all the terms that are asked for, or any. -/
def TermFilter.IsMetBy (filter : TermFilter) (terms : List Int) : Prop :=
  match filter.combinator with
  | .all => ∀ term ∈ filter.terms, term ∈ terms
  | .any => ∃ term ∈ filter.terms, term ∈ terms

/-- **The documents that a filter selects** in an index of the schema, or in one half of them by
stock. Bounds that are not finite ask for nothing, and neither does a field that the schema does not
declare. -/
structure Filter.Selects (filter : Filter) (schema : Schema) (half : Option StockHalf)
    (document : IndexedDocument) : Prop where
  postType : IsOneOf "product" filter.postTypes (document.text "post_type")
  postStatus : IsOneOf "publish" filter.postStatuses (document.text "post_status")
  visible : filter.includeHidden = false → schema.hasAttribute "visibility" = true →
    document.text "visibility" ≠ "hidden"
  category : ∀ term ∈ filter.category, schema.hasMultiValued Taxonomy.categoryField = true →
    term ∈ document.terms Taxonomy.categoryField
  tag : ∀ term ∈ filter.tag, schema.hasMultiValued Taxonomy.tagField = true →
    term ∈ document.terms Taxonomy.tagField
  attributes : ∀ entry ∈ filter.attributes.entries, entry.2.terms ≠ [] →
    schema.hasMultiValued (Taxonomy.field entry.1) = true →
    entry.2.IsMetBy (document.terms (Taxonomy.field entry.1))
  minPrice : ∀ bound ∈ filter.minPrice, bound.isFinite = true →
    schema.hasAttribute "price" = true → bound.le (document.number "price") = true
  maxPrice : ∀ bound ∈ filter.maxPrice, bound.isFinite = true →
    schema.hasAttribute "price" = true → (document.number "price").le bound = true
  stock : ∀ status ∈ filter.stock, schema.hasAttribute "stock_status" = true →
    document.text "stock_status" = status.text
  minRating : ∀ bound ∈ filter.minRating, bound.isFinite = true →
    schema.hasAttribute "average_rating" = true →
    bound.le (document.number "average_rating") = true
  included : ∀ ids ∈ filter.includeIds, document.id ∈ ids
  notExcluded : document.id ∉ filter.excludeIds
  inHalf : ∀ part ∈ half, part = .inStock ↔ document.text "stock_status" = StockStatus.inStock.text

namespace Sql

/-- Whether a document satisfies what all the conditions say. -/
def IndexedDocument.meets (document : IndexedDocument) (conditions : List Condition) : Bool :=
  (conditions.filterMap Condition.predicate?).all (Predicate.holds document)

section Meets

variable {document : IndexedDocument}

@[simp] theorem IndexedDocument.meets_nil : document.meets [] = true := rfl

@[simp] theorem IndexedDocument.meets_append (conditions more : List Condition) :
    document.meets (conditions ++ more) = (document.meets conditions && document.meets more) := by
  simp [meets]

@[simp] theorem IndexedDocument.meets_textAmong (field : String) (values : List String) :
    document.meets [.textAmong field values] = true ↔
      ∃ value ∈ values, document.text field = withoutControls value := by
  simp [meets, Condition.predicate?, Predicate.holds, eq_comm]

@[simp] theorem IndexedDocument.meets_textDiffers (field value : String) :
    document.meets [.textDiffers field value] = true ↔
      document.text field ≠ withoutControls value := by
  simp [meets, Condition.predicate?, Predicate.holds]

@[simp] theorem IndexedDocument.meets_atLeast (field : String) (bound : Binary64) :
    document.meets [.atLeast field bound] = bound.le (document.number field) := by
  simp [meets, Condition.predicate?, Predicate.holds]

@[simp] theorem IndexedDocument.meets_atMost (field : String) (bound : Binary64) :
    document.meets [.atMost field bound] = (document.number field).le bound := by
  simp [meets, Condition.predicate?, Predicate.holds]

/-- On a multi-valued field. -/
theorem IndexedDocument.meets_idAmong {field : String} (hfield : field ≠ "id") (ids : List Int) :
    document.meets [.idAmong field ids] = true ↔ ∃ id ∈ ids, id ∈ document.terms field := by
  simp [meets, Condition.predicate?, Predicate.holds, carries, hfield]

theorem IndexedDocument.meets_idIs {field : String} (hfield : field ≠ "id") (id : Int) :
    document.meets [.idIs field id] = true ↔ id ∈ document.terms field := by
  simp [meets, Condition.predicate?, Predicate.holds, carries, hfield]

theorem IndexedDocument.meets_idIs_all {field : String} (hfield : field ≠ "id") (ids : List Int) :
    document.meets (ids.map (.idIs field)) = true ↔ ∀ id ∈ ids, id ∈ document.terms field := by
  simp [meets, Condition.predicate?, Predicate.holds, carries, hfield]

@[simp] theorem IndexedDocument.meets_id (id : Int) :
    document.meets [.idIs "id" id] = true ↔ document.id = id := by
  simp [meets, Condition.predicate?, Predicate.holds, carries]

@[simp] theorem IndexedDocument.meets_idAmong_id (ids : List Int) :
    document.meets [.idAmong "id" ids] = true ↔ document.id ∈ ids := by
  simp [meets, Condition.predicate?, Predicate.holds, carries]

@[simp] theorem IndexedDocument.meets_idNotAmong_id (ids : List Int) :
    document.meets [.idNotAmong "id" ids] = true ↔ document.id ∉ ids := by
  simp only [meets, Condition.predicate?, Predicate.holds, carries, List.filterMap_cons,
    List.filterMap_nil, List.all_cons, List.all_nil, reduceIte, Bool.and_true, Bool.not_eq_true',
    List.any_eq_false, beq_iff_eq]
  exact ⟨fun h hmem => h _ hmem rfl, fun h id hid heq => h (heq ▸ hid)⟩

end Meets

end Sql

/-! ### What each group of conditions asks for -/

theorem Taxonomy.four_le_length_field (taxonomy : String) : 4 ≤ (field taxonomy).toList.length := by
  rw [field, String.toList_append, List.length_append]
  exact Nat.le_add_left 4 _

/-- The field of a taxonomy's terms is not that of the identifiers. -/
theorem Taxonomy.field_ne_id (taxonomy : String) : field taxonomy ≠ "id" := by
  intro h
  have hlength := four_le_length_field taxonomy
  rw [h] at hlength
  exact absurd hlength (by decide)

/-- The field of a taxonomy's terms is a word, and not the word between predicates. -/
theorem Taxonomy.isWord_field (taxonomy : String) :
    IsWord (field taxonomy) ∧ field taxonomy ≠ "AND" := by
  have hlength := four_le_length_field taxonomy
  refine ⟨⟨fun hnil => ?_, fun c hc => ?_⟩, fun heq => ?_⟩
  · rw [hnil] at hlength
    cases hlength
  · have := isIdentifierChar_of_mem_field hc
    simp only [isIdentifierChar, Bool.or_eq_true] at this
    rcases this with h | h
    · simp [isWordChar, isNumeralChar, h]
    · simp [isWordChar, h]
  · rw [heq] at hlength
    exact absurd hlength (by decide)

namespace Planner

variable {planner : Planner} {document : IndexedDocument}

theorem meets_valuesOr {field default : String} {values : List String}
    (hdefault : withoutControls default = default) :
    document.meets [.textAmong field (valuesOr default values)] = true ↔
      IsOneOf default values (document.text field) := by
  rw [IndexedDocument.meets_textAmong, IsOneOf]
  cases values with
  | nil => simp [valuesOr, hdefault]
  | cons value values => simp [valuesOr]

theorem meets_termCondition {field : String} (hfield : field ≠ "id") (term : Option Int) :
    document.meets (planner.termCondition field term) = true ↔
      ∀ id ∈ term, planner.schema.hasMultiValued field = true → id ∈ document.terms field := by
  cases term with
  | none => simp [termCondition]
  | some id => by_cases h : planner.schema.hasMultiValued field = true <;>
      simp [termCondition, h, IndexedDocument.meets_idIs hfield]

theorem meets_attributeConditions (entry : String × TermFilter) :
    document.meets (planner.attributeConditions entry) = true ↔
      (entry.2.terms ≠ [] → planner.schema.hasMultiValued (Taxonomy.field entry.1) = true →
        entry.2.IsMetBy (document.terms (Taxonomy.field entry.1))) := by
  obtain ⟨taxonomy, terms, combinator⟩ := entry
  have hfield := Taxonomy.field_ne_id taxonomy
  by_cases hterms : terms = []
  · simp [attributeConditions, hterms]
  by_cases hdeclared : planner.schema.hasMultiValued (Taxonomy.field taxonomy) = true
  · cases combinator <;>
      simp [attributeConditions, hterms, Schema.taxonomyField?, hdeclared, TermFilter.IsMetBy,
        IndexedDocument.meets_idAmong hfield, IndexedDocument.meets_idIs_all hfield]
  · simp [attributeConditions, hterms, Schema.taxonomyField?, hdeclared]

theorem meets_attributes (entries : List (String × TermFilter)) :
    document.meets (entries.flatMap planner.attributeConditions) = true ↔
      ∀ entry ∈ entries, entry.2.terms ≠ [] →
        planner.schema.hasMultiValued (Taxonomy.field entry.1) = true →
        entry.2.IsMetBy (document.terms (Taxonomy.field entry.1)) := by
  induction entries with
  | nil => simp
  | cons entry entries ih =>
    rw [List.flatMap_cons, IndexedDocument.meets_append, Bool.and_eq_true, ih,
      meets_attributeConditions, List.forall_mem_cons]

theorem meets_boundCondition {field : String} {condition : Binary64 → Condition}
    {holds : Binary64 → Bool} (hcondition : ∀ x, document.meets [condition x] = holds x)
    (bound : Option Binary64) :
    document.meets (planner.boundCondition field bound condition) = true ↔
      ∀ x ∈ bound, x.isFinite = true → planner.schema.hasAttribute field = true →
        holds x = true := by
  cases bound with
  | none => simp [boundCondition]
  | some x =>
    by_cases hfinite : x.isFinite = true <;>
      by_cases hdeclared : planner.schema.hasAttribute field = true <;>
      simp [boundCondition, Option.filter, hfinite, hdeclared, hcondition]

theorem meets_statusCondition (status : Option StockStatus) :
    document.meets (planner.statusCondition status) = true ↔
      ∀ s ∈ status, planner.schema.hasAttribute "stock_status" = true →
        document.text "stock_status" = s.text := by
  cases status with
  | none => simp [statusCondition]
  | some s =>
    have hplain : withoutControls s.text = s.text := by cases s <;> decide
    by_cases hdeclared : planner.schema.hasAttribute "stock_status" = true <;>
      simp [statusCondition, hdeclared, hplain]

/-- No document has the identifier zero, so an empty list leaves none. -/
theorem meets_includeCondition (ids : Option (List Int)) :
    document.meets (includeCondition ids) = true ↔ ∀ list ∈ ids, document.id ∈ list := by
  match ids with
  | none => simp [includeCondition]
  | some [] => simp [includeCondition, document.id_ne_zero]
  | some (id :: ids) => simp [includeCondition]

theorem meets_excludeCondition (ids : List Int) :
    document.meets (excludeCondition ids) = true ↔ document.id ∉ ids := by
  cases ids <;> simp [excludeCondition]

theorem meets_halfCondition (half : Option StockHalf) :
    document.meets (halfCondition half) = true ↔
      ∀ part ∈ half,
        part = .inStock ↔ document.text "stock_status" = StockStatus.inStock.text := by
  have hplain : withoutControls StockStatus.inStock.text = StockStatus.inStock.text := by decide
  match half with
  | none => simp [halfCondition]
  | some .inStock => simp [halfCondition, hplain]
  | some .otherwise => simp [halfCondition, hplain]

theorem meets_visibility (filter : Filter) :
    document.meets (if !filter.includeHidden && planner.schema.hasAttribute "visibility" then
      [.textDiffers "visibility" "hidden"] else []) = true ↔
      (filter.includeHidden = false → planner.schema.hasAttribute "visibility" = true →
        document.text "visibility" ≠ "hidden") := by
  have hplain : withoutControls "hidden" = "hidden" := by decide
  cases filter.includeHidden <;>
    by_cases hdeclared : planner.schema.hasAttribute "visibility" = true <;>
    simp [hdeclared, hplain]

/-- **The conditions of a filter ask for what the filter selects.** -/
theorem meets_fieldConditions_iff (filter : Filter) (half : Option StockHalf) :
    document.meets (planner.fieldConditions filter half) = true ↔
      filter.Selects planner.schema half document := by
  have hlists (values more : List String) : document.meets
      [.textAmong "post_type" (valuesOr "product" values),
        .textAmong "post_status" (valuesOr "publish" more)] = true ↔
      IsOneOf "product" values (document.text "post_type") ∧
        IsOneOf "publish" more (document.text "post_status") := by
    change document.meets ([_] ++ [_]) = true ↔ _
    rw [IndexedDocument.meets_append, Bool.and_eq_true, meets_valuesOr (by decide),
      meets_valuesOr (by decide)]
  have hvisible : document.meets
      (if !filter.includeHidden && planner.schema.hasAttribute "visibility" then
        [.textDiffers "visibility" "hidden"] else []) = true ↔ _ := meets_visibility filter
  have hcategory : document.meets
      (planner.termCondition Taxonomy.categoryField filter.category) = true ↔ _ :=
    meets_termCondition (by decide) filter.category
  have htag : document.meets (planner.termCondition Taxonomy.tagField filter.tag) = true ↔ _ :=
    meets_termCondition (by decide) filter.tag
  rw [fieldConditions]
  generalize (if !filter.includeHidden && planner.schema.hasAttribute "visibility" then
    [Condition.textDiffers "visibility" "hidden"] else []) = visible at hvisible ⊢
  simp only [IndexedDocument.meets_append, Bool.and_eq_true, and_assoc, hlists, hvisible, hcategory,
    htag, meets_attributes, meets_statusCondition, meets_includeCondition, meets_excludeCondition,
    meets_halfCondition, meets_boundCondition (IndexedDocument.meets_atLeast _),
    meets_boundCondition (IndexedDocument.meets_atMost _)]
  constructor
  · rintro ⟨htype, hstatus, hvisible, hcategory, htag, hattributes, hmin, hmax, hstock, hrating,
      hincluded, hexcluded, hhalf⟩
    exact ⟨htype, hstatus, hvisible, hcategory, htag, hattributes, hmin, hmax, hstock, hrating,
      hincluded, hexcluded, hhalf⟩
  · rintro ⟨htype, hstatus, hvisible, hcategory, htag, hattributes, hmin, hmax, hstock, hrating,
      hincluded, hexcluded, hhalf⟩
    exact ⟨htype, hstatus, hvisible, hcategory, htag, hattributes, hmin, hmax, hstock, hrating,
      hincluded, hexcluded, hhalf⟩

/-! ### All conditions are readable -/

/-- The fields that conditions are on are words, and none is the word between predicates. -/
theorem IsField.isWord {field : String} (h : planner.IsField field) :
    IsWord field ∧ field ≠ "AND" := by
  rcases h with h | ⟨taxonomy, h⟩
  · have hall : ∀ field ∈ fixedFields, IsWord field ∧ field ≠ "AND" := by decide
    exact hall field h
  · rw [Schema.taxonomyField?] at h
    split_ifs at h
    obtain rfl := Option.some.inj h
    exact Taxonomy.isWord_field taxonomy

/-- **The conditions of a filter are readable.** -/
theorem Asks.isReadable {condition : Condition} (h : planner.Asks condition) :
    condition.IsReadable := by
  constructor
  · obtain ⟨field, hfield, hdeclared⟩ := h.exists_field
    rw [hfield]
    rintro _ ⟨⟩
    exact hdeclared.isWord
  · cases h with
    | textAmong _ hvalues => exact hvalues
    | textDiffers | idIs | atLeast | atMost => trivial
    | idAmong _ hids | idNotAmong hids => exact hids

/-- **The clause of a filter means the filter.** -/
theorem exists_all_holds_iff_selects (planner : Planner) (filter : Filter)
    (half : Option StockHalf) (htext : filter.hasText = false) :
    ∃ predicates, readWhere? (renderWhere (planner.conditions filter half)) = some predicates ∧
      ∀ document : IndexedDocument, predicates.all (Predicate.holds document) = true ↔
        filter.Selects planner.schema half document := by
  have hconditions : planner.conditions filter half = planner.fieldConditions filter half := by
    rw [conditions_eq, matchExpression, if_neg (by simp [htext])]
    rfl
  rw [hconditions, readWhere?_renderWhere (by simp [fieldConditions]) fun c hc =>
    (asks_of_mem_fieldConditions hc).isReadable]
  exact ⟨_, rfl, fun document => meets_fieldConditions_iff filter half⟩

/-- A search by everything that a filter has a field for, in an index with one attribute taxonomy.
-/
def crowdedSearch : Filter :=
  { Filter.products with
    postTypes := ["it's", "a\\' OR 1=1"]
    postStatuses := []
    category := some 5
    tag := some (-3)
    attributes := .ofList [("pa_Color", ⟨[7, 8], .all⟩), ("pa_size", ⟨[9], .any⟩)]
    minPrice := some (.ofRatio false 39 2)
    maxPrice := some (.infinite false)
    stock := some .onBackorder
    minRating := some (.ofRatio false 9 2)
    includeIds := some [3, 4, -8]
    excludeIds := [4, 6] }

/-- A document that this search selects. -/
def crowdedDocument : IndexedDocument where
  id := 3
  id_ne_zero := by decide
  text
    | "post_type" => "it's"
    | "post_status" => "publish"
    | "stock_status" => "onbackorder"
    | _ => ""
  number _ := .ofRatio false 39 2
  terms _ := [5, -3, 7, 8, 9]

theorem exists_all_holds_iff_selects_crowdedSearch :
    (∃ predicates, readWhere? (renderWhere (Planner.conditions
        { products with schema := Schema.products "products" ["pa_color"] }
        crowdedSearch (some .otherwise))) = some predicates ∧
      ∀ document : IndexedDocument, predicates.all (Predicate.holds document) = true ↔
        crowdedSearch.Selects (Schema.products "products" ["pa_color"]) (some .otherwise)
          document) ∧
      crowdedSearch.Selects (Schema.products "products" ["pa_color"]) (some .otherwise)
        crowdedDocument := by
  refine ⟨exists_all_holds_iff_selects
    { products with schema := Schema.products "products" ["pa_color"] } crowdedSearch
    (some .otherwise) (by decide), ?_⟩
  constructor
  case postType => exact .inr ⟨"it's", by simp [crowdedSearch], by decide⟩
  case postStatus => exact .inl ⟨rfl, rfl⟩
  case visible => exact fun _ _ => by decide
  case category => simp [crowdedSearch, crowdedDocument]
  case tag => simp [crowdedSearch, crowdedDocument]
  case attributes =>
    have hentries : crowdedSearch.attributes.entries =
        [("pa_Color", ⟨[7, 8], .all⟩), ("pa_size", ⟨[9], .any⟩)] := by decide +kernel
    simp [hentries, TermFilter.IsMetBy, crowdedDocument]
  case minPrice =>
    have hmet : ∀ bound ∈ crowdedSearch.minPrice,
        bound.le (crowdedDocument.number "price") = true := by decide +kernel
    exact fun bound hbound _ _ => hmet bound hbound
  case maxPrice =>
    rintro bound ⟨⟩ hfinite
    cases hfinite
  case stock =>
    rintro status ⟨⟩ -
    rfl
  case minRating =>
    have hmet : ∀ bound ∈ crowdedSearch.minRating,
        bound.le (crowdedDocument.number "average_rating") = true := by decide +kernel
    exact fun bound hbound _ _ => hmet bound hbound
  case included => simp [crowdedSearch, crowdedDocument]
  case notExcluded => simp [crowdedSearch, crowdedDocument]
  case inHalf =>
    rintro part ⟨⟩
    decide

end Planner

end Storefront
