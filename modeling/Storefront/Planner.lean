import Storefront.Fault
import Storefront.Filter.Basic
import Storefront.Index.Schema
import Storefront.Settings.Basic
import Storefront.Sql.Identifier
import Storefront.Sql.Statement

/-!
# From a filter to statements

A planner knows the fields of one index and how matches are ranked there, and turns a filter into
statements. Planning is a function of the filter alone: equal filters have equal statements,
letter by letter, which is what the result cache takes its keys from.

* `Planner.conditions` – what a filter asks of a document, for the fields that the index has;
* `Planner.page`, `Planner.count`, `Planner.countByStock`, `Planner.facet` – the statements;
* `Planner.plan` – the page of a filter with its count.
-/

namespace Storefront

open Number Sql Text

/-- The half of the matches that a page is taken from, where everything in stock comes first. -/
inductive StockHalf where
  | inStock
  | otherwise
deriving DecidableEq

/-- A full-text field with its weight, which is never zero. -/
structure WeightedField where
  field : Identifier
  weight : Nat
deriving DecidableEq

/-- What a filter is turned into statements with. -/
structure Planner where
  schema : Schema
  /-- The name of the index, known to be an identifier. -/
  index : Identifier
  weights : List WeightedField
  ranker : Identifier
  /-- How many matches the engine ranks at least, itself at least one. -/
  maxMatches : Nat
deriving DecidableEq

/-- A page statement and the count that goes with it. -/
structure Plan where
  select : Statement
  count : Statement
deriving DecidableEq

namespace Planner

/-! ### Setting up -/

/-- The field of a weight that can be used: above zero, on an identifier, on a field of the
index. -/
def weightedField? (schema : Schema) (weight : FieldWeight) : Option WeightedField :=
  if 0 < weight.weight && schema.hasTextField weight.field then
    (Identifier.ofString? weight.field).map fun field => ⟨field, weight.weight⟩
  else none

/-- **The planner of a schema and settings.** The names of the index and of the ranking formula
have to be identifiers; weights that cannot be used are left out. -/
def ofSettings (schema : Schema) (settings : Settings) : Except SearchFault Planner :=
  match Identifier.ofString? schema.index with
  | none => .error (.settings (.indexName schema.index))
  | some index =>
    match Identifier.ofString? settings.ranker with
    | none => .error (.settings (.ranker settings.ranker))
    | some ranker =>
      .ok { schema, index, ranker
            weights := settings.fieldWeights.filterMap (weightedField? schema)
            maxMatches := max settings.maxMatches 1 }

/-! ### The full-text expression -/

/-- The wording that a filter is searched by: the widened one if there is one, else the words of
its text as they stand. -/
def wordingOf (filter : Filter) : Wording :=
  match filter.wording with
  | some wording => if wording.isEmpty then .plain (filter.text.getD "") else wording
  | none => .plain (filter.text.getD "")

/-- The expression limited to each weighted field in turn; unlimited if there are none. Within a
field all words have to match, so the fields are alternatives. -/
def overFields (planner : Planner) (expression : String) : String :=
  match planner.weights with
  | [] => expression
  | weights =>
    joinWith " | " (weights.map fun w => "(@" ++ w.field.text ++ " " ++ expression ++ ")")

/-- **The full-text expression of a filter**; none without a word to search for. -/
def matchExpression (planner : Planner) (filter : Filter) : Option String :=
  if filter.hasText then
    let expression := (wordingOf filter).expression
    if (trim expression).isEmpty then none else some (planner.overFields expression)
  else none

/-! ### The conditions -/

/-- The values of a field, or the default if there are none. -/
def valuesOr (default : String) (values : List String) : List String :=
  match values with
  | [] => [default]
  | values => values

/-- A term of a field that the index may lack. -/
def termCondition (planner : Planner) (field : String) (term : Option Int) : List Condition :=
  match term with
  | some term => if planner.schema.hasMultiValued field then [.idIs field term] else []
  | none => []

/-- The terms of one taxonomy: an equation for each if all are required, else one choice. -/
def attributeConditions (planner : Planner) (entry : String × TermFilter) : List Condition :=
  let (taxonomy, filter) := entry
  if filter.terms.isEmpty then []
  else
    match planner.schema.taxonomyField? taxonomy with
    | none => []
    | some field =>
      match filter.combinator with
      | .all => filter.terms.map (.idIs field)
      | .any => [.idAmong field filter.terms]

/-- A bound on an attribute that the index may lack. -/
def boundCondition (planner : Planner) (field : String) (bound : Option Binary64)
    (condition : Binary64 → Condition) : List Condition :=
  match bound.filter Binary64.isFinite with
  | some bound => if planner.schema.hasAttribute field then [condition bound] else []
  | none => []

/-- The stock status that is asked for. -/
def statusCondition (planner : Planner) (status : Option StockStatus) : List Condition :=
  match status with
  | some status =>
    if planner.schema.hasAttribute "stock_status" then [.textAmong "stock_status" [status.text]]
    else []
  | none => []

/-- The only identifiers to consider. No document has the identifier zero, so an empty list is
written as that. -/
def includeCondition (ids : Option (List Int)) : List Condition :=
  match ids with
  | none => []
  | some [] => [.idIs "id" 0]
  | some ids => [.idAmong "id" ids]

/-- The identifiers to leave out. -/
def excludeCondition (ids : List Int) : List Condition :=
  if ids.isEmpty then [] else [.idNotAmong "id" ids]

/-- One half of the matches by stock. -/
def halfCondition (half : Option StockHalf) : List Condition :=
  match half with
  | none => []
  | some .inStock => [.textAmong "stock_status" [StockStatus.inStock.text]]
  | some .otherwise => [.textDiffers "stock_status" StockStatus.inStock.text]

/-- **What a filter asks of a document**, for the fields that the index has. -/
def conditions (planner : Planner) (filter : Filter) (half : Option StockHalf) :
    List Condition :=
  ((planner.matchExpression filter).map Condition.fullText).toList ++
    [.textAmong "post_type" (valuesOr "product" filter.postTypes),
     .textAmong "post_status" (valuesOr "publish" filter.postStatuses)] ++
    (if !filter.includeHidden && planner.schema.hasAttribute "visibility" then
      [.textDiffers "visibility" "hidden"] else []) ++
    planner.termCondition Taxonomy.categoryField filter.category ++
    planner.termCondition Taxonomy.tagField filter.tag ++
    filter.attributes.entries.flatMap planner.attributeConditions ++
    planner.boundCondition "price" filter.minPrice (.atLeast "price") ++
    planner.boundCondition "price" filter.maxPrice (.atMost "price") ++
    planner.statusCondition filter.stock ++
    planner.boundCondition "average_rating" filter.minRating (.atLeast "average_rating") ++
    includeCondition filter.includeIds ++
    excludeCondition filter.excludeIds ++
    halfCondition half

/-! ### The statements -/

/-- How a search with a text is ranked; nothing is said without a text or a weighted field. -/
def ranking (planner : Planner) (filter : Filter) : Option Ranking :=
  if filter.hasText && !planner.weights.isEmpty then
    some ⟨planner.weights.map fun w => (w.field.text, w.weight), planner.ranker.text⟩
  else none

/-- **`limit` matches from `offset` on**, at least one, of one half of the matches or of all. The
engine ranks enough of them to reach the last. -/
def page (planner : Planner) (filter : Filter) (half : Option StockHalf) (offset limit : Nat) :
    Statement :=
  let rows := max limit 1
  .page planner.index.text (planner.conditions filter half) filter.hasText filter.effectiveOrder
    offset rows (max planner.maxMatches (addCountsUpTo offset rows)) (planner.ranking filter)

/-- The number of matches, of one half of them or of all. -/
def count (planner : Planner) (filter : Filter) (half : Option StockHalf) : Statement :=
  .count planner.index.text (planner.conditions filter half)

/-- The number of matches for each stock status. -/
def countByStock (planner : Planner) (filter : Filter) : Statement :=
  .countByStock planner.index.text (planner.conditions filter none)

/-- The number of matches for each value of a multi-valued field, up to `limit` of them. -/
def facet (planner : Planner) (filter : Filter) (field : String) (limit : Nat) : Statement :=
  .facet planner.index.text (planner.conditions filter none) field planner.maxMatches
    (max limit 1)

/-- **The page that a filter asks for, with the number of matches.** -/
def plan (planner : Planner) (filter : Filter) : Plan :=
  ⟨planner.page filter none filter.offset filter.pageSize, planner.count filter none⟩

end Planner

end Storefront
