import Storefront.Filter.Basic
import Storefront.Json.Reader
import Storefront.Json.Writer

/-!
# Filters as JSON records

The record of a filter names every field. A field that may be absent in a filter may be absent or
`null` in its record; every other field has to be there, and a member of another name is passed
over. Numbers that are not finite are written as `null`, JSON having no spelling for them.

Each type has a pair of functions, `toJson` and `ofJson?`, and reading undoes writing.
-/

namespace Storefront

open Number

/-! ### Enumerations -/

/-- The combinator's name in records. -/
def Combinator.name : Combinator → String
  | .all => "and"
  | .any => "or"

/-- The combinator of a name in records. -/
def Combinator.ofName? : String → Option Combinator
  | "and" => some .all
  | "or" => some .any
  | _ => none

/-- The status of a name in records, which is the index's own. -/
def StockStatus.ofName? : String → Option StockStatus
  | "instock" => some .inStock
  | "outofstock" => some .outOfStock
  | "onbackorder" => some .onBackorder
  | _ => none

/-- The key's name in records. -/
def SortKey.name : SortKey → String
  | .relevance => "relevance"
  | .price => "price"
  | .popularity => "popularity"
  | .rating => "rating"
  | .date => "date"
  | .id => "id"
  | .menuOrder => "menu_order"

/-- The key of a name in records. -/
def SortKey.ofName? : String → Option SortKey
  | "relevance" => some .relevance
  | "price" => some .price
  | "popularity" => some .popularity
  | "rating" => some .rating
  | "date" => some .date
  | "id" => some .id
  | "menu_order" => some .menuOrder
  | _ => none

/-- The direction's name in records. -/
def Direction.name : Direction → String
  | .ascending => "asc"
  | .descending => "desc"

/-- The direction of a name in records. -/
def Direction.ofName? : String → Option Direction
  | "asc" => some .ascending
  | "desc" => some .descending
  | _ => none

/-! ### Parts of a filter -/

namespace SortOrder

/-- The record of a sort order. -/
def toJson (order : SortOrder) : Json :=
  .object [("key", .text order.key.name), ("direction", .text order.direction.name)]

/-- The sort order of a record. -/
def ofJson? (json : Json) : Option SortOrder := do
  let field ← json.record? ["key", "direction"]
  let key ← (← field "key").named? SortKey.ofName?
  let direction ← (← field "direction").named? Direction.ofName?
  pure ⟨key, direction⟩

end SortOrder

namespace TermFilter

/-- The record of a taxonomy's terms. -/
def toJson (filter : TermFilter) : Json :=
  .object [("terms", .ofIds filter.terms), ("combinator", .text filter.combinator.name)]

/-- The terms of a record. -/
def ofJson? (json : Json) : Option TermFilter := do
  let field ← json.record? ["terms", "combinator"]
  let terms ← (← field "terms").list? Json.id?
  let combinator ← (← field "combinator").named? Combinator.ofName?
  pure ⟨terms, combinator⟩

end TermFilter

namespace Variant

/-- The record of a variant: its kind applied to its term. -/
def toJson : Variant → Json
  | .exact term => .object [("Exact", .text term)]
  | .start term => .object [("Prefix", .text term)]

/-- The variant of a record. -/
def ofJson? (json : Json) : Option Variant :=
  match json.variant? with
  | some ("Exact", .text term) => some (.exact term)
  | some ("Prefix", .text term) => some (.start term)
  | _ => none

end Variant

namespace Alternatives

/-- The record of a group. -/
def toJson (group : Alternatives) : Json :=
  .object [("variants", .list (group.variants.map Variant.toJson))]

/-- The group of a record. -/
def ofJson? (json : Json) : Option Alternatives := do
  let field ← json.record? ["variants"]
  let variants ← (← field "variants").list? Variant.ofJson?
  pure ⟨variants⟩

end Alternatives

namespace Wording

/-- The record of a wording. -/
def toJson (wording : Wording) : Json :=
  .object [("groups", .list (wording.groups.map Alternatives.toJson))]

/-- The wording of a record. -/
def ofJson? (json : Json) : Option Wording := do
  let field ← json.record? ["groups"]
  let groups ← (← field "groups").list? Alternatives.ofJson?
  pure ⟨groups⟩

end Wording

/-- The record of the attributes: an object with a member for each taxonomy. -/
def attributesToJson (attributes : SortedMap String TermFilter) : Json :=
  .object (attributes.entries.map fun (taxonomy, terms) => (taxonomy, terms.toJson))

/-- The attributes of a record. -/
def attributesOfJson? : Json → Option (SortedMap String TermFilter)
  | .object members => do
    let entries ← members.mapM fun (taxonomy, json) =>
      (TermFilter.ofJson? json).map fun terms => (taxonomy, terms)
    pure (SortedMap.ofList entries)
  | _ => none

/-! ### Filters -/

namespace Filter

/-- The fields of a filter's record, in order. -/
def fieldNames : List String :=
  ["text", "expanded", "post_types", "post_statuses", "category_id", "tag_id", "attributes",
   "price_min", "price_max", "stock_status", "min_rating", "include_ids", "exclude_ids",
   "include_hidden", "order", "page", "page_size", "prioritize_in_stock"]

/-- **The record of a filter.** -/
def toJson (filter : Filter) : Json :=
  .object
    [("text", .ofOption .text filter.text),
     ("expanded", .ofOption Wording.toJson filter.wording),
     ("post_types", .ofTexts filter.postTypes),
     ("post_statuses", .ofTexts filter.postStatuses),
     ("category_id", .ofOption .whole filter.category),
     ("tag_id", .ofOption .whole filter.tag),
     ("attributes", attributesToJson filter.attributes),
     ("price_min", .ofOption .ofNumber filter.minPrice),
     ("price_max", .ofOption .ofNumber filter.maxPrice),
     ("stock_status", .ofOption (fun status => .text status.text) filter.stock),
     ("min_rating", .ofOption .ofNumber filter.minRating),
     ("include_ids", .ofOption .ofIds filter.includeIds),
     ("exclude_ids", .ofIds filter.excludeIds),
     ("include_hidden", .bool filter.includeHidden),
     ("order", .ofOption SortOrder.toJson filter.order),
     ("page", .ofNat filter.page),
     ("page_size", .ofNat filter.pageSize),
     ("prioritize_in_stock", .bool filter.inStockFirst)]

/-- **The filter of a record.** -/
def ofJson? (json : Json) : Option Filter := do
  let field ← json.record? fieldNames
  let text ← Json.absentOr? Json.text? (field "text")
  let wording ← Json.absentOr? Wording.ofJson? (field "expanded")
  let postTypes ← (← field "post_types").list? Json.text?
  let postStatuses ← (← field "post_statuses").list? Json.text?
  let category ← Json.absentOr? Json.id? (field "category_id")
  let tag ← Json.absentOr? Json.id? (field "tag_id")
  let attributes ← attributesOfJson? (← field "attributes")
  let minPrice ← Json.absentOr? Json.number? (field "price_min")
  let maxPrice ← Json.absentOr? Json.number? (field "price_max")
  let stock ← Json.absentOr? (Json.named? StockStatus.ofName?) (field "stock_status")
  let minRating ← Json.absentOr? Json.number? (field "min_rating")
  let includeIds ← Json.absentOr? (Json.list? Json.id?) (field "include_ids")
  let excludeIds ← (← field "exclude_ids").list? Json.id?
  let includeHidden ← (← field "include_hidden").bool?
  let order ← Json.absentOr? SortOrder.ofJson? (field "order")
  let page ← (← field "page").upTo? maxPage
  let pageSize ← (← field "page_size").upTo? maxPage
  let inStockFirst ← (← field "prioritize_in_stock").bool?
  pure { text, wording, postTypes, postStatuses, category, tag, attributes, minPrice, maxPrice,
         stock, minRating, includeIds, excludeIds, includeHidden, order, page, pageSize,
         inStockFirst }

/-- The text of a filter's record. -/
def toText (filter : Filter) : String :=
  filter.toJson.render

/-- The filter that a text is the record of. -/
def ofText? (s : String) : Option Filter :=
  (Json.ofText? s).bind ofJson?

end Filter

end Storefront
