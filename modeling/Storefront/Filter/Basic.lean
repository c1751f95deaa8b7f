import Storefront.Filter.Order
import Storefront.Wording.Basic
import Storefront.Number.Decimal
import Storefront.SortedMap

/-!
# Filters

A `Filter` describes one page of a catalog search and says nothing about engines: which documents,
in which order, which page. It is built once at the boundary – from a request's parameters, the
archive being browsed and what the calling code selects – and everything further in works on it.

The module `Storefront.Filter.Normal` brings a filter into the one form in which equal searches
are equal filters.
-/

namespace Storefront

open Text

/-- Whether all of several terms are required or any one of them. -/
inductive Combinator where
  | all
  | any
deriving DecidableEq

/-- The combinator that a parameter names; whatever is not "and" asks for any. -/
def Combinator.ofText (s : String) : Combinator :=
  if sameLetters (trim s) "and" then .all else .any

/-- The terms of one taxonomy that a document should carry. -/
structure TermFilter where
  terms : List Int
  combinator : Combinator
deriving DecidableEq

/-- The stock status of a document. -/
inductive StockStatus where
  | inStock
  | outOfStock
  | onBackorder
deriving DecidableEq

namespace StockStatus

/-- The status as the index stores it. -/
def text : StockStatus → String
  | .inStock => "instock"
  | .outOfStock => "outofstock"
  | .onBackorder => "onbackorder"

/-- The status that a parameter names, in any case of letters. -/
def ofText? (s : String) : Option StockStatus :=
  match lowerAscii (trim s) with
  | "instock" => some .inStock
  | "in_stock" => some .inStock
  | "in-stock" => some .inStock
  | "outofstock" => some .outOfStock
  | "out_of_stock" => some .outOfStock
  | "out-of-stock" => some .outOfStock
  | "onbackorder" => some .onBackorder
  | "on_backorder" => some .onBackorder
  | "backorder" => some .onBackorder
  | _ => none

end StockStatus

/-- One page of a catalog search. -/
structure Filter where
  /-- What the shopper typed. -/
  text : Option String
  /-- The widened form of the text, once synonyms have been looked up. -/
  wording : Option Wording
  postTypes : List String
  postStatuses : List String
  category : Option Int
  tag : Option Int
  attributes : SortedMap String TermFilter
  minPrice : Option Binary64
  maxPrice : Option Binary64
  stock : Option StockStatus
  minRating : Option Binary64
  /-- The only documents to consider; an empty list leaves none, while `none` leaves all. -/
  includeIds : Option (List Int)
  excludeIds : List Int
  includeHidden : Bool
  order : Option SortOrder
  page : Nat
  pageSize : Nat
  /-- Whether everything in stock comes before everything else, across all pages. -/
  inStockFirst : Bool
deriving DecidableEq

namespace Filter

/-- The first page of all published documents of one type. -/
def ofType (postType : String) : Filter where
  text := none
  wording := none
  postTypes := [postType]
  postStatuses := ["publish"]
  category := none
  tag := none
  attributes := ∅
  minPrice := none
  maxPrice := none
  stock := none
  minRating := none
  includeIds := none
  excludeIds := []
  includeHidden := false
  order := none
  page := 1
  pageSize := 12
  inStockFirst := false

/-- The first page of all published products. -/
def products : Filter :=
  ofType "product"

/-- The number of documents on the pages before this one. -/
def offset (filter : Filter) : Nat :=
  (filter.page - 1) * filter.pageSize

/-- Whether there is a word to search for. -/
def hasText (filter : Filter) : Bool :=
  match filter.text with
  | some text => !(words text).isEmpty
  | none => false

/-- **The order that counts**: relevance needs a text, and without an order of its own a search
is sorted by relevance if it has a text and by date if it has none. -/
def effectiveOrder (filter : Filter) : SortOrder :=
  let unasked := SortOrder.natural (if filter.hasText then .relevance else .date)
  match filter.order with
  | none => unasked
  | some order => if order.key = .relevance then unasked else order

/-- The filter without the terms of one taxonomy. -/
def withoutAttribute (filter : Filter) (taxonomy : String) : Filter :=
  { filter with attributes := filter.attributes.erase taxonomy }

end Filter

end Storefront
