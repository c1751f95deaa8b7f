import Storefront.Filter.Basic

/-!
# The normal form of a filter

Two requests that mean the same search should be the same filter, so that they compile to the same
statements and share a place in the result cache. `Filter.normalize` sees to that, field by field:

| field | in normal form |
| --- | --- |
| text | trimmed, and absent rather than empty; no wording without a text |
| types, statuses | trimmed, none empty, strictly ascending; a default if none is left |
| prices | finite and not negative, the lesser as the minimum |
| rating | finite, above zero, at most five |
| attributes | trimmed names, each with positive terms strictly ascending |
| identifiers | strictly ascending |
| category, tag | positive |
| page, page size | at least one, the size within the limit |
-/

namespace Storefront

open Text

/-! ### Lists in strict order -/

/-- The list without the items that equal their predecessor. -/
def dropRepeats {α : Type} [DecidableEq α] : List α → List α
  | [] => []
  | [a] => [a]
  | a :: b :: rest => if a = b then dropRepeats (b :: rest) else a :: dropRepeats (b :: rest)

/-- The items in strictly ascending order. -/
def ascendingIds (ids : List Int) : List Int :=
  dropRepeats (ids.mergeSort fun a b => decide (a ≤ b))

/-- The trimmed names in strictly ascending order, the empty ones left out. -/
def ascendingNames (names : List String) : List String :=
  let kept := (names.map trim).filter fun name => !name.isEmpty
  dropRepeats (kept.mergeSort fun a b => decide (a ≤ b))

/-- The names in normal form, or just the default if there are none. -/
def namesOr (default : String) (names : List String) : List String :=
  match ascendingNames names with
  | [] => [default]
  | names => names

namespace Filter

/-! ### Single fields -/

/-- A price bound: finite, and not below zero. -/
def priceBound (price : Option Binary64) : Option Binary64 :=
  (price.filter Binary64.isFinite).map fun p => p.max .zero

/-- The two price bounds, the lesser first if both are given. -/
def priceBounds (low high : Option Binary64) : Option Binary64 × Option Binary64 :=
  match priceBound low, priceBound high with
  | some a, some b => if b.lt a then (some b, some a) else (some a, some b)
  | a, b => (a, b)

/-- The greatest rating there is. -/
def topRating : Binary64 :=
  .ofNat 5

/-- A least rating: above zero, and not above the greatest. -/
def ratingBound (rating : Option Binary64) : Option Binary64 :=
  (rating.filter fun r => r.isFinite && Binary64.zero.lt r).map fun r => r.min topRating

/-- The terms of a taxonomy: positive and strictly ascending. -/
def positiveTerms (filter : TermFilter) : TermFilter :=
  { filter with terms := ascendingIds (filter.terms.filter (0 < ·)) }

/-- The attributes with one more taxonomy, unless its name or its list of terms is empty. -/
def addAttribute (attributes : SortedMap String TermFilter) (entry : String × TermFilter) :
    SortedMap String TermFilter :=
  let taxonomy := trim entry.1
  let terms := positiveTerms entry.2
  if taxonomy.isEmpty || terms.terms.isEmpty then attributes
  else attributes.insert taxonomy terms

/-- The attributes in normal form. Of two taxonomies with one trimmed name the later counts. -/
def normalAttributes (attributes : SortedMap String TermFilter) : SortedMap String TermFilter :=
  attributes.entries.foldl addAttribute ∅

/-- The page size: the default if none is given, then between one and the limit. -/
def normalPageSize (default limit size : Nat) : Nat :=
  let asked := if size = 0 then default else size
  min (max asked 1) (max limit 1)

/-! ### The whole filter -/

/-- **The filter in normal form**, for a default and a limit of the page size. -/
def normalize (defaultPageSize maxPageSize : Nat) (filter : Filter) : Filter :=
  let text := filter.text.bind trimmed?
  let prices := priceBounds filter.minPrice filter.maxPrice
  { text := text
    wording := if text.isNone then none else filter.wording
    postTypes := namesOr "product" filter.postTypes
    postStatuses := namesOr "publish" filter.postStatuses
    category := filter.category.filter (0 < ·)
    tag := filter.tag.filter (0 < ·)
    attributes := normalAttributes filter.attributes
    minPrice := prices.1
    maxPrice := prices.2
    stock := filter.stock
    minRating := ratingBound filter.minRating
    includeIds := filter.includeIds.map ascendingIds
    excludeIds := ascendingIds filter.excludeIds
    includeHidden := filter.includeHidden
    order := filter.order
    page := max filter.page 1
    pageSize := normalPageSize defaultPageSize maxPageSize filter.pageSize
    inStockFirst := filter.inStockFirst }

end Filter

end Storefront
