import Storefront.Fault
import Storefront.Filter.Normal
import Storefront.Index.Taxonomy
import Storefront.Settings.Basic

/-!
# Requests

A request becomes a filter from three sources, the higher ones overriding the lower:

| source | says |
| --- | --- |
| selection | what the calling code chose: identifiers, types, category, tag, order |
| parameters | what stands in the address: attributes, prices, rating, stock, order, page |
| archive | the category, tag or attribute page that is being browsed |

Parameters are read leniently: a value that means nothing is as if it were absent, and so is a
parameter of an unknown name. Only a request for a type that cannot be one is refused.

`Request.toFilter` merges the sources and brings the filter into normal form.
-/

namespace Storefront

open Number Text

/-- The archive page that a request was made from. -/
structure Archive where
  category : Option Int
  tag : Option Int
  /-- The taxonomy and the term of an attribute's page. -/
  attributeTerm : Option (String × Int)
deriving DecidableEq

/-- No archive page. -/
def Archive.none : Archive := ⟨Option.none, Option.none, Option.none⟩

/-- What the calling code chose; it overrides everything else. -/
structure Selection where
  includeIds : Option (List Int)
  excludeIds : List Int
  postTypes : Option (List String)
  postStatuses : Option (List String)
  category : Option Int
  tag : Option Int
  order : Option SortOrder
  includeHidden : Bool
deriving DecidableEq

/-- No choice. -/
def Selection.none : Selection :=
  ⟨Option.none, [], Option.none, Option.none, Option.none, Option.none, Option.none, false⟩

/-- A request as it comes in. -/
structure Request where
  /-- The parameters by name. -/
  params : SortedMap String String
  archive : Archive
  selection : Selection

namespace Request

/-! ### Reading parameters -/

/-- The trimmed value of a parameter, if anything is left of it. -/
def param? (request : Request) (name : String) : Option String :=
  (request.params.get? name).bind trimmed?

/-- The identifiers of a comma list; what is none is passed over. -/
def readIds (value : String) : List Int :=
  (commaFields value).filterMap fun field => readId? field.toList

/-- A finite number. -/
def readNumber? (value : String) : Option Binary64 :=
  (Binary64.read? value.toList).filter Binary64.isFinite

/-- The least of the finite numbers in a comma list: rated four or five means four and better. -/
def readRating? (value : String) : Option Binary64 :=
  match (commaFields value).filterMap readNumber? with
  | [] => none
  | first :: rest => some (rest.foldl Binary64.min first)

/-- Whether a value says yes. -/
def readFlag (value : String) : Bool :=
  ["1", "true", "yes", "on"].contains (lowerAscii value)

/-- A page number or a page size. -/
def readPage? (value : String) : Option Nat :=
  readUpTo? maxPage value.toList

/-! ### Attributes -/

/-- The attribute that a parameter filters by, if it is such a parameter. -/
def attributeName? (param : String) : Option String :=
  (("filter_".toList.isPrefixOf? param.toList).map trimChars).bind fun name =>
    if name.isEmpty then none else some (String.ofList name)

/-- The combinator that a request asks for with an attribute. -/
def combinatorOf (request : Request) (name : String) : Combinator :=
  match request.param? ("query_type_" ++ name) with
  | some value => .ofText value
  | none => .any

/-- The attributes with what one parameter says on them. -/
def addParam (request : Request) (attributes : SortedMap String TermFilter)
    (param : String × String) : SortedMap String TermFilter :=
  match attributeName? param.1 with
  | none => attributes
  | some name =>
    match readIds param.2 with
    | [] => attributes
    | terms => attributes.insert (Taxonomy.ofAttribute name) ⟨terms, request.combinatorOf name⟩

/-- The attributes of the archive page. -/
def archiveAttributes (archive : Archive) : SortedMap String TermFilter :=
  match archive.attributeTerm with
  | some (taxonomy, term) => SortedMap.ofList [(taxonomy, ⟨[term], .any⟩)]
  | none => ∅

/-- The attributes of the archive page, overridden by those of the parameters. -/
def attributes (request : Request) : SortedMap String TermFilter :=
  request.params.entries.foldl (addParam request) (archiveAttributes request.archive)

/-! ### The filter -/

/-- Whether a name can be that of a type: up to twenty ASCII letters in lower case, digits, dashes
and underscores. -/
def isPostTypeName (name : String) : Bool :=
  let cs := name.toList
  !cs.isEmpty && cs.length ≤ 20 && cs.all fun c => c.isLower || c.isDigit || c = '_' || c = '-'

/-- The types of the documents to search. -/
def postTypes (request : Request) : List String :=
  request.selection.postTypes.getD ["product"]

/-- Whether everything in stock is asked for first. -/
def asksInStockFirst (request : Request) (settings : Settings) : Bool :=
  match request.param? "in_stock_first" with
  | some value => readFlag value
  | none => settings.inStockFirst

/-- The order of the selection, or else of the parameters. -/
def order (request : Request) : Option SortOrder :=
  request.selection.order.or
    ((request.param? "orderby").bind fun key => SortOrder.ofTexts? key (request.param? "order"))

/-- The sources merged into one filter, not yet in normal form. -/
def merge (request : Request) : Filter :=
  let selection := request.selection
  let archive := request.archive
  { Filter.products with
    text := request.param? "s"
    postTypes := request.postTypes
    postStatuses := selection.postStatuses.getD ["publish"]
    category := selection.category.or archive.category
    tag := selection.tag.or archive.tag
    attributes := request.attributes
    minPrice := (request.param? "min_price").bind readNumber?
    maxPrice := (request.param? "max_price").bind readNumber?
    stock := (request.param? "stock_status").bind StockStatus.ofText?
    minRating := (request.param? "rating_filter").bind readRating?
    includeIds := selection.includeIds
    excludeIds := selection.excludeIds
    includeHidden := selection.includeHidden
    order := request.order
    page := ((request.param? "paged").bind readPage?).getD 1
    pageSize := ((request.param? "per_page").bind readPage?).getD 0 }

/-- **The filter of a request**, in normal form. In stock first is granted only where every type
that is searched has a stock status. -/
def toFilter (request : Request) (settings : Settings) : Except SearchFault Filter :=
  match request.postTypes.find? fun name => !isPostTypeName name with
  | some name => .error (.request (.postType name))
  | none =>
    let filter := request.merge
    let inStockFirst :=
      request.asksInStockFirst settings && settings.supportsStock filter.postTypes
    .ok ({ filter with inStockFirst := inStockFirst }.normalize settings.defaultPageSize
      settings.maxPageSize)

end Request

end Storefront
