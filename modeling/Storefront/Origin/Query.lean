import Storefront.Fault
import Storefront.Filter.Basic

/-!
# The origin store

The catalog's own database answers when the engine is down, and it holds what is shown of a
document. It answers less: type, status, words, identifiers and paging, the latest first, without
relevance. `OriginQuery.ofFilter` is what remains of a filter.
-/

namespace Storefront

open Text

/-- What the origin store is asked for. -/
structure OriginQuery where
  text : Option String
  postTypes : List String
  postStatuses : List String
  includeIds : Option (List Int)
  excludeIds : List Int
  offset : Nat
  limit : Nat
deriving DecidableEq

namespace OriginQuery

/-- **What remains of a filter.** -/
def ofFilter (filter : Filter) : OriginQuery where
  text := filter.text.filter fun text => !(trim text).isEmpty
  postTypes := filter.postTypes
  postStatuses := filter.postStatuses
  includeIds := filter.includeIds
  excludeIds := filter.excludeIds
  offset := filter.offset
  limit := max filter.pageSize 1

/-- The words that a document has to contain. -/
def words (query : OriginQuery) : List String :=
  match query.text with
  | some text => Text.words text
  | none => []

end OriginQuery

/-- A page of the origin store: the identifiers, and the number of all matches. -/
structure OriginPage where
  ids : List Int
  total : Nat
deriving DecidableEq

/-- What is shown of a document. -/
structure Document where
  id : Int
  postType : String
  title : String
deriving DecidableEq

/-- An origin store with its state. -/
structure Origin (σ : Type) where
  /-- The page of a query, the latest first. -/
  search : OriginQuery → StateM σ (Except OriginFault OriginPage)
  /-- The documents with the given identifiers, in any order. -/
  fetch : List Int → StateM σ (Except OriginFault (List Document))

end Storefront
