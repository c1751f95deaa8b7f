import Storefront.Number.Decimal
import Storefront.SortedMap

/-!
# Listings

A `Listing` is what a search answers: one page of document identifiers in their final order, with
the number of all matches – never just those on the page – and the relevance of each document if
the engine ranked the page. It says where it came from, because a page from the origin store is
less precise than one from the engine.
-/

namespace Storefront

/-- Where a listing came from. -/
inductive Source where
  | engine
  | cache
  /-- The origin store, the engine being out of reach. -/
  | fallback
  /-- Nowhere: the filter leaves no document to ask for. -/
  | shortCircuit
deriving DecidableEq

/-- The source's name in records and measurements. -/
def Source.name : Source → String
  | .engine => "engine"
  | .cache => "cache"
  | .fallback => "fallback"
  | .shortCircuit => "short_circuit"

/-- The source of a name in records. -/
def Source.ofName? : String → Option Source
  | "engine" => some .engine
  | "cache" => some .cache
  | "fallback" => some .fallback
  | "short_circuit" => some .shortCircuit
  | _ => none

/-- How many pages there are: the last one may be short, and without a size there are none. -/
def pageCount (total pageSize : Nat) : Nat :=
  if pageSize = 0 then 0 else (total + pageSize - 1) / pageSize

/-- One page of search results. -/
structure Listing where
  /-- The number of matches, on this page and all others. -/
  total : Nat
  ids : List Int
  /-- The relevance of each document that the engine ranked. -/
  scores : SortedMap Int Binary64
  /-- How long the search took, in nanoseconds. -/
  latency : Nat
  /-- Whether the origin store answered. -/
  fallback : Bool
  source : Source
  page : Nat
  pageSize : Nat
  maxPages : Nat
deriving DecidableEq

namespace Listing

/-- The page with these identifiers, of so many matches. -/
def ofIds (total : Nat) (ids : List Int) (page pageSize : Nat) (source : Source) : Listing where
  total := total
  ids := ids
  scores := ∅
  latency := 0
  fallback := source = .fallback
  source := source
  page := page
  pageSize := pageSize
  maxPages := pageCount total pageSize

/-- The page of a search without matches. -/
def none (page pageSize : Nat) (source : Source) : Listing :=
  ofIds 0 [] page pageSize source

/-- The relevance of a document. -/
def score? (listing : Listing) (id : Int) : Option Binary64 :=
  listing.scores.get? id

/-- Whether the page has no document. -/
def isEmpty (listing : Listing) : Bool :=
  listing.ids.isEmpty

end Listing

end Storefront
