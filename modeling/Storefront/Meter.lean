import Storefront.Engine.Circuit
import Storefront.Listing.Basic
import Storefront.Listing.Key

/-!
# Measurements

Whatever happens during searches is noted in a journal, one entry for each occurrence. An exporter
sees it as series: a counter is the sum of its entries, a gauge the last of them, and a histogram
all of them. What a series is called and how its entries are valued is decided here and nowhere
else, so the journal itself can be counted and compared as it is.
-/

namespace Storefront

/-- Why a search was answered by the origin store. -/
inductive FallbackReason where
  /-- The engine was known to be down, and was not asked. -/
  | engineUnhealthy
  /-- The engine did not answer. -/
  | engineFault (fault : EngineFault)
deriving DecidableEq

/-- The reason's label. -/
def FallbackReason.label : FallbackReason → String
  | .engineUnhealthy => "engine_unhealthy"
  | .engineFault fault => (SearchFault.ofEngine fault).reason

/-- An entry of the journal. -/
inductive Measurement where
  /-- A search was answered, with or without the engine's ranking. -/
  | search (source : Source) (degraded : Bool)
  /-- It had so many matches. -/
  | matchCount (total : Nat)
  /-- The origin store was asked instead of the engine. -/
  | fallback (reason : FallbackReason)
  /-- A page with everything in stock first took so many statements. -/
  | stockRoundTrips (count : Nat)
  /-- A call went through a circuit breaker, or was turned away. -/
  | breakerCall (circuit : String) (outcome : CallOutcome)
  /-- The terms of a taxonomy were counted, or could not be. -/
  | facetQuery (taxonomy : String) (answered : Bool)
  /-- The result cache was asked. -/
  | cacheLookup (hit : Bool)
  /-- The result cache took a listing in and stands so. -/
  | cacheState (entries : Nat) (hitRate : Binary64)
  /-- A write dropped so many cached listings. -/
  | cacheInvalidated (event : WriteEvent) (removed : Nat)
  /-- The synonyms were loaded, or could not be. -/
  | synonymRebuild (loaded : Bool)
deriving DecidableEq

/-- How the entries of a series are put together. -/
inductive SeriesKind where
  | counter
  | gauge
  | histogram
deriving DecidableEq

/-- One value of one series. -/
structure Reading where
  kind : SeriesKind
  name : String
  /-- The labels of the series, by name. -/
  labels : List (String × String)
  value : Binary64
deriving DecidableEq

namespace Reading

/-- One more occurrence of something. -/
def tick (name : String) (labels : List (String × String)) : Reading :=
  ⟨.counter, name, labels, .ofNat 1⟩

/-- The series in writing, the labels between braces. -/
def series (reading : Reading) : String :=
  let labels := reading.labels.map fun (label, value) => label ++ "=" ++ value
  reading.name ++ "\x7b" ++ Text.joinWith "," labels ++ "\x7d"

end Reading

/-- What an exporter sees of an entry. -/
def Measurement.readings : Measurement → List Reading
  | .search source degraded =>
    [.tick "catalog_search_requests_total"
      [("source", source.name), ("status", if degraded then "degraded" else "success")]]
  | .matchCount total => [⟨.histogram, "catalog_search_results", [], .ofNat total⟩]
  | .fallback reason => [.tick "catalog_search_fallbacks_total" [("reason", reason.label)]]
  | .stockRoundTrips count =>
    [⟨.histogram, "catalog_search_stock_priority_round_trips", [], .ofNat count⟩]
  | .breakerCall circuit outcome =>
    [.tick "catalog_search_circuit_breaker_calls_total"
      [("circuit", circuit), ("outcome", outcome.name)]]
  | .facetQuery taxonomy answered =>
    [.tick "catalog_search_facet_queries_total"
      [("status", if answered then "success" else "error"), ("taxonomy", taxonomy)]]
  | .cacheLookup hit =>
    [.tick "catalog_search_result_cache_total" [("outcome", if hit then "hit" else "miss")]]
  | .cacheState entries hitRate =>
    [⟨.gauge, "catalog_search_result_cache_entries", [], .ofNat entries⟩,
     ⟨.gauge, "catalog_search_result_cache_hit_rate", [], hitRate⟩]
  | .cacheInvalidated event removed =>
    [⟨.counter, "catalog_search_result_cache_invalidated_total", [("event", event.name)],
      .ofNat removed⟩]
  | .synonymRebuild loaded =>
    [.tick "catalog_search_synonym_rebuilds_total"
      [("status", if loaded then "success" else "error")]]

/-- All measurements so far, the oldest first. -/
abbrev Journal := List Measurement

namespace Journal

/-- The values of a series with one more. -/
def addReading (seen : SortedMap String (List Binary64)) (reading : Reading) :
    SortedMap String (List Binary64) :=
  let values := (seen.get? reading.series).getD []
  seen.insert reading.series <|
    match reading.kind with
    | .counter => [(values.headD .zero).add reading.value]
    | .gauge => [reading.value]
    | .histogram => values ++ [reading.value]

/-- **The series of a journal**: one value for a counter or a gauge, all of a histogram's. -/
def exported (journal : Journal) : SortedMap String (List Binary64) :=
  (journal.flatMap Measurement.readings).foldl addReading ∅

end Journal

end Storefront
