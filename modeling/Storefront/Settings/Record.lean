import Storefront.Json.Basic
import Storefront.Settings.Basic

/-!
# Settings as a JSON record

An operator's settings are an object in which every member is optional, or a list of the first of
them in the order of `Settings.fieldNames`: what is missing has its default. A member of the wrong
kind or out of range spoils the whole record, and so does `null`, except for the address of the
origin store, which may be absent. Members of other names are passed over.
-/

namespace Storefront

open Number

/-- The weight of a field, as an object or as a list of name and weight. -/
def FieldWeight.ofJson? (json : Json) : Option FieldWeight := do
  let field ← json.record? ["field", "weight"]
  let name ← (← field "field").text?
  let weight ← (← field "weight").upTo? maxPage
  pure ⟨name, weight⟩

namespace Settings

/-- The names of the members, in the order of a record that is a list. -/
def fieldNames : List String :=
  ["engine_url", "origin_url", "index", "table_prefix", "connect_timeout_ms", "query_timeout_ms",
   "health_timeout_ms", "health_check_interval_ms", "engine_max_connections", "max_matches",
   "default_page_size", "max_page_size", "field_weights", "ranker", "wildcard_min_len",
   "wildcard_max_len", "synonym_ttl_secs", "facet_limit", "result_cache_ttl_secs",
   "result_cache_max_entries", "prioritize_in_stock", "stock_post_types",
   "circuit_failure_threshold", "circuit_success_threshold", "circuit_recovery_secs"]

/-- The value of a member, or the default if there is none. -/
def memberOr? {α : Type} (member : Option Json) (value? : Json → Option α) (default : α) :
    Option α :=
  match member with
  | none => some default
  | some value => value? value

/-- **The settings of a record.** -/
def ofJson? (json : Json) : Option Settings := do
  let member ← json.leadingFields? fieldNames
  let d := standard
  let count := Json.upTo? maxCount
  let small := Json.upTo? maxPage
  let engineUrl ← memberOr? (member "engine_url") Json.text? d.engineUrl
  let originUrl ← memberOr? (member "origin_url") (Json.nullable? Json.text?) d.originUrl
  let index ← memberOr? (member "index") Json.text? d.index
  let tablePrefix ← memberOr? (member "table_prefix") Json.text? d.tablePrefix
  let connectTimeoutMs ← memberOr? (member "connect_timeout_ms") count d.connectTimeoutMs
  let queryTimeoutMs ← memberOr? (member "query_timeout_ms") count d.queryTimeoutMs
  let healthTimeoutMs ← memberOr? (member "health_timeout_ms") count d.healthTimeoutMs
  let healthIntervalMs ← memberOr? (member "health_check_interval_ms") count d.healthIntervalMs
  let engineConnections ← memberOr? (member "engine_max_connections") small d.engineConnections
  let maxMatches ← memberOr? (member "max_matches") count d.maxMatches
  let defaultPageSize ← memberOr? (member "default_page_size") small d.defaultPageSize
  let maxPageSize ← memberOr? (member "max_page_size") small d.maxPageSize
  let fieldWeights ←
    memberOr? (member "field_weights") (Json.list? FieldWeight.ofJson?) d.fieldWeights
  let ranker ← memberOr? (member "ranker") Json.text? d.ranker
  let wildcardMinLength ← memberOr? (member "wildcard_min_len") count d.wildcardMinLength
  let wildcardMaxLength ← memberOr? (member "wildcard_max_len") count d.wildcardMaxLength
  let synonymTtlSeconds ← memberOr? (member "synonym_ttl_secs") count d.synonymTtlSeconds
  let facetLimit ← memberOr? (member "facet_limit") count d.facetLimit
  let resultTtlSeconds ← memberOr? (member "result_cache_ttl_secs") count d.resultTtlSeconds
  let resultCapacity ← memberOr? (member "result_cache_max_entries") count d.resultCapacity
  let inStockFirst ← memberOr? (member "prioritize_in_stock") Json.bool? d.inStockFirst
  let stockTypes ← memberOr? (member "stock_post_types") (Json.list? Json.text?) d.stockTypes
  let failureThreshold ← memberOr? (member "circuit_failure_threshold") small d.failureThreshold
  let successThreshold ← memberOr? (member "circuit_success_threshold") small d.successThreshold
  let recoverySeconds ← memberOr? (member "circuit_recovery_secs") count d.recoverySeconds
  pure { engineUrl, originUrl, index, tablePrefix, connectTimeoutMs, queryTimeoutMs,
         healthTimeoutMs, healthIntervalMs, engineConnections, maxMatches, defaultPageSize,
         maxPageSize, fieldWeights, ranker, wildcardMinLength, wildcardMaxLength,
         synonymTtlSeconds, facetLimit, resultTtlSeconds, resultCapacity, inStockFirst,
         stockTypes, failureThreshold, successThreshold, recoverySeconds }

end Settings

end Storefront
