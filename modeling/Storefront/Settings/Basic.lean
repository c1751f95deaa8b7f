import Storefront.Span

/-!
# Settings

What an operator may set. Every setting has a default, so the empty record is a complete
configuration of a product search against an engine on the same machine.
-/

namespace Storefront

/-- How much a match in a text field counts. -/
structure FieldWeight where
  field : String
  weight : Nat
deriving DecidableEq

/-- How a circuit breaker judges the calls it lets through. -/
structure CircuitPolicy where
  /-- How many outcomes are looked at while calls pass. -/
  failureThreshold : Nat
  /-- How many outcomes are looked at while calls are on trial. -/
  successThreshold : Nat
  /-- How long calls are turned away before the next trial. -/
  recovery : Nat
deriving DecidableEq

/-- The policy of a breaker that is given none. -/
def CircuitPolicy.standard : CircuitPolicy :=
  ⟨5, 2, Span.seconds 30⟩

/-- The settings of a catalog search; spans of time are in the unit of their name. -/
structure Settings where
  engineUrl : String
  originUrl : Option String
  index : String
  tablePrefix : String
  connectTimeoutMs : Nat
  queryTimeoutMs : Nat
  healthTimeoutMs : Nat
  healthIntervalMs : Nat
  engineConnections : Nat
  /-- How many matches the engine ranks at least. -/
  maxMatches : Nat
  defaultPageSize : Nat
  maxPageSize : Nat
  fieldWeights : List FieldWeight
  /-- The name of the engine's ranking formula. -/
  ranker : String
  wildcardMinLength : Nat
  wildcardMaxLength : Nat
  synonymTtlSeconds : Nat
  facetLimit : Nat
  resultTtlSeconds : Nat
  resultCapacity : Nat
  /-- Whether requests that say nothing on it get everything in stock first. -/
  inStockFirst : Bool
  /-- The types of documents that have a stock status. -/
  stockTypes : List String
  failureThreshold : Nat
  successThreshold : Nat
  recoverySeconds : Nat
deriving DecidableEq

namespace Settings

/-- The settings of an operator who sets nothing. -/
def standard : Settings where
  engineUrl := "mysql://127.0.0.1:9306"
  originUrl := none
  index := "products"
  tablePrefix := "wp_"
  connectTimeoutMs := 1000
  queryTimeoutMs := 1500
  healthTimeoutMs := 250
  healthIntervalMs := 1000
  engineConnections := 16
  maxMatches := 10000
  defaultPageSize := 12
  maxPageSize := 100
  fieldWeights :=
    [⟨"title", 10⟩, ⟨"sku", 8⟩, ⟨"categories", 3⟩, ⟨"tags", 2⟩, ⟨"content", 1⟩]
  ranker := "proximity_bm25"
  wildcardMinLength := 3
  wildcardMaxLength := 4
  synonymTtlSeconds := 3600
  facetLimit := 1000
  resultTtlSeconds := 300
  resultCapacity := 1000
  inStockFirst := false
  stockTypes := ["product", "product_variation"]
  failureThreshold := 5
  successThreshold := 2
  recoverySeconds := 30

instance : Inhabited Settings := ⟨standard⟩

/-- How the engine's circuit breaker judges calls. -/
def circuit (settings : Settings) : CircuitPolicy :=
  ⟨settings.failureThreshold, settings.successThreshold, Span.seconds settings.recoverySeconds⟩

/-- How long a health check is good for. -/
def healthInterval (settings : Settings) : Nat :=
  Span.millis settings.healthIntervalMs

/-- How long a map of synonyms is good for. -/
def synonymTtl (settings : Settings) : Nat :=
  Span.seconds settings.synonymTtlSeconds

/-- How long a cached listing is good for. -/
def resultTtl (settings : Settings) : Nat :=
  Span.seconds settings.resultTtlSeconds

/-- Whether every one of the types has a stock status, and there is at least one. -/
def supportsStock (settings : Settings) (postTypes : List String) : Bool :=
  !postTypes.isEmpty && postTypes.all fun postType => settings.stockTypes.contains postType

end Settings

end Storefront
