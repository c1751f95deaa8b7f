import Storefront.Facet
import Storefront.Page
import Storefront.Request
import Storefront.Search.Shop

/-!
# The run of a search

A search passes through the phases of `Phase` and ends with a listing, whatever the engine does:

```text
building ──→ expanding ──┬─ listing cached ───────────────────────────→ done
   │                     ├─ engine up ────→ executing ─┬─ page ─→ reconciling ──→ done
   │                     │                             └─ fault ─┐
   │                     └─ engine down ──→ falling back ←───────┘
   │                                             └──────────────→ reconciling ──→ done
   └─ no document left to ask for ────────────────────────────────────→ done
```

* `Shop.prepared` – building: the filter in normal form;
* `Shop.widened` – expanding: its text with synonyms;
* `Shop.execute` – executing: the page from the engine;
* `Shop.fallBack` – falling back: the page from the origin store, or an empty one;
* `Shop.reconcile` – reconciling: pinned documents in front, and the listing kept if the engine
  made it.

`Shop.run` puts them together. Beside listings a shop gives counts by term (`Shop.facets`) and the
documents of a listing (`Shop.hydrate`), and it is told of writes to the catalog
(`Shop.invalidate`).
-/

namespace Storefront

/-- The phases of a search. -/
inductive Phase where
  | building
  | expanding
  | executing
  | fallingBack
  | reconciling
  | done
deriving DecidableEq

namespace Phase

/-- The phase's name in reports. -/
def name : Phase → String
  | .building => "BuildingSpec"
  | .expanding => "Expanding"
  | .executing => "Executing"
  | .fallingBack => "Fallback"
  | .reconciling => "Reconciling"
  | .done => "Done"

/-- All phases, in the order in which a search may pass through them. -/
def all : List Phase :=
  [.building, .expanding, .executing, .fallingBack, .reconciling, .done]

end Phase

namespace Shop

variable {σ : Type}

/-! ### The engine -/

/-- Ask the engine, through its guard. -/
def ask (shop : Shop σ) (statement : String) : StateM (Session σ) Reply := do
  let reply ← Session.onGuarded (Guard.execute shop.engine statement)
  let breaker := (← get).guarded.guard.breaker
  Session.note (.breakerCall breaker.name breaker.last)
  return reply

/-- Ask the engine where a fault ends what is being done. -/
def askOrFail (shop : Shop σ) (statement : String) :
    ExceptT EngineFault (StateM (Session σ)) Answer :=
  ExceptT.mk (shop.ask statement)

/-- Whether the engine is up, as far as its guard knows or finds out. -/
def engineIsUp (shop : Shop σ) : StateM (Session σ) Bool :=
  Session.onGuarded (Guard.healthy shop.engine)

/-! ### Building and expanding -/

/-- The filter in normal form, by the shop's page sizes. -/
def normalized (shop : Shop σ) (filter : Filter) : Filter :=
  filter.normalize shop.settings.defaultPageSize shop.settings.maxPageSize

/-- **The filter that is searched by**: in normal form, and with everything in stock first only
where all of its types have a stock status. -/
def prepared (shop : Shop σ) (filter : Filter) : Filter :=
  let filter := shop.normalized filter
  { filter with
    inStockFirst := filter.inStockFirst && shop.settings.supportsStock filter.postTypes }

/-- The current synonyms. -/
def synonymMap (shop : Shop σ) : StateM (Session σ) SynonymMap :=
  Session.synonyms shop.synonyms

/-- How long a word may be to stand for the words that begin with it. -/
def startLengths (shop : Shop σ) : StartLengths :=
  ⟨shop.settings.wildcardMinLength, shop.settings.wildcardMaxLength⟩

/-- **The filter with the words of its text widened**; without a text it stays as it is. -/
def widened (shop : Shop σ) (filter : Filter) : StateM (Session σ) Filter :=
  match filter.text with
  | none => return filter
  | some text => do
    let map ← shop.synonymMap
    return { filter with wording := some (.widened map shop.startLengths text) }

/-! ### The result cache -/

/-- The key of a filter's listing. -/
def key (shop : Shop σ) (filter : Filter) : String :=
  (shop.planner.plan filter).key shop.settings.index filter.inStockFirst

/-- The listing that is kept for a filter, marked as coming from the cache. -/
def cached (shop : Shop σ) (filter : Filter) : StateM (Session σ) (Option Listing) := do
  let s ← get
  match s.cache with
  | none => return none
  | some cache =>
    let (hit, cache) := cache.get s.guarded.clock (shop.key filter)
    set { s with cache := some cache }
    Session.note (.cacheLookup hit.isSome)
    return hit.map fun listing => { listing with source := .cache }

/-- Keep a listing, if any are kept. -/
def store (shop : Shop σ) (filter : Filter) (listing : Listing) : StateM (Session σ) Unit := do
  let s ← get
  match s.cache with
  | none => return ()
  | some cache =>
    let cache := cache.set s.guarded.clock shop.settings.resultTtl (shop.key filter) listing
    set { s with cache := some cache }
    Session.note (.cacheState cache.size cache.hitRate)

/-! ### Executing and falling back -/

/-- **The page of a filter from the engine.** -/
def execute (shop : Shop σ) (filter : Filter) :
    StateM (Session σ) (Except EngineFault Listing) := do
  match ← (shop.planner.fetchPage shop.askOrFail filter).run with
  | .error fault => return .error fault
  | .ok rows =>
    if filter.inStockFirst then Session.note (.stockRoundTrips rows.roundTrips)
    let listing := Listing.ofIds rows.total rows.ids filter.page filter.pageSize .engine
    return .ok { listing with scores := rows.scores }

/-- **The page of a filter from the origin store**; empty if there is none or it fails. -/
def fallBack (shop : Shop σ) (filter : Filter) (reason : FallbackReason) :
    StateM (Session σ) Listing := do
  Session.note (.fallback reason)
  match shop.origin with
  | none => return .none filter.page filter.pageSize .fallback
  | some origin =>
    match ← Session.onWorld (origin.search (.ofFilter filter)) with
    | .ok page => return .ofIds page.total page.ids filter.page filter.pageSize .fallback
    | .error _ => return .none filter.page filter.pageSize .fallback

/-! ### Reconciling -/

/-- The listing with the pinned documents of its category in front. -/
def pinned (shop : Shop σ) (filter : Filter) (listing : Listing) : Listing :=
  match shop.pins, filter.category with
  | some pins, some category => { listing with ids := pins.apply category listing.ids }
  | _, _ => listing

/-- The listing as it is handed out, kept if the engine made it. -/
def reconcile (shop : Shop σ) (filter : Filter) (listing : Listing) :
    StateM (Session σ) Listing := do
  let listing := shop.pinned filter listing
  if listing.source = .engine then shop.store filter listing
  return listing

/-! ### The whole run -/

/-- The listing of a filter that has been widened and for which none is kept. -/
def make (shop : Shop σ) (filter : Filter) : StateM (Session σ) Listing := do
  if ← shop.engineIsUp then
    match ← shop.execute filter with
    | .ok listing => shop.reconcile filter listing
    | .error fault =>
      let listing ← shop.fallBack filter (.engineFault fault)
      shop.reconcile filter listing
  else
    let listing ← shop.fallBack filter .engineUnhealthy
    shop.reconcile filter listing

/-- The listing of a filter that has been widened: one that is kept, or else one that is made. -/
def respond (shop : Shop σ) (filter : Filter) : StateM (Session σ) Listing := do
  match ← shop.cached filter with
  | some listing => return listing
  | none => shop.make filter

/-- The listing of a filter that leaves some document to ask for. -/
def answer (shop : Shop σ) (filter : Filter) : StateM (Session σ) Listing := do
  let filter ← shop.widened filter
  shop.respond filter

/-- **The listing of a filter.** -/
def run (shop : Shop σ) (filter : Filter) : StateM (Session σ) Listing := do
  let started ← Session.now
  let filter := shop.prepared filter
  let listing ←
    if filter.includeIds = some [] then
      pure (Listing.none filter.page filter.pageSize .shortCircuit)
    else shop.answer filter
  let listing := { listing with latency := (← Session.now) - started }
  Session.note (.search listing.source listing.fallback)
  Session.note (.matchCount listing.total)
  return listing

/-- **The listing of a request**, unless the request describes no search. -/
def search (shop : Shop σ) (request : Request) :
    StateM (Session σ) (Except SearchFault Listing) :=
  match request.toFilter shop.settings with
  | .error fault => return .error fault
  | .ok filter => do
    let listing ← shop.run filter
    return .ok listing

/-! ### Counts, documents and writes -/

/-- The counts of several taxonomies for a filter that has been widened, from an engine that is
up. -/
def counts (shop : Shop σ) (filter : Filter) (taxonomies : List String) :
    StateM (Session σ) (SortedMap String (SortedMap Int Nat)) := do
  let counted ← shop.planner.facetCountsFor shop.ask shop.settings.facetLimit filter taxonomies
  for (taxonomy, facet) in counted do
    match facet.answered with
    | some answered => Session.note (.facetQuery taxonomy answered)
    | none => pure ()
  return countsByTaxonomy counted

/-- **The counts of several taxonomies**, each without its own filter. If the engine is down,
nothing is counted. -/
def facets (shop : Shop σ) (filter : Filter) (taxonomies : List String) :
    StateM (Session σ) (SortedMap String (SortedMap Int Nat)) := do
  let filter := shop.normalized filter
  if ← shop.engineIsUp then
    let filter ← shop.widened filter
    shop.counts filter taxonomies
  else return countsByTaxonomy (taxonomies.map fun taxonomy => (taxonomy, ⟨∅, none⟩))

/-- **The documents of a listing**, in its order. -/
def hydrate (shop : Shop σ) (ids : List Int) :
    StateM (Session σ) (Except SearchFault (List Document)) := do
  match shop.origin with
  | none => return .error (.origin .notConfigured)
  | some origin =>
    match ← Session.onWorld (origin.fetch ids) with
    | .ok documents => return .ok (orderByIds Document.id documents ids)
    | .error fault => return .error (.origin fault)

/-- **A write to the catalog.** The answer is the number of listings dropped. -/
def invalidate (shop : Shop σ) (event : WriteEvent) : StateM (Session σ) Nat :=
  Session.invalidate shop.settings.index event

end Shop

end Storefront
