import Mathlib.Tactic.SplitIfs
import Storefront.Proofs.Page.Dialogue
import Storefront.Proofs.Planner.Names
import Storefront.Search.Run

/-!
# The steps of a search, one by one

A search is written as a chain of steps on its session. Here each step is said as what it makes of a
session, so that nobody has to take the chain apart again: the look-up in the thesaurus
(`Session.synonyms_eq`), the look-up in the cache and the write to it (`Shop.cached_of_some`,
`Shop.store_of_some`), the page from the engine as the dialogue that is led with it
(`Shop.execute_eq`), and the page from the origin store (`Shop.fallBack_of_some`).

A search that is neither cut short nor answered from the cache comes to the engine's door
(`Shop.Arrives`). All in all there are five ways that a search can go (`Shop.Route`), and each search
goes one of them (`Shop.exists_route`).
-/

namespace Storefront

open Number

/-- One step after another. -/
theorem bind_apply {S α β : Type} (x : StateM S α) (f : α → StateM S β) (s : S) :
    (x >>= f) s = f (x s).1 (x s).2 := rfl

theorem pure_apply {S α : Type} (a : α) (s : S) : (pure a : StateM S α) s = (a, s) := rfl

theorem get_apply {S : Type} (s : S) : (get : StateM S S) s = (s, s) := rfl

variable {σ : Type}

/-! ### Calls through the breaker -/

section Call

variable {ε α : Type} {breaker : Breaker} {now : Nat} {counts : ε → Bool}
  {operation : StateM σ (Except ε α)} {s : σ}

theorem Breaker.call_of_none (h : breaker.circuit.admit? breaker.policy now = none) :
    Breaker.call now counts operation (breaker, s) =
      (.error .rejected, breaker.account .rejected, s) := by
  simp only [call, h]

theorem Breaker.call_of_some {circuit : Circuit}
    (h : breaker.circuit.admit? breaker.policy now = some circuit) :
    Breaker.call now counts operation (breaker, s) =
      ((operation s).1.mapError .failed,
        { breaker.account (outcomeOf counts (operation s).1) with
          circuit := circuit.settle breaker.policy now
            (outcomeOf counts (operation s).1 = .failure) },
        (operation s).2) := by
  simp only [call, h]
  rfl

end Call

/-! ### The session and its thesaurus -/

namespace Session

/-- The session with one more entry in the journal. -/
def noted (measurement : Measurement) (s : Session σ) : Session σ :=
  { s with journal := s.journal ++ [measurement] }

/-- The present instant of a session. -/
def clock (s : Session σ) : Nat :=
  s.guarded.clock

theorem note_apply (measurement : Measurement) (s : Session σ) :
    note measurement s = ((), s.noted measurement) := rfl

/-- The call through the breaker that a statement is. -/
def called (engine : Engine σ) (statement : String) (s : Session σ) :
    Except (CircuitFault EngineFault) Answer × Breaker × σ :=
  Breaker.call (s.clock + 1) EngineFault.isUnreachable (engine.execute statement)
    (s.guarded.guard.breaker, s.guarded.world)

/-- What a look-up in the thesaurus finds, and what it leaves of the thesaurus and the world. -/
def consulted (source : SynonymSource σ) (s : Session σ) : Thesaurus.Found × Thesaurus × σ :=
  Thesaurus.get (s.clock + 1) source (s.thesaurus, s.guarded.world)

/-- The session after a look-up in the thesaurus, but for the journal. -/
def afterConsulting (source : SynonymSource σ) (s : Session σ) : Session σ :=
  { s with
    thesaurus := (s.consulted source).2.1
    guarded := { s.guarded with clock := s.clock + 1, world := (s.consulted source).2.2 } }

/-- **The look-up of synonyms**: the map that the thesaurus finds, and an entry in the journal if it
had to be loaded. -/
theorem synonyms_eq (source : SynonymSource σ) (s : Session σ) :
    synonyms source s =
      ((s.consulted source).1.map,
        match (s.consulted source).1.load with
        | some loaded => (s.afterConsulting source).noted (.synonymRebuild loaded)
        | none => s.afterConsulting source) := by
  have hsteps : synonyms source s =
      (match (s.consulted source).1.load with
        | some loaded => do
          note (.synonymRebuild loaded)
          return (s.consulted source).1.map
        | none => do
          pure ()
          return (s.consulted source).1.map : StateM (Session σ) SynonymMap)
            (s.afterConsulting source) := rfl
  rw [hsteps]
  cases (s.consulted source).1.load <;> rfl

theorem fst_synonyms (source : SynonymSource σ) (s : Session σ) :
    (synonyms source s).1 = (s.consulted source).1.map := by
  rw [synonyms_eq]

/-! ### Writes to the catalog -/

/-- The session once its thesaurus has heard of a write. -/
def heard (event : WriteEvent) (s : Session σ) : Session σ :=
  if event = .synonymsChanged then { s with thesaurus := s.thesaurus.invalidate } else s

theorem cache_heard (event : WriteEvent) (s : Session σ) : (s.heard event).cache = s.cache := by
  rw [heard]
  split_ifs <;> rfl

/-- **A write to the catalog**: the thesaurus hears of it, and listings are dropped if any are
kept. -/
theorem invalidate_eq (index : String) (event : WriteEvent) (s : Session σ) :
    invalidate index event s =
      match s.cache with
      | none => (0, s.heard event)
      | some cache =>
        ((cache.invalidate (event.pattern index)).1,
          Session.noted (.cacheInvalidated event (cache.invalidate (event.pattern index)).1)
            { s.heard event with cache := some (cache.invalidate (event.pattern index)).2 }) := by
  obtain ⟨guarded, thesaurus, cache, journal⟩ := s
  by_cases hevent : event = .synonymsChanged
  · simp only [invalidate, heard, if_pos hevent, bind_apply]
    cases cache <;> rfl
  · simp only [invalidate, heard, if_neg hevent, bind_apply]
    cases cache <;> rfl

end Session

namespace Shop

variable (shop : Shop σ)

theorem widened_of_none {filter : Filter} (h : filter.text = none) (s : Session σ) :
    shop.widened filter s = (filter, s) := by
  simp only [widened, h, pure_apply]

/-- The filter with its text widened by the words of a map. -/
def widenedBy (map : SynonymMap) (filter : Filter) : Filter :=
  match filter.text with
  | none => filter
  | some text => { filter with wording := some (.widened map shop.startLengths text) }

theorem widened_of_some {filter : Filter} {text : String} (h : filter.text = some text)
    (s : Session σ) :
    shop.widened filter s =
      (shop.widenedBy (s.consulted shop.synonyms).1.map filter,
        (Session.synonyms shop.synonyms s).2) := by
  simp only [widened, h, bind_apply, pure_apply, widenedBy, ← Session.fst_synonyms]
  rfl

/-! ### The cache -/

theorem cached_of_none {s : Session σ} (h : s.cache = none) (filter : Filter) :
    shop.cached filter s = (none, s) := by
  simp only [cached, bind_apply, get_apply, h, pure_apply]

/-- **The look-up in the cache.** -/
theorem cached_of_some {s : Session σ} {cache : BoundedCache Listing} (h : s.cache = some cache)
    (filter : Filter) :
    shop.cached filter s =
      ((cache.get s.clock (shop.key filter)).1.map fun listing => { listing with source := .cache },
        Session.noted (.cacheLookup (cache.get s.clock (shop.key filter)).1.isSome)
          { s with cache := some (cache.get s.clock (shop.key filter)).2 }) := by
  simp only [cached, bind_apply, get_apply, h]
  rfl

theorem store_of_none {s : Session σ} (h : s.cache = none) (filter : Filter) (listing : Listing) :
    shop.store filter listing s = ((), s) := by
  simp only [store, bind_apply, get_apply, h, pure_apply]

/-- The cache with a listing of a filter. -/
def stored (cache : BoundedCache Listing) (filter : Filter) (listing : Listing) (now : Nat) :
    BoundedCache Listing :=
  cache.set now shop.settings.resultTtl (shop.key filter) listing

/-- **The write to the cache.** -/
theorem store_of_some {s : Session σ} {cache : BoundedCache Listing} (h : s.cache = some cache)
    (filter : Filter) (listing : Listing) :
    shop.store filter listing s =
      ((), Session.noted (.cacheState (shop.stored cache filter listing s.clock).size
          (shop.stored cache filter listing s.clock).hitRate)
        { s with cache := some (shop.stored cache filter listing s.clock) }) := by
  simp only [store, bind_apply, get_apply, h]
  rfl

/-! ### Executing and falling back -/

/-- The page that is led with the engine, and the session after it. -/
def led (filter : Filter) (s : Session σ) : Except EngineFault PageRows × Session σ :=
  ((shop.planner.pageDialogue filter).run shop.askOrFail).run s

/-- The listing of the rows of a page. -/
def listingOf (filter : Filter) (rows : PageRows) : Listing :=
  { Listing.ofIds rows.total rows.ids filter.page filter.pageSize .engine with
    scores := rows.scores }

/-- **The page of a filter from the engine** is its dialogue, led with the engine through the
guard. -/
theorem execute_eq (filter : Filter) (s : Session σ) :
    shop.execute filter s =
      match shop.led filter s with
      | (.error fault, after) => (.error fault, after)
      | (.ok rows, after) =>
        (.ok (listingOf filter rows),
          if filter.inStockFirst then after.noted (.stockRoundTrips rows.roundTrips) else after) := by
  have hrun : (shop.planner.fetchPage shop.askOrFail filter).run s = shop.led filter s := by
    rw [Planner.fetchPage_eq_run, led]
  simp only [execute, bind_apply, hrun]
  rcases shop.led filter s with ⟨fault | rows, after⟩
  · rfl
  · cases filter.inStockFirst <;> rfl

/-- The listing of a page of the origin store, empty if the store fails. -/
def originListing (filter : Filter) : Except OriginFault OriginPage → Listing
  | .ok page => .ofIds page.total page.ids filter.page filter.pageSize .fallback
  | .error _ => .none filter.page filter.pageSize .fallback

theorem fallBack_of_none (h : shop.origin = none) (filter : Filter) (reason : FallbackReason)
    (s : Session σ) :
    shop.fallBack filter reason s =
      (.none filter.page filter.pageSize .fallback, s.noted (.fallback reason)) := by
  simp only [fallBack, bind_apply, h]
  rfl

/-- **The page of a filter from the origin store.** -/
theorem fallBack_of_some {origin : Origin σ} (h : shop.origin = some origin) (filter : Filter)
    (reason : FallbackReason) (s : Session σ) :
    shop.fallBack filter reason s =
      (originListing filter (origin.search (.ofFilter filter) s.guarded.world).1,
        { s.noted (.fallback reason) with
          guarded := { s.guarded with
            world := (origin.search (.ofFilter filter) s.guarded.world).2 } }) := by
  have hsearch (t : Session σ) : Session.onWorld (origin.search (.ofFilter filter)) t =
      ((origin.search (.ofFilter filter) t.guarded.world).1,
        { t with guarded := { t.guarded with
          world := (origin.search (.ofFilter filter) t.guarded.world).2 } }) := rfl
  simp only [fallBack, bind_apply, h, hsearch, Session.note_apply, Session.noted]
  cases (origin.search (.ofFilter filter) s.guarded.world).1 <;> rfl

/-! ### Reconciling -/

/-- The identifiers of a filter's page in the order that the pins of its category give them. -/
def overlay (filter : Filter) (ids : List Int) : List Int :=
  match shop.pins, filter.category with
  | some pins, some category => pins.apply category ids
  | _, _ => ids

/-- Pins move documents, and nothing else. -/
theorem pinned_eq (filter : Filter) (listing : Listing) :
    shop.pinned filter listing = { listing with ids := shop.overlay filter listing.ids } := by
  unfold pinned overlay
  cases shop.pins <;> cases filter.category <;> rfl

theorem reconcile_eq (filter : Filter) (listing : Listing) (s : Session σ) :
    shop.reconcile filter listing s =
      if listing.source = .engine then
        (shop.pinned filter listing, (shop.store filter (shop.pinned filter listing) s).2)
      else (shop.pinned filter listing, s) := by
  have hsource : (shop.pinned filter listing).source = listing.source := by
    rw [pinned_eq]
  simp only [reconcile, hsource]
  split_ifs <;> rfl

/-- The page of a filter from the origin store, as it is handed out: pinned documents in front, and
not kept. -/
def degrade (filter : Filter) (reason : FallbackReason) (s : Session σ) : Listing × Session σ :=
  (shop.pinned filter (shop.fallBack filter reason s).1, (shop.fallBack filter reason s).2)

theorem source_fallBack (filter : Filter) (reason : FallbackReason) (s : Session σ) :
    (shop.fallBack filter reason s).1.source = .fallback := by
  cases h : shop.origin with
  | none =>
    rw [shop.fallBack_of_none h]
    rfl
  | some origin =>
    rw [shop.fallBack_of_some h]
    cases (origin.search (.ofFilter filter) s.guarded.world).1 <;> rfl

theorem reconcile_fallBack (filter : Filter) (reason : FallbackReason) (s : Session σ) :
    shop.reconcile filter (shop.fallBack filter reason s).1 (shop.fallBack filter reason s).2 =
      shop.degrade filter reason s := by
  rw [reconcile_eq, if_neg (by simp [source_fallBack]), degrade]

/-- The page of a filter that the engine delivered, as it is handed out: pinned documents in front,
and kept. -/
def deliver (filter : Filter) (rows : PageRows) (s : Session σ) : Listing × Session σ :=
  (shop.pinned filter (listingOf filter rows),
    (shop.store filter (shop.pinned filter (listingOf filter rows))
      (if filter.inStockFirst then s.noted (.stockRoundTrips rows.roundTrips) else s)).2)

theorem source_degrade (filter : Filter) (reason : FallbackReason) (s : Session σ) :
    (shop.degrade filter reason s).1.source = .fallback := by
  rw [degrade, pinned_eq]
  exact shop.source_fallBack filter reason s

theorem source_deliver (filter : Filter) (rows : PageRows) (s : Session σ) :
    (shop.deliver filter rows s).1.source = .engine := by
  rw [deliver, pinned_eq]
  rfl

/-! ### The whole run -/

/-- **The listing of a filter for which none is kept**: from the engine if it is up and delivers the
page, else from the origin store. -/
theorem make_eq (filter : Filter) (s : Session σ) :
    shop.make filter s =
      if (shop.engineIsUp s).1 then
        match shop.led filter (shop.engineIsUp s).2 with
        | (.ok rows, after) => shop.deliver filter rows after
        | (.error fault, after) => shop.degrade filter (.engineFault fault) after
      else shop.degrade filter .engineUnhealthy (shop.engineIsUp s).2 := by
  simp only [make, bind_apply]
  cases (shop.engineIsUp s).1 with
  | false => exact shop.reconcile_fallBack filter _ _
  | true =>
    simp only [if_true, bind_apply, execute_eq]
    rcases shop.led filter (shop.engineIsUp s).2 with ⟨fault | rows, after⟩
    · exact shop.reconcile_fallBack filter _ after
    · exact (shop.reconcile_eq filter (listingOf filter rows) _).trans (if_pos rfl)

/-- What is handed out and left behind when a search ends: the time it took, and two entries in the
journal. -/
def finished (started : Nat) (outcome : Listing × Session σ) : Listing × Session σ :=
  ({ outcome.1 with latency := outcome.2.clock - started },
    (outcome.2.noted (.search outcome.1.source outcome.1.fallback)).noted
      (.matchCount outcome.1.total))

/-- The filter that a search goes by once its words are widened, and the session then. -/
def expanded (filter : Filter) (s : Session σ) : Filter × Session σ :=
  shop.widened (shop.prepared filter) s

/-- A search that leaves no document to ask for. -/
theorem run_of_nothing {filter : Filter} (h : (shop.prepared filter).includeIds = some [])
    (s : Session σ) :
    shop.run filter s = finished s.clock
      (.none (shop.prepared filter).page (shop.prepared filter).pageSize .shortCircuit, s) := by
  unfold run
  simp only [h, if_true]
  rfl

/-- **The listing of a filter that has been widened.** -/
theorem respond_eq (filter : Filter) (s : Session σ) :
    shop.respond filter s =
      match shop.cached filter s with
      | (some listing, after) => (listing, after)
      | (none, after) => shop.make filter after := by
  rw [respond, bind_apply]
  rcases shop.cached filter s with ⟨_ | listing, after⟩ <;> rfl

/-- A search that leaves some: a listing that is kept for the filter, or else one that is made. -/
theorem run_of_something {filter : Filter} (h : (shop.prepared filter).includeIds ≠ some [])
    (s : Session σ) :
    shop.run filter s =
      finished s.clock (shop.respond (shop.expanded filter s).1 (shop.expanded filter s).2) := by
  unfold run
  simp only [h, if_false]
  rfl

/-! ### The ways a search can go -/

/-- **A search comes to the engine's door**: there are documents to ask for, and no listing is kept
for the filter. -/
structure Arrives (filter : Filter) (s after : Session σ) : Prop where
  something : (shop.prepared filter).includeIds ≠ some []
  missing : shop.cached (shop.expanded filter s).1 (shop.expanded filter s).2 = (none, after)

/-- What a search is told of the engine's health, if it comes so far as to ask. -/
def health? (filter : Filter) (s : Session σ) : Option Bool :=
  if (shop.prepared filter).includeIds = some [] then none
  else
    match shop.cached (shop.expanded filter s).1 (shop.expanded filter s).2 with
    | (some _, _) => none
    | (none, after) => some (shop.engineIsUp after).1

/-- **The ways a search can go**, with what it hands out and leaves behind, but for the end that all
searches have. -/
inductive Route (filter : Filter) (s : Session σ) : Listing × Session σ → Prop
  /-- The filter leaves no document to ask for. -/
  | cut (nothing : (shop.prepared filter).includeIds = some []) :
    Route filter s
      (.none (shop.prepared filter).page (shop.prepared filter).pageSize .shortCircuit, s)
  /-- A listing is kept for the filter. -/
  | kept {listing : Listing} {after : Session σ}
    (something : (shop.prepared filter).includeIds ≠ some [])
    (found : shop.cached (shop.expanded filter s).1 (shop.expanded filter s).2 =
      (some listing, after)) :
    Route filter s (listing, after)
  /-- The engine is down. -/
  | down {after : Session σ} (arrives : shop.Arrives filter s after)
    (health : (shop.engineIsUp after).1 = false) :
    Route filter s
      (shop.degrade (shop.expanded filter s).1 .engineUnhealthy (shop.engineIsUp after).2)
  /-- The engine is up, but does not deliver the page. -/
  | failed {after last : Session σ} {fault : EngineFault} (arrives : shop.Arrives filter s after)
    (health : (shop.engineIsUp after).1 = true)
    (page : shop.led (shop.expanded filter s).1 (shop.engineIsUp after).2 = (.error fault, last)) :
    Route filter s (shop.degrade (shop.expanded filter s).1 (.engineFault fault) last)
  /-- The engine delivers the page. -/
  | delivered {after last : Session σ} {rows : PageRows} (arrives : shop.Arrives filter s after)
    (health : (shop.engineIsUp after).1 = true)
    (page : shop.led (shop.expanded filter s).1 (shop.engineIsUp after).2 = (.ok rows, last)) :
    Route filter s (shop.deliver (shop.expanded filter s).1 rows last)

/-- **Every search goes one of these ways.** -/
theorem exists_route (filter : Filter) (s : Session σ) :
    ∃ outcome, shop.Route filter s outcome ∧ shop.run filter s = finished s.clock outcome := by
  by_cases hnothing : (shop.prepared filter).includeIds = some []
  · exact ⟨_, .cut hnothing, shop.run_of_nothing hnothing s⟩
  rw [shop.run_of_something hnothing s, respond_eq]
  rcases hcached : shop.cached (shop.expanded filter s).1 (shop.expanded filter s).2 with
    ⟨_ | listing, after⟩
  · -- the search comes to the engine's door
    have harrives : shop.Arrives filter s after := ⟨hnothing, hcached⟩
    simp only
    rw [make_eq]
    cases hup : (shop.engineIsUp after).1 with
    | false => exact ⟨_, .down harrives hup, rfl⟩
    | true =>
      rw [if_pos rfl]
      rcases hled : shop.led (shop.expanded filter s).1 (shop.engineIsUp after).2 with
        ⟨fault | rows, last⟩
      · exact ⟨_, .failed harrives hup hled, rfl⟩
      · exact ⟨_, .delivered harrives hup hled, rfl⟩
  · exact ⟨_, .kept hnothing hcached, rfl⟩

/-- Widening gives a filter a wording, and changes nothing else of its normal form but whether
everything in stock comes first. -/
theorem exists_wording (filter : Filter) (s : Session σ) :
    ∃ wording, (shop.expanded filter s).1 = { shop.prepared filter with wording := wording } := by
  rw [expanded]
  cases h : (shop.prepared filter).text with
  | none => exact ⟨_, by rw [shop.widened_of_none h]⟩
  | some text =>
    refine ⟨some (.widened (s.consulted shop.synonyms).1.map shop.startLengths text), ?_⟩
    simp only [shop.widened_of_some h, widenedBy, h]

theorem health?_of_nothing {filter : Filter} (h : (shop.prepared filter).includeIds = some [])
    (s : Session σ) : shop.health? filter s = none := by
  rw [health?, if_pos h]

theorem health?_of_kept {filter : Filter} {s after : Session σ} {listing : Listing}
    (h : shop.cached (shop.expanded filter s).1 (shop.expanded filter s).2 =
      (some listing, after)) : shop.health? filter s = none := by
  rw [health?, h]
  split_ifs <;> rfl

theorem Arrives.health? {filter : Filter} {s after : Session σ} (h : shop.Arrives filter s after) :
    shop.health? filter s = some (shop.engineIsUp after).1 := by
  rw [Shop.health?, if_neg h.something, h.missing]

/-! ### A shop in a few lines -/

/-- A shop for products whose engine answers each statement by itself. It has nothing else. -/
def answering (answer : String → Answer) : Shop Unit where
  settings := .standard
  planner := .products
  engine := .ofFunction fun text => .ok (answer text)
  synonyms := Thesaurus.noSource
  origin := none
  pins := none

end Shop

/-- What an engine answers that finds the same, whatever it is asked for. -/
def Answer.found (documents : ResultSet) (total : Int) (text : String) : Answer :=
  if text.toList.take 9 = "SELECT id".toList then .single documents
  else .single ⟨["count(*)"], [[.whole total]]⟩

/-- The session of a shop in which nothing has happened yet. -/
def Session.unused : Session Unit :=
  .start Settings.standard.circuit Settings.standard.healthInterval ()

end Storefront
