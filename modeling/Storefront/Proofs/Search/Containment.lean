import Storefront.Proofs.Engine.Serving
import Storefront.Proofs.Search.Recorded
import Storefront.Proofs.Search.Upkeep

/-!
# Failures are contained

An engine can fail in many ways and at any moment: it is down, it cannot be reached, it refuses a
statement, it answers what cannot be read, or its guard turns the statement away. None of this gets
into a listing. The *conduct* of a search (`Conduct`) is all that is on record of it, and it is
contained (`Conduct.Contained`):

* an engine that is down is asked nothing;
* an engine that is up is asked three statements at most, and none after the first that fails;
* what comes from the engine rests on statements of which none has failed;
* if anything failed, the listing is the origin store's, and says so;
* what comes from the cache was delivered by the engine in an earlier search.

This holds of every search from every session with a history (`Shop.History.exists_contained`), and
nothing is assumed of the engine: it may answer one thing now and another thing later. Nor is
anything assumed of the circuit in front of it.
-/

namespace Storefront

variable {σ : Type}

/-! ### Orderly conversations -/

/-- **An orderly conversation** with the engine: the exchanges and the number of statements that were
turned away come to three at most, and nothing is asked after the first failure. -/
structure Orderly (exchanges : List Exchange) (turnedAway : Nat) : Prop where
  few : exchanges.length + turnedAway ≤ 3
  stops : ∀ exchange ∈ exchanges.dropLast, exchange.Succeeded
  stopsAtGuard : 0 < turnedAway → turnedAway = 1 ∧ ∀ exchange ∈ exchanges, exchange.Succeeded

theorem orderly_nothing : Orderly [] 0 :=
  ⟨Nat.zero_le 3, by simp, fun h => absurd h (Nat.lt_irrefl 0)⟩

/-- **The page of a filter is led in order**, and it is delivered exactly if nothing fails. -/
theorem Shop.led_orderly (shop : Shop σ) (filter : Filter) (s : Session (Recorded σ)) :
    ∃ exchanges turnedAway,
      Session.Spoke s (shop.recorded.led filter s).2 exchanges turnedAway ∧
        (∀ exchange ∈ exchanges, shop.planner.Fetches filter exchange.statement) ∧
        Orderly exchanges turnedAway ∧
        ((shop.recorded.led filter s).1.isOk = true ↔
          turnedAway = 0 ∧ ∀ exchange ∈ exchanges, exchange.Succeeded) := by
  obtain ⟨exchanges, reached, hcourse, hheard⟩ := shop.led_recorded filter s
  have hcareful := shop.planner.pageDialogue_careful filter
  have hfetches := hcourse.forall_asked (shop.planner.pageDialogue_asksOnly filter)
  have hlength := hcourse.length_le hcareful
  have hstops := hcourse.succeeded_of_mem_dropLast hcareful
  have hok := hcourse.isOk_iff hcareful
  cases hheard with
  | all hspoke hwhole =>
    subst hwhole
    exact ⟨exchanges, 0, hspoke, hfetches, ⟨hlength, hstops, fun h => absurd h (Nat.lt_irrefl 0)⟩,
      hok.trans (and_iff_right rfl).symm⟩
  | turnedAway hspoke statement hwhole =>
    -- what reached the engine is everything but the statement that was turned away
    rw [hwhole, List.length_append, List.length_singleton] at hlength
    rw [hwhole, List.dropLast_concat] at hstops
    rw [hwhole] at hok hfetches
    refine ⟨reached, 1, hspoke,
      fun exchange hmem => hfetches exchange (List.mem_append_left _ hmem),
      ⟨hlength, fun exchange hmem => hstops exchange (List.dropLast_subset _ hmem),
        fun _ => ⟨rfl, hstops⟩⟩, ?_⟩
    refine iff_of_false (fun hdelivered => ?_) fun hall => Nat.one_ne_zero hall.1
    exact Exchange.not_succeeded_error
      (hok.1 hdelivered _ (List.mem_append_right _ (List.mem_singleton_self _)))

/-! ### The conduct of a search -/

/-- **What a search did**, as far as it is on record. -/
structure Conduct where
  /-- The filter that it went by, its words widened. -/
  filter : Filter
  /-- What it was told of the engine's health, if it came so far as to ask. -/
  health : Option Bool
  /-- The statements that reached the engine, each with what came back. -/
  exchanges : List Exchange
  /-- How many statements the guard turned away. -/
  turnedAway : Nat
  /-- The queries that reached the origin store, each with what came back. -/
  queries : List (OriginQuery × Except OriginFault OriginPage)
  listing : Listing

namespace Conduct

/-- **The conduct of a search from a session.** The texts on record leave no doubt about the
statements, because the planner has no two of one text (`Planner.Fetches.render_inj`). -/
structure IsOf (shop : Shop σ) (wanted : Filter) (s : Session (Recorded σ)) (conduct : Conduct) :
    Prop where
  filter : conduct.filter = (shop.recorded.expanded wanted s).1
  health : conduct.health = shop.recorded.health? wanted s
  fetches : ∀ exchange ∈ conduct.exchanges,
    shop.planner.Fetches conduct.filter exchange.statement
  exchanges : (shop.recorded.run wanted s).2.exchanges =
    s.exchanges ++ conduct.exchanges.map Exchange.onRecord
  rejections : (shop.recorded.run wanted s).2.rejections = s.rejections + conduct.turnedAway
  queries : (shop.recorded.run wanted s).2.lookups = s.lookups ++ conduct.queries
  listing : conduct.listing = (shop.recorded.run wanted s).1

/-- Something failed: the engine was down, or it failed a statement, or its guard turned one away. -/
def Failed (conduct : Conduct) : Prop :=
  conduct.health = some false ∨ 0 < conduct.turnedAway ∨
    ∃ exchange ∈ conduct.exchanges, ¬exchange.Succeeded

theorem not_failed_iff {conduct : Conduct} :
    ¬conduct.Failed ↔ conduct.health ≠ some false ∧ conduct.turnedAway = 0 ∧
      ∀ exchange ∈ conduct.exchanges, exchange.Succeeded := by
  simp only [Failed, not_or, Nat.not_lt, Nat.le_zero, not_exists, not_and, not_not, ne_eq]

/-- **The conduct of a search that contains all failures**, the searches in `past` before it. -/
structure Contained (shop : Shop σ) (wanted : Filter) (past : List Shop.Served)
    (conduct : Conduct) : Prop where
  /-- An engine that is not up is asked nothing. -/
  unasked : conduct.health ≠ some true → conduct.exchanges = [] ∧ conduct.turnedAway = 0
  /-- Three statements at most, and none after the first that fails. -/
  orderly : Orderly conduct.exchanges conduct.turnedAway
  /-- Nothing of what comes from the engine rests on a failure. -/
  engine : conduct.listing.source = .engine → conduct.health = some true ∧ ¬conduct.Failed
  /-- After a failure the listing is the origin store's: its total, and its identifiers but for the
  pins. -/
  failed : conduct.Failed →
    conduct.listing.source = .fallback ∧ conduct.listing.fallback = true ∧
      conduct.listing.scores = ∅ ∧
      ∃ page, shop.OriginHas (shop.normalized wanted) conduct.queries page ∧
        conduct.listing.total = page.total ∧
        conduct.listing.ids = shop.overlay (shop.normalized wanted) page.ids
  /-- Without a failure the origin store is not asked. -/
  unfailed : ¬conduct.Failed → conduct.queries = [] ∧ conduct.listing.fallback = false
  /-- What comes from the cache the engine delivered in an earlier search. -/
  cached : conduct.listing.source = .cache → ∃ earlier ∈ past,
    earlier.listing.source = .engine ∧ shop.key earlier.filter = shop.key conduct.filter ∧
      conduct.listing =
        { earlier.listing with source := .cache, latency := conduct.listing.latency }

end Conduct

/-! ### All failures are contained -/

namespace Shop

variable (shop : Shop σ)

/-- Nobody is asked anything until the cache has been looked up. -/
theorem unheard_lookup (wanted : Filter) (s : Session (Recorded σ)) :
    Session.Unheard s (shop.recorded.cached (shop.recorded.expanded wanted s).1
      (shop.recorded.expanded wanted s).2).2 :=
  (shop.unheard_widened (shop.prepared wanted) s).trans (shop.unheard_cached _ _)

/-- Nobody is asked anything on the way to the engine's door. -/
theorem unheard_arrives {wanted : Filter} {s after : Session (Recorded σ)}
    (h : shop.recorded.Arrives wanted s after) :
    Session.Unheard s (shop.recorded.engineIsUp after).2 := by
  have hlookup := shop.unheard_lookup wanted s
  rw [h.missing] at hlookup
  exact hlookup.trans (shop.unheard_engineIsUp after)

/-- What the origin store is asked is what remains of the filter in normal form. -/
theorem OriginHas.of_expanded {wanted : Filter} {s : Session (Recorded σ)}
    {queries : List (OriginQuery × Except OriginFault OriginPage)} {page : OriginPage}
    (h : shop.OriginHas (shop.recorded.expanded wanted s).1 queries page) :
    shop.OriginHas (shop.normalized wanted) queries page := by
  obtain ⟨wording, hwording⟩ := shop.recorded.exists_wording wanted s
  have hquery : OriginQuery.ofFilter (shop.recorded.expanded wanted s).1 =
      .ofFilter (shop.normalized wanted) := by
    rw [hwording]
    rfl
  cases h with
  | absent hnone => exact .absent hnone
  | failed hsome fault =>
    rw [hquery]
    exact .failed hsome fault
  | page hsome =>
    rw [hquery]
    exact .page hsome page

theorem overlay_expanded (wanted : Filter) (s : Session (Recorded σ)) (ids : List Int) :
    shop.recorded.overlay (shop.recorded.expanded wanted s).1 ids =
      shop.overlay (shop.normalized wanted) ids := by
  obtain ⟨wording, hwording⟩ := shop.recorded.exists_wording wanted s
  rw [hwording]
  rfl

/-- **After a failure** a search hands out what the origin store has. -/
theorem exists_contained_of_failed {wanted : Filter} {s t : Session (Recorded σ)}
    {reason : FallbackReason} {past : List Served} {up : Bool} {exchanges : List Exchange}
    {turnedAway : Nat}
    (hrun : shop.recorded.run wanted s =
      finished s.clock (shop.recorded.degrade (shop.recorded.expanded wanted s).1 reason t))
    (hhealth : shop.recorded.health? wanted s = some up)
    (hspoke : Session.Spoke s t exchanges turnedAway)
    (hfetches : ∀ exchange ∈ exchanges,
      shop.planner.Fetches (shop.recorded.expanded wanted s).1 exchange.statement)
    (horderly : Orderly exchanges turnedAway)
    (hunasked : up = false → exchanges = [] ∧ turnedAway = 0)
    (hfailed : up = true → ¬(turnedAway = 0 ∧ ∀ exchange ∈ exchanges, exchange.Succeeded)) :
    ∃ conduct : Conduct, conduct.IsOf shop wanted s ∧ conduct.Contained shop wanted past := by
  obtain ⟨queries, page, hhas, hlisting, hlookups, hexchanges, hrejections⟩ :=
    shop.fallBack_recorded (shop.recorded.expanded wanted s).1 reason t
  refine ⟨⟨_, some up, exchanges, turnedAway, queries, (shop.recorded.run wanted s).1⟩,
    ⟨rfl, hhealth.symm, hfetches, ?_, ?_, ?_, rfl⟩, ?_⟩
  · rw [hrun]
    exact hexchanges.trans hspoke.exchanges
  · rw [hrun]
    exact hrejections.trans hspoke.rejections
  · rw [hrun]
    exact hlookups.trans (congrArg (· ++ queries) hspoke.lookups)
  · -- whatever failed, the listing is the origin store's
    have hhandedOut : (shop.recorded.run wanted s).1 =
        { Listing.ofIds page.total (shop.overlay (shop.normalized wanted) page.ids)
            (shop.recorded.expanded wanted s).1.page (shop.recorded.expanded wanted s).1.pageSize
            .fallback with latency := (shop.recorded.run wanted s).1.latency } := by
      rw [hrun, finished, degrade, pinned_eq, hlisting, ← shop.overlay_expanded wanted s]
      rfl
    have hsource : (shop.recorded.run wanted s).1.source = .fallback := by rw [hhandedOut]; rfl
    have hwas : Conduct.Failed ⟨(shop.recorded.expanded wanted s).1, some up, exchanges, turnedAway,
        queries, (shop.recorded.run wanted s).1⟩ := by
      by_contra hnot
      obtain ⟨hup, hnone, hall⟩ := Conduct.not_failed_iff.1 hnot
      cases up with
      | false => exact hup rfl
      | true => exact hfailed rfl ⟨hnone, hall⟩
    constructor
    case unasked =>
      intro hdown
      cases up with
      | false => exact hunasked rfl
      | true => exact absurd rfl hdown
    case orderly => exact horderly
    case engine =>
      intro hengine
      exact absurd (hsource.symm.trans hengine) (by decide)
    case failed =>
      intro _
      refine ⟨hsource, ?_, ?_, page, hhas.of_expanded, ?_, ?_⟩ <;> rw [hhandedOut] <;> rfl
    case unfailed =>
      intro hnot
      exact absurd hwas hnot
    case cached =>
      intro hcache
      exact absurd (hsource.symm.trans hcache) (by decide)

/-- Without a failure nothing of a search is left on record but what it asked the engine. -/
theorem exists_contained_of_not_failed {wanted : Filter} {s : Session (Recorded σ)}
    {past : List Served} (h : shop.recorded.History past s) {exchanges : List Exchange}
    (hhealth : shop.recorded.health? wanted s ≠ some false)
    (hdoor : shop.recorded.health? wanted s ≠ some true → exchanges = [])
    (hspoke : Session.Spoke s (shop.recorded.run wanted s).2 exchanges 0)
    (hfetches : ∀ exchange ∈ exchanges,
      shop.planner.Fetches (shop.recorded.expanded wanted s).1 exchange.statement)
    (horderly : Orderly exchanges 0) (hall : ∀ exchange ∈ exchanges, exchange.Succeeded)
    (hengine : (shop.recorded.run wanted s).1.source = .engine →
      shop.recorded.health? wanted s = some true)
    (hfallback : (shop.recorded.run wanted s).1.fallback = false) :
    ∃ conduct : Conduct, conduct.IsOf shop wanted s ∧ conduct.Contained shop wanted past := by
  refine ⟨⟨_, _, exchanges, 0, [], _⟩, ⟨rfl, rfl, hfetches, hspoke.exchanges, hspoke.rejections,
    hspoke.lookups.trans (List.append_nil _).symm, rfl⟩, ?_⟩
  have hnot : ¬Conduct.Failed ⟨(shop.recorded.expanded wanted s).1,
      shop.recorded.health? wanted s, exchanges, 0, [], (shop.recorded.run wanted s).1⟩ :=
    Conduct.not_failed_iff.2 ⟨hhealth, rfl, hall⟩
  constructor
  case unasked => exact fun hdown => ⟨hdoor hdown, rfl⟩
  case orderly => exact horderly
  case engine => exact fun hsource => ⟨hengine hsource, hnot⟩
  case failed => exact fun hfailed => absurd hfailed hnot
  case unfailed => exact fun _ => ⟨rfl, hfallback⟩
  case cached =>
    intro hcache
    obtain ⟨earlier, hmem, hdelivered, hkey, hearlier⟩ := h.of_cache hcache
    exact ⟨earlier, hmem, hdelivered.source, hkey, hearlier⟩

/-- **Without a question** for the engine there is nothing to contain. -/
theorem exists_contained_of_unasked {wanted : Filter} {s : Session (Recorded σ)}
    {past : List Served} (h : shop.recorded.History past s)
    (hhealth : shop.recorded.health? wanted s = none)
    (hunheard : Session.Unheard s (shop.recorded.run wanted s).2)
    (hsource : (shop.recorded.run wanted s).1.source ≠ .engine)
    (hfallback : (shop.recorded.run wanted s).1.fallback = false) :
    ∃ conduct : Conduct, conduct.IsOf shop wanted s ∧ conduct.Contained shop wanted past :=
  shop.exists_contained_of_not_failed h (by simp [hhealth]) (fun _ => rfl) hunheard.spoke (by simp)
    orderly_nothing (by simp) (fun hengine => absurd hengine hsource) hfallback

/-- **Failures are contained** in every search from a session with a history. Nothing is assumed of
the circuit, not even that it trusts an engine that never failed (`Circuit.trusts_recloser`): it may
be in any state, and turn away what it will. -/
theorem History.exists_contained {shop : Shop σ} {past : List Served} {s : Session (Recorded σ)}
    (h : shop.recorded.History past s) (wanted : Filter) :
    ∃ conduct : Conduct, conduct.IsOf shop wanted s ∧ conduct.Contained shop wanted past := by
  obtain ⟨outcome, hroute, hrun⟩ := shop.recorded.exists_route wanted s
  -- whatever way the search goes, its end adds no more than a time and two entries in the journal
  cases hroute with
  | cut hnothing =>
    refine shop.exists_contained_of_unasked h (shop.recorded.health?_of_nothing hnothing s)
      ?_ ?_ ?_ <;> rw [hrun]
    · exact (Session.Unheard.rfl s).finished _
    · rintro ⟨⟩
    · rfl
  | @kept listing after hsomething hfound =>
    obtain ⟨kept, -, hmarked⟩ := shop.recorded.kept?_of_cached (congrArg Prod.fst hfound)
    have hcache : (shop.recorded.run wanted s).1.source = .cache := by
      rw [hrun, hmarked]
      rfl
    obtain ⟨earlier, -, hdelivered, -, hearlier⟩ := h.of_cache hcache
    refine shop.exists_contained_of_unasked h (shop.recorded.health?_of_kept hfound) ?_ ?_ ?_
    · have hlookup := shop.unheard_lookup wanted s
      rw [hfound] at hlookup
      rw [hrun]
      exact hlookup.finished _
    · rw [hcache]
      rintro ⟨⟩
    · rw [hearlier]
      exact hdelivered.fallback
  | @down after harrives hup =>
    refine shop.exists_contained_of_failed hrun (harrives.health?.trans (congrArg some hup))
      (shop.unheard_arrives harrives).spoke (by simp) orderly_nothing (fun _ => ⟨rfl, rfl⟩)
      (by rintro ⟨⟩)
  | @failed after last fault harrives hup hpage =>
    obtain ⟨exchanges, turnedAway, hspoke, hfetches, horderly, hok⟩ :=
      shop.led_orderly (shop.recorded.expanded wanted s).1 (shop.recorded.engineIsUp after).2
    rw [hpage] at hspoke hok
    exact shop.exists_contained_of_failed hrun (harrives.health?.trans (congrArg some hup))
      ((shop.unheard_arrives harrives).trans_spoke hspoke) hfetches horderly (by rintro ⟨⟩)
      fun _ hall => Bool.false_ne_true (hok.2 hall)
  | @delivered after last rows harrives hup hpage =>
    obtain ⟨exchanges, turnedAway, hspoke, hfetches, horderly, hok⟩ :=
      shop.led_orderly (shop.recorded.expanded wanted s).1 (shop.recorded.engineIsUp after).2
    rw [hpage] at hspoke hok
    obtain ⟨rfl, hall⟩ := hok.1 rfl
    have hhealth := harrives.health?.trans (congrArg some hup)
    refine shop.exists_contained_of_not_failed h (by simp [hhealth])
      (fun hdown => absurd hhealth hdown) ?_ hfetches horderly hall (fun _ => hhealth) ?_ <;>
      rw [hrun]
    · have hdeliver := shop.unheard_deliver (shop.recorded.expanded wanted s).1 rows last
      exact ((shop.unheard_arrives harrives).trans_spoke hspoke).trans_unheard (hdeliver.finished _)
    · rw [finished, deliver, pinned_eq]
      rfl

/-- A shop whose engine is well, but refuses every statement. -/
def refused : Shop Unit where
  settings := .standard
  planner := .products
  engine := .ofFunction fun _ => .error (.refused "no such index")
  synonyms := Thesaurus.noSource
  origin := none
  pins := none

/-- The session of the shop on record, with a cache for a hundred listings. -/
def refusedSession : Session (Recorded Unit) :=
  (Session.start Settings.standard.circuit Settings.standard.healthInterval ⟨(), [], []⟩).withCache 100

/-- A second search after one that was refused: it is refused again, and contains that failure. -/
theorem exists_contained_of_refused :
    ∃ conduct : Conduct,
      conduct.IsOf refused .products (refused.recorded.run .products refusedSession).2 ∧
        conduct.Contained refused .products
          [⟨(refused.recorded.expanded .products refusedSession).1,
            (refused.recorded.run .products refusedSession).1⟩] ∧
        conduct.listing.source = .fallback := by
  have hhistory : refused.recorded.History [] refusedSession := .start fun _ => rfl
  obtain ⟨conduct, his, hcontained⟩ :=
    (hhistory.search .products).exists_contained .products
  refine ⟨conduct, his, hcontained, ?_⟩
  rw [his.listing]
  decide +kernel

end Shop

end Storefront
