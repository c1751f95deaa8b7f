import Storefront.Proofs.Meter.Totals
import Storefront.Proofs.Search.Wiring

/-!
# The counters and the listings handed out

Whoever watches a shop from outside sees its counters, whoever searches sees its listings, and the
two are to tell the same story. Counters are moved in many places: at the look-up in the cache, at
the turn to the origin store, at the end of a search. But of all that is entered in the journal only
three kinds of entries are *on account* of a search (`Measurement.isOnAccount`), and which of them a
search enters its listing tells (`Shop.exists_account_run`):

| the listing is from | look-up | fallback | end |
|---|---|---|---|
| nowhere | | | ✓ |
| the cache | a hit | | ✓ |
| the engine | a miss | | ✓ |
| the origin store | a miss | ✓ | ✓ |

There are look-ups only where listings are kept. Nothing else that is done with a shop is on account:
neither counts nor writes to the catalog are.

So a counter that a search moves by one just if its listing is of some kind *tallies* that kind
(`Tallies`), and comes to the number of such listings after any run (`Tallies.performAll`). That all
counters of searches do so, however a desk is fitted and whatever is done at it, is
`WiredDesk.journal_reconciles`.
-/

namespace Storefront

variable {σ : Type}

/-! ### What is on account -/

/-- **An entry on account of a search**: it says which way the search went, or how it ended. -/
def Measurement.isOnAccount : Measurement → Bool
  | .search _ _ | .fallback _ | .cacheLookup _ => true
  | _ => false

/-- The entries of a journal that are on account of searches. -/
def Journal.account (journal : Journal) : Journal :=
  journal.filter Measurement.isOnAccount

/-- The entries of a session's journal that are on account of searches. -/
def Session.account (s : Session σ) : Journal :=
  s.journal.account

/-- A look-up in the cache, on account. There is one only where listings are kept. -/
def lookupEntries (kept hit : Bool) : Journal :=
  if kept then [.cacheLookup hit] else []

/-- **The way of a search on account**, by where its listing is from. Why a search fell back its
listing does not tell. -/
def Source.entries (kept : Bool) (reason : FallbackReason) : Source → Journal
  | .shortCircuit => []
  | .cache => lookupEntries kept true
  | .engine => lookupEntries kept false
  | .fallback => lookupEntries kept false ++ [.fallback reason]

/-- **A search on account**: its way and its end. -/
def Listing.entries (kept : Bool) (reason : FallbackReason) (listing : Listing) : Journal :=
  listing.source.entries kept reason ++ [.search listing.source listing.fallback]

/-! ### The steps of a search -/

namespace Session

theorem account_noted (measurement : Measurement) (s : Session σ) :
    (s.noted measurement).account =
      s.account ++ if measurement.isOnAccount then [measurement] else [] := by
  rw [account, noted, Journal.account, List.filter_append, List.filter_singleton]
  cases measurement.isOnAccount <;> rfl

theorem account_noted_of_not {measurement : Measurement} (h : measurement.isOnAccount = false)
    (s : Session σ) : (s.noted measurement).account = s.account := by
  rw [account_noted, h, if_neg Bool.false_ne_true, List.append_nil]

end Session

namespace Shop

variable (shop : Shop σ)

theorem account_widened (filter : Filter) (s : Session σ) :
    (shop.widened filter s).2.account = s.account := by
  cases h : filter.text with
  | none => rw [shop.widened_of_none h]
  | some text =>
    rw [shop.widened_of_some h, Session.synonyms_eq]
    split
    · exact Session.account_noted_of_not rfl _
    · rfl

/-- **The look-up in the cache** is on account. -/
theorem account_cached (filter : Filter) (s : Session σ) :
    (shop.cached filter s).2.account =
      s.account ++ lookupEntries s.cache.isSome (shop.cached filter s).1.isSome := by
  cases h : s.cache with
  | none =>
    rw [shop.cached_of_none h]
    exact (List.append_nil _).symm
  | some cache =>
    rw [shop.cached_of_some h, Session.account_noted, Option.isSome_map]
    rfl

theorem account_led {filter : Filter} {s last : Session σ} {result : Except EngineFault PageRows}
    (h : shop.led filter s = (result, last)) : last.account = s.account := by
  rw [← shop.seen_led Session.account (fun _ _ => Session.account_noted_of_not rfl _) filter s, h]

/-- **The turn to the origin store** is on account. -/
theorem account_fallBack (filter : Filter) (reason : FallbackReason) (s : Session σ) :
    (shop.fallBack filter reason s).2.account = s.account ++ [.fallback reason] := by
  cases h : shop.origin with
  | none =>
    rw [shop.fallBack_of_none h]
    exact Session.account_noted _ s
  | some origin =>
    rw [shop.fallBack_of_some h]
    exact Session.account_noted _ s

theorem account_degrade (filter : Filter) (reason : FallbackReason) (s : Session σ) :
    (shop.degrade filter reason s).2.account = s.account ++ [.fallback reason] :=
  shop.account_fallBack filter reason s

theorem account_store (filter : Filter) (listing : Listing) (s : Session σ) :
    (shop.store filter listing s).2.account = s.account := by
  cases h : s.cache with
  | none => rw [shop.store_of_none h]
  | some cache =>
    rw [shop.store_of_some h]
    exact Session.account_noted_of_not rfl _

theorem account_deliver (filter : Filter) (rows : PageRows) (s : Session σ) :
    (shop.deliver filter rows s).2.account = s.account := by
  rw [deliver]
  refine (shop.account_store filter _ _).trans ?_
  split_ifs
  · exact Session.account_noted_of_not rfl s
  · rfl

/-- **The end of a search** is on account. -/
theorem account_finished (started : Nat) (outcome : Listing × Session σ) :
    (finished started outcome).2.account =
      outcome.2.account ++ [.search outcome.1.source outcome.1.fallback] := by
  rw [finished]
  exact (Session.account_noted_of_not rfl _).trans (Session.account_noted _ _)

/-! ### The whole run -/

variable {filter : Filter} {s : Session σ}

/-- Up to the look-up in the cache nothing but the look-up is on account. -/
theorem account_lookup {after : Session σ} {found : Option Listing}
    (h : shop.cached (shop.expanded filter s).1 (shop.expanded filter s).2 = (found, after)) :
    after.account = s.account ++ lookupEntries s.cache.isSome found.isSome := by
  have hlookup := shop.account_cached (shop.expanded filter s).1 (shop.expanded filter s).2
  rw [h, shop.cache_expanded] at hlookup
  rw [hlookup, expanded, account_widened]

/-- At the engine's door a search has a miss on account. -/
theorem account_arrives {after : Session σ} (h : shop.Arrives filter s after) :
    (shop.engineIsUp after).2.account = s.account ++ lookupEntries s.cache.isSome false :=
  shop.account_lookup h.missing

/-- **The way of a search** is on account as the source of its listing tells it. -/
theorem exists_account_route {outcome : Listing × Session σ} (h : shop.Route filter s outcome) :
    ∃ reason,
      outcome.2.account = s.account ++ outcome.1.source.entries s.cache.isSome reason := by
  cases h with
  | cut => exact ⟨.engineUnhealthy, (List.append_nil _).symm⟩
  | kept _ hfound =>
    -- what is found is marked as coming from the cache
    obtain ⟨kept, -, rfl⟩ := shop.kept?_of_cached (congrArg Prod.fst hfound)
    exact ⟨.engineUnhealthy, shop.account_lookup hfound⟩
  | down harrives =>
    refine ⟨.engineUnhealthy, ?_⟩
    rw [source_degrade, account_degrade, shop.account_arrives harrives, List.append_assoc]
    rfl
  | @failed _ _ fault harrives _ hpage =>
    refine ⟨.engineFault fault, ?_⟩
    rw [source_degrade, account_degrade, shop.account_led hpage, shop.account_arrives harrives,
      List.append_assoc]
    rfl
  | delivered harrives _ hpage =>
    refine ⟨.engineUnhealthy, ?_⟩
    rw [source_deliver, account_deliver, shop.account_led hpage, shop.account_arrives harrives]
    rfl

/-- **What a search enters on account** its listing tells, but for the reason to fall back. -/
theorem exists_account_run (filter : Filter) (s : Session σ) :
    ∃ reason, (shop.run filter s).2.account =
      s.account ++ (shop.run filter s).1.entries s.cache.isSome reason := by
  obtain ⟨outcome, hroute, hrun⟩ := shop.exists_route filter s
  obtain ⟨reason, hway⟩ := shop.exists_account_route hroute
  refine ⟨reason, ?_⟩
  rw [hrun, account_finished, hway, List.append_assoc]
  rfl

/-! ### Other deeds -/

/-- The listing that a deed hands out, if it is a search. -/
def listing? (deed : Deed σ) (s : Session σ) : Option Listing :=
  match deed with
  | .search filter => some (shop.run filter s).1
  | _ => none

theorem account_facets (filter : Filter) (taxonomies : List String) (s : Session σ) :
    (shop.facets filter taxonomies s).2.account = s.account := by
  rw [shop.seen_facets Session.account (fun _ _ => Session.account_noted_of_not rfl _)
    fun _ _ _ => Session.account_noted_of_not rfl _]
  split_ifs
  · exact shop.account_widened _ _
  · rfl

theorem account_write (event : WriteEvent) (s : Session σ) :
    (shop.invalidate event s).2.account = s.account := by
  have hheard : (s.heard event).account = s.account := by
    rw [Session.heard]
    split_ifs <;> rfl
  rw [invalidate, Session.invalidate_eq]
  split
  · exact hheard
  · exact (Session.account_noted_of_not rfl _).trans hheard

/-- **A deed that hands out no listing** has nothing on account. -/
theorem account_perform {deed : Deed σ} (h : shop.listing? deed s = none) :
    (shop.perform deed s).account = s.account := by
  cases deed with
  | search filter => cases h
  | facets filter taxonomies => exact shop.account_facets filter taxonomies s
  | write event => exact shop.account_write event s
  | elapse pause change => rfl

/-- No deed gets a cache or loses it. -/
theorem isSome_cache_perform (deed : Deed σ) (s : Session σ) :
    (shop.perform deed s).cache.isSome = s.cache.isSome := by
  cases deed with
  | search filter => exact shop.isSome_cache_run filter s
  | facets filter taxonomies =>
    exact congrArg Option.isSome (shop.cache_facets filter taxonomies s)
  | write event => rw [perform, cache_write, Option.isSome_map]
  | elapse pause change => rfl

end Shop

/-! ### Counters of searches -/

/-- The counters that entries on account move, and no others. -/
def searchCounters : List String :=
  ["catalog_search_requests_total", "catalog_search_fallbacks_total",
    "catalog_search_result_cache_total"]

namespace Measurement

theorem amount_of_not_isOnAccount {measurement : Measurement}
    (h : measurement.isOnAccount = false) {name : String} (hname : name ∈ searchCounters)
    (labels : List (String × String)) : measurement.amount name labels = 0 := by
  have hother : ∀ reading ∈ measurement.readings, reading.name ∉ searchCounters := by
    cases measurement with
    | search _ _ | fallback _ | cacheLookup _ => cases h
    | _ => simp [readings, Reading.tick, searchCounters]
  exact amount_of_ne (fun reading hmem heq => hother reading hmem (heq ▸ hname)) labels

variable (name : String) (labels : List (String × String))

theorem amount_search (source : Source) (degraded : Bool) :
    (Measurement.search source degraded).amount name labels =
      if "catalog_search_requests_total" = name ∧ labels ⊆
        [("source", source.name), ("status", if degraded then "degraded" else "success")]
      then 1 else 0 :=
  amount_of_tick rfl labels

theorem amount_fallback (reason : FallbackReason) :
    (Measurement.fallback reason).amount name labels =
      if "catalog_search_fallbacks_total" = name ∧ labels ⊆ [("reason", reason.label)]
      then 1 else 0 :=
  amount_of_tick rfl labels

theorem amount_cacheLookup (hit : Bool) :
    (Measurement.cacheLookup hit).amount name labels =
      if "catalog_search_result_cache_total" = name ∧
        labels ⊆ [("outcome", if hit then "hit" else "miss")]
      then 1 else 0 :=
  amount_of_tick rfl labels

end Measurement

namespace Journal

variable {name : String}

/-- Only what is on account moves the counters of searches. -/
theorem total_account (hname : name ∈ searchCounters) (journal : Journal)
    (labels : List (String × String)) :
    journal.account.total name labels = journal.total name labels := by
  induction journal with
  | nil => rfl
  | cons first rest ih =>
    rw [total_cons, account]
    cases hfirst : first.isOnAccount with
    | true =>
      rw [List.filter_cons_of_pos hfirst, total_cons]
      exact congrArg _ ih
    | false =>
      rw [List.filter_cons_of_neg (Bool.eq_false_iff.1 hfirst),
        Measurement.amount_of_not_isOnAccount hfirst hname, Nat.zero_add]
      exact ih

theorem total_of_account {before after entries : Journal} (hname : name ∈ searchCounters)
    (h : after.account = before.account ++ entries) (labels : List (String × String)) :
    after.total name labels = before.total name labels + entries.total name labels := by
  rw [← total_account hname after, h, total_append, total_account hname]

end Journal

/-! ### Tallies -/

/-- **A counter tallies listings of a kind**: a search moves it by one if its listing is of the kind,
and not at all if it is not. -/
structure Tallies (kept : Bool) (name : String) (labels : List (String × String))
    (kind : Listing → Bool) : Prop where
  counter : name ∈ searchCounters
  moves : ∀ reason listing,
    Journal.total (Listing.entries kept reason listing) name labels =
      if kind listing then 1 else 0

/-- The listings that are handed out by deeds, one after another. -/
def Shop.handedOut (shop : Shop σ) (deeds : List (Deed σ)) (s : Session σ) : List Listing :=
  Deed.seen shop.perform shop.listing? deeds s

namespace Tallies

variable {shop : Shop σ} {s : Session σ} {name : String} {labels : List (String × String)}
  {kind : Listing → Bool}

/-- **A deed moves a tally** by its listing, if it hands one out. -/
theorem perform (h : Tallies s.cache.isSome name labels kind) (deed : Deed σ) :
    (shop.perform deed s).journal.total name labels =
      s.journal.total name labels + (shop.listing? deed s).toList.countP kind := by
  cases hlisting : shop.listing? deed s with
  | none =>
    have haccount := shop.account_perform hlisting
    rw [← List.append_nil s.account] at haccount
    exact Journal.total_of_account h.counter haccount labels
  | some listing =>
    cases deed with
    | search filter =>
      obtain rfl := Option.some.inj hlisting
      obtain ⟨reason, haccount⟩ := shop.exists_account_run filter s
      rw [Shop.perform, Journal.total_of_account h.counter haccount, h.moves]
      exact congrArg _ List.countP_singleton.symm
    | facets _ _ | write _ | elapse _ _ => cases hlisting

/-- **A tally comes to the number of listings of its kind.** -/
theorem performAll (h : Tallies s.cache.isSome name labels kind) (deeds : List (Deed σ)) :
    (shop.performAll deeds s).journal.total name labels =
      s.journal.total name labels + (shop.handedOut deeds s).countP kind := by
  induction deeds generalizing s with
  | nil => rfl
  | cons deed rest ih =>
    have hrest := h
    rw [← shop.isSome_cache_perform deed s] at hrest
    rw [Shop.handedOut, Deed.seen, List.countP_append, ← Nat.add_assoc, ← h.perform]
    exact ih hrest

end Tallies

/-! ### What the counters of searches tally -/

/-- A listing for which the cache was looked up, with the outcome that the look-up had. -/
def Listing.lookedUp (hit : Bool) (listing : Listing) : Bool :=
  match listing.source with
  | .shortCircuit => false
  | .cache => hit
  | .engine | .fallback => !hit

/-- Whatever is from somewhere was looked up, with one outcome or the other. -/
theorem countP_lookedUp (listings : List Listing) :
    listings.countP (Listing.lookedUp true) + listings.countP (Listing.lookedUp false) =
      listings.countP fun listing => listing.source ≠ .shortCircuit := by
  rw [List.countP_eq_countP_filter_add listings (fun listing => listing.source ≠ .shortCircuit)
    (Listing.lookedUp true), List.countP_filter, List.countP_filter]
  refine congrArg₂ (· + ·) (List.countP_congr fun listing _ => ?_)
    (List.countP_congr fun listing _ => ?_) <;>
  · cases h : listing.source <;> simp [Listing.lookedUp, h]

/-- What a search on account adds to a counter: its look-up, its turn to the origin store, its end. -/
theorem Listing.total_entries (kept : Bool) (reason : FallbackReason) (listing : Listing)
    (name : String) (labels : List (String × String)) :
    Journal.total (listing.entries kept reason) name labels =
      (if kept ∧ listing.source ≠ .shortCircuit then
          (Measurement.cacheLookup (listing.source = .cache)).amount name labels else 0) +
        (if listing.source = .fallback then (Measurement.fallback reason).amount name labels
          else 0) +
        (Measurement.search listing.source listing.fallback).amount name labels := by
  cases hsource : listing.source <;> cases kept <;>
    simp [entries, hsource, Source.entries, lookupEntries, Journal.total, Nat.add_assoc]

namespace Tallies

variable (kept : Bool)

/-- Requests are labelled by the source of the listing and by whether it is degraded. -/
theorem requests {labels : List (String × String)} {kind : Listing → Bool}
    (h : ∀ listing : Listing, labels ⊆ [("source", listing.source.name),
      ("status", if listing.fallback then "degraded" else "success")] ↔ kind listing = true) :
    Tallies kept "catalog_search_requests_total" labels kind where
  counter := by simp [searchCounters]
  moves reason listing := by
    rw [listing.total_entries, Measurement.amount_search, ← if_congr (h listing) rfl rfl]
    simp [Measurement.amount_fallback, Measurement.amount_cacheLookup]

theorem fallbacks :
    Tallies kept "catalog_search_fallbacks_total" [] fun listing => listing.source = .fallback where
  counter := by simp [searchCounters]
  moves reason listing := by
    rw [listing.total_entries, Measurement.amount_fallback]
    simp [Measurement.amount_search, Measurement.amount_cacheLookup]

/-- Look-ups are labelled by their outcome. -/
theorem lookups (hit : Bool) :
    Tallies kept "catalog_search_result_cache_total" [("outcome", if hit then "hit" else "miss")]
      fun listing => kept && listing.lookedUp hit where
  counter := by simp [searchCounters]
  moves reason listing := by
    rw [listing.total_entries, Measurement.amount_cacheLookup]
    cases hsource : listing.source <;> cases hit <;>
      simp [Listing.lookedUp, hsource, Measurement.amount_search, Measurement.amount_fallback]

end Tallies

/-- A label tells the source. -/
theorem source_label_iff {source other : Source} {status : String} :
    ("source", source.name) ∈ [("source", other.name), ("status", status)] ↔ other = source := by
  cases source <;> cases other <;> simp [Source.name]

/-- **The journal reconciles with the listings handed out**: the counters of searches come to the
numbers of listings of each kind. -/
structure Journal.Reconciles (kept : Bool) (journal : Journal) (listings : List Listing) :
    Prop where
  /-- Every listing is a request that was answered. -/
  requests : journal.total "catalog_search_requests_total" [] = listings.length
  requestsOf : ∀ source : Source,
    journal.total "catalog_search_requests_total" [("source", source.name)] =
      listings.countP fun listing => listing.source = source
  /-- The requests that were degraded. -/
  degraded : journal.total "catalog_search_requests_total" [("status", "degraded")] =
    listings.countP fun listing => listing.fallback
  degradedOf : ∀ source : Source,
    journal.total "catalog_search_requests_total"
        [("source", source.name), ("status", "degraded")] =
      listings.countP fun listing => listing.source = source ∧ listing.fallback
  /-- The turns to the origin store, for whatever reason. -/
  fallbacks : journal.total "catalog_search_fallbacks_total" [] =
    listings.countP fun listing => listing.source = .fallback
  hits : journal.total "catalog_search_result_cache_total" [("outcome", "hit")] =
    if kept then listings.countP fun listing => listing.source = .cache else 0
  /-- Where listings are kept, all are looked up that are from somewhere. -/
  lookups : journal.total "catalog_search_result_cache_total" [("outcome", "hit")] +
      journal.total "catalog_search_result_cache_total" [("outcome", "miss")] =
    if kept then listings.countP fun listing => listing.source ≠ .shortCircuit else 0

/-- **A session with an empty journal** stays reconciled with the listings that it hands out. -/
theorem Shop.reconciles_performAll (shop : Shop σ) {s : Session σ} (h : s.journal = [])
    (deeds : List (Deed σ)) :
    (shop.performAll deeds s).journal.Reconciles s.cache.isSome (shop.handedOut deeds s) := by
  have htotal {name : String} {labels : List (String × String)} {kind : Listing → Bool}
      (htallies : Tallies s.cache.isSome name labels kind) :
      (shop.performAll deeds s).journal.total name labels =
        (shop.handedOut deeds s).countP kind := by
    rw [htallies.performAll, h]
    exact Nat.zero_add _
  constructor
  case requests =>
    rw [← List.countP_true]
    exact htotal (.requests _ fun listing => by simp)
  case requestsOf =>
    intro source
    refine htotal (.requests _ fun listing => ?_)
    rw [List.cons_subset, source_label_iff]
    simp
  case degraded =>
    refine htotal (.requests _ fun listing => ?_)
    cases listing.fallback <;> simp
  case degradedOf =>
    intro source
    refine htotal (.requests _ fun listing => ?_)
    rw [List.cons_subset, source_label_iff]
    cases listing.fallback <;> simp
  case fallbacks => exact htotal (.fallbacks _)
  case hits =>
    refine (htotal (.lookups _ true)).trans ?_
    cases s.cache.isSome with
    | false => exact congrFun List.countP_false _
    | true =>
      refine List.countP_congr fun listing _ => ?_
      cases hsource : listing.source <;> simp [Listing.lookedUp, hsource]
  case lookups =>
    refine (congrArg₂ _ (htotal (.lookups _ true)) (htotal (.lookups _ false))).trans ?_
    cases s.cache.isSome with
    | false => simp
    | true => exact countP_lookedUp _

/-! ### Desks -/

/-- Whether a deed is a search. -/
def Deed.isSearch : Deed σ → Bool
  | .search _ => true
  | _ => false

/-- Each search hands out one listing. -/
theorem Shop.length_handedOut (shop : Shop σ) (deeds : List (Deed σ)) (s : Session σ) :
    (shop.handedOut deeds s).length = deeds.countP Deed.isSearch := by
  induction deeds generalizing s with
  | nil => rfl
  | cons deed rest ih =>
    have hrest := ih (shop.perform deed s)
    rw [handedOut] at hrest ⊢
    rw [Deed.seen, List.length_append, hrest, List.countP_cons, Nat.add_comm]
    cases deed <;> rfl

namespace WiredDesk

/-- The listing that a deed at a desk hands out, if it is a search. -/
def listing? (deed : Deed σ) (desk : WiredDesk σ) : Option Listing :=
  match deed with
  | .search filter => some (search filter desk).1
  | _ => none

/-- The listings that are handed out by deeds at a desk, one after another. -/
def handedOut (deeds : List (Deed σ)) (desk : WiredDesk σ) : List Listing :=
  Deed.seen perform listing? deeds desk

theorem listing?_eq (deed : Deed σ) (desk : WiredDesk σ) :
    desk.listing? deed = desk.shop.listing? deed desk.session := by
  cases deed <;> rfl

/-- What is handed out at a desk in tune is handed out in its session. -/
theorem InTune.handedOut {desk : WiredDesk σ} (h : desk.InTune) (deeds : List (Deed σ)) :
    desk.handedOut deeds = desk.shop.handedOut deeds desk.session :=
  h.seen listing?_eq deeds

theorem journal_fitAll (desk : WiredDesk σ) (fittings : List (Fitting σ)) :
    (desk.fitAll fittings).journal = desk.journal := by
  induction fittings generalizing desk with
  | nil => rfl
  | cons fitting rest ih =>
    refine (ih (desk.fit fitting)).trans ?_
    cases fitting <;> rfl

/-- **The counters reconcile with the listings handed out.** However a new desk is fitted, and whatever
is done at it, each search has handed out one listing, and the counters of searches come to the
numbers of these listings; those of the cache stay at zero if no listings are kept. -/
theorem journal_reconciles (settings : Settings) (planner : Planner) (engine : Engine σ) (world : σ)
    (lexicons : Nat → Lexicon σ) (capacities : Nat → Nat) (fittings : List (Fitting σ))
    (deeds : List (Deed σ)) :
    let desk := (bare settings planner engine world lexicons capacities).fitAll fittings
    (desk.handedOut deeds).length = deeds.countP Deed.isSearch ∧
      (desk.performAll deeds).journal.Reconciles desk.cache.isSome (desk.handedOut deeds) := by
  intro desk
  have hbare : (bare settings planner engine world lexicons capacities).InTune := ⟨rfl, rfl⟩
  have htune : desk.InTune := hbare.fitAll fittings
  have hjournal : desk.session.journal = [] := journal_fitAll _ fittings
  have hcache : desk.session.cache.isSome = desk.cache.isSome := Option.isSome_map
  have hlast : (desk.performAll deeds).journal =
      (desk.shop.performAll deeds desk.session).journal :=
    congrArg Session.journal (htune.session_performAll deeds)
  rw [htune.handedOut, hlast, ← hcache]
  exact ⟨desk.shop.length_handedOut deeds _, desk.shop.reconciles_performAll hjournal deeds⟩

/-- Two searches that fall back, where no listings are kept. -/
example :
    let journal := (sparseDesk.performAll [.search .products, .search .products]).journal
    journal.total "catalog_search_requests_total" [("status", "degraded")] = 2 ∧
      journal.total "catalog_search_fallbacks_total" [("reason", "engine_query")] = 2 ∧
      journal.total "catalog_search_result_cache_total" [] = 0 := by
  decide +kernel

end WiredDesk

end Storefront
