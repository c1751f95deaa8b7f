import Storefront.Proofs.Listing.Kept
import Storefront.Proofs.Search.Steps

/-!
# What a search keeps

Of all steps of a search only two touch the result cache: the look-up, which may drop a listing, and
the write at the very end of a page that the engine delivered. So a session keeps after a search what
it kept before, and at most one listing besides, the one that the search hands out
(`Shop.kept?_run`). And a listing that is handed out from the cache is one that was kept
(`Shop.kept?_of_cache`).

Search after search, a cache that begins empty and that only searches write to therefore keeps
nothing but listings that the engine delivered in one of them (`Shop.History.kept`), and hands out
no others (`Shop.History.of_cache`).
-/

namespace Storefront

/-! ### Steps that leave something alone -/

section Leaves

variable {S α β γ : Type} {see : S → γ}

/-- A step leaves alone what is seen of a state. -/
def Leaves (see : S → γ) (step : StateM S α) : Prop :=
  ∀ s, see (step s).2 = see s

namespace Leaves

theorem pure (see : S → γ) (a : α) : Leaves see (Pure.pure a : StateM S α) :=
  fun _ => rfl

theorem bind {step : StateM S α} {next : α → StateM S β} (hstep : Leaves see step)
    (hnext : ∀ a, Leaves see (next a)) : Leaves see (step >>= next) :=
  fun s => (hnext _ _).trans (hstep s)

theorem mapM {step : α → StateM S β} (hstep : ∀ a, Leaves see (step a)) (items : List α) :
    Leaves see (items.mapM step) := by
  induction items with
  | nil => exact pure see _
  | cons a rest ih =>
    rw [List.mapM_cons]
    exact (hstep a).bind fun _ => ih.bind fun _ => pure see _

theorem forIn {step : α → β → StateM S (ForInStep β)} (hstep : ∀ a b, Leaves see (step a b))
    (items : List α) (b : β) : Leaves see (ForIn.forIn items b step) := by
  induction items generalizing b with
  | nil => exact pure see _
  | cons a rest ih =>
    rw [List.forIn_cons]
    refine (hstep a b).bind fun next => ?_
    cases next with
    | done b => exact pure see _
    | yield b => exact ih b

end Leaves

end Leaves

variable {σ : Type}

/-- The listing that a session keeps at a key, whether it is still alive or not. -/
def Session.kept? (key : String) (s : Session σ) : Option Listing :=
  s.cache.bind fun cache => cache.kept? key

theorem Session.kept?_of_cache_eq {s t : Session σ} (h : t.cache = s.cache) (key : String) :
    t.kept? key = s.kept? key := by
  rw [kept?, kept?, h]

namespace Shop

variable (shop : Shop σ)

/-! ### Steps that leave the cache alone -/

theorem cache_synonyms (source : SynonymSource σ) (s : Session σ) :
    (Session.synonyms source s).2.cache = s.cache := by
  rw [Session.synonyms_eq]
  split <;> rfl

theorem cache_widened (filter : Filter) (s : Session σ) :
    (shop.widened filter s).2.cache = s.cache := by
  cases h : filter.text with
  | none => rw [shop.widened_of_none h]
  | some text =>
    rw [shop.widened_of_some h]
    exact cache_synonyms shop.synonyms s

theorem cache_expanded (filter : Filter) (s : Session σ) :
    (shop.expanded filter s).2.cache = s.cache :=
  shop.cache_widened _ s

theorem cache_engineIsUp (s : Session σ) : (shop.engineIsUp s).2.cache = s.cache := rfl

/-- What no statement touches no dialogue touches. -/
theorem seen_led {γ : Type} (see : Session σ → γ)
    (hask : ∀ statement, Leaves see (shop.ask statement)) (filter : Filter) (s : Session σ) :
    see (shop.led filter s).2 = see s := by
  have hasked {s last : Session σ} {exchanges : List Exchange}
      (h : Dialogue.Asked shop.askOrFail s exchanges last) : see last = see s := by
    induction h with
    | nil s => rfl
    | @cons s next last statement reply exchanges hstep _ ih =>
      change shop.ask statement.render s = (reply, next) at hstep
      rw [ih, ← hask statement.render s, hstep]
  obtain ⟨_, _, h⟩ := Dialogue.exists_course shop.askOrFail (shop.planner.pageDialogue filter) s
  exact hasked h

theorem cache_led {filter : Filter} {s last : Session σ} {result : Except EngineFault PageRows}
    (h : shop.led filter s = (result, last)) : last.cache = s.cache := by
  rw [← shop.seen_led Session.cache (fun _ _ => rfl) filter s, h]

theorem cache_fallBack (filter : Filter) (reason : FallbackReason) (s : Session σ) :
    (shop.fallBack filter reason s).2.cache = s.cache := by
  cases h : shop.origin with
  | none => rw [shop.fallBack_of_none h]; rfl
  | some origin => rw [shop.fallBack_of_some h]; rfl

/-! ### The look-up and the write -/

/-- A look-up keeps nothing new. -/
theorem kept?_cached (filter : Filter) {s : Session σ} {key : String} {listing : Listing}
    (h : (shop.cached filter s).2.kept? key = some listing) : s.kept? key = some listing := by
  cases hcache : s.cache with
  | none => rwa [shop.cached_of_none hcache] at h
  | some cache =>
    rw [shop.cached_of_some hcache] at h
    rw [Session.kept?, hcache]
    exact BoundedCache.kept?_get h

/-- **What a look-up finds is kept**, and marked as coming from the cache. -/
theorem kept?_of_cached {filter : Filter} {s : Session σ} {listing : Listing}
    (h : (shop.cached filter s).1 = some listing) :
    ∃ kept, s.kept? (shop.key filter) = some kept ∧ listing = { kept with source := .cache } := by
  cases hcache : s.cache with
  | none =>
    rw [shop.cached_of_none hcache] at h
    cases h
  | some cache =>
    rw [shop.cached_of_some hcache] at h
    obtain ⟨kept, hkept, rfl⟩ := Option.map_eq_some_iff.1 h
    refine ⟨kept, ?_, rfl⟩
    rw [Session.kept?, hcache]
    exact BoundedCache.kept?_of_get hkept

/-- A write keeps the listing that is written, and nothing else that is new. -/
theorem kept?_store {filter : Filter} {listing found : Listing} {s : Session σ} {key : String}
    (h : (shop.store filter listing s).2.kept? key = some found) :
    (key = shop.key filter ∧ found = listing) ∨ s.kept? key = some found := by
  cases hcache : s.cache with
  | none =>
    rw [shop.store_of_none hcache] at h
    exact .inr h
  | some cache =>
    rw [shop.store_of_some hcache] at h
    rw [Session.kept?, hcache]
    exact BoundedCache.kept?_set h

/-- **A page that is delivered is written** to the cache, and no time passes. -/
theorem cache_deliver {s : Session σ} {cache : BoundedCache Listing} (h : s.cache = some cache)
    (filter : Filter) (rows : PageRows) :
    (shop.deliver filter rows s).2.clock = s.clock ∧
      (shop.deliver filter rows s).2.cache =
        some (cache.set s.clock shop.settings.resultTtl (shop.key filter)
          (shop.pinned filter (listingOf filter rows))) := by
  rw [deliver]
  split_ifs
  · rw [shop.store_of_some (show (s.noted _).cache = some cache from h)]
    exact ⟨rfl, rfl⟩
  · rw [shop.store_of_some h]
    exact ⟨rfl, rfl⟩

/-! ### The whole run -/

/-- **A search keeps a page**: at the key of its filter, as the engine delivered it, with pinned
documents in front, and that is what it hands out. -/
structure Keeps (filter : Filter) (s : Session σ) (key : String) (listing : Listing) : Prop where
  key : key = shop.key (shop.expanded filter s).1
  page : ∃ after rows last, shop.Arrives filter s after ∧ (shop.engineIsUp after).1 = true ∧
    shop.led (shop.expanded filter s).1 (shop.engineIsUp after).2 = (.ok rows, last) ∧
    listing = shop.pinned (shop.expanded filter s).1 (listingOf (shop.expanded filter s).1 rows)
  handedOut : (shop.run filter s).1 = { listing with latency := (shop.run filter s).1.latency }

theorem kept?_arrives {filter : Filter} {s after : Session σ} (h : shop.Arrives filter s after)
    {key : String} {listing : Listing} (hkept : after.kept? key = some listing) :
    s.kept? key = some listing := by
  rw [← Session.kept?_of_cache_eq (shop.cache_expanded filter s)]
  refine shop.kept?_cached (shop.expanded filter s).1 ?_
  rw [h.missing]
  exact hkept

/-- **What a session keeps after a search** it kept before, or else the engine has just delivered
it. -/
theorem kept?_run {filter : Filter} {s : Session σ} {key : String} {listing : Listing}
    (h : (shop.run filter s).2.kept? key = some listing) :
    s.kept? key = some listing ∨ shop.Keeps filter s key listing := by
  obtain ⟨outcome, hroute, hrun⟩ := shop.exists_route filter s
  have hkept : outcome.2.kept? key = some listing := by
    rw [hrun] at h
    exact h
  cases hroute with
  | cut hnothing => exact .inl hkept
  | @kept found after _ hfound =>
    refine .inl ?_
    rw [← Session.kept?_of_cache_eq (shop.cache_expanded filter s)]
    refine shop.kept?_cached (shop.expanded filter s).1 ?_
    rw [hfound]
    exact hkept
  | @down after harrives _ =>
    refine .inl (shop.kept?_arrives harrives ?_)
    rwa [degrade, Session.kept?_of_cache_eq (shop.cache_fallBack _ _ _)] at hkept
  | @failed after last fault harrives _ hpage =>
    have hlast : last.cache = after.cache :=
      (shop.cache_led hpage).trans (shop.cache_engineIsUp after)
    refine .inl (shop.kept?_arrives harrives ?_)
    rwa [degrade, Session.kept?_of_cache_eq (shop.cache_fallBack _ _ _),
      Session.kept?_of_cache_eq hlast] at hkept
  | @delivered after last rows harrives hup hpage =>
    have hlast : last.cache = after.cache :=
      (shop.cache_led hpage).trans (shop.cache_engineIsUp after)
    -- this is the only way that writes: what is kept is the page or was there before
    obtain ⟨rfl, rfl⟩ | hbefore := shop.kept?_store hkept
    · exact .inr ⟨rfl, ⟨after, rows, last, harrives, hup, hpage, rfl⟩, by rw [hrun]; rfl⟩
    · refine .inl (shop.kept?_arrives harrives ?_)
      rw [← hbefore]
      refine (Session.kept?_of_cache_eq ?_ key).symm
      split_ifs <;> exact hlast

theorem isSome_cache_cached (filter : Filter) (s : Session σ) :
    (shop.cached filter s).2.cache.isSome = s.cache.isSome := by
  cases h : s.cache with
  | none => rw [shop.cached_of_none h, h]
  | some cache =>
    rw [shop.cached_of_some h]
    rfl

theorem isSome_cache_deliver (filter : Filter) (rows : PageRows) (s : Session σ) :
    (shop.deliver filter rows s).2.cache.isSome = s.cache.isSome := by
  cases h : s.cache with
  | none =>
    rw [deliver, shop.store_of_none (by split_ifs <;> exact h), ← h]
    split_ifs <;> rfl
  | some cache =>
    rw [(shop.cache_deliver h filter rows).2]
    rfl

/-- A search neither gets a cache nor loses it. -/
theorem isSome_cache_run (filter : Filter) (s : Session σ) :
    (shop.run filter s).2.cache.isSome = s.cache.isSome := by
  have hlookup := shop.isSome_cache_cached (shop.expanded filter s).1 (shop.expanded filter s).2
  rw [shop.cache_expanded filter s] at hlookup
  have hdoor {after : Session σ} (harrives : shop.Arrives filter s after) :
      after.cache.isSome = s.cache.isSome := by
    rw [← hlookup, harrives.missing]
  obtain ⟨outcome, hroute, hrun⟩ := shop.exists_route filter s
  rw [hrun]
  change outcome.2.cache.isSome = _
  cases hroute with
  | cut => rfl
  | kept _ hfound => rw [← hlookup, hfound]
  | down harrives =>
    rw [degrade, shop.cache_fallBack, shop.cache_engineIsUp]
    exact hdoor harrives
  | failed harrives _ hpage =>
    rw [degrade, shop.cache_fallBack, shop.cache_led hpage, shop.cache_engineIsUp]
    exact hdoor harrives
  | delivered harrives _ hpage =>
    rw [isSome_cache_deliver, shop.cache_led hpage, shop.cache_engineIsUp]
    exact hdoor harrives

/-- Without a cache a search goes without. -/
theorem cache_run_of_none {s : Session σ} (h : s.cache = none) (filter : Filter) :
    (shop.run filter s).2.cache = none := by
  have hsome := shop.isSome_cache_run filter s
  rw [h] at hsome
  exact Option.not_isSome_iff_eq_none.1 (Bool.eq_false_iff.1 hsome)

/-- **A listing from the cache** is one that was kept at the key of the filter, but for its source
and the time it took. -/
theorem kept?_of_cache {filter : Filter} {s : Session σ} (h : (shop.run filter s).1.source = .cache) :
    ∃ kept, s.kept? (shop.key (shop.expanded filter s).1) = some kept ∧
      (shop.run filter s).1 =
        { kept with source := .cache, latency := (shop.run filter s).1.latency } := by
  obtain ⟨outcome, hroute, hrun⟩ := shop.exists_route filter s
  have hsource : outcome.1.source = .cache := by
    rw [hrun] at h
    exact h
  cases hroute with
  | cut => cases hsource
  | @kept found after _ hfound =>
    obtain ⟨kept, hkept, rfl⟩ := shop.kept?_of_cached (congrArg Prod.fst hfound)
    rw [Session.kept?_of_cache_eq (shop.cache_expanded filter s)] at hkept
    exact ⟨kept, hkept, by rw [hrun]; rfl⟩
  | down =>
    rw [source_degrade] at hsource
    cases hsource
  | failed =>
    rw [source_degrade] at hsource
    cases hsource
  | delivered =>
    rw [source_deliver] at hsource
    cases hsource

/-! ### Search after search -/

/-- A search that is over: the filter that it went by, its words widened, and what it handed out. -/
structure Served where
  filter : Filter
  listing : Listing

/-- **The history of a session**: the searches up to it, the oldest first. Nothing is kept at the
beginning, and what else happens between two searches keeps nothing new: time passes, the world
changes, listings are dropped. -/
inductive History : List Served → Session σ → Prop
  | start {s : Session σ} (nothing : ∀ key, s.kept? key = none) : History [] s
  | elapse {past : List Served} {s t : Session σ} (before : History past s)
    (forgets : ∀ key listing, t.kept? key = some listing → s.kept? key = some listing) :
    History past t
  | search {past : List Served} {s : Session σ} (before : History past s) (filter : Filter) :
    History (past ++ [⟨(shop.expanded filter s).1, (shop.run filter s).1⟩]) (shop.run filter s).2

/-- A listing as the engine delivers it. -/
structure Delivered (listing : Listing) : Prop where
  source : listing.source = .engine
  fallback : listing.fallback = false

variable {shop}

theorem Keeps.delivered {filter : Filter} {s : Session σ} {key : String} {listing : Listing}
    (h : shop.Keeps filter s key listing) : Delivered listing := by
  obtain ⟨_, _, _, _, _, _, rfl⟩ := h.page
  rw [pinned_eq]
  exact ⟨rfl, rfl⟩

/-- **What a session keeps was delivered** by the engine in an earlier search, at the same key. -/
theorem History.kept {past : List Served} {s : Session σ} (h : shop.History past s) {key : String}
    {listing : Listing} (hkept : s.kept? key = some listing) :
    Delivered listing ∧ ∃ earlier ∈ past, shop.key earlier.filter = key ∧
      earlier.listing = { listing with latency := earlier.listing.latency } := by
  induction h with
  | start hnothing =>
    rw [hnothing] at hkept
    cases hkept
  | elapse _ hforgets ih => exact ih (hforgets key listing hkept)
  | @search past s _ filter ih =>
    obtain hbefore | hkeeps := shop.kept?_run hkept
    · obtain ⟨hdelivered, earlier, hmem, hearlier⟩ := ih hbefore
      exact ⟨hdelivered, earlier, List.mem_append_left _ hmem, hearlier⟩
    · exact ⟨hkeeps.delivered, _, List.mem_append_right _ (List.mem_singleton_self _),
        hkeeps.key.symm, hkeeps.handedOut⟩

/-- **What comes from the cache was delivered** by the engine in an earlier search, for a filter of
the same key. -/
theorem History.of_cache {past : List Served} {s : Session σ} (h : shop.History past s)
    {filter : Filter} (hsource : (shop.run filter s).1.source = .cache) :
    ∃ earlier ∈ past, Delivered earlier.listing ∧
      shop.key earlier.filter = shop.key (shop.expanded filter s).1 ∧
      (shop.run filter s).1 =
        { earlier.listing with source := .cache, latency := (shop.run filter s).1.latency } := by
  obtain ⟨kept, hkept, hrun⟩ := shop.kept?_of_cache hsource
  obtain ⟨hdelivered, earlier, hmem, hkey, hearlier⟩ := h.kept hkept
  refine ⟨earlier, hmem, ?_, hkey, ?_⟩
  · rw [hearlier]
    exact ⟨hdelivered.source, hdelivered.fallback⟩
  · rw [hrun, hearlier]

end Shop

end Storefront
