import Storefront.Proofs.Listing.Indexes
import Storefront.Proofs.Search.Upkeep

/-!
# What is left after a write

A session keeps synonyms and listings from earlier, and a write to the catalog makes them old. Every
key that a session looks up, or keeps a listing at, begins with the stem of its index, and so a write
leaves no listing that could be found (`Shop.InIndex.kept?_write`). What is found later was therefore
delivered later (`Shop.History.performAll`).

A write to the synonyms leaves no map of synonyms. Whenever a text is expanded, one of two things
happens (`Thesaurus.Expands`), and what is done then is done with the map that this leads to
(`Session.ExpandsInto`). So maps stay fresh (`Thesaurus.IsFresh`): the first expansion after the
write has to load, and every map that texts are expanded with later was loaded later.

| deed | listings | synonyms |
| --- | --- | --- |
| a search | looked up, one written | looked up, if a text is expanded |
| counts | untouched | looked up, if a text is expanded |
| a write | all dropped | dropped, if the write is to them |
-/

namespace Storefront

variable {σ : Type}

/-! ### Deeds -/

/-- What is done with a shop, one thing after another. Between two things time may pass, and the world
outside may change. -/
inductive Deed (σ : Type) where
  | search (filter : Filter)
  | facets (filter : Filter) (taxonomies : List String)
  | write (event : WriteEvent)
  | elapse (pause : Nat) (change : σ → σ)

/-- What is seen of deeds that follow on a state, one after another. -/
def Deed.seen {S α : Type} (perform : Deed σ → S → S) (see : Deed σ → S → Option α) :
    List (Deed σ) → S → List α
  | [], _ => []
  | deed :: rest, s => (see deed s).toList ++ seen perform see rest (perform deed s)

namespace Shop

variable (shop : Shop σ)

/-- The session after a deed. -/
def perform (deed : Deed σ) (s : Session σ) : Session σ :=
  match deed with
  | .search filter => (shop.run filter s).2
  | .facets filter taxonomies => (shop.facets filter taxonomies s).2
  | .write event => (shop.invalidate event s).2
  | .elapse pause change =>
    { s with guarded := { s.guarded with
      clock := s.guarded.clock + pause, world := change s.guarded.world } }

/-- The session after several deeds. -/
def performAll (deeds : List (Deed σ)) (s : Session σ) : Session σ :=
  deeds.foldl (fun s deed => shop.perform deed s) s

/-- The search that a deed is, with its listing. -/
def served? (deed : Deed σ) (s : Session σ) : Option Served :=
  match deed with
  | .search filter => some ⟨(shop.expanded filter s).1, (shop.run filter s).1⟩
  | _ => none

/-! ### What deeds do to listings -/

/-- What is kept of synonyms and listings. -/
def keptParts (s : Session σ) : Thesaurus × Option (BoundedCache Listing) :=
  (s.thesaurus, s.cache)

/-- What no statement touches no counting touches. -/
theorem leaves_facetCountsFor {γ : Type} {see : Session σ → γ}
    (hask : ∀ statement, Leaves see (shop.ask statement)) (limit : Nat) (filter : Filter)
    (taxonomies : List String) :
    Leaves see (shop.planner.facetCountsFor shop.ask limit filter taxonomies) := by
  refine .mapM (fun taxonomy => Leaves.bind ?_ fun _ => .pure see _) taxonomies
  unfold Planner.facetCounts
  split
  · exact .pure see _
  · refine Leaves.bind (hask _) fun reply => ?_
    split
    · exact .pure see _
    · split <;> exact .pure see _

/-- What neither statements nor reports on them touch, **counts** touch only in asking for the engine's
health and, if it is up, in widening their filter. -/
theorem seen_facets {γ : Type} (see : Session σ → γ)
    (hask : ∀ statement, Leaves see (shop.ask statement))
    (hnote : ∀ taxonomy answered, Leaves see (Session.note (.facetQuery taxonomy answered)))
    (filter : Filter) (taxonomies : List String) (s : Session σ) :
    see (shop.facets filter taxonomies s).2 =
      if (shop.engineIsUp s).1 then
        see (shop.widened (shop.normalized filter) (shop.engineIsUp s).2).2
      else see (shop.engineIsUp s).2 := by
  unfold facets
  rw [bind_apply]
  cases (shop.engineIsUp s).1 with
  | false => rfl
  | true =>
    rw [if_pos rfl, if_pos rfl, bind_apply]
    unfold counts
    refine Leaves.bind (shop.leaves_facetCountsFor hask _ _ _) (fun counted => ?_) _
    refine Leaves.bind (.forIn (fun (taxonomy, facet) _ => ?_) counted _) fun _ => .pure see _
    dsimp only
    split
    · exact Leaves.bind (hnote _ _) fun _ => .pure see _
    · exact .pure see _

/-- **Counts** look up synonyms, if the engine is up, and touch nothing else that is kept. -/
theorem keptParts_facets (filter : Filter) (taxonomies : List String) (s : Session σ) :
    keptParts (shop.facets filter taxonomies s).2 =
      if (shop.engineIsUp s).1 then
        keptParts (shop.widened (shop.normalized filter) (shop.engineIsUp s).2).2
      else keptParts s :=
  shop.seen_facets keptParts (fun _ _ => rfl) (fun _ _ _ => rfl) filter taxonomies s

theorem cache_facets (filter : Filter) (taxonomies : List String) (s : Session σ) :
    (shop.facets filter taxonomies s).2.cache = s.cache := by
  refine (congrArg Prod.snd (shop.keptParts_facets filter taxonomies s)).trans ?_
  split_ifs
  · exact (shop.cache_widened _ _).trans (shop.cache_engineIsUp s)
  · rfl

theorem cache_write (event : WriteEvent) (s : Session σ) :
    (shop.invalidate event s).2.cache =
      s.cache.map fun cache => (cache.invalidate (event.pattern shop.settings.index)).2 := by
  rw [invalidate, Session.invalidate_eq]
  cases h : s.cache with
  | none => exact (s.cache_heard event).trans h
  | some cache => rfl

/-- **The listings of a session are those of an index**: they are kept at keys with its stem. -/
def InIndex (index : String) (s : Session σ) : Prop :=
  ∀ key listing, s.kept? key = some listing → (keyStem index).toList <+: key.toList

variable {shop} {index : String}

/-- The key of a filter has the stem of the shop's index. -/
theorem keyStem_prefix_key (filter : Filter) :
    (keyStem shop.settings.index).toList <+: (shop.key filter).toList := by
  rw [key, Plan.key, String.toList_append]
  exact List.prefix_append _ _

/-- **A write** leaves what is kept at keys that do not match its pattern. -/
theorem kept?_write (event : WriteEvent) (s : Session σ) (key : String) :
    (shop.invalidate event s).2.kept? key =
      if BoundedCache.keyMatches (event.pattern shop.settings.index) key then none
      else s.kept? key := by
  rw [Session.kept?, cache_write, Session.kept?]
  cases s.cache with
  | none => split_ifs <;> rfl
  | some cache => exact cache.kept?_invalidate _ key

theorem kept?_of_write {event : WriteEvent} {s : Session σ} {key : String} {listing : Listing}
    (h : (shop.invalidate event s).2.kept? key = some listing) : s.kept? key = some listing := by
  rw [kept?_write] at h
  split_ifs at h
  exact h

/-- **A write leaves no listing of its index.** -/
theorem InIndex.kept?_write {s : Session σ} (h : InIndex shop.settings.index s)
    (event : WriteEvent) (key : String) : (shop.invalidate event s).2.kept? key = none := by
  rw [Shop.kept?_write]
  split_ifs with hmatches
  · rfl
  · refine Option.eq_none_iff_forall_ne_some.2 fun listing hlisting => hmatches ?_
    exact (BoundedCache.keyMatches_pattern event _ key).2 (h key listing hlisting)

/-- What a deed leaves at a key was there before, or the deed is a search that keeps it. -/
theorem kept?_perform {deed : Deed σ} {s : Session σ} {key : String} {listing : Listing}
    (h : (shop.perform deed s).kept? key = some listing) :
    s.kept? key = some listing ∨
      ∃ filter, deed = .search filter ∧ shop.Keeps filter s key listing := by
  cases deed with
  | search filter => exact (shop.kept?_run h).imp_right fun hkeeps => ⟨filter, rfl, hkeeps⟩
  | facets filter taxonomies =>
    exact .inl ((Session.kept?_of_cache_eq (shop.cache_facets filter taxonomies s) key).symm.trans h)
  | write event => exact .inl (kept?_of_write h)
  | elapse pause change => exact .inl h

/-- The listings of a session stay those of the index. -/
theorem InIndex.perform {s : Session σ} (h : InIndex shop.settings.index s) (deed : Deed σ) :
    InIndex shop.settings.index (shop.perform deed s) := by
  intro key listing hlisting
  obtain hbefore | ⟨filter, -, hkeeps⟩ := kept?_perform hlisting
  · exact h key listing hbefore
  · rw [hkeeps.key]
    exact keyStem_prefix_key _

theorem InIndex.performAll {s : Session σ} (h : InIndex shop.settings.index s)
    (deeds : List (Deed σ)) : InIndex shop.settings.index (shop.performAll deeds s) := by
  induction deeds generalizing s with
  | nil => exact h
  | cons deed rest ih => exact ih (h.perform deed)

/-- A deed goes on with a history: a search is its next one. -/
theorem History.perform {past : List Served} {s : Session σ} (h : shop.History past s)
    (deed : Deed σ) :
    shop.History (past ++ (shop.served? deed s).toList) (shop.perform deed s) := by
  have hother (hserved : shop.served? deed s = none)
      (hforgets : ∀ key listing, (shop.perform deed s).kept? key = some listing →
        s.kept? key = some listing) :
      shop.History (past ++ (shop.served? deed s).toList) (shop.perform deed s) := by
    rw [hserved, Option.toList_none, List.append_nil]
    exact h.elapse hforgets
  cases deed with
  | search filter => exact h.search filter
  | facets filter taxonomies =>
    exact hother rfl fun key _ =>
      (Session.kept?_of_cache_eq (shop.cache_facets filter taxonomies s) key).symm.trans
  | write event => exact hother rfl fun _ _ => kept?_of_write
  | elapse pause change => exact hother rfl fun _ _ => id

theorem History.performAll {past : List Served} {s : Session σ} (h : shop.History past s)
    (deeds : List (Deed σ)) :
    shop.History (past ++ Deed.seen shop.perform shop.served? deeds s)
      (shop.performAll deeds s) := by
  induction deeds generalizing past s with
  | nil =>
    rw [Deed.seen, List.append_nil]
    exact h
  | cons deed rest ih =>
    rw [Deed.seen, ← List.append_assoc]
    exact ih (h.perform deed)

/-- **What is found after a write was delivered after it.** -/
theorem InIndex.of_cache {s : Session σ} (h : InIndex shop.settings.index s) (event : WriteEvent)
    (later : List (Deed σ)) {filter : Filter} {last : Session σ}
    (hlast : last = shop.performAll later (shop.perform (.write event) s))
    (hsource : (shop.run filter last).1.source = .cache) :
    ∃ earlier ∈ Deed.seen shop.perform shop.served? later (shop.perform (.write event) s),
      Delivered earlier.listing ∧
        shop.key earlier.filter = shop.key (shop.expanded filter last).1 ∧
        (shop.run filter last).1 =
          { earlier.listing with source := .cache, latency := (shop.run filter last).1.latency } := by
  subst hlast
  have hhistory : shop.History [] (shop.perform (.write event) s) := .start (h.kept?_write event)
  exact (hhistory.performAll later).of_cache hsource

/-! ### What deeds do to synonyms -/

variable (shop)

theorem thesaurus_cached (filter : Filter) (s : Session σ) :
    (shop.cached filter s).2.thesaurus = s.thesaurus := by
  cases h : s.cache with
  | none => rw [shop.cached_of_none h]
  | some cache => rw [shop.cached_of_some h]; rfl

theorem thesaurus_fallBack (filter : Filter) (reason : FallbackReason) (s : Session σ) :
    (shop.fallBack filter reason s).2.thesaurus = s.thesaurus := by
  cases h : shop.origin with
  | none => rw [shop.fallBack_of_none h]; rfl
  | some origin => rw [shop.fallBack_of_some h]; rfl

theorem thesaurus_led {filter : Filter} {s last : Session σ} {result : Except EngineFault PageRows}
    (h : shop.led filter s = (result, last)) : last.thesaurus = s.thesaurus := by
  rw [← shop.seen_led Session.thesaurus (fun _ _ => rfl) filter s, h]

theorem thesaurus_deliver (filter : Filter) (rows : PageRows) (s : Session σ) :
    (shop.deliver filter rows s).2.thesaurus = s.thesaurus := by
  have hnoted : (if filter.inStockFirst then s.noted (.stockRoundTrips rows.roundTrips)
      else s).thesaurus = s.thesaurus := by
    split_ifs <;> rfl
  rw [deliver, ← hnoted]
  generalize (if filter.inStockFirst then s.noted (.stockRoundTrips rows.roundTrips) else s) = t
  cases h : t.cache with
  | none => rw [shop.store_of_none h]
  | some cache => rw [shop.store_of_some h]; rfl

/-- **A search** looks up synonyms where it widens its filter, and nowhere else. -/
theorem thesaurus_run (filter : Filter) (s : Session σ) :
    (shop.run filter s).2.thesaurus =
      if (shop.prepared filter).includeIds = some [] then s.thesaurus
      else (shop.expanded filter s).2.thesaurus := by
  have hlookup := shop.thesaurus_cached (shop.expanded filter s).1 (shop.expanded filter s).2
  have hdoor {after : Session σ} (harrives : shop.Arrives filter s after) :
      (shop.engineIsUp after).2.thesaurus = (shop.expanded filter s).2.thesaurus := by
    rw [← hlookup, harrives.missing]
    rfl
  obtain ⟨outcome, hroute, hrun⟩ := shop.exists_route filter s
  rw [hrun]
  change outcome.2.thesaurus = _
  cases hroute with
  | cut hnothing => rw [if_pos hnothing]
  | kept hsomething hfound => rw [if_neg hsomething, ← hlookup, hfound]
  | down harrives =>
    rw [if_neg harrives.something, degrade, thesaurus_fallBack]
    exact hdoor harrives
  | failed harrives _ hpage =>
    rw [if_neg harrives.something, degrade, thesaurus_fallBack, shop.thesaurus_led hpage]
    exact hdoor harrives
  | delivered harrives _ hpage =>
    rw [if_neg harrives.something, thesaurus_deliver, shop.thesaurus_led hpage]
    exact hdoor harrives

theorem thesaurus_facets (filter : Filter) (taxonomies : List String) (s : Session σ) :
    (shop.facets filter taxonomies s).2.thesaurus =
      if (shop.engineIsUp s).1 then
        (shop.widened (shop.normalized filter) (shop.engineIsUp s).2).2.thesaurus
      else s.thesaurus := by
  refine (congrArg Prod.fst (shop.keptParts_facets filter taxonomies s)).trans ?_
  split_ifs <;> rfl

end Shop

/-! ### Expansions -/

/-- The expansion of a text: the map that it goes by, and the load that was made for it, if any. -/
structure Expansion where
  map : SynonymMap
  load : Option SynonymLoad

/-- What is entered in the journal of an expansion. -/
def Expansion.entries (expansion : Expansion) : Journal :=
  expansion.load.toList.map fun load => .synonymRebuild (Thesaurus.succeeded load)

/-- **The two ways in which a text is expanded**, at an instant and in a world, with the thesaurus
and the world that are left: the map that is kept may still be used, or the source is asked for
one. -/
inductive Thesaurus.Expands (source : SynonymSource σ) (now : Nat) (thesaurus : Thesaurus)
    (world : σ) : Expansion → Thesaurus → σ → Prop
  | kept {map : SynonymMap} (fresh : thesaurus.fresh? now = some map) :
    Expands source now thesaurus world ⟨map, none⟩ thesaurus world
  | loaded {load : SynonymLoad} {after : σ} (stale : thesaurus.fresh? now = none)
    (loads : source.load world = (load, after)) :
    Expands source now thesaurus world ⟨(thesaurus.settle now load).1, some load⟩
      (thesaurus.settle now load).2 after

namespace Session

/-- The session once a text has been expanded. -/
def expandedBy (expansion : Expansion) (thesaurus : Thesaurus) (world : σ) (s : Session σ) :
    Session σ where
  guarded := { s.guarded with clock := s.clock + 1, world := world }
  thesaurus := thesaurus
  cache := s.cache
  journal := s.journal ++ expansion.entries

/-- **The look-up of synonyms** is an expansion. -/
theorem exists_expansion (source : SynonymSource σ) (s : Session σ) :
    ∃ expansion thesaurus world,
      s.thesaurus.Expands source (s.clock + 1) s.guarded.world expansion thesaurus world ∧
        synonyms source s = (expansion.map, s.expandedBy expansion thesaurus world) := by
  rw [synonyms_eq]
  cases hfresh : s.thesaurus.fresh? (s.clock + 1) with
  | some map =>
    refine ⟨_, _, _, .kept hfresh, ?_⟩
    simp only [consulted, afterConsulting, Thesaurus.get, hfresh, expandedBy, Expansion.entries,
      Option.toList_none, List.map_nil, List.append_nil]
  | none =>
    refine ⟨_, _, _, .loaded hfresh rfl, ?_⟩
    simp only [consulted, afterConsulting, Thesaurus.get, hfresh]
    rfl

/-- **What comes of expanding a text** in a session: with the map a step is made from the session
that the expansion leaves, and the thesaurus stays as the expansion leaves it. -/
def ExpandsInto {α : Type} (source : SynonymSource σ) (s : Session σ)
    (step : SynonymMap → StateM (Session σ) α) (expansion : Expansion) (outcome : α × Session σ) :
    Prop :=
  ∃ thesaurus world,
    s.thesaurus.Expands source (s.clock + 1) s.guarded.world expansion thesaurus world ∧
      outcome = step expansion.map (s.expandedBy expansion thesaurus world) ∧
      outcome.2.thesaurus = thesaurus

end Session

namespace Shop

variable (shop : Shop σ)

/-- The listing of a filter whose words are widened by a map at hand. -/
def runBy (filter : Filter) (started : Nat) (map : SynonymMap) : StateM (Session σ) Listing :=
  fun s => finished started (shop.respond (shop.widenedBy map (shop.prepared filter)) s)

/-- The counts for a filter whose words are widened by a map at hand. -/
def facetsBy (filter : Filter) (taxonomies : List String) (map : SynonymMap) :
    StateM (Session σ) (SortedMap String (SortedMap Int Nat)) :=
  shop.counts (shop.widenedBy map (shop.normalized filter)) taxonomies

/-- **A deed expands a text**: a search unless it is cut short, counts if the engine is up. -/
def Widens (deed : Deed σ) (s : Session σ) : Prop :=
  match deed with
  | .search filter =>
    (shop.prepared filter).includeIds ≠ some [] ∧ (shop.prepared filter).text ≠ none
  | .facets filter _ => (shop.engineIsUp s).1 = true ∧ (shop.normalized filter).text ≠ none
  | .write _ | .elapse _ _ => False

/-- A filter with a text is widened by the map of an expansion. -/
theorem exists_expansion_widened {filter : Filter} (h : filter.text ≠ none) (s : Session σ) :
    ∃ expansion thesaurus world,
      s.thesaurus.Expands shop.synonyms (s.clock + 1) s.guarded.world expansion thesaurus world ∧
        shop.widened filter s =
          (shop.widenedBy expansion.map filter, s.expandedBy expansion thesaurus world) := by
  obtain ⟨text, htext⟩ := Option.ne_none_iff_exists'.1 h
  obtain ⟨expansion, thesaurus, world, hexpands, hsynonyms⟩ := s.exists_expansion shop.synonyms
  refine ⟨expansion, thesaurus, world, hexpands, ?_⟩
  rw [shop.widened_of_some htext, ← Session.fst_synonyms, hsynonyms]

variable {shop}

/-- **A search that expands a text** goes by the map of an expansion. -/
theorem exists_expandsInto_run {filter : Filter} {s : Session σ}
    (h : shop.Widens (.search filter) s) :
    ∃ expansion, s.ExpandsInto shop.synonyms (shop.runBy filter s.clock) expansion
      (shop.run filter s) := by
  obtain ⟨hsomething, htext⟩ := h
  obtain ⟨expansion, thesaurus, world, hexpands, hwidened⟩ := shop.exists_expansion_widened htext s
  refine ⟨expansion, thesaurus, world, hexpands, ?_, ?_⟩
  · rw [shop.run_of_something hsomething, expanded, hwidened]
    rfl
  · rw [thesaurus_run, if_neg hsomething, expanded, hwidened]
    rfl

/-- **Counts that expand a text** go by the map of an expansion, once the engine's health is
known. -/
theorem exists_expandsInto_facets {filter : Filter} {taxonomies : List String} {s : Session σ}
    (h : shop.Widens (.facets filter taxonomies) s) :
    ∃ expansion, (shop.engineIsUp s).2.ExpandsInto shop.synonyms (shop.facetsBy filter taxonomies)
      expansion (shop.facets filter taxonomies s) := by
  obtain ⟨hup, htext⟩ := h
  obtain ⟨expansion, thesaurus, world, hexpands, hwidened⟩ :=
    shop.exists_expansion_widened htext (shop.engineIsUp s).2
  refine ⟨expansion, thesaurus, world, hexpands, ?_, ?_⟩
  · unfold facets
    rw [bind_apply, if_pos hup, bind_apply, hwidened]
    rfl
  · rw [thesaurus_facets, if_pos hup, hwidened]
    rfl

/-- **Any other deed** leaves the thesaurus as it is, or without a map. -/
theorem thesaurus_of_not_widens {deed : Deed σ} {s : Session σ} (h : ¬shop.Widens deed s) :
    (shop.perform deed s).thesaurus = s.thesaurus ∨
      (shop.perform deed s).thesaurus.snapshot = none := by
  cases deed with
  | search filter =>
    refine .inl ((shop.thesaurus_run filter s).trans ?_)
    split_ifs with hnothing
    · rfl
    · have htext : (shop.prepared filter).text = none :=
        Classical.not_not.1 fun htext => h ⟨hnothing, htext⟩
      rw [expanded, shop.widened_of_none htext]
  | facets filter taxonomies =>
    refine .inl ((shop.thesaurus_facets filter taxonomies s).trans ?_)
    split_ifs with hup
    · have htext : (shop.normalized filter).text = none :=
        Classical.not_not.1 fun htext => h ⟨hup, htext⟩
      rw [shop.widened_of_none htext]
      rfl
    · rfl
  | write event =>
    have hheard : (shop.perform (.write event) s).thesaurus = (s.heard event).thesaurus := by
      rw [perform, invalidate, Session.invalidate_eq]
      split <;> rfl
    rw [hheard, Session.heard]
    split_ifs
    · exact .inr rfl
    · exact .inl rfl
  | elapse pause change => exact .inl rfl

end Shop

/-! ### Maps that were loaded since -/

/-- A map that was loaded in one of the expansions; or it is empty, as when all loads failed. -/
def LoadedIn (since : List Expansion) (map : SynonymMap) : Prop :=
  map = ∅ ∨ ∃ expansion ∈ since, ∃ load, expansion.load = some load ∧
    ∃ groups, load.groups = .ok groups ∧ map = .ofGroups groups

theorem LoadedIn.append {since : List Expansion} {map : SynonymMap} (h : LoadedIn since map)
    (expansion : Expansion) : LoadedIn (since ++ [expansion]) map := by
  refine h.imp_right ?_
  rintro ⟨earlier, hmem, hload⟩
  exact ⟨earlier, List.mem_append_left _ hmem, hload⟩

/-- A thesaurus that has heard of nothing but the expansions. -/
structure Thesaurus.IsFresh (since : List Expansion) (thesaurus : Thesaurus) : Prop where
  unread : since = [] → thesaurus.snapshot = none
  loaded : ∀ snapshot, thesaurus.snapshot = some snapshot → LoadedIn since snapshot.map

/-- **A fresh expansion**, given those since some time: the first of all loads its map, a load that
succeeds is what it goes by, and it never goes by a map from before. -/
structure Expansion.IsFresh (since : List Expansion) (expansion : Expansion) : Prop where
  reloads : since = [] → expansion.load ≠ none
  goesBy : ∀ load groups, expansion.load = some load → load.groups = .ok groups →
    expansion.map = .ofGroups groups
  loaded : LoadedIn (since ++ [expansion]) expansion.map

/-- A map that may be used is the one that is kept. -/
theorem Thesaurus.exists_of_fresh? {thesaurus : Thesaurus} {now : Nat} {map : SynonymMap}
    (h : thesaurus.fresh? now = some map) :
    ∃ snapshot, thesaurus.snapshot = some snapshot ∧ snapshot.map = map := by
  unfold fresh? at h
  split at h
  · rename_i snapshot hsnapshot
    split_ifs at h
    exact ⟨snapshot, hsnapshot, Option.some.inj h⟩
  · cases h

/-- What is kept after a load is the map that it leads to. -/
theorem Thesaurus.map_of_settle {thesaurus : Thesaurus} {now : Nat} {load : SynonymLoad}
    {snapshot : SynonymSnapshot} (h : (thesaurus.settle now load).2.snapshot = some snapshot) :
    snapshot.map = (thesaurus.settle now load).1 := by
  obtain ⟨groups, interrupted⟩ := load
  cases groups <;> cases interrupted <;> cases h <;> rfl

/-- A load leads to the map that it delivers, or if it fails, to the one that was kept. -/
theorem Thesaurus.IsFresh.settle {since : List Expansion} {thesaurus : Thesaurus}
    (h : thesaurus.IsFresh since) (now : Nat) (load : SynonymLoad) {expansion : Expansion}
    (hload : expansion.load = some load) :
    LoadedIn (since ++ [expansion]) (thesaurus.settle now load).1 := by
  obtain ⟨groups, interrupted⟩ := load
  cases groups with
  | ok groups =>
    exact .inr ⟨expansion, List.mem_append_right _ (List.mem_singleton_self _), _, hload, groups,
      rfl, rfl⟩
  | error fault =>
    cases interrupted with
    | true => exact .inl rfl
    | false =>
      change LoadedIn _ thesaurus.lastMap
      rw [lastMap]
      split
      · rename_i snapshot hsnapshot
        exact (h.loaded snapshot hsnapshot).append expansion
      · exact .inl rfl

/-- **An expansion with a fresh thesaurus is fresh**, and leaves it fresh. -/
theorem Thesaurus.IsFresh.expands {since : List Expansion} {thesaurus after : Thesaurus}
    (h : thesaurus.IsFresh since) {source : SynonymSource σ} {now : Nat} {world next : σ}
    {expansion : Expansion} (hexpands : thesaurus.Expands source now world expansion after next) :
    expansion.IsFresh since ∧ after.IsFresh (since ++ [expansion]) := by
  have hunread {thesaurus : Thesaurus} (hnil : since ++ [expansion] = []) :
      thesaurus.snapshot = none := by simp at hnil
  cases hexpands with
  | kept hfresh =>
    -- the map is kept, so it was loaded before
    obtain ⟨snapshot, hsnapshot, rfl⟩ := exists_of_fresh? hfresh
    refine ⟨⟨fun hnil => ?_, nofun, (h.loaded snapshot hsnapshot).append _⟩, hunread,
      fun kept hkept => (h.loaded kept hkept).append _⟩
    rw [h.unread hnil] at hsnapshot
    cases hsnapshot
  | @loaded load _ _ _ =>
    have hloaded : LoadedIn (since ++ [⟨(thesaurus.settle now load).1, some load⟩])
        (thesaurus.settle now load).1 := h.settle now load rfl
    refine ⟨⟨fun _ => Option.some_ne_none _, fun delivered groups hload hgroups => ?_, hloaded⟩,
      hunread, fun kept hkept => ?_⟩
    · obtain rfl := Option.some.inj hload
      simp only [Thesaurus.settle, hgroups]
    · rwa [map_of_settle hkept]

namespace Shop

variable {shop : Shop σ}

/-- A deed that expands no text keeps a thesaurus fresh. -/
theorem isFresh_of_not_widens {since : List Expansion} {deed : Deed σ} {s : Session σ}
    (h : s.thesaurus.IsFresh since) (hnot : ¬shop.Widens deed s) :
    (shop.perform deed s).thesaurus.IsFresh since := by
  rcases thesaurus_of_not_widens hnot with hsame | hnone
  · rwa [hsame]
  · refine ⟨fun _ => hnone, fun snapshot hsnapshot => ?_⟩
    rw [hnone] at hsnapshot
    cases hsnapshot

/-- A write to the synonyms leaves no map of them. -/
theorem isFresh_write (s : Session σ) :
    (shop.perform (.write .synonymsChanged) s).thesaurus.IsFresh [] := by
  have hnone : (shop.perform (.write .synonymsChanged) s).thesaurus.snapshot = none := by
    rw [perform, invalidate, Session.invalidate_eq]
    split <;> rfl
  refine ⟨fun _ => hnone, fun snapshot hsnapshot => ?_⟩
  rw [hnone] at hsnapshot
  cases hsnapshot

end Shop

end Storefront
