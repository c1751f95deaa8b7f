import Mathlib.Data.List.Sort
import Storefront.Proofs.Listing.Views
import Storefront.Proofs.Placement.Pinned
import Storefront.Proofs.Search.Upkeep

/-!
# What pins change of a search

Pins move documents within a page and do nothing else to a search: a shop with pins asks what the
same shop without them asks (`Shop.withoutPins`), and each page it shows has the documents of the
other shop's page. Not even a result cache tells the two apart, though it keeps pages as they are
shown: a search never looks into what is kept, so sessions that keep the same pages but for the
order of their documents stay so (`Session.inIdOrder`, `Shop.run_withoutPins`).

Search after search, the pages that are shown are therefore the pages of the shop without pins, each
arranged by itself (`pins_arrange_each_page`).
-/

namespace Storefront

variable {σ : Type}

/-! ### Pages but for the order of their documents -/

namespace Listing

/-- The listing with its documents in the order of their identifiers. -/
def inIdOrder (listing : Listing) : Listing :=
  { listing with ids := listing.ids.mergeSort (· ≤ ·) }

/-- **A listing shows what another shows**, its documents in some other order. -/
structure Reorders (shown plain : Listing) : Prop where
  perm : shown.ids.Perm plain.ids
  rest : shown = { plain with ids := shown.ids }

theorem reorders_iff {shown plain : Listing} :
    shown.Reorders plain ↔ shown.inIdOrder = plain.inIdOrder := by
  constructor
  · rintro ⟨hperm, hrest⟩
    have hids : shown.ids.mergeSort (· ≤ ·) = plain.ids.mergeSort (· ≤ ·) :=
      List.Perm.eq_of_pairwise' (List.pairwise_mergeSort' (· ≤ ·) _)
        (List.pairwise_mergeSort' (· ≤ ·) _)
        ((List.mergeSort_perm _ _).trans (hperm.trans (List.mergeSort_perm _ _).symm))
    rw [inIdOrder, hids, hrest]
    rfl
  · intro h
    have hids : shown.ids.mergeSort (· ≤ ·) = plain.ids.mergeSort (· ≤ ·) := congrArg ids h
    refine ⟨?_, ?_⟩
    · have hsorted := List.mergeSort_perm plain.ids (· ≤ ·)
      rw [← hids] at hsorted
      exact (List.mergeSort_perm _ _).symm.trans hsorted
    · -- the other fields are those of the sorted listings
      exact congrArg (fun listing : Listing => { listing with ids := shown.ids }) h

/-- Pages that have the same documents one by one have them all in all. -/
theorem flatMap_ids_perm {R : Listing → Listing → Prop}
    (hR : ∀ plain shown, R plain shown → shown.ids.Perm plain.ids) {plains showns : List Listing}
    (h : List.Forall₂ R plains showns) : (showns.flatMap ids).Perm (plains.flatMap ids) := by
  induction h with
  | nil => exact .nil
  | cons hpage _ ih =>
    rw [List.flatMap_cons, List.flatMap_cons]
    exact (hR _ _ hpage).append ih

end Listing

/-- The session with the pages it keeps in the order of identifiers. -/
def Session.inIdOrder (s : Session σ) : Session σ :=
  { s with cache := s.cache.map (BoundedCache.map Listing.inIdOrder) }

theorem Session.cache_inIdOrder (s : Session σ) :
    s.inIdOrder.cache = s.cache.map (BoundedCache.map Listing.inIdOrder) := rfl

/-- A step that goes along with what is seen of a state does not tell apart states that look alike.
-/
theorem seen_eq {S α : Type} {see : S → S} {step : S → α × S}
    (hstep : ∀ s, step (see s) = ((step s).1, see (step s).2)) {s t : S} (h : see s = see t) :
    (step s).1 = (step t).1 ∧ see (step s).2 = see (step t).2 :=
  Prod.mk.inj ((hstep s).symm.trans ((congrArg step h).trans (hstep t)))

theorem Session.clock_eq {s t : Session σ} (h : s.inIdOrder = t.inIdOrder) : s.clock = t.clock := by
  change s.inIdOrder.clock = t.inIdOrder.clock
  rw [h]

/-- A dialogue does not tell apart what the questions do not. -/
theorem Dialogue.run_see {α S : Type} {see : S → S}
    {ask : String → ExceptT EngineFault (StateM S) Answer}
    (hask : ∀ text s, (ask text).run (see s) = (((ask text).run s).1, see ((ask text).run s).2))
    (dialogue : Dialogue α) (s : S) :
    (dialogue.run ask).run (see s) =
      (((dialogue.run ask).run s).1, see ((dialogue.run ask).run s).2) := by
  induction dialogue generalizing s with
  | done result => cases result <;> rfl
  | ask statement next ih =>
    have hrun (t : S) : ((Dialogue.ask statement next).run ask).run t =
        match (ask statement.render).run t with
        | (.ok answer, after) => ((next answer).run ask).run after
        | (.error fault, after) => (.error fault, after) := by
      rw [run, ExceptT.run_bind]
      change StateT.bind (ask statement.render).run _ t = _
      rw [StateT.bind]
      rcases (ask statement.render).run t with ⟨fault | answer, after⟩ <;> rfl
    rw [hrun, hrun, hask]
    rcases (ask statement.render).run s with ⟨fault | answer, after⟩
    · rfl
    · exact ih answer after

namespace Shop

variable (shop : Shop σ)

/-! ### Steps that do not look into what is kept -/

theorem engineIsUp_inIdOrder (s : Session σ) :
    shop.engineIsUp s.inIdOrder = ((shop.engineIsUp s).1, (shop.engineIsUp s).2.inIdOrder) := rfl

theorem led_inIdOrder (filter : Filter) (s : Session σ) :
    shop.led filter s.inIdOrder = ((shop.led filter s).1, (shop.led filter s).2.inIdOrder) :=
  Dialogue.run_see (fun _ _ => rfl) _ s

theorem expanded_inIdOrder (filter : Filter) (s : Session σ) :
    shop.expanded filter s.inIdOrder =
      ((shop.expanded filter s).1, (shop.expanded filter s).2.inIdOrder) := by
  rw [expanded, expanded]
  cases htext : (shop.prepared filter).text with
  | none => rw [shop.widened_of_none htext, shop.widened_of_none htext]
  | some text =>
    have hconsulted : s.inIdOrder.consulted shop.synonyms = s.consulted shop.synonyms := rfl
    rw [shop.widened_of_some htext, shop.widened_of_some htext, Session.synonyms_eq,
      Session.synonyms_eq, hconsulted]
    cases (s.consulted shop.synonyms).1.load <;> rfl

theorem fallBack_inIdOrder (filter : Filter) (reason : FallbackReason) (s : Session σ) :
    shop.fallBack filter reason s.inIdOrder =
      ((shop.fallBack filter reason s).1, (shop.fallBack filter reason s).2.inIdOrder) := by
  cases horigin : shop.origin with
  | none => rw [shop.fallBack_of_none horigin, shop.fallBack_of_none horigin]; rfl
  | some origin => rw [shop.fallBack_of_some horigin, shop.fallBack_of_some horigin]; rfl

/-- A look-up finds a page or none, whatever the order of its documents. -/
theorem cached_inIdOrder (filter : Filter) (s : Session σ) :
    shop.cached filter s.inIdOrder =
      ((shop.cached filter s).1.map Listing.inIdOrder, (shop.cached filter s).2.inIdOrder) := by
  have hmapped := s.cache_inIdOrder
  cases hcache : s.cache with
  | none =>
    rw [hcache] at hmapped
    rw [shop.cached_of_none hcache, shop.cached_of_none hmapped]
    rfl
  | some cache =>
    rw [hcache] at hmapped
    have hclock : s.inIdOrder.clock = s.clock := rfl
    rw [shop.cached_of_some hcache, shop.cached_of_some hmapped, hclock, BoundedCache.get_map]
    cases (cache.get s.clock (shop.key filter)).1 <;> rfl

theorem store_inIdOrder (filter : Filter) (listing : Listing) (s : Session σ) :
    (shop.store filter listing.inIdOrder s.inIdOrder).2 =
      (shop.store filter listing s).2.inIdOrder := by
  have hmapped := s.cache_inIdOrder
  cases hcache : s.cache with
  | none =>
    rw [hcache] at hmapped
    rw [shop.store_of_none hcache, shop.store_of_none hmapped]
  | some cache =>
    rw [hcache] at hmapped
    have hclock : s.inIdOrder.clock = s.clock := rfl
    rw [shop.store_of_some hcache, shop.store_of_some hmapped, hclock, stored, BoundedCache.set_map,
      BoundedCache.size_map]
    rfl

/-! ### Pages as the pins arrange them -/

/-- The shop without its pins. -/
def withoutPins : Shop σ :=
  { shop with pins := none }

theorem engineIsUp_withoutPins : shop.withoutPins.engineIsUp = shop.engineIsUp := rfl

theorem led_withoutPins : shop.withoutPins.led = shop.led := rfl

theorem expanded_withoutPins : shop.withoutPins.expanded = shop.expanded := rfl

theorem cached_withoutPins : shop.withoutPins.cached = shop.cached := rfl

theorem overlay_perm (filter : Filter) (ids : List Int) : (shop.overlay filter ids).Perm ids := by
  unfold overlay
  split
  · exact List.mergeSort_perm _ _
  · exact .refl _

theorem inIdOrder_pinned (filter : Filter) (listing : Listing) :
    (shop.pinned filter listing).inIdOrder = listing.inIdOrder := by
  rw [pinned_eq]
  exact Listing.reorders_iff.1 ⟨shop.overlay_perm filter listing.ids, rfl⟩

/-- **One page is that of another shop, arranged**, and the sessions keep the same afterwards. -/
structure Arranged (filter : Filter) (shown plain : Listing × Session σ) : Prop where
  listing : shown.1 = shop.pinned filter plain.1
  session : shown.2.inIdOrder = plain.2.inIdOrder

variable {s t : Session σ}

theorem arranged_degrade (h : s.inIdOrder = t.inIdOrder) (filter : Filter)
    (reason : FallbackReason) :
    shop.Arranged filter (shop.degrade filter reason s)
      (shop.withoutPins.degrade filter reason t) := by
  obtain ⟨hpage, hafter⟩ := seen_eq (shop.fallBack_inIdOrder filter reason) h
  exact ⟨congrArg (shop.pinned filter) hpage, hafter⟩

theorem arranged_deliver (h : s.inIdOrder = t.inIdOrder) (filter : Filter) (rows : PageRows) :
    shop.Arranged filter (shop.deliver filter rows s) (shop.withoutPins.deliver filter rows t) := by
  refine ⟨rfl, ?_⟩
  have hnoted (u : Session σ) :
      (if filter.inStockFirst then u.noted (.stockRoundTrips rows.roundTrips) else u).inIdOrder =
        if filter.inStockFirst then u.inIdOrder.noted (.stockRoundTrips rows.roundTrips)
        else u.inIdOrder := by
    split_ifs <;> rfl
  rw [deliver, deliver, ← store_inIdOrder, ← store_inIdOrder, inIdOrder_pinned, inIdOrder_pinned,
    hnoted, hnoted, h]
  rfl

theorem arranged_make (h : s.inIdOrder = t.inIdOrder) (filter : Filter) :
    shop.Arranged filter (shop.make filter s) (shop.withoutPins.make filter t) := by
  obtain ⟨hhealth, hafter⟩ := seen_eq shop.engineIsUp_inIdOrder h
  rw [make_eq, make_eq, engineIsUp_withoutPins, led_withoutPins, hhealth]
  split_ifs
  · obtain ⟨hreply, hlast⟩ := seen_eq (shop.led_inIdOrder filter) hafter
    generalize shop.led filter (shop.engineIsUp s).2 = left at hreply hlast ⊢
    generalize shop.led filter (shop.engineIsUp t).2 = right at hreply hlast ⊢
    obtain ⟨reply, last⟩ := left
    obtain ⟨_, last'⟩ := right
    obtain rfl : reply = _ := hreply
    cases reply with
    | error fault => exact shop.arranged_degrade hlast filter _
    | ok rows => exact shop.arranged_deliver hlast filter rows
  · exact shop.arranged_degrade hafter filter _

/-! ### The whole run -/

/-- **What is shown for a filter** to what is shown without pins: the same page, its documents in
some order, and unless the page comes from the cache in the order that the pins give it. -/
structure Shows (filter : Filter) (shown plain : Listing) : Prop where
  reorders : shown.Reorders plain
  arranged : shown.source ≠ .cache →
    shown.ids = shop.overlay (shop.prepared filter) plain.ids

theorem overlay_of_expanded (filter : Filter) (s : Session σ) (ids : List Int) :
    shop.overlay (shop.expanded filter s).1 ids = shop.overlay (shop.prepared filter) ids := by
  obtain ⟨wording, hexpanded⟩ := shop.exists_wording filter s
  rw [hexpanded]
  rfl

/-- What ends a search leaves its page as it is, and notes nothing that tells the order. -/
theorem shows_finished {shown plain : Listing × Session σ} {filter : Filter}
    (hshows : shop.Shows filter shown.1 plain.1) (hafter : shown.2.inIdOrder = plain.2.inIdOrder)
    (started : Nat) :
    shop.Shows filter (finished started shown).1 (finished started plain).1 ∧
      (finished started shown).2.inIdOrder = (finished started plain).2.inIdOrder := by
  have hclock := Session.clock_eq hafter
  have hsame := Listing.reorders_iff.1 hshows.reorders
  refine ⟨⟨Listing.reorders_iff.2 ?_, hshows.arranged⟩, ?_⟩
  · change { shown.1.inIdOrder with latency := shown.2.clock - started } =
      { plain.1.inIdOrder with latency := plain.2.clock - started }
    rw [hsame, hclock]
  · -- what is noted is the same of both pages in the order of identifiers
    have hnoted (outcome : Listing × Session σ) : (finished started outcome).2.inIdOrder =
        (outcome.2.inIdOrder.noted
          (.search outcome.1.inIdOrder.source outcome.1.inIdOrder.fallback)).noted
            (.matchCount outcome.1.inIdOrder.total) := rfl
    rw [hnoted, hnoted, hsame, hafter]

/-- An empty page is arranged already. -/
theorem run_withoutPins_of_nothing {filter : Filter}
    (hnothing : (shop.prepared filter).includeIds = some []) (h : s.inIdOrder = t.inIdOrder) :
    shop.Shows filter (shop.run filter s).1 (shop.withoutPins.run filter t).1 ∧
      (shop.run filter s).2.inIdOrder = (shop.withoutPins.run filter t).2.inIdOrder := by
  have hempty : [] = shop.overlay (shop.prepared filter) [] :=
    (shop.overlay_perm (shop.prepared filter) []).eq_nil.symm
  rw [shop.run_of_nothing hnothing, shop.withoutPins.run_of_nothing hnothing, Session.clock_eq h]
  refine shop.shows_finished ?_ ?_ t.clock
  · exact ⟨Listing.reorders_iff.2 rfl, fun _ => hempty⟩
  · exact h

theorem source_of_cached {filter : Filter} {found : Listing}
    (h : (shop.cached filter s).1 = some found) : found.source = .cache := by
  obtain ⟨kept, -, rfl⟩ := shop.kept?_of_cached h
  rfl

/-- **A search shows the page of the shop without pins**, arranged, if the sessions keep the same
pages but for the order of their documents. And so they do afterwards. -/
theorem run_withoutPins (h : s.inIdOrder = t.inIdOrder) (filter : Filter) :
    shop.Shows filter (shop.run filter s).1 (shop.withoutPins.run filter t).1 ∧
      (shop.run filter s).2.inIdOrder = (shop.withoutPins.run filter t).2.inIdOrder := by
  by_cases hnothing : (shop.prepared filter).includeIds = some []
  · exact shop.run_withoutPins_of_nothing hnothing h
  rw [shop.run_of_something hnothing, shop.withoutPins.run_of_something hnothing, respond_eq,
    respond_eq, expanded_withoutPins, cached_withoutPins, Session.clock_eq h]
  -- both search by the same filter, whose category is that of the search
  obtain ⟨hfilter, hsession⟩ := seen_eq (shop.expanded_inIdOrder filter) h
  have hcategory := shop.overlay_of_expanded filter s
  rw [← hfilter]
  generalize (shop.expanded filter s).1 = expanded at hcategory
  generalize (shop.expanded filter s).2 = s at hsession
  generalize (shop.expanded filter t).2 = t at hsession
  -- both find a page that is kept, or neither does
  have hcached := shop.cached_inIdOrder expanded s
  rw [hsession, cached_inIdOrder] at hcached
  obtain ⟨hfound, hafter⟩ := Prod.mk.inj hcached
  have hsource : ∀ found, (shop.cached expanded s).1 = some found → found.source = .cache :=
    fun _ => shop.source_of_cached
  generalize shop.cached expanded s = left at hfound hafter hsource ⊢
  generalize shop.cached expanded t = right at hfound hafter ⊢
  obtain ⟨_ | found, after⟩ := left <;> obtain ⟨_ | found', after'⟩ := right
  · have hmade := shop.arranged_make hafter.symm expanded
    refine shop.shows_finished ⟨Listing.reorders_iff.2 ?_, fun _ => ?_⟩ hmade.session _
    · rw [hmade.listing, inIdOrder_pinned]
    · rw [hmade.listing, pinned_eq, hcategory]
  · cases hfound
  · cases hfound
  · have hsame := Listing.reorders_iff.2 (Option.some.inj hfound).symm
    exact shop.shows_finished ⟨hsame, fun hnot => absurd (hsource found rfl) hnot⟩ hafter.symm _

/-- **Search after search** it is so, page by page. -/
theorem mapM_run_withoutPins (h : s.inIdOrder = t.inIdOrder) (filters : List Filter)
    {R : Listing → Listing → Prop}
    (hR : ∀ filter ∈ filters, ∀ plain shown, shop.Shows filter shown plain → R plain shown) :
    List.Forall₂ R (filters.mapM shop.withoutPins.run t).1 (filters.mapM shop.run s).1 := by
  induction filters generalizing s t with
  | nil => exact .nil
  | cons filter rest ih =>
    obtain ⟨hshows, hafter⟩ := shop.run_withoutPins h filter
    rw [List.mapM_cons, List.mapM_cons]
    exact .cons (hR filter (List.mem_cons_self ..) _ _ hshows)
      (ih hafter fun other hother => hR other (List.mem_cons_of_mem _ hother))

theorem overlay_of_category {board : PinBoard} {filter : Filter} {category : Int}
    (hpins : shop.pins = some board) (hcategory : filter.category = some category)
    (hpositive : 0 < category) (ids : List Int) :
    shop.overlay (shop.prepared filter) ids = board.apply category ids := by
  have hprepared : (shop.prepared filter).category = some category := by
    change filter.category.filter (0 < ·) = some category
    simp [hcategory, hpositive]
  simp only [overlay, hpins, hprepared]

end Shop

/-- **Pins arrange each page by itself**, and do nothing else.

* On a board the last pin of a document in a category counts. A page that is laid out by it is
  arranged, no other page is, it stays as it is when it is laid out again, and the pins of other
  categories do not matter.
* Whatever is searched for in a category, from whatever session: page by page, a shop with the board
  shows what it would show without, with the same documents, and unless the page comes from the
  cache they are arranged. So over all pages no document is lost, doubled, or moved to another page.
  -/
theorem pins_arrange_each_page :
    (∀ (board : PinBoard) (pin : Pin) (category document : Int),
      PinBoard.empty.position? category document = none ∧
      (board.add pin).position? category document =
        if pin.category = category ∧ pin.document = document then some pin.position
        else board.position? category document) ∧
    (∀ (board : PinBoard) (category : Int) (ids : List Int),
      board.Arranges category ids (board.apply category ids) ∧
      (∀ arranged, board.Arranges category ids arranged → arranged = board.apply category ids) ∧
      board.apply category (board.apply category ids) = board.apply category ids ∧
      ∀ other : PinBoard, other.within category = board.within category →
        other.apply category ids = board.apply category ids) ∧
    ∀ {σ : Type} (shop : Shop σ) (board : PinBoard) (category : Int) (filters : List Filter)
      (s : Session σ), shop.pins = some board → 0 < category →
      (∀ filter ∈ filters, filter.category = some category) →
      List.Forall₂ (fun plain shown => Listing.Reorders shown plain ∧
          (shown.source ≠ .cache → board.Arranges category plain.ids shown.ids))
        (filters.mapM shop.withoutPins.run s).1 (filters.mapM shop.run s).1 ∧
      ((filters.mapM shop.run s).1.flatMap Listing.ids).Perm
        ((filters.mapM shop.withoutPins.run s).1.flatMap Listing.ids) := by
  refine ⟨fun board pin category document =>
      ⟨PinBoard.position?_empty category document, board.position?_add pin category document⟩,
    fun board category ids => ⟨board.arranges_apply category ids,
      fun arranged h => PinBoard.arranges_iff.1 h, board.apply_apply category ids,
      fun other h => PinBoard.apply_eq_of_within_eq h ids⟩, ?_⟩
  intro σ shop board category filters s hpins hpositive hcategory
  have hpages : List.Forall₂ (fun plain shown => Listing.Reorders shown plain ∧
      (shown.source ≠ .cache → board.Arranges category plain.ids shown.ids))
      (filters.mapM shop.withoutPins.run s).1 (filters.mapM shop.run s).1 := by
    refine shop.mapM_run_withoutPins rfl filters fun filter hfilter plain shown hshows => ?_
    refine ⟨hshows.reorders, fun hsource => PinBoard.arranges_iff.2 ?_⟩
    rw [hshows.arranged hsource,
      shop.overlay_of_category hpins (hcategory filter hfilter) hpositive]
  exact ⟨hpages, Listing.flatMap_ids_perm (fun _ _ hpage => hpage.1.perm) hpages⟩

/-- A board with documents as far in front and as far back as can be, one of them placed twice. -/
def frontBoard : PinBoard :=
  ⟨[⟨5, 3, Number.maxId⟩, ⟨5, 1, 7⟩, ⟨5, 2, Number.minId⟩, ⟨5, 1, Number.minId⟩, ⟨6, 4, 0⟩]⟩

/-- A shop with the board, whose engine finds the same documents on every page. -/
def frontShop : Shop Unit :=
  { Shop.answering (.found ⟨["id"], [4, 3, 1, 2, 1].map fun id => [.whole id]⟩ 10) with
    pins := some frontBoard }

/-- Two pages of category 5. -/
def frontPages : List Filter :=
  [1, 2].map fun page => { Filter.products with category := some 5, page := page }

/-- Documents in front, documents of one position, a document twice and one without a pin. -/
theorem exists_pages_arranged :
    frontBoard.apply 5 [4, 3, 1, 2, 1] = [1, 2, 1, 3, 4] ∧
      frontShop.pins = some frontBoard ∧ (0 : Int) < 5 ∧
      (∀ filter ∈ frontPages, filter.category = some 5) ∧
      (frontPages.mapM frontShop.withoutPins.run .unused).1.map Listing.ids =
        [[4, 3, 1, 2, 1], [4, 3, 1, 2, 1]] ∧
      List.Forall₂ (fun plain shown => Listing.Reorders shown plain ∧
          (shown.source ≠ .cache → frontBoard.Arranges 5 plain.ids shown.ids))
        (frontPages.mapM frontShop.withoutPins.run .unused).1
        (frontPages.mapM frontShop.run .unused).1 := by
  have hcategory : ∀ filter ∈ frontPages, filter.category = some 5 := by decide
  refine ⟨?_, rfl, by decide, hcategory, by decide +kernel,
    (pins_arrange_each_page.2.2 frontShop frontBoard 5 frontPages .unused rfl (by decide)
      hcategory).1⟩
  simp [frontBoard, PinBoard.apply, PinBoard.precedes, PinBoard.position?, List.mergeSort,
    List.MergeSort.Internal.splitInTwo, Number.minId, Number.maxId]

end Storefront
