import Storefront.Proofs.Search.Freshness
import Storefront.Search.Wiring

/-!
# Wires that lead to the same parts

A desk is fitted with its parts in any order, and each fitting lays some wires anew. All of them leave
the desk in tune (`WiredDesk.InTune`): the expander holds the lexicon of the desk, and there are hooks
just if listings are kept, which hold that lexicon, that cache and the index by which keys are made.
At a desk in tune writes are heard where searches look, so that what is done at it is done in its
session (`WiredDesk.InTune.perform`): it is a `Desk` (`WiredDesk.view`), and what a session has after
a write is all new.

Which map of synonyms a deed goes by shows in what it hands out and leaves behind. It *goes by* an
expansion (`WiredDesk.GoesBy`) if all of that is as it has to be after a look-up in the lexicon of
the expander, with the map that was found there. Deeds go by *fresh* maps (`WiredDesk.Freshly`) if
none of these maps was loaded before some time.

Main statement: `WiredDesk.fresh_after_write`.
-/

namespace Storefront.WiredDesk

variable {σ : Type} {desk : WiredDesk σ}

/-! ### Fittings -/

/-- **All wires lead to the same parts.** -/
structure InTune (desk : WiredDesk σ) : Prop where
  expander : desk.expander = desk.lexicon
  hooks : desk.hooks = desk.cache.map fun cache => ⟨desk.settings.index, cache, desk.lexicon⟩

/-- A desk with several more parts, one after another. -/
def fitAll (fittings : List (Fitting σ)) (desk : WiredDesk σ) : WiredDesk σ :=
  fittings.foldl fit desk

/-- **A fitting leaves a desk in tune.** -/
theorem InTune.fit (h : desk.InTune) (fitting : Fitting σ) : (desk.fit fitting).InTune := by
  cases fitting with
  | synonyms lexicon =>
    have hhooks := h.hooks
    refine ⟨rfl, ?_⟩
    cases hcache : desk.cache with
    | none =>
      rw [hcache, Option.map_none] at hhooks
      simp only [WiredDesk.fit, hcache, hhooks, Option.map_none]
    | some cache => simp only [WiredDesk.fit, hcache, Option.map_some]
  | cache cache => exact ⟨h.expander, rfl⟩
  | origin origin => exact ⟨h.expander, h.hooks⟩
  | pins pins => exact ⟨h.expander, h.hooks⟩

theorem InTune.fitAll (h : desk.InTune) (fittings : List (Fitting σ)) :
    (desk.fitAll fittings).InTune := by
  induction fittings generalizing desk with
  | nil => exact h
  | cons fitting rest ih => exact ih (h.fit fitting)

/-- A fitting leaves the parts as they are. -/
theorem caches_fit (desk : WiredDesk σ) (fitting : Fitting σ) :
    (desk.fit fitting).caches = desk.caches := by
  cases fitting <;> rfl

theorem caches_fitAll (desk : WiredDesk σ) (fittings : List (Fitting σ)) :
    (desk.fitAll fittings).caches = desk.caches := by
  induction fittings generalizing desk with
  | nil => rfl
  | cons fitting rest ih => exact (ih (desk.fit fitting)).trans (desk.caches_fit fitting)

/-! ### Desks without wires -/

/-- A wired desk as searches see it. -/
def view (desk : WiredDesk σ) : Desk σ :=
  ⟨desk.shop, desk.session⟩

/-- A wired desk starts as a desk does. -/
theorem view_start (settings : Settings) (schema : Schema) (engine : Engine σ) (world : σ)
    (lexicons : Nat → Lexicon σ) (capacities : Nat → Nat) :
    (start settings schema engine world lexicons capacities).map view =
      Desk.start settings schema engine world := by
  rw [start, Desk.start]
  cases Planner.ofSettings schema settings <;> rfl

/-- New synonyms, an empty cache, an origin store and pins are fitted as they are to a desk. -/
theorem view_fit (desk : WiredDesk σ) :
    (∀ number source,
      desk.lexicons number = ⟨source, .ofTtl desk.settings.synonymTtl⟩ →
        (desk.fit (.synonyms number)).view = desk.view.withSynonyms source) ∧
      (∀ number capacity, desk.caches number = .ofCapacity capacity →
        (desk.fit (.cache number)).view = desk.view.withCache capacity) ∧
      (∀ origin, (desk.fit (.origin origin)).view = desk.view.withOrigin origin) ∧
      ∀ pins, (desk.fit (.pins pins)).view = desk.view.withPins pins := by
  refine ⟨fun number source h => ?_, fun number capacity h => ?_, fun _ => rfl, fun _ => rfl⟩
  · simp only [view, fit, shop, session, Desk.withSynonyms, h]
  · simp only [view, fit, shop, session, Desk.withCache, Session.withCache, Option.map_some, h]

/-! ### Deeds -/

/-- The desk after a deed. -/
def perform (deed : Deed σ) (desk : WiredDesk σ) : WiredDesk σ :=
  match deed with
  | .search filter => (search filter desk).2
  | .facets filter taxonomies => (facets filter taxonomies desk).2
  | .write event => (write event desk).2
  | .elapse pause change =>
    { desk with guarded := { desk.guarded with
      clock := desk.guarded.clock + pause, world := change desk.guarded.world } }

/-- The desk after several deeds. -/
def performAll (deeds : List (Deed σ)) (desk : WiredDesk σ) : WiredDesk σ :=
  deeds.foldl (fun desk deed => desk.perform deed) desk

/-- What searches leave behind is what searches find. -/
theorem view_keep {s : Session σ} (h : s.cache.isSome = desk.session.cache.isSome) :
    (desk.keep s).view = ⟨desk.shop, s⟩ := by
  have hshop : (desk.keep s).shop = desk.shop := by
    simp only [keep, shop, replace, if_true]
  have hcache : (desk.keep s).session.cache = s.cache := by
    change desk.cache.map (desk.keep s).caches = s.cache
    simp only [session, Option.isSome_map] at h
    simp only [keep]
    cases hnumber : desk.cache <;> cases hkept : s.cache <;> simp_all [replace]
  have hsession : (desk.keep s).session = s := by
    obtain ⟨guarded, thesaurus, cache, journal⟩ := s
    simp only [session, keep, replace, if_true] at hcache ⊢
    rw [hcache]
  rw [view, hshop, hsession]

/-- A lexicon that hears of a write keeps its source. -/
theorem shop_hear (event : WriteEvent) (lexicon : Nat) (desk : WiredDesk σ) :
    (desk.hear event lexicon).shop = desk.shop := by
  rw [hear]
  split_ifs
  · simp only [shop, replace]
    split_ifs with heq
    · rw [heq]
    · rfl
  · rfl

theorem session_hear (event : WriteEvent) (desk : WiredDesk σ) :
    (desk.hear event desk.expander).session = desk.session.heard event := by
  rw [hear, Session.heard]
  split_ifs
  · simp only [session, replace, if_true]
  · rfl

/-- Nothing else at a desk hears of a write. -/
theorem exists_hear (event : WriteEvent) (lexicon : Nat) (desk : WiredDesk σ) :
    ∃ lexicons, desk.hear event lexicon = { desk with lexicons := lexicons } := by
  rw [hear]
  split_ifs
  · exact ⟨_, rfl⟩
  · exact ⟨desk.lexicons, rfl⟩

theorem write_of_none (h : desk.hooks = none) (event : WriteEvent) :
    write event desk = (0, desk.hear event desk.lexicon) := by
  rw [write, h]

theorem write_of_some {hooks : Hooks} (h : desk.hooks = some hooks) (event : WriteEvent) :
    write event desk = pass hooks event desk := by
  rw [write, h]

namespace InTune

/-- **A write is heard where searches look.** -/
theorem write (h : desk.InTune) (event : WriteEvent) :
    (WiredDesk.write event desk).1 = (desk.shop.invalidate event desk.session).1 ∧
      (WiredDesk.write event desk).2.view =
        ⟨desk.shop, (desk.shop.invalidate event desk.session).2⟩ ∧
      (WiredDesk.write event desk).2.InTune := by
  obtain ⟨hexpander, hhooks⟩ := h
  obtain ⟨lexicons, hhear⟩ := desk.exists_hear event desk.lexicon
  have hshop : ({ desk with lexicons := lexicons } : WiredDesk σ).shop = desk.shop := by
    rw [← hhear, shop_hear]
  have hsession : ({ desk with lexicons := lexicons } : WiredDesk σ).session =
      desk.session.heard event := by
    rw [← hhear, ← hexpander, session_hear]
  cases hcache : desk.cache with
  | none =>
    rw [hcache] at hhooks
    have hwrite : WiredDesk.write event desk = (0, { desk with lexicons := lexicons }) := by
      rw [write_of_none hhooks, hhear]
    have hinvalidate : desk.shop.invalidate event desk.session =
        (0, desk.session.heard event) := by
      rw [Shop.invalidate, Session.invalidate_eq]
      simp only [session, hcache, Option.map_none]
    rw [hwrite, hinvalidate, view, hshop, hsession]
    exact ⟨rfl, rfl, hexpander, by rw [hcache]; exact hhooks⟩
  | some number =>
    rw [hcache] at hhooks
    generalize hdropped :
      (desk.caches number).invalidate (event.pattern desk.settings.index) = dropped
    have hwrite : WiredDesk.write event desk =
        (dropped.1, { desk with
          lexicons := lexicons
          caches := replace desk.caches number dropped.2
          journal := desk.journal ++ [.cacheInvalidated event dropped.1] }) := by
      rw [write_of_some hhooks, pass, hhear, ← hdropped]
    have hinvalidate : desk.shop.invalidate event desk.session =
        (dropped.1, Session.noted (.cacheInvalidated event dropped.1)
          { desk.session.heard event with cache := some dropped.2 }) := by
      rw [Shop.invalidate, Session.invalidate_eq]
      simp only [session, hcache, Option.map_some, shop, hdropped]
    rw [hwrite, hinvalidate]
    refine ⟨rfl, ?_, hexpander, by rw [hcache]; exact hhooks⟩
    rw [← hsession]
    refine congrArg₂ Desk.mk hshop ?_
    simp only [session, hcache, Option.map_some, replace, if_true, Session.noted]

/-- **A deed at a desk in tune** is done in its session, and leaves the desk in tune. -/
theorem perform (h : desk.InTune) (deed : Deed σ) :
    (desk.perform deed).InTune ∧
      (desk.perform deed).view = ⟨desk.shop, desk.shop.perform deed desk.session⟩ := by
  cases deed with
  | search filter =>
    exact ⟨⟨h.expander, h.hooks⟩, view_keep (desk.shop.isSome_cache_run filter desk.session)⟩
  | facets filter taxonomies =>
    have hcache := desk.shop.cache_facets filter taxonomies desk.session
    exact ⟨⟨h.expander, h.hooks⟩, view_keep (congrArg Option.isSome hcache)⟩
  | write event => exact ⟨(h.write event).2.2, (h.write event).2.1⟩
  | elapse pause change => exact ⟨⟨h.expander, h.hooks⟩, rfl⟩

theorem shop_perform (h : desk.InTune) (deed : Deed σ) : (desk.perform deed).shop = desk.shop :=
  congrArg Desk.shop (h.perform deed).2

theorem session_perform (h : desk.InTune) (deed : Deed σ) :
    (desk.perform deed).session = desk.shop.perform deed desk.session :=
  congrArg Desk.session (h.perform deed).2

theorem performAll (h : desk.InTune) (deeds : List (Deed σ)) :
    (desk.performAll deeds).InTune ∧
      (desk.performAll deeds).view = ⟨desk.shop, desk.shop.performAll deeds desk.session⟩ := by
  induction deeds generalizing desk with
  | nil => exact ⟨h, rfl⟩
  | cons deed rest ih =>
    have hrest := ih (h.perform deed).1
    rwa [h.shop_perform, h.session_perform] at hrest

theorem shop_performAll (h : desk.InTune) (deeds : List (Deed σ)) :
    (desk.performAll deeds).shop = desk.shop :=
  congrArg Desk.shop (h.performAll deeds).2

theorem session_performAll (h : desk.InTune) (deeds : List (Deed σ)) :
    (desk.performAll deeds).session = desk.shop.performAll deeds desk.session :=
  congrArg Desk.session (h.performAll deeds).2

/-- What is seen of deeds at a desk in tune is what is seen of them in its session. -/
theorem seen (h : desk.InTune) {α : Type} {seeAt : Deed σ → WiredDesk σ → Option α}
    {see : Shop σ → Deed σ → Session σ → Option α}
    (hsee : ∀ deed (desk : WiredDesk σ), seeAt deed desk = see desk.shop deed desk.session)
    (deeds : List (Deed σ)) :
    Deed.seen WiredDesk.perform seeAt deeds desk =
      Deed.seen desk.shop.perform (see desk.shop) deeds desk.session := by
  induction deeds generalizing desk with
  | nil => rfl
  | cons deed rest ih =>
    rw [Deed.seen, Deed.seen, ih (h.perform deed).1, h.shop_perform, h.session_perform, hsee]

end InTune

/-! ### After a write -/

theorem inTune_start {settings : Settings} {schema : Schema} {engine : Engine σ} {world : σ}
    {lexicons : Nat → Lexicon σ} {capacities : Nat → Nat}
    (h : start settings schema engine world lexicons capacities = .ok desk) :
    desk.InTune ∧ ∀ number, desk.caches number = .ofCapacity (capacities number) := by
  rw [start] at h
  cases hplanner : Planner.ofSettings schema settings with
  | error fault => rw [hplanner] at h; cases h
  | ok planner =>
    rw [hplanner] at h
    cases h
    exact ⟨⟨rfl, rfl⟩, fun _ => rfl⟩

/-- With new caches a session has no listing. -/
theorem kept?_of_caches {capacities : Nat → Nat}
    (h : ∀ number, desk.caches number = .ofCapacity (capacities number)) (key : String) :
    desk.session.kept? key = none := by
  change (desk.cache.map desk.caches).bind _ = none
  cases desk.cache with
  | none => rfl
  | some number =>
    rw [Option.map_some, h]
    exact BoundedCache.kept?_ofCapacity _ key

/-- A new desk is in tune, however it is fitted and whatever is done at it, and all its listings are
those of its index. -/
theorem inIndex_of_start {settings : Settings} {schema : Schema} {engine : Engine σ} {world : σ}
    {lexicons : Nat → Lexicon σ} {capacities : Nat → Nat}
    (h : start settings schema engine world lexicons capacities = .ok desk)
    (fittings : List (Fitting σ)) (before : List (Deed σ)) :
    ((desk.fitAll fittings).performAll before).InTune ∧
      Shop.InIndex ((desk.fitAll fittings).performAll before).shop.settings.index
        ((desk.fitAll fittings).performAll before).session := by
  obtain ⟨hstart, hcaches⟩ := inTune_start h
  have hfitted := hstart.fitAll fittings
  rw [← desk.caches_fitAll fittings] at hcaches
  refine ⟨(hfitted.performAll before).1, ?_⟩
  rw [hfitted.shop_performAll, hfitted.session_performAll]
  refine Shop.InIndex.performAll (fun key listing hlisting => ?_) before
  rw [kept?_of_caches hcaches] at hlisting
  cases hlisting

/-! #### What is handed out and left behind -/

/-- The search that a deed at a desk is: the filter that it goes by, its words widened, and the
listing that it hands out. -/
def served? (deed : Deed σ) (desk : WiredDesk σ) : Option Shop.Served :=
  match deed with
  | .search filter =>
    some ⟨(desk.shop.expanded filter desk.session).1, (search filter desk).1⟩
  | _ => none

theorem served?_eq (deed : Deed σ) (desk : WiredDesk σ) :
    desk.served? deed = desk.shop.served? deed desk.session := by
  cases deed <;> rfl

/-- **What comes of expanding a text at a desk** whose guard has come so far: the lexicon of the
expander is looked up, with the map that is found a step is made from what the look-up leaves, and
the expander keeps its lexicon, which stays as the look-up leaves it. -/
def ExpandsInto {α : Type} (desk : WiredDesk σ) (guarded : Guarded σ)
    (step : SynonymMap → StateM (Session σ) α) (expansion : Expansion) (outcome : α × WiredDesk σ) :
    Prop :=
  let lexicon := desk.lexicons desk.expander
  ∃ thesaurus world,
    lexicon.thesaurus.Expands lexicon.source (guarded.clock + 1) guarded.world expansion thesaurus
        world ∧
      let answered := step expansion.map
        ({ desk.session with guarded := guarded }.expandedBy expansion thesaurus world)
      outcome.1 = answered.1 ∧ outcome.2.view = ⟨desk.shop, answered.2⟩ ∧
        outcome.2.expander = desk.expander ∧
        outcome.2.lexicons desk.expander = ⟨lexicon.source, thesaurus⟩

/-- **A deed at a desk goes by an expansion**: what a search hands out and leaves behind comes of
it, and so do counts, once the engine's health is known. -/
inductive GoesBy (desk : WiredDesk σ) (expansion : Expansion) : Deed σ → Prop
  | search {filter : Filter}
    (outcome : desk.ExpandsInto desk.guarded (desk.shop.runBy filter desk.guarded.clock) expansion
      (search filter desk)) :
    GoesBy desk expansion (.search filter)
  | facets {filter : Filter} {taxonomies : List String}
    (outcome : desk.ExpandsInto (Guard.healthy desk.engine desk.guarded).2
      (desk.shop.facetsBy filter taxonomies) expansion (facets filter taxonomies desk)) :
    GoesBy desk expansion (.facets filter taxonomies)

/-- **Deeds at a desk go by fresh maps**, given the expansions since some time: each that expands a
text goes by a fresh expansion. -/
inductive Freshly : List Expansion → WiredDesk σ → List (Deed σ) → Prop
  | nil {since : List Expansion} {desk : WiredDesk σ} : Freshly since desk []
  | expands {since : List Expansion} {desk : WiredDesk σ} {deed : Deed σ} {rest : List (Deed σ)}
    {expansion : Expansion} (widens : desk.shop.Widens deed desk.session)
    (goes : desk.GoesBy expansion deed) (fresh : expansion.IsFresh since)
    (later : Freshly (since ++ [expansion]) (desk.perform deed) rest) :
    Freshly since desk (deed :: rest)
  | other {since : List Expansion} {desk : WiredDesk σ} {deed : Deed σ} {rest : List (Deed σ)}
    (plain : ¬desk.shop.Widens deed desk.session) (later : Freshly since (desk.perform deed) rest) :
    Freshly since desk (deed :: rest)

/-- What is done in the session of a desk is done at the desk. -/
theorem ExpandsInto.through {α : Type} {guarded : Guarded σ}
    {step : SynonymMap → StateM (Session σ) α} {expansion : Expansion}
    {act : Shop σ → StateM (Session σ) α}
    (hcache : (act desk.shop desk.session).2.cache.isSome = desk.session.cache.isSome)
    (h : { desk.session with guarded := guarded }.ExpandsInto desk.shop.synonyms step expansion
      (act desk.shop desk.session)) :
    desk.ExpandsInto guarded step expansion (through act desk) := by
  obtain ⟨thesaurus, world, hexpands, houtcome, hleft⟩ := h
  refine ⟨thesaurus, world, hexpands, congrArg Prod.fst houtcome, ?_, rfl, ?_⟩
  · exact (view_keep hcache).trans (congrArg (Desk.mk _) (congrArg Prod.snd houtcome))
  · rw [← hleft]
    exact if_pos rfl

/-- **A deed that expands a text goes by an expansion.** -/
theorem exists_goesBy {deed : Deed σ} (h : desk.shop.Widens deed desk.session) :
    ∃ expansion, desk.GoesBy expansion deed := by
  cases deed with
  | search filter =>
    obtain ⟨expansion, hinto⟩ := Shop.exists_expandsInto_run h
    exact ⟨expansion, .search (.through (desk.shop.isSome_cache_run filter desk.session) hinto)⟩
  | facets filter taxonomies =>
    obtain ⟨expansion, hinto⟩ := Shop.exists_expandsInto_facets h
    have hcache := desk.shop.cache_facets filter taxonomies desk.session
    exact ⟨expansion, .facets (.through (congrArg Option.isSome hcache) hinto)⟩
  | write event => exact h.elim
  | elapse pause change => exact h.elim

theorem ExpandsInto.isFresh {α : Type} {guarded : Guarded σ}
    {step : SynonymMap → StateM (Session σ) α} {expansion : Expansion} {outcome : α × WiredDesk σ}
    {since : List Expansion} (h : desk.ExpandsInto guarded step expansion outcome)
    (hfresh : desk.session.thesaurus.IsFresh since) :
    expansion.IsFresh since ∧ outcome.2.session.thesaurus.IsFresh (since ++ [expansion]) := by
  obtain ⟨thesaurus, world, hexpands, -, -, hexpander, hleft⟩ := h
  have hsession : outcome.2.session.thesaurus = thesaurus := by
    change (outcome.2.lexicons outcome.2.expander).thesaurus = thesaurus
    rw [hexpander, hleft]
  rw [hsession]
  exact hfresh.expands hexpands

/-- **An expansion at a desk with a fresh lexicon is fresh**, and the lexicon stays so. -/
theorem GoesBy.isFresh {deed : Deed σ} {expansion : Expansion} {since : List Expansion}
    (h : desk.GoesBy expansion deed) (hfresh : desk.session.thesaurus.IsFresh since) :
    expansion.IsFresh since ∧
      (desk.perform deed).session.thesaurus.IsFresh (since ++ [expansion]) := by
  cases h with
  | search outcome => exact outcome.isFresh hfresh
  | facets outcome => exact outcome.isFresh hfresh

/-- **From a fresh lexicon on** deeds at a desk in tune go by fresh maps. -/
theorem InTune.freshly {since : List Expansion} (h : desk.InTune)
    (hfresh : desk.session.thesaurus.IsFresh since) (deeds : List (Deed σ)) :
    Freshly since desk deeds := by
  induction deeds generalizing desk since with
  | nil => exact .nil
  | cons deed rest ih =>
    by_cases hwidens : desk.shop.Widens deed desk.session
    · obtain ⟨expansion, hgoes⟩ := exists_goesBy hwidens
      obtain ⟨hexpansion, hafter⟩ := hgoes.isFresh hfresh
      exact .expands hwidens hgoes hexpansion (ih (h.perform deed).1 hafter)
    · refine .other hwidens (ih (h.perform deed).1 ?_)
      rw [h.session_perform]
      exact Shop.isFresh_of_not_widens hfresh hwidens

/-- **Nothing from before a write is left after it.** However a new desk is fitted, and whatever is done
at it before and after a write:

* the write leaves no listing, and what a search finds later was delivered by the engine to a search
  since, under the same key;
* after a write to the synonyms the first deed that expands a text loads them from the source of the
  expander, and nothing that deeds hand out or leave behind comes of a map loaded before. -/
theorem fresh_after_write {settings : Settings} {schema : Schema} {engine : Engine σ} {world : σ}
    {lexicons : Nat → Lexicon σ} {capacities : Nat → Nat}
    (h : start settings schema engine world lexicons capacities = .ok desk)
    (fittings : List (Fitting σ)) (before later : List (Deed σ)) (event : WriteEvent) :
    let told := ((desk.fitAll fittings).performAll before).perform (.write event)
    let last := told.performAll later
    (∀ key, told.session.kept? key = none) ∧
      (∀ filter, (search filter last).1.source = .cache →
        ∃ earlier ∈ Deed.seen perform served? later told,
          Shop.Delivered earlier.listing ∧
            last.shop.key earlier.filter =
              last.shop.key (last.shop.expanded filter last.session).1 ∧
            (search filter last).1 = { earlier.listing with
              source := .cache, latency := (search filter last).1.latency }) ∧
      (event = .synonymsChanged → Freshly [] told later) := by
  obtain ⟨hbefore, hindex⟩ := inIndex_of_start h fittings before
  generalize (desk.fitAll fittings).performAll before = written at hbefore hindex ⊢
  intro told last
  -- from the write on all is done in the session
  have htold : told.InTune := (hbefore.perform (.write event)).1
  have hshop : told.shop = written.shop := hbefore.shop_perform _
  have hsession : told.session = written.shop.perform (.write event) written.session :=
    hbefore.session_perform _
  refine ⟨?_, fun filter hsource => ?_, fun hevent => htold.freshly ?_ later⟩
  · rw [hsession]
    exact hindex.kept?_write event
  · have hlastShop : last.shop = written.shop := (htold.shop_performAll later).trans hshop
    have hlast : last.session = written.shop.performAll later told.session := by
      rw [← hshop]
      exact htold.session_performAll later
    have hserved : Deed.seen perform served? later told =
        Deed.seen written.shop.perform written.shop.served? later told.session := by
      rw [← hshop]
      exact htold.seen served?_eq later
    have hrun : (search filter last).1 = (written.shop.run filter last.session).1 := by
      rw [← hlastShop]
      rfl
    rw [hrun] at hsource ⊢
    rw [hserved, hlastShop, hsession]
    rw [hsession] at hlast
    exact hindex.of_cache event later hlast hsource
  · rw [hsession, hevent]
    exact Shop.isFresh_write written.session

/-- A lexicon with a single group of synonyms. -/
def shadesOfRed : Lexicon Unit :=
  ⟨Thesaurus.fixed [⟨"red", ["crimson"]⟩], .ofTtl 1000⟩

/-- A desk over an engine that never finds anything. -/
def sparseDesk : WiredDesk Unit :=
  bare .standard .products (.ofFunction fun _ => .ok .empty) () (fun _ => shadesOfRed) fun _ => 10

/-- The desk with a cache, synonyms and a second cache, after a search for a text and a write to the
synonyms. -/
def sparseDeskTold (red : Filter) : WiredDesk Unit :=
  ((sparseDesk.fitAll [.cache 0, .synonyms 1, .cache 1]).performAll
    [.search red]).perform (.write .synonymsChanged)

/-- The same search again is not answered from the cache, and loads the synonyms that it goes by. -/
theorem fresh_after_write_sparseDesk :
    let red : Filter := { Filter.products with text := some "red" }
    start .standard (Schema.products "products" []) (.ofFunction fun _ => .ok .empty) ()
        (fun _ => shadesOfRed) (fun _ => 10) = .ok sparseDesk ∧
      (∀ key, (sparseDeskTold red).session.kept? key = none) ∧
      (search red (sparseDeskTold red)).1.source ≠ .cache ∧
      ∃ expansion, (sparseDeskTold red).GoesBy expansion (.search red) ∧ expansion.load ≠ none := by
  intro red
  have hstart : start .standard (Schema.products "products" [])
      (.ofFunction fun _ => .ok .empty) () (fun _ => shadesOfRed) (fun _ => 10) =
        .ok sparseDesk := by
    rw [start, Planner.ofSettings_products]
    rfl
  obtain ⟨hkept, hserved, -⟩ := fresh_after_write hstart
    [.cache 0, .synonyms 1, .cache 1] [.search red] [] .synonymsChanged
  obtain ⟨-, -, hfreshly⟩ := fresh_after_write hstart
    [.cache 0, .synonyms 1, .cache 1] [.search red] [.search red] .synonymsChanged
  refine ⟨hstart, hkept, fun hsource => ?_, ?_⟩
  · obtain ⟨earlier, hmem, -⟩ := hserved red hsource
    cases hmem
  · cases hfreshly rfl with
    | @expands _ _ _ _ expansion _ hgoes hfresh _ => exact ⟨expansion, hgoes, hfresh.reloads rfl⟩
    | other hplain _ => exact absurd ⟨nofun, nofun⟩ hplain

end Storefront.WiredDesk
