import Storefront.Proofs.Search.Steady

/-!
# When a result cache shows

A result cache should save time and change nothing else. In a steady world that is so for a shop
without pins (`Shop.IsSteady.transparent_of_no_pins`), but not for every shop: a listing is kept with
the pinned documents of its category in front, under a key from which the category cannot be told. A
filter for a category and a filter for the same term of an attribute that shares the category's field
have the same key, and whichever comes second is shown the order of the first.

This is the only way in which the cache shows (`Shop.IsSteady.transparent_iff`): for a pool of filters
whose key texts have different digests, it is transparent exactly if the pins arrange the page alike
for any two of them with the same key text (`Shop.PinsAgree`). Everything else that a listing depends
on can be read back from the key, because the statements can (`Planner.asksAlike_of_keyText`).

* one search: what is kept is what an earlier filter of the pool decides (`Shop.Sound`), so what is
  found is what the present one does (`Shop.IsSteady.shown_run_of_sound`);
* search after search: an induction on the filters (`Shop.IsSteady.shown_mapM`);
* the other way around, two searches for filters with one key are enough
  (`Shop.IsSteady.shown_run_again`).
-/

namespace Storefront

variable {σ : Type}

namespace Shop

variable (shop : Shop σ) (steady : Steady)

/-! ### Keys and what they tell -/

/-- The text that the key of a filter is the digest of. -/
def keyTextOf (filter : Filter) : String :=
  keyText (shop.planner.plan filter).select.render (shop.planner.plan filter).count.render
    filter.inStockFirst

theorem key_eq_of_keyTextOf_eq {filter other : Filter}
    (h : shop.keyTextOf filter = shop.keyTextOf other) : shop.key filter = shop.key other := by
  change keyStem shop.settings.index ++ Digest.sha256 (shop.keyTextOf filter) =
    keyStem shop.settings.index ++ Digest.sha256 (shop.keyTextOf other)
  rw [h]

/-- A filter that leaves documents to ask for. -/
def Asks (filter : Filter) : Prop :=
  (shop.prepared filter).includeIds ≠ some []

instance (filter : Filter) : Decidable (shop.Asks filter) :=
  inferInstanceAs (Decidable ((shop.prepared filter).includeIds ≠ some []))

theorem aimed_page (filter : Filter) :
    (shop.aimed steady filter).page = max filter.page 1 ∧ 1 ≤ (shop.aimed steady filter).pageSize := by
  have hsize : 1 ≤ (shop.prepared filter).pageSize := by
    change 1 ≤ Filter.normalPageSize _ _ _
    rw [Filter.normalPageSize]
    omega
  unfold aimed widenedBy
  split
  · exact ⟨rfl, hsize⟩
  · exact ⟨rfl, hsize⟩

theorem overlay_aimed (filter : Filter) (ids : List Int) :
    shop.overlay (shop.aimed steady filter) ids = shop.overlay (shop.normalized filter) ids := by
  unfold aimed widenedBy
  split <;> rfl

/-- Filters of one key text are on the same page, and of the same size. -/
theorem page_eq {filter other : Filter}
    (h : shop.planner.AsksAlike (shop.aimed steady filter) (shop.aimed steady other)) :
    (shop.aimed steady filter).page = (shop.aimed steady other).page ∧
      (shop.aimed steady filter).pageSize = (shop.aimed steady other).pageSize := by
  obtain ⟨hpage, hsize⟩ := shop.aimed_page steady filter
  obtain ⟨hotherPage, hotherSize⟩ := shop.aimed_page steady other
  exact h.page_eq (by omega) (by omega) hsize hotherSize

theorem told_eq {filter other : Filter}
    (h : shop.planner.AsksAlike (shop.aimed steady filter) (shop.aimed steady other)) :
    shop.told steady (shop.aimed steady filter) = shop.told steady (shop.aimed steady other) :=
  h.pageDialogue.resolve_eq steady.answer

/-- **Filters of one key text** have the same listing exactly if the pins arrange its page alike. -/
theorem listed_eq_iff {filter other : Filter} (hasks : shop.Asks filter) (hother : shop.Asks other)
    (hkey : shop.keyTextOf (shop.aimed steady filter) = shop.keyTextOf (shop.aimed steady other))
    {rows : PageRows} (htold : shop.told steady (shop.aimed steady filter) = .ok rows) :
    shop.listed steady filter = shop.listed steady other ↔
      shop.overlay (shop.normalized filter) rows.ids =
        shop.overlay (shop.normalized other) rows.ids := by
  have halike := Planner.asksAlike_of_keyText hkey
  obtain ⟨hpage, hsize⟩ := shop.page_eq steady halike
  have hotherTold := (shop.told_eq steady halike).symm.trans htold
  rw [listed, listed, if_neg hasks, if_neg hother, htold, hotherTold]
  simp only [pinned_eq, overlay_aimed, listingOf, Listing.ofIds, Listing.shown, hpage, hsize,
    Listing.mk.injEq, and_true, true_and]

/-! ### Pools of filters -/

/-- The key texts of the filters of a pool have different digests. -/
def DigestsDiffer (pool : Filter → Prop) : Prop :=
  ∀ filter other, pool filter → pool other →
    shop.key (shop.aimed steady filter) = shop.key (shop.aimed steady other) →
    shop.keyTextOf (shop.aimed steady filter) = shop.keyTextOf (shop.aimed steady other)

/-- **The pins agree** on the filters of a pool: if two of them have the same key text, the pins
arrange the page that the engine delivers for both of them alike. -/
def PinsAgree (pool : Filter → Prop) : Prop :=
  ∀ filter other rows, pool filter → pool other → shop.Asks filter → shop.Asks other →
    shop.keyTextOf (shop.aimed steady filter) = shop.keyTextOf (shop.aimed steady other) →
    shop.told steady (shop.aimed steady filter) = .ok rows →
    shop.overlay (shop.normalized filter) rows.ids = shop.overlay (shop.normalized other) rows.ids

/-- **A result cache is transparent** to the searches for the filters of a pool: whatever its
capacity and whatever is searched for, one after the other, all listings are what they are without
it, but for their source and the time that they took. -/
def Transparent (pool : Filter → Prop) (s : Session σ) : Prop :=
  ∀ (capacity : Nat) (filters : List Filter), (∀ filter ∈ filters, pool filter) →
    (filters.mapM shop.run (s.withCache capacity)).1.map Listing.shown =
      (filters.mapM shop.run s).1.map Listing.shown

/-- **What a session keeps is sound**: at each key it is what some filter of the pool decides that has
the key. -/
def Sound (pool : Filter → Prop) (s : Session σ) : Prop :=
  ∀ key listing, s.kept? key = some listing → ∃ filter rows, pool filter ∧ shop.Asks filter ∧
    key = shop.key (shop.aimed steady filter) ∧
    shop.told steady (shop.aimed steady filter) = .ok rows ∧
    listing.shown = shop.listed steady filter

variable {shop steady} {pool : Filter → Prop} {s : Session σ}

theorem sound_of_nothing (h : ∀ key, s.kept? key = none) : shop.Sound steady pool s := by
  intro key listing hkept
  rw [h] at hkept
  cases hkept

/-- Without pins there is nothing to agree on. -/
theorem pinsAgree_of_no_pins (h : shop.pins = none) (pool : Filter → Prop) :
    shop.PinsAgree steady pool := by
  intro filter other rows _ _ _ _ _ _
  simp only [overlay, h]

namespace IsSteady

/-! ### A cache that does not show -/

/-- **A search keeps what is sound.** -/
theorem sound_run (h : shop.IsSteady steady) (hs : s.Calm steady.groups)
    (hsound : shop.Sound steady pool s) {filter : Filter} (hpool : pool filter) :
    shop.Sound steady pool (shop.run filter s).2 := by
  intro key listing hkept
  obtain hbefore | hkeeps := shop.kept?_run hkept
  · exact hsound key listing hbefore
  have hexpanded := (h.expanded hs filter).1
  obtain ⟨after, rows, last, harrives, -, hpage, rfl⟩ := hkeeps.page
  have htold := (h.led (h.arrives hs harrives).2 (shop.expanded filter s).1).1
  rw [hpage, hexpanded] at htold
  refine ⟨filter, rows, hpool, harrives.something, ?_, htold.symm, ?_⟩
  · rw [hkeeps.key, hexpanded]
  · rw [listed, if_neg harrives.something, ← htold, hexpanded]

/-- **What is found is what the filter decides**, if what is kept is sound and the pins agree. -/
theorem shown_run_of_sound (h : shop.IsSteady steady) (hs : s.Calm steady.groups)
    (hdigests : shop.DigestsDiffer steady pool) (hpins : shop.PinsAgree steady pool)
    (hsound : shop.Sound steady pool s) {filter : Filter} (hpool : pool filter) :
    (shop.run filter s).1.shown = shop.listed steady filter := by
  obtain ⟨-, hlisted | ⟨hasks, kept, hkept, hshown⟩⟩ := h.shown_run hs filter
  · exact hlisted
  · obtain ⟨other, rows, hother, hotherAsks, hkey, htold, hkeptShown⟩ := hsound _ _ hkept
    -- it was made for a filter with the same key text, and there the pins agree
    have htext := hdigests other filter hother hpool hkey.symm
    rw [hshown, hkeptShown, shop.listed_eq_iff steady hotherAsks hasks htext htold]
    exact hpins other filter rows hother hpool hotherAsks hasks htext htold

/-- **Search after search** hands out what the filters decide, if each does and an invariant of the
session carries over from one to the next. -/
theorem shown_mapM {filters : List Filter} {I : Session σ → Prop}
    (hstep : ∀ filter ∈ filters, ∀ s, I s →
      (shop.run filter s).1.shown = shop.listed steady filter ∧ I (shop.run filter s).2)
    (hs : I s) :
    (filters.mapM shop.run s).1.map Listing.shown = filters.map (shop.listed steady) := by
  induction filters generalizing s with
  | nil => rfl
  | cons filter rest ih =>
    obtain ⟨hfirst, hnext⟩ := hstep filter (List.mem_cons_self ..) s hs
    have htail := ih (fun other hother => hstep other (List.mem_cons_of_mem _ hother)) hnext
    rw [List.mapM_cons]
    change Listing.shown (shop.run filter s).1 ::
      (rest.mapM shop.run (shop.run filter s).2).1.map Listing.shown = _
    rw [hfirst, htail, List.map_cons]

/-- Without a cache all listings are what the filters decide. -/
theorem shown_mapM_of_no_cache (h : shop.IsSteady steady) (hs : s.Calm steady.groups)
    (hcache : s.cache = none) (filters : List Filter) :
    (filters.mapM shop.run s).1.map Listing.shown = filters.map (shop.listed steady) := by
  refine shown_mapM (I := fun s => s.Calm steady.groups ∧ s.cache = none) ?_ ⟨hs, hcache⟩
  rintro filter - s ⟨hs, hcache⟩
  obtain ⟨hcalm, hlisted | ⟨-, kept, hkept, -⟩⟩ := h.shown_run hs filter
  · exact ⟨hlisted, hcalm, shop.cache_run_of_none hcache filter⟩
  · rw [Session.kept?, hcache] at hkept
    cases hkept

/-- With a cache they are, too, if the pins agree. -/
theorem shown_mapM_of_pinsAgree (h : shop.IsSteady steady) (hs : s.Calm steady.groups)
    (hdigests : shop.DigestsDiffer steady pool) (hpins : shop.PinsAgree steady pool)
    (hsound : shop.Sound steady pool s) {filters : List Filter}
    (hpool : ∀ filter ∈ filters, pool filter) :
    (filters.mapM shop.run s).1.map Listing.shown = filters.map (shop.listed steady) := by
  refine shown_mapM (I := fun s => s.Calm steady.groups ∧ shop.Sound steady pool s) ?_ ⟨hs, hsound⟩
  rintro filter hfilter s ⟨hs, hsound⟩
  exact ⟨h.shown_run_of_sound hs hdigests hpins hsound (hpool filter hfilter),
    (h.shown_run hs filter).1, h.sound_run hs hsound (hpool filter hfilter)⟩

/-! ### A cache that shows -/

/-- A search looks for its listing at once, or after a look-up in the thesaurus. -/
theorem clock_expanded_le (shop : Shop σ) (filter : Filter) (s : Session σ) :
    (shop.expanded filter s).2.clock ≤ s.clock + 1 := by
  rw [Shop.expanded]
  cases htext : (shop.prepared filter).text with
  | none =>
    rw [shop.widened_of_none htext]
    exact Nat.le_succ _
  | some text =>
    rw [shop.widened_of_some htext, Session.synonyms_eq]
    split <;> exact Nat.le_refl _

/-- The listing that the engine has just delivered is the last thing that is written. -/
theorem exists_set_of_delivered (h : shop.IsSteady steady) (hs : s.Calm steady.groups)
    {cache : BoundedCache Listing} (hcache : s.cache = some cache)
    (hnothing : ∀ key, s.kept? key = none) {filter : Filter} (hasks : shop.Asks filter)
    {rows : PageRows} (htold : shop.told steady (shop.aimed steady filter) = .ok rows) :
    ∃ before : BoundedCache Listing, (shop.run filter s).2.cache =
      some (before.set (shop.run filter s).2.clock shop.settings.resultTtl
        (shop.key (shop.aimed steady filter))
        (shop.pinned (shop.aimed steady filter) (listingOf (shop.aimed steady filter) rows))) := by
  obtain ⟨outcome, hroute, hrun⟩ := shop.exists_route filter s
  have hexpanded := (h.expanded hs filter).1
  cases hroute with
  | cut hnone => exact absurd hnone hasks
  | kept _ hfound =>
    obtain ⟨kept, hkept, -⟩ := shop.kept?_of_cached (congrArg Prod.fst hfound)
    rw [Session.kept?_of_cache_eq (shop.cache_expanded filter s), hnothing] at hkept
    cases hkept
  | down harrives hdown => cases (h.arrives hs harrives).1.symm.trans hdown
  | failed harrives _ hpage =>
    have hled := (h.led (h.arrives hs harrives).2 (shop.expanded filter s).1).1
    rw [hpage, hexpanded, htold] at hled
    cases hled
  | @delivered after last page harrives _ hpage =>
    have hled := (h.led (h.arrives hs harrives).2 (shop.expanded filter s).1).1
    rw [hpage, hexpanded, htold] at hled
    obtain rfl := Except.ok.inj hled
    -- there is still a cache when the page has been delivered
    obtain ⟨current, hcurrent⟩ : ∃ current, last.cache = some current := by
      have hmissing := harrives.missing
      rw [shop.cached_of_some ((shop.cache_expanded filter s).trans hcache)] at hmissing
      have hlast := (shop.cache_led hpage).trans (shop.cache_engineIsUp after)
      rw [← (Prod.mk.inj hmissing).2] at hlast
      exact ⟨_, hlast⟩
    obtain ⟨hclock, hset⟩ := shop.cache_deliver hcurrent (shop.expanded filter s).1 page
    rw [hrun, ← hexpanded]
    refine ⟨current, hset.trans ?_⟩
    rw [← hclock]
    rfl

/-- **Two searches for filters with one key**, the first of a session that keeps nothing: the second
is shown what the first filter decides. -/
theorem shown_run_again (h : shop.IsSteady steady) (hs : s.Calm steady.groups)
    {cache : BoundedCache Listing} (hcache : s.cache = some cache)
    (hnothing : ∀ key, s.kept? key = none) {filter other : Filter} (hasks : shop.Asks filter)
    (hother : shop.Asks other)
    (hkey : shop.key (shop.aimed steady filter) = shop.key (shop.aimed steady other))
    {rows : PageRows} (htold : shop.told steady (shop.aimed steady filter) = .ok rows)
    (httl : 2 ≤ shop.settings.resultTtl) :
    (shop.run other (shop.run filter s).2).1.shown = shop.listed steady filter := by
  obtain ⟨before, hset⟩ := h.exists_set_of_delivered hs hcache hnothing hasks htold
  obtain ⟨hcalm, -⟩ := h.shown_run hs filter
  generalize (shop.run filter s).2 = t at hset hcalm
  obtain ⟨hexpanded, -⟩ := h.expanded hcalm other
  have hlater := clock_expanded_le shop other t
  have hkept := (shop.cache_expanded other t).trans hset
  rw [shop.run_of_something hother t, respond_eq, shop.cached_of_some hkept, hexpanded, ← hkey,
    BoundedCache.get_set _ _ _ (by omega), listed, if_neg hasks, htold]
  rfl

/-- **If the cache is transparent, the pins agree.** -/
theorem pinsAgree_of_transparent (h : shop.IsSteady steady) (hs : s.Calm steady.groups)
    (hcache : s.cache = none) (httl : 2 ≤ shop.settings.resultTtl)
    (htransparent : shop.Transparent pool s) : shop.PinsAgree steady pool := by
  intro filter other rows hfilter hother hasks hotherAsks hkey htold
  -- two searches show the difference, and a cache that holds one listing
  have hcalm : (s.withCache 1).Calm steady.groups := hs.of_eq rfl rfl
  have hnothing (key : String) : (s.withCache 1).kept? key = none := rfl
  have hboth := htransparent 1 [filter, other] (by simp [hfilter, hother])
  rw [h.shown_mapM_of_no_cache hs hcache] at hboth
  change [(shop.run filter (s.withCache 1)).1.shown,
      (shop.run other (shop.run filter (s.withCache 1)).2).1.shown] =
    [shop.listed steady filter, shop.listed steady other] at hboth
  rw [h.shown_run_again hcalm rfl hnothing hasks hotherAsks
    (shop.key_eq_of_keyTextOf_eq hkey) htold httl] at hboth
  exact (shop.listed_eq_iff steady hasks hotherAsks hkey htold).1
    (List.cons.inj (List.cons.inj hboth).2).1

/-- **If the pins agree, the cache is transparent.** -/
theorem transparent_of_pinsAgree (h : shop.IsSteady steady) (hs : s.Calm steady.groups)
    (hcache : s.cache = none) (hdigests : shop.DigestsDiffer steady pool)
    (hpins : shop.PinsAgree steady pool) : shop.Transparent pool s := by
  intro capacity filters hpool
  have hcalm : (s.withCache capacity).Calm steady.groups := hs.of_eq rfl rfl
  have hnothing (key : String) : (s.withCache capacity).kept? key = none := rfl
  rw [h.shown_mapM_of_no_cache hs hcache]
  exact h.shown_mapM_of_pinsAgree hcalm hdigests hpins (sound_of_nothing hnothing) hpool

/-- A shop without pins has a transparent cache. -/
theorem transparent_of_no_pins (h : shop.IsSteady steady) (hs : s.Calm steady.groups)
    (hcache : s.cache = none) (hdigests : shop.DigestsDiffer steady pool)
    (hpins : shop.pins = none) : shop.Transparent pool s :=
  h.transparent_of_pinsAgree hs hcache hdigests (pinsAgree_of_no_pins hpins pool)

/-- **When a result cache shows.** In a steady world, from a calm session without a cache: to the
searches for a pool of filters whose key texts have different digests, a cache is transparent
exactly if the pins agree on the pool. All that this uses of the circuit is that it trusts an engine
that never failed (`Circuit.trusts_recloser`). -/
theorem transparent_iff (h : shop.IsSteady steady) (hs : s.Calm steady.groups)
    (hcache : s.cache = none) (httl : 2 ≤ shop.settings.resultTtl)
    (hdigests : shop.DigestsDiffer steady pool) :
    shop.Transparent pool s ↔ shop.PinsAgree steady pool :=
  ⟨h.pinsAgree_of_transparent hs hcache httl, h.transparent_of_pinsAgree hs hcache hdigests⟩

end IsSteady

/-! ### A shop whose cache shows -/

/-- What an engine answers that has found the documents 1 and 2, in this order. -/
def twoFound : Steady where
  answer text :=
    if text.toList.take 9 = "SELECT id".toList then .single ⟨["id"], [[.whole 1], [.whole 2]]⟩
    else .single ⟨["count(*)"], [[.whole 2]]⟩
  groups := []
  page _ := .ok ⟨[], 0⟩

/-- A shop in which document 2 is pinned to the front of category 5. -/
def pinning : Shop Unit where
  settings := .standard
  planner := .products
  engine := .ofFunction fun text => .ok (twoFound.answer text)
  synonyms := Thesaurus.noSource
  origin := none
  pins := some ⟨[⟨5, 2, 1⟩]⟩

/-- The session of a shop in which nothing has happened. -/
def newSession : Session Unit :=
  .start Settings.standard.circuit Settings.standard.healthInterval ()

theorem isSteady_pinning : pinning.IsSteady twoFound :=
  ⟨fun _ _ => rfl, fun _ => rfl, fun _ => rfl, fun _ _ _ _ horigin => by cases horigin⟩

/-- The products of category 5. -/
def ofCategory : Filter :=
  { Filter.products with category := some 5 }

/-- The products with term 5 of an attribute that shares its field with the categories. -/
def ofAttribute : Filter :=
  { Filter.products with attributes := SortedMap.ofList [("category", ⟨[5], .any⟩)] }

theorem keyTextOf_ofAttribute :
    pinning.keyTextOf (pinning.aimed twoFound ofCategory) =
      pinning.keyTextOf (pinning.aimed twoFound ofAttribute) := by
  decide +kernel

theorem told_ofCategory :
    pinning.told twoFound (pinning.aimed twoFound ofCategory) = .ok ⟨[1, 2], ∅, 2, 2⟩ := by
  decide +kernel

/-- The pin moves document 2 to the front of the category, and leaves the page of the attribute. -/
theorem overlay_ofCategory :
    pinning.overlay (pinning.normalized ofCategory) [1, 2] = [2, 1] ∧
      pinning.overlay (pinning.normalized ofAttribute) [1, 2] = [1, 2] := by
  refine ⟨?_, rfl⟩
  change PinBoard.apply ⟨[⟨5, 2, 1⟩]⟩ 5 [1, 2] = [2, 1]
  simp [PinBoard.apply, PinBoard.precedes, PinBoard.position?, List.mergeSort,
    List.MergeSort.Internal.splitInTwo]

/-- **The two filters have one key and two listings**: with a cache, whoever searches for the attribute
after the category is shown the pinned document first. So a cache is not transparent to all
searches, though the digests of its keys differ where the key texts do. -/
theorem not_forall_transparent :
    ¬∀ (shop : Shop Unit) (steady : Steady) (s : Session Unit) (pool : Filter → Prop),
      shop.IsSteady steady → s.Calm steady.groups → s.cache = none →
      2 ≤ shop.settings.resultTtl → shop.DigestsDiffer steady pool →
      shop.Transparent pool s := by
  intro hall
  have hdigests : pinning.DigestsDiffer twoFound (· ∈ [ofCategory, ofAttribute]) := by
    intro filter other hfilter hother _
    simp only [List.mem_cons, List.not_mem_nil, or_false] at hfilter hother
    rcases hfilter with rfl | rfl <;> rcases hother with rfl | rfl
    · rfl
    · exact keyTextOf_ofAttribute
    · exact keyTextOf_ofAttribute.symm
    · rfl
  have htransparent := hall pinning twoFound newSession _ isSteady_pinning
    (Session.calm_start _ _ _ _) rfl (by decide) hdigests
  have hagree := isSteady_pinning.pinsAgree_of_transparent (Session.calm_start _ _ _ _) rfl
    (by decide) htransparent ofCategory ofAttribute ⟨[1, 2], ∅, 2, 2⟩ (by simp) (by simp)
    (by decide +kernel) (by decide +kernel) keyTextOf_ofAttribute told_ofCategory
  rw [overlay_ofCategory.1, overlay_ofCategory.2] at hagree
  exact absurd hagree (by decide)

/-- To those who search for the category alone the cache of the same shop is transparent. -/
theorem transparent_ofCategory : pinning.Transparent (· = ofCategory) newSession := by
  refine (isSteady_pinning.transparent_iff (Session.calm_start _ _ _ _) rfl (by decide) ?_).2 ?_
  · rintro filter other rfl rfl _
    rfl
  · rintro filter other rows rfl rfl _ _ _ _
    rfl

end Shop

end Storefront
