import Storefront.Listing.Key
import Storefront.Proofs.Filter.Canonical

/-!
# One search, written in several ways

The same search can be written as many filters: lists in any order and with repetitions, names with
blanks around them, terms among others that are none, the two prices the wrong way round. Two
filters that differ in nothing else are of one search (`Filter.SameSearch`):

| part | may differ in | compared by |
| --- | --- | --- |
| text | blanks at its ends | `trim` |
| types, statuses | order, repetitions, blanks at the ends | `SameItems`, once trimmed |
| identifiers | order, repetitions | `SameItems` |
| attributes | blanks around names, order, repetitions, terms below one | `Filter.SameAttributes` |
| prices | which of two finite ones is the lesser | `Filter.SamePrices` |

All filters of one search have one normal form (`Filter.SameSearch.normalize_eq`). So they have the
same statements, letter by letter, and one place in the cache.

For attributes this needs that no taxonomy is spelled in two ways within one filter: of two
spellings the last counts, and which one is last depends on the blanks.
-/

namespace Storefront

open Text

/-! ### Texts and lists -/

/-- The same items, in any order and any number. -/
def SameItems {α : Type} (items others : List α) : Prop :=
  ∀ item, item ∈ items ↔ item ∈ others

instance {α : Type} [DecidableEq α] (items others : List α) : Decidable (SameItems items others) :=
  decidable_of_iff ((∀ item ∈ items, item ∈ others) ∧ ∀ item ∈ others, item ∈ items)
    ⟨fun h item => ⟨h.1 item, h.2 item⟩, fun h => ⟨fun item => (h item).1, fun item => (h item).2⟩⟩

theorem map_ascendingIds_congr {ids others : Option (List Int)}
    (h : Option.Rel SameItems ids others) :
    ids.map ascendingIds = others.map ascendingIds := by
  cases h with
  | none => rfl
  | some hsame => rw [Option.map_some, Option.map_some, ascendingIds_congr hsame]

/-- Texts that are the same when trimmed leave the same text to search for. -/
theorem bind_trimmed?_congr {text other : Option String} (h : text.map trim = other.map trim) :
    text.bind trimmed? = other.bind trimmed? := by
  cases text with
  | none =>
    obtain rfl : other = none := Option.map_eq_none_iff.1 h.symm
    rfl
  | some s =>
    obtain ⟨t, rfl, htrim⟩ := Option.map_eq_some_iff.1 h.symm
    rw [Option.bind_some, Option.bind_some, trimmed?, trimmed?, htrim]

namespace Filter

/-! ### Attributes -/

/-- The same positive terms, combined alike. -/
structure SameTerms (filter other : TermFilter) : Prop where
  combinator : filter.combinator = other.combinator
  terms : SameItems (filter.terms.filter (0 < ·)) (other.terms.filter (0 < ·))

instance (filter other : TermFilter) : Decidable (SameTerms filter other) :=
  decidable_of_iff (filter.combinator = other.combinator ∧
    SameItems (filter.terms.filter (0 < ·)) (other.terms.filter (0 < ·)))
    ⟨fun h => ⟨h.1, h.2⟩, fun h => ⟨h.combinator, h.terms⟩⟩

theorem SameTerms.positiveTerms_eq {filter other : TermFilter} (h : SameTerms filter other) :
    positiveTerms filter = positiveTerms other := by
  rw [positiveTerms, positiveTerms, ascendingIds_congr h.terms, h.combinator]

variable {attributes others : SortedMap String TermFilter}

/-- Each attribute has a counterpart: the same terms under a name that differs by blanks alone. -/
def HasCounterparts (attributes others : SortedMap String TermFilter) : Prop :=
  ∀ taxonomy filter, attributes.get? taxonomy = some filter →
    ∃ spelling other, others.get? spelling = some other ∧ trim taxonomy = trim spelling ∧
      SameTerms filter other

theorem hasCounterparts_iff :
    HasCounterparts attributes others ↔ ∀ e ∈ attributes.entries, ∃ other ∈ others.entries,
      trim e.1 = trim other.1 ∧ SameTerms e.2 other.2 := by
  constructor
  · intro h e he
    obtain ⟨spelling, other, hget, hsame⟩ := h e.1 e.2 (SortedMap.mem_entries_iff.1 he)
    exact ⟨(spelling, other), SortedMap.mem_entries_iff.2 hget, hsame⟩
  · intro h taxonomy filter hget
    obtain ⟨other, hother, hsame⟩ := h (taxonomy, filter) (SortedMap.mem_entries_iff.2 hget)
    exact ⟨other.1, other.2, SortedMap.mem_entries_iff.1 hother, hsame⟩

instance : Decidable (HasCounterparts attributes others) :=
  decidable_of_iff _ hasCounterparts_iff.symm

/-- **The same attributes**, no name among them twice. -/
structure SameAttributes (attributes others : SortedMap String TermFilter) : Prop where
  distinct : DistinctNames attributes
  distinct_others : DistinctNames others
  counterparts : HasCounterparts attributes others
  counterparts_others : HasCounterparts others attributes

/-- What the normal form has, that of the counterparts has as well. -/
theorem HasCounterparts.get?_normalAttributes (h : HasCounterparts attributes others)
    (hdistinct : DistinctNames attributes) (hothers : DistinctNames others) {taxonomy : String}
    {terms : TermFilter} (hget : (normalAttributes attributes).get? taxonomy = some terms) :
    (normalAttributes others).get? taxonomy = some terms := by
  obtain ⟨spelling, raw, hraw, hpair⟩ := hdistinct.get?_normalAttributes_iff.1 hget
  obtain ⟨spelling', raw', hraw', htrim, hsame⟩ := h spelling raw hraw
  refine hothers.get?_normalAttributes_iff.2 ⟨spelling', raw', hraw', ?_⟩
  rw [normalPair?_eq_some_iff] at hpair ⊢
  rwa [← htrim, ← hsame.positiveTerms_eq]

theorem SameAttributes.normalAttributes_eq (h : SameAttributes attributes others) :
    normalAttributes attributes = normalAttributes others := by
  refine SortedMap.ext_get? fun taxonomy => Option.ext fun terms => ⟨?_, ?_⟩
  · exact h.counterparts.get?_normalAttributes h.distinct h.distinct_others
  · exact h.counterparts_others.get?_normalAttributes h.distinct_others h.distinct

/-! ### Prices -/

/-- **The same two prices**, as they are or, if both are finite, the other way round. -/
inductive SamePrices :
    Option Binary64 → Option Binary64 → Option Binary64 → Option Binary64 → Prop where
  | same (low high : Option Binary64) : SamePrices low high low high
  | swapped {price other : Binary64} (hprice : price.isFinite = true)
      (hother : other.isFinite = true) :
      SamePrices (some price) (some other) (some other) (some price)

/-- Prices of which none is below the other are the same. -/
theorem IsPrice.eq_of_not_lt {price other : Binary64} (hprice : IsPrice price)
    (hother : IsPrice other) (h : price.lt other = false) (h' : other.lt price = false) :
    price = other := by
  rcases hprice.eq_zero_or_lt with rfl | hpositive
  · rcases hother.eq_zero_or_lt with rfl | hpositive
    · rfl
    · rw [hpositive] at h
      cases h
  -- both have one rank, and it is not that of the zeros
  · obtain ⟨z, hz, a, ha, hlt⟩ := Binary64.lt_iff.1 hpositive
    obtain ⟨b, hb⟩ := Binary64.exists_rank?_of_isFinite hother.isFinite
    have hnot : ¬ a < b := fun hab =>
      Bool.eq_false_iff.1 h (Binary64.lt_iff.2 ⟨a, ha, b, hb, hab⟩)
    have hnot' : ¬ b < a := fun hba =>
      Bool.eq_false_iff.1 h' (Binary64.lt_iff.2 ⟨b, hb, a, ha, hba⟩)
    obtain rfl : 0 = z := Option.some.inj hz
    obtain rfl : a = b := by omega
    exact Binary64.eq_of_rank?_eq ha hb (by omega)

theorem SamePrices.priceBounds_eq {low high low' high' : Option Binary64}
    (h : SamePrices low high low' high') : priceBounds low high = priceBounds low' high' := by
  cases h with
  | same => rfl
  | @swapped price other hprice hother =>
    have hbound {x : Binary64} (hx : x.isFinite = true) :
        priceBound (some x) = some (x.max .zero) := by
      rw [priceBound, Option.filter_some_pos hx, Option.map_some]
    have hisPrice := isPrice_of_mem_priceBound (hbound hprice)
    have hisPrice' := isPrice_of_mem_priceBound (hbound hother)
    simp only [priceBounds, hbound hprice, hbound hother]
    by_cases hlt : (other.max .zero).lt (price.max .zero) = true
    · rw [if_pos hlt, if_neg (by rw [Binary64.lt_asymm hlt]; exact Bool.false_ne_true)]
    · rw [if_neg hlt]
      split_ifs with hlt'
      · rfl
      · rw [hisPrice.eq_of_not_lt hisPrice' (Bool.eq_false_iff.2 hlt') (Bool.eq_false_iff.2 hlt)]

/-! ### Whole filters -/

/-- **Two filters of one search**: they differ in nothing but the way it is written. -/
structure SameSearch (filter other : Filter) : Prop where
  text : filter.text.map trim = other.text.map trim
  wording : filter.wording = other.wording
  postTypes : SameItems (filter.postTypes.map trim) (other.postTypes.map trim)
  postStatuses : SameItems (filter.postStatuses.map trim) (other.postStatuses.map trim)
  category : filter.category = other.category
  tag : filter.tag = other.tag
  attributes : SameAttributes filter.attributes other.attributes
  prices : SamePrices filter.minPrice filter.maxPrice other.minPrice other.maxPrice
  stock : filter.stock = other.stock
  minRating : filter.minRating = other.minRating
  includeIds : Option.Rel SameItems filter.includeIds other.includeIds
  excludeIds : SameItems filter.excludeIds other.excludeIds
  includeHidden : filter.includeHidden = other.includeHidden
  order : filter.order = other.order
  page : filter.page = other.page
  pageSize : filter.pageSize = other.pageSize
  inStockFirst : filter.inStockFirst = other.inStockFirst

/-- **All filters of one search have one normal form.** -/
theorem SameSearch.normalize_eq {filter other : Filter} (h : filter.SameSearch other)
    (defaultPageSize limit : Nat) :
    filter.normalize defaultPageSize limit = other.normalize defaultPageSize limit := by
  simp only [normalize, bind_trimmed?_congr h.text, h.wording, namesOr_congr h.postTypes,
    namesOr_congr h.postStatuses, h.category, h.tag, h.attributes.normalAttributes_eq,
    h.prices.priceBounds_eq, h.stock, h.minRating, map_ascendingIds_congr h.includeIds,
    ascendingIds_congr h.excludeIds, h.includeHidden, h.order, h.page, h.pageSize, h.inStockFirst]

end Filter

/-! ### Statements and keys -/

/-- **Two filters are planned alike**: all their statements are the same, letter by letter, and so
are the places of their listings in the cache. -/
structure Planner.PlansAlike (planner : Planner) (filter other : Filter) : Prop where
  select : (planner.plan filter).select.render = (planner.plan other).select.render
  count : (planner.plan filter).count.render = (planner.plan other).count.render
  countByStock : (planner.countByStock filter).render = (planner.countByStock other).render
  facet : ∀ field limit,
    (planner.facet filter field limit).render = (planner.facet other field limit).render
  key : ∀ index, (planner.plan filter).key index filter.inStockFirst =
    (planner.plan other).key index other.inStockFirst

theorem Planner.PlansAlike.refl (planner : Planner) (filter : Filter) :
    planner.PlansAlike filter filter :=
  ⟨rfl, rfl, rfl, fun _ _ => rfl, fun _ => rfl⟩

/-- **How a search is written never splits the cache**: two filters of one search have the same
normal form, and every planner plans them alike. -/
theorem Filter.SameSearch.plansAlike {filter other : Filter} (h : filter.SameSearch other)
    (defaultPageSize limit : Nat) :
    filter.normalize defaultPageSize limit = other.normalize defaultPageSize limit ∧
      ∀ planner : Planner, planner.PlansAlike (filter.normalize defaultPageSize limit)
        (other.normalize defaultPageSize limit) := by
  rw [h.normalize_eq]
  exact ⟨rfl, fun planner => .refl planner _⟩

/-- A search with something in each of its parts. -/
def tidySearch : Filter :=
  { Filter.products with
    text := some "red shoes"
    postTypes := ["page", "product"]
    attributes := .ofList [("pa_color", ⟨[5, 7], .any⟩), ("pa_size", ⟨[3], .all⟩)]
    minPrice := some (.ofNat 10)
    maxPrice := some (.ofNat 50)
    includeIds := some [1, 2, 3]
    excludeIds := [4] }

/-- The same search, as it might be typed. -/
def untidySearch : Filter :=
  { Filter.products with
    text := some "\tred shoes "
    postTypes := [" product", "page", "product "]
    attributes := .ofList [("pa_color ", ⟨[7, 0, 5, 7], .any⟩), (" pa_size", ⟨[3, -1, 3], .all⟩)]
    minPrice := some (.ofNat 50)
    maxPrice := some (.ofNat 10)
    includeIds := some [3, 1, 2, 1]
    excludeIds := [4, 4] }

/-- The two are planned alike. -/
theorem plansAlike_tidySearch :
    tidySearch ≠ untidySearch ∧ tidySearch.SameSearch untidySearch ∧
      tidySearch.normalize 12 100 = untidySearch.normalize 12 100 ∧
      ∀ planner : Planner, planner.PlansAlike (tidySearch.normalize 12 100)
        (untidySearch.normalize 12 100) := by
  have hprices : Filter.SamePrices tidySearch.minPrice tidySearch.maxPrice untidySearch.minPrice
      untidySearch.maxPrice := .swapped (by decide +kernel) (by decide +kernel)
  have hattributes : Filter.SameAttributes tidySearch.attributes untidySearch.attributes :=
    ⟨by decide +kernel, by decide +kernel, by decide +kernel, by decide +kernel⟩
  have hsame : tidySearch.SameSearch untidySearch :=
    { text := by decide +kernel
      wording := rfl
      postTypes := by decide +kernel
      postStatuses := by decide +kernel
      category := rfl
      tag := rfl
      attributes := hattributes
      prices := hprices
      stock := rfl
      minRating := rfl
      includeIds := .some (by decide)
      excludeIds := by decide
      includeHidden := rfl
      order := rfl
      page := rfl
      pageSize := rfl
      inStockFirst := rfl }
  exact ⟨by decide +kernel, hsame, hsame.plansAlike 12 100⟩

end Storefront
