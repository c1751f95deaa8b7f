import Storefront.Proofs.Filter.Parts
import Storefront.Proofs.Number.Order
import Storefront.Search.Run

/-!
# The normal form is reached in one step

The normal form of a filter is described here without the function that makes it: each field by
itself says what may be in it (`Filter.IsCanonical`). Main statements:

| statement | theorem |
| --- | --- |
| a normal form is canonical | `Filter.isCanonical_normalize` |
| exactly the canonical filters stay as they are | `Filter.normalize_eq_self_iff` |

A search puts its filter into normal form although the filter of a request is in normal form
already. By the second statement nothing comes of that (`Request.normalized_of_toFilter`): neither
the statements nor the place in the cache depend on which way a filter has come.

The two fields in which one has to look twice are the prices, where both zeros compare equal and
only the positive one stays as it is (`Filter.IsPrice`), and the attributes, where names that differ
as spelled may be alike once they are trimmed.
-/

namespace Storefront

open Text

namespace Filter

/-! ### Prices -/

/-- **A price**: finite, and not below zero. The negative zero is not one. -/
structure IsPrice (price : Binary64) : Prop where
  isFinite : price.isFinite = true
  zero_le : Binary64.zero.le price = true
  not_isNegative : price.isNegative = false

theorem isPrice_zero : IsPrice .zero := by
  constructor <;> decide +kernel

theorem isPrice_of_zero_lt {price : Binary64} (hfinite : price.isFinite = true)
    (h : Binary64.zero.lt price = true) : IsPrice price := by
  refine ⟨hfinite, Binary64.le_of_lt h, ?_⟩
  obtain ⟨a, ha, b, hb, hab⟩ := Binary64.lt_iff.1 h
  cases price with
  | nan => rfl
  | infinite => cases hfinite
  | finite negative code =>
    obtain rfl : (0 : Int) = a := Option.some.inj ha
    cases negative with
    | false => rfl
    | true =>
      obtain rfl : -(code.val : Int) = b := Option.some.inj hb
      omega

/-- A price is the positive zero or above it. -/
theorem IsPrice.eq_zero_or_lt {price : Binary64} (h : IsPrice price) :
    price = .zero ∨ Binary64.zero.lt price = true := by
  cases price with
  | nan => cases h.isFinite
  | infinite => cases h.isFinite
  | finite negative code =>
    obtain rfl : negative = false := h.not_isNegative
    by_cases hcode : code.val = 0
    · exact .inl (congrArg (Binary64.finite false) (Fin.ext hcode))
    · exact .inr (Binary64.lt_iff.2 ⟨0, rfl, code.val, rfl, by omega⟩)

theorem max_zero_of_isFinite {price : Binary64} (h : price.isFinite = true) :
    price.max .zero = if Binary64.zero.lt price then price else .zero := by
  cases price with
  | nan => cases h
  | infinite => cases h
  | finite => rfl

theorem isPrice_of_mem_priceBound {raw : Option Binary64} {price : Binary64}
    (h : price ∈ priceBound raw) : IsPrice price := by
  obtain ⟨asked, hasked, rfl⟩ := Option.map_eq_some_iff.1 h
  have hfinite := (Option.filter_eq_some_iff.1 hasked).2
  rw [max_zero_of_isFinite hfinite]
  split_ifs with hlt
  · exact isPrice_of_zero_lt hfinite hlt
  · exact isPrice_zero

theorem priceBound_eq_self {bound : Option Binary64} (h : ∀ price ∈ bound, IsPrice price) :
    priceBound bound = bound := by
  cases bound with
  | none => rfl
  | some price =>
    have hprice := h price rfl
    have hmax : price.max .zero = price := by
      rw [max_zero_of_isFinite hprice.isFinite]
      rcases hprice.eq_zero_or_lt with rfl | hlt
      · rfl
      · rw [if_pos hlt]
    rw [priceBound, Option.filter_some, if_pos hprice.isFinite, Option.map_some, hmax]

/-- **A range of prices**: each bound is a price if it is given, and the lesser comes first. -/
structure IsPriceRange (low high : Option Binary64) : Prop where
  isPrice_low : ∀ price ∈ low, IsPrice price
  isPrice_high : ∀ price ∈ high, IsPrice price
  le : ∀ least ∈ low, ∀ greatest ∈ high, Binary64.le least greatest = true

theorem isPriceRange_priceBounds (low high : Option Binary64) :
    IsPriceRange (priceBounds low high).1 (priceBounds low high).2 := by
  have hlow : ∀ price ∈ priceBound low, IsPrice price := fun _ => isPrice_of_mem_priceBound
  have hhigh : ∀ price ∈ priceBound high, IsPrice price := fun _ => isPrice_of_mem_priceBound
  rw [priceBounds]
  split
  · rename_i a b ha hb
    rw [ha] at hlow
    rw [hb] at hhigh
    split_ifs with hlt
    · exact ⟨hhigh, hlow, by simpa using Binary64.le_of_lt hlt⟩
    · have hle : a.le b = true :=
        (Binary64.le_iff_lt_eq_false (hlow a rfl).isFinite (hhigh b rfl).isFinite).2
          (Bool.eq_false_iff.2 hlt)
      exact ⟨hlow, hhigh, by simpa using hle⟩
  · -- one of the bounds is missing
    rename_i hmissing
    exact ⟨hlow, hhigh, fun least hleast greatest hgreatest =>
      (hmissing least greatest hleast hgreatest).elim⟩

theorem IsPriceRange.priceBounds_eq {low high : Option Binary64} (h : IsPriceRange low high) :
    priceBounds low high = (low, high) := by
  rw [priceBounds, priceBound_eq_self h.isPrice_low, priceBound_eq_self h.isPrice_high]
  split
  · rename_i a b
    have hle := h.le a rfl b rfl
    rw [Binary64.le_iff_lt_eq_false (h.isPrice_low a rfl).isFinite
      (h.isPrice_high b rfl).isFinite] at hle
    rw [hle]
    rfl
  · rfl

/-! ### Ratings -/

/-- **A least rating**: above zero, and at most five. -/
structure IsRating (rating : Binary64) : Prop where
  zero_lt : Binary64.zero.lt rating = true
  le_top : rating.le topRating = true

theorem topRating_eq : topRating = .finite false ⟨0x4014000000000000, by decide⟩ := by
  decide +kernel

theorem isRating_topRating : IsRating topRating := by
  have hfinite : topRating.isFinite = true := by rw [topRating_eq]; rfl
  have hpositive : Binary64.zero.lt topRating = true := by rw [topRating_eq]; decide
  exact ⟨hpositive, Binary64.le_self hfinite⟩

theorem IsRating.isFinite {rating : Binary64} (h : IsRating rating) : rating.isFinite = true := by
  obtain ⟨hpositive, htop⟩ := h
  rw [topRating_eq] at htop
  cases rating with
  | nan => exact absurd hpositive (by decide)
  | infinite negative =>
    cases negative with
    | false => exact absurd htop (by decide)
    | true => exact absurd hpositive (by decide)
  | finite => rfl

theorem min_topRating {rating : Binary64} (h : rating.isFinite = true) :
    rating.min topRating = if rating.lt topRating then rating else topRating := by
  rw [topRating_eq]
  cases rating with
  | nan => cases h
  | infinite => cases h
  | finite => rfl

theorem isRating_of_mem_ratingBound {raw : Option Binary64} {rating : Binary64}
    (h : rating ∈ ratingBound raw) : IsRating rating := by
  obtain ⟨asked, hasked, rfl⟩ := Option.map_eq_some_iff.1 h
  have hkept := (Option.filter_eq_some_iff.1 hasked).2
  rw [Bool.and_eq_true] at hkept
  rw [min_topRating hkept.1]
  split_ifs with hlt
  · exact ⟨hkept.2, Binary64.le_of_lt hlt⟩
  · exact isRating_topRating

theorem IsRating.min_topRating_eq {rating : Binary64} (h : IsRating rating) :
    rating.min topRating = rating := by
  rw [min_topRating h.isFinite]
  split_ifs with hlt
  · rfl
  -- what is at most the top and not below it has the rank of the top
  · obtain ⟨a, ha, top, htop, hle⟩ := Binary64.le_iff.1 h.le_top
    obtain ⟨z, hz, a', ha', hpos⟩ := Binary64.lt_iff.1 h.zero_lt
    obtain rfl : a = a' := Option.some.inj (ha.symm.trans ha')
    obtain rfl : 0 = z := Option.some.inj hz
    have hnot : ¬ a < top := fun hbelow => hlt (Binary64.lt_iff.2 ⟨a, ha, top, htop, hbelow⟩)
    obtain rfl : a = top := by omega
    exact Binary64.eq_of_rank?_eq htop ha (by omega)

theorem ratingBound_eq_self {bound : Option Binary64} (h : ∀ rating ∈ bound, IsRating rating) :
    ratingBound bound = bound := by
  cases bound with
  | none => rfl
  | some rating =>
    have hrating := h rating rfl
    have hkept : (rating.isFinite && Binary64.zero.lt rating) = true := by
      rw [hrating.isFinite, hrating.zero_lt, Bool.and_self]
    rw [ratingBound, Option.filter_some, if_pos hkept, Option.map_some, hrating.min_topRating_eq]

/-! ### Page sizes -/

theorem normalPageSize_bounds (default limit size : Nat) :
    1 ≤ normalPageSize default limit size ∧ normalPageSize default limit size ≤ max 1 limit := by
  rw [normalPageSize]
  omega

theorem normalPageSize_eq_self {limit size : Nat} (hleast : 1 ≤ size)
    (hgreatest : size ≤ max 1 limit) (default : Nat) :
    normalPageSize default limit size = size := by
  rw [normalPageSize, if_neg (by omega)]
  omega

/-! ### The whole filter -/

/-- **A filter in canonical form**, for a limit of the page size. -/
structure IsCanonical (limit : Nat) (filter : Filter) : Prop where
  text : ∀ text ∈ filter.text, trim text = text ∧ text ≠ ""
  wording : filter.text = none → filter.wording = none
  postTypes : NormalNames filter.postTypes
  postStatuses : NormalNames filter.postStatuses
  category : ∀ id ∈ filter.category, 0 < id
  tag : ∀ id ∈ filter.tag, 0 < id
  attributes : ∀ taxonomy terms, filter.attributes.get? taxonomy = some terms →
    NormalAttribute taxonomy terms
  prices : IsPriceRange filter.minPrice filter.maxPrice
  minRating : ∀ rating ∈ filter.minRating, IsRating rating
  includeIds : ∀ ids ∈ filter.includeIds, ids.Pairwise (· < ·)
  excludeIds : filter.excludeIds.Pairwise (· < ·)
  page : 1 ≤ filter.page
  pageSize : 1 ≤ filter.pageSize ∧ filter.pageSize ≤ max 1 limit

/-- **A normal form is canonical.** -/
theorem isCanonical_normalize (defaultPageSize limit : Nat) (filter : Filter) :
    (filter.normalize defaultPageSize limit).IsCanonical limit where
  text := fun text htext => by
    obtain ⟨raw, -, htrimmed⟩ := Option.bind_eq_some_iff.1 htext
    obtain ⟨rfl, hne⟩ := trimmed?_eq_some_iff.1 htrimmed
    exact ⟨trim_trim raw, hne⟩
  wording := fun hnone => if_pos (Option.isNone_iff_eq_none.2 hnone)
  postTypes := normalNames_namesOr (by decide +kernel) (by decide) _
  postStatuses := normalNames_namesOr (by decide +kernel) (by decide) _
  category := fun id hid => of_decide_eq_true (Option.filter_eq_some_iff.1 hid).2
  tag := fun id hid => of_decide_eq_true (Option.filter_eq_some_iff.1 hid).2
  attributes := fun _ _ => normalAttribute_of_get?
  prices := isPriceRange_priceBounds _ _
  minRating := fun _ => isRating_of_mem_ratingBound
  includeIds := fun ids hids => by
    obtain ⟨raw, -, rfl⟩ := Option.map_eq_some_iff.1 hids
    exact pairwise_ascendingIds raw
  excludeIds := pairwise_ascendingIds _
  page := Nat.le_max_right _ _
  pageSize := normalPageSize_bounds _ _ _

/-- A filter in canonical form is its own normal form. -/
theorem IsCanonical.normalize_eq {limit : Nat} {filter : Filter} (h : filter.IsCanonical limit)
    (defaultPageSize : Nat) : filter.normalize defaultPageSize limit = filter := by
  have htext : filter.text.bind trimmed? = filter.text := by
    cases htext : filter.text with
    | none => rfl
    | some text => rw [Option.bind_some, trimmed?_eq_some_iff.2 (h.text text htext)]
  have hwording : (if filter.text.isNone then none else filter.wording) = filter.wording := by
    split_ifs with hnone
    · exact (h.wording (Option.isNone_iff_eq_none.1 hnone)).symm
    · rfl
  have hpositive {id : Option Int} (hid : ∀ n ∈ id, 0 < n) : id.filter (0 < ·) = id := by
    cases id with
    | none => rfl
    | some n => exact Option.filter_some_pos (decide_eq_true (hid n rfl))
  have hinclude : filter.includeIds.map ascendingIds = filter.includeIds := by
    cases hids : filter.includeIds with
    | none => rfl
    | some ids => exact congrArg some (ascendingIds_eq_self (h.includeIds ids hids))
  have hpage : max filter.page 1 = filter.page := Nat.max_eq_left h.page
  simp only [normalize, htext, hwording, h.postTypes.namesOr_eq, h.postStatuses.namesOr_eq,
    hpositive h.category, hpositive h.tag, normalAttributes_eq_self h.attributes,
    h.prices.priceBounds_eq, ratingBound_eq_self h.minRating, hinclude,
    ascendingIds_eq_self h.excludeIds, hpage,
    normalPageSize_eq_self h.pageSize.1 h.pageSize.2]

/-- **Exactly the canonical filters are their own normal forms.** -/
theorem normalize_eq_self_iff {defaultPageSize limit : Nat} {filter : Filter} :
    filter.normalize defaultPageSize limit = filter ↔ filter.IsCanonical limit :=
  ⟨fun h => h ▸ isCanonical_normalize defaultPageSize limit filter,
    fun h => h.normalize_eq defaultPageSize⟩

/-- **The normal form is canonical, and a second time changes nothing**, whatever the filter and the
page sizes. It limits the documents to consider just if the filter does. -/
theorem isCanonical_and_idempotent (defaultPageSize limit : Nat) (filter : Filter) :
    (filter.normalize defaultPageSize limit).IsCanonical limit ∧
      ((filter.normalize defaultPageSize limit).includeIds = none ↔ filter.includeIds = none) ∧
      (filter.normalize defaultPageSize limit).normalize defaultPageSize limit =
        filter.normalize defaultPageSize limit :=
  ⟨isCanonical_normalize defaultPageSize limit filter, Option.map_eq_none_iff,
    normalize_eq_self_iff.2 (isCanonical_normalize defaultPageSize limit filter)⟩

end Filter

/-- **The filter of a request is searched by as it is.** -/
theorem Request.normalized_of_toFilter {σ : Type} {shop : Shop σ} {request : Request}
    {filter : Filter} (h : request.toFilter shop.settings = .ok filter) :
    shop.normalized filter = filter := by
  rw [toFilter] at h
  split at h
  · cases h
  · obtain rfl := Except.ok.inj h
    exact Filter.normalize_eq_self_iff.2 (Filter.isCanonical_normalize _ _ _)

end Storefront
