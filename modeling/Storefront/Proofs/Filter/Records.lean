import Storefront.Filter.Record
import Storefront.Listing.Key
import Storefront.Proofs.Filter.Canonical
import Storefront.Proofs.Json.Records

/-!
# Filters that are read as they were written

The record of a filter keeps apart whatever filters keep apart: a word as it stands and the
beginning of one, the three kinds of names of its enumerations, and an empty list of documents from
no list at all. So a filter in normal form is read back from the text of its record
(`Filter.readBack_normalize`), and whoever reads it asks the same and looks in the same place of the
cache.
-/

namespace Storefront

open Number

/-! ### Wordings -/

theorem Variant.ofJson?_toJson (variant : Variant) : ofJson? variant.toJson = some variant := by
  cases variant <;> rfl

theorem Variant.isExact_toJson (variant : Variant) : variant.toJson.IsExact := by
  cases variant <;> exact Json.isExact_object (by simpa using .text _) (List.nodup_singleton _)

theorem Alternatives.ofJson?_toJson (group : Alternatives) : ofJson? group.toJson = some group := by
  have hvariants := Json.list?_list fun variant (_ : variant ∈ group.variants) =>
    variant.ofJson?_toJson
  exact Json.bind_of_eq_some rfl (Json.bind_of_eq_some rfl (Json.bind_of_eq_some hvariants rfl))

theorem Alternatives.isExact_toJson (group : Alternatives) : group.toJson.IsExact :=
  Json.isExact_object (by simpa using Json.isExact_list fun variant _ => variant.isExact_toJson)
    (List.nodup_singleton _)

theorem Wording.ofJson?_toJson (wording : Wording) : ofJson? wording.toJson = some wording := by
  have hgroups := Json.list?_list fun group (_ : group ∈ wording.groups) => group.ofJson?_toJson
  exact Json.bind_of_eq_some rfl (Json.bind_of_eq_some rfl (Json.bind_of_eq_some hgroups rfl))

theorem Wording.isExact_toJson (wording : Wording) : wording.toJson.IsExact :=
  Json.isExact_object (by simpa using Json.isExact_list fun group _ => group.isExact_toJson)
    (List.nodup_singleton _)

/-! ### Sort orders and attributes -/

theorem SortOrder.ofJson?_toJson (order : SortOrder) : ofJson? order.toJson = some order := by
  obtain ⟨key, direction⟩ := order
  cases key <;> cases direction <;> rfl

theorem SortOrder.isExact_toJson (order : SortOrder) : order.toJson.IsExact := by
  have hdistinct : ["key", "direction"].Nodup := by decide
  refine Json.isExact_object ?_ hdistinct
  simp only [List.forall_mem_cons]
  exact ⟨.text _, .text _, fun _ h => nomatch h⟩

theorem TermFilter.ofJson?_toJson {filter : TermFilter} (h : ∀ id ∈ filter.terms, Json.IsId id) :
    ofJson? filter.toJson = some filter := by
  obtain ⟨terms, combinator⟩ := filter
  refine Json.bind_of_eq_some rfl ?_
  refine Json.bind_of_eq_some rfl (Json.bind_of_eq_some (Json.list?_ofIds h) ?_)
  cases combinator <;> rfl

theorem TermFilter.isExact_toJson {filter : TermFilter} (h : ∀ id ∈ filter.terms, Json.IsId id) :
    filter.toJson.IsExact := by
  have hdistinct : ["terms", "combinator"].Nodup := by decide
  refine Json.isExact_object ?_ hdistinct
  simp only [List.forall_mem_cons]
  exact ⟨Json.isExact_ofIds h, .text _, fun _ h => nomatch h⟩

theorem attributesOfJson?_attributesToJson {attributes : SortedMap String TermFilter}
    (h : ∀ entry ∈ attributes.entries, ∀ id ∈ entry.2.terms, Json.IsId id) :
    attributesOfJson? (attributesToJson attributes) = some attributes := by
  have hentries : (attributes.entries.map fun entry => (entry.1, entry.2.toJson)).mapM
      (fun member => (TermFilter.ofJson? member.2).map fun terms => (member.1, terms)) =
      some attributes.entries :=
    Json.mapM_map_eq_some fun entry hentry =>
      congrArg (Option.map _) (TermFilter.ofJson?_toJson (h entry hentry))
  exact Json.bind_of_eq_some hentries (congrArg some attributes.ofList_entries)

theorem isExact_attributesToJson {attributes : SortedMap String TermFilter}
    (h : ∀ entry ∈ attributes.entries, ∀ id ∈ entry.2.terms, Json.IsId id) :
    (attributesToJson attributes).IsExact :=
  Json.isExact_entries Function.injective_id fun entry hentry =>
    TermFilter.isExact_toJson (h entry hentry)

/-! ### Filters -/

namespace Filter

/-- **A filter of machine words.** -/
structure FitsWords (filter : Filter) : Prop where
  category : ∀ id ∈ filter.category, Json.IsId id
  tag : ∀ id ∈ filter.tag, Json.IsId id
  terms : ∀ entry ∈ filter.attributes.entries, ∀ id ∈ entry.2.terms, Json.IsId id
  includeIds : ∀ ids ∈ filter.includeIds, ∀ id ∈ ids, Json.IsId id
  excludeIds : ∀ id ∈ filter.excludeIds, Json.IsId id
  page : filter.page ≤ maxPage
  pageSize : filter.pageSize ≤ maxPage

/-- The fractional numbers of a filter: its prices and its rating. -/
def numbers (filter : Filter) : List Binary64 :=
  filter.minPrice.toList ++ filter.maxPrice.toList ++ filter.minRating.toList

variable {filter : Filter}

theorem mem_numbers {x : Binary64} :
    x ∈ filter.numbers ↔ x ∈ filter.minPrice ∨ x ∈ filter.maxPrice ∨ x ∈ filter.minRating := by
  simp [numbers]

theorem isExact_toJson (h : filter.FitsWords)
    (hnumbers : ∀ x ∈ filter.numbers, x.isFinite = true → x.survivesJson = true) :
    filter.toJson.IsExact := by
  have hcount : maxPage ≤ maxCount := by decide
  have hdistinct : fieldNames.Nodup := by decide
  have hid {id : Option Int} (h : ∀ n ∈ id, Json.IsId n) : (Json.ofOption .whole id).IsExact :=
    Json.isExact_ofOption fun n hn => .whole (Json.fitsWord_of_isId (h n hn))
  have hnumber {x : Option Binary64} (h : ∀ y ∈ x, y ∈ filter.numbers) :
      (Json.ofOption Json.ofNumber x).IsExact :=
    Json.isExact_ofOption fun y hy => Json.isExact_ofNumber (hnumbers y (h y hy))
  refine Json.isExact_object ?_ hdistinct
  simp only [List.forall_mem_cons]
  exact ⟨Json.isExact_ofOption fun _ _ => .text _,
    Json.isExact_ofOption fun wording _ => wording.isExact_toJson,
    Json.isExact_ofTexts _, Json.isExact_ofTexts _, hid h.category, hid h.tag,
    isExact_attributesToJson h.terms,
    hnumber fun y hy => mem_numbers.2 (.inl hy),
    hnumber fun y hy => mem_numbers.2 (.inr (.inl hy)),
    Json.isExact_ofOption fun _ _ => .text _,
    hnumber fun y hy => mem_numbers.2 (.inr (.inr hy)),
    Json.isExact_ofOption fun ids hids => Json.isExact_ofIds (h.includeIds ids hids),
    Json.isExact_ofIds h.excludeIds, .bool _,
    Json.isExact_ofOption fun order _ => order.isExact_toJson,
    Json.isExact_ofNat (h.page.trans hcount), Json.isExact_ofNat (h.pageSize.trans hcount),
    .bool _, fun _ h => nomatch h⟩

/-- **The record of a filter whose numbers are finite** is read as the filter. -/
theorem ofJson?_toJson (h : filter.FitsWords) (hfinite : ∀ x ∈ filter.numbers, x.isFinite = true) :
    ofJson? filter.toJson = some filter := by
  have hid {id : Option Int} (h : ∀ n ∈ id, Json.IsId n) :
      Json.absentOr? Json.id? (some (.ofOption .whole id)) = some id :=
    Json.absentOr?_ofOption (fun _ _ => by rintro ⟨⟩) fun n hn => Json.id?_whole (h n hn)
  have hnumber {x : Option Binary64} (h : ∀ y ∈ x, y ∈ filter.numbers) :
      Json.absentOr? Json.number? (some (.ofOption .ofNumber x)) = some x :=
    Json.absentOr?_ofOption
      (fun y hy => by rw [Json.ofNumber, if_pos (hfinite y (h y hy))]; rintro ⟨⟩)
      fun y hy => by rw [Json.number?_ofNumber, if_pos (hfinite y (h y hy))]
  have hstatus (status : StockStatus) :
      Json.named? StockStatus.ofName? (.text status.text) = some status := by
    cases status <;> rfl
  refine Json.bind_of_eq_some rfl ?_
  refine Json.bind_of_eq_some (Json.absentOr?_ofOption (fun _ _ => by rintro ⟨⟩) fun _ _ => rfl) ?_
  refine Json.bind_of_eq_some
    (Json.absentOr?_ofOption (fun _ _ => by rintro ⟨⟩) fun wording _ => wording.ofJson?_toJson) ?_
  refine Json.bind_of_eq_some rfl (Json.bind_of_eq_some (Json.list?_ofTexts _) ?_)
  refine Json.bind_of_eq_some rfl (Json.bind_of_eq_some (Json.list?_ofTexts _) ?_)
  refine Json.bind_of_eq_some (hid h.category) (Json.bind_of_eq_some (hid h.tag) ?_)
  refine Json.bind_of_eq_some rfl
    (Json.bind_of_eq_some (attributesOfJson?_attributesToJson h.terms) ?_)
  refine Json.bind_of_eq_some (hnumber fun y hy => mem_numbers.2 (.inl hy)) ?_
  refine Json.bind_of_eq_some (hnumber fun y hy => mem_numbers.2 (.inr (.inl hy))) ?_
  refine Json.bind_of_eq_some (Json.absentOr?_ofOption (fun _ _ => by rintro ⟨⟩) fun status _ =>
    hstatus status) ?_
  refine Json.bind_of_eq_some (hnumber fun y hy => mem_numbers.2 (.inr (.inr hy))) ?_
  refine Json.bind_of_eq_some (Json.absentOr?_ofOption (fun _ _ => by rintro ⟨⟩) fun ids hids =>
    Json.list?_ofIds (h.includeIds ids hids)) ?_
  refine Json.bind_of_eq_some rfl (Json.bind_of_eq_some (Json.list?_ofIds h.excludeIds) ?_)
  refine Json.bind_of_eq_some rfl (Json.bind_of_eq_some rfl ?_)
  refine Json.bind_of_eq_some (Json.absentOr?_ofOption (fun _ _ => by rintro ⟨⟩) fun order _ =>
    order.ofJson?_toJson) ?_
  refine Json.bind_of_eq_some rfl (Json.bind_of_eq_some (Json.upTo?_ofNat h.page) ?_)
  refine Json.bind_of_eq_some rfl (Json.bind_of_eq_some (Json.upTo?_ofNat h.pageSize) ?_)
  exact Json.bind_of_eq_some rfl (Json.bind_of_eq_some rfl rfl)

/-! ### Normal forms -/

/-- A normal form has no numbers but those of the filter, and a page size within the limit. -/
theorem FitsWords.normalize (h : filter.FitsWords) {limit : Nat} (hlimit : limit ≤ maxPage)
    (defaultPageSize : Nat) : (filter.normalize defaultPageSize limit).FitsWords where
  category := fun id hid => h.category id (Option.filter_eq_some_iff.1 hid).1
  tag := fun id hid => h.tag id (Option.filter_eq_some_iff.1 hid).1
  terms := by
    intro (taxonomy, terms) hentry id hid
    obtain ⟨spelling, raw, hraw, hpair, -⟩ :=
      get?_normalAttributes_iff.1 (SortedMap.mem_entries_iff.1 hentry)
    obtain ⟨-, -, -, rfl⟩ := normalPair?_eq_some_iff.1 hpair
    exact h.terms (spelling, raw) (SortedMap.mem_entries_iff.2 hraw) id (mem_positiveTerms.1 hid).1
  includeIds := fun ids hids id hid => by
    obtain ⟨raw, hraw, rfl⟩ := Option.map_eq_some_iff.1 hids
    exact h.includeIds raw hraw id (mem_ascendingIds.1 hid)
  excludeIds := fun id hid => h.excludeIds id (mem_ascendingIds.1 hid)
  page := max_le h.page (by decide)
  pageSize := (normalPageSize_bounds _ _ _).2.trans (max_le (by decide) hlimit)

/-- The numbers of a normal form are finite. -/
theorem isFinite_of_mem_numbers_normalize {defaultPageSize limit : Nat} {x : Binary64}
    (hx : x ∈ (filter.normalize defaultPageSize limit).numbers) : x.isFinite = true := by
  have hcanonical := isCanonical_normalize defaultPageSize limit filter
  rcases mem_numbers.1 hx with hx | hx | hx
  · exact (hcanonical.prices.isPrice_low x hx).isFinite
  · exact (hcanonical.prices.isPrice_high x hx).isFinite
  · exact (hcanonical.minRating x hx).isFinite

/-- **A filter in normal form survives its record**, if it is made of machine words and the numbers
of the normal form survive JSON. Whoever reads the record asks the same statements, and finds the
listing at the same key. -/
theorem readBack_normalize (filter : Filter) (defaultPageSize limit : Nat)
    (hwords : filter.FitsWords) (hlimit : limit ≤ maxPage)
    (hnumbers : ∀ x ∈ (filter.normalize defaultPageSize limit).numbers,
      x.isFinite = true → x.survivesJson = true) :
    ofText? (filter.normalize defaultPageSize limit).toText =
        some (filter.normalize defaultPageSize limit) ∧
      ∀ (planner : Planner) (index : String) (read : Filter),
        ofText? (filter.normalize defaultPageSize limit).toText = some read →
        planner.plan read = planner.plan (filter.normalize defaultPageSize limit) ∧
        (planner.plan read).key index read.inStockFirst =
          (planner.plan (filter.normalize defaultPageSize limit)).key index
            (filter.normalize defaultPageSize limit).inStockFirst := by
  have hread : ofText? (filter.normalize defaultPageSize limit).toText =
      some (filter.normalize defaultPageSize limit) := by
    have hfits := hwords.normalize hlimit defaultPageSize
    rw [ofText?, toText, (isExact_toJson hfits hnumbers).ofText?_render]
    exact ofJson?_toJson hfits fun x => isFinite_of_mem_numbers_normalize
  refine ⟨hread, fun planner index read hother => ?_⟩
  obtain rfl : filter.normalize defaultPageSize limit = read :=
    Option.some.inj (hread.symm.trans hother)
  exact ⟨rfl, rfl⟩

/-- A filter with something in every field: words and beginnings of words, quotes, control
characters and characters beyond the first 65536, an empty list of documents, and prices below a
cent. -/
def crowdedFilter : Filter where
  text := some " say \"hi\"\t\\ café "
  wording := some ⟨[⟨[.exact "café", .start "say\x01\x1f", .exact "😀 \x7b\x7d"]⟩, ⟨[]⟩]⟩
  postTypes := ["product", " post "]
  postStatuses := []
  category := some 5
  tag := some maxId
  attributes := SortedMap.ofList [("pa_color", ⟨[9, 3, 9], .any⟩), ("", ⟨[1], .all⟩)]
  minPrice := some (.finite false ⟨0x4048C00000000000, by decide⟩)
  maxPrice := some (.finite false ⟨0x3F50624DD2F1A9FC, by decide⟩)
  stock := some .onBackorder
  minRating := some (.finite false ⟨0x4022000000000000, by decide⟩)
  includeIds := some []
  excludeIds := [7, minId, 7]
  includeHidden := true
  order := some ⟨.menuOrder, .descending⟩
  page := 0
  pageSize := 4294967295
  inStockFirst := true

theorem readBack_crowdedFilter :
    crowdedFilter.FitsWords ∧ 100 ≤ maxPage ∧
      (∀ x ∈ (crowdedFilter.normalize 12 100).numbers,
        x.isFinite = true → x.survivesJson = true) ∧
      ofText? (crowdedFilter.normalize 12 100).toText = some (crowdedFilter.normalize 12 100) := by
  have hwords : crowdedFilter.FitsWords :=
    ⟨by decide, by decide, by decide +kernel, by decide, by decide, by decide, by decide⟩
  have hlimit : 100 ≤ maxPage := by decide
  have hnumbers : ∀ x ∈ (crowdedFilter.normalize 12 100).numbers,
      x.isFinite = true → x.survivesJson = true := by decide +kernel
  exact ⟨hwords, hlimit, hnumbers,
    (readBack_normalize crowdedFilter 12 100 hwords hlimit hnumbers).1⟩

end Filter

end Storefront
