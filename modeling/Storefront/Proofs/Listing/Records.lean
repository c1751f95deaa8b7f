import Storefront.Listing.Record
import Storefront.Proofs.Json.Records
import Storefront.Proofs.Search.Steps

/-!
# Listings that are read as they were kept

An external cache keeps a listing as the text of its record. The text is read as the same listing as
long as all scores are finite: their identifiers, the counts and the latency come back from their
digits, whatever they are. A score that is not finite is written as `null`, and then nothing is read
at all (`Listing.readBack_toText`).

Such scores can be reached. The relevance of a document is what the engine says in a cell, and a
cell may say `inf` (`Listing.not_forall_readBack_run`).
-/

namespace Storefront

open Number

/-! ### Scores and latency -/

theorem scoreId?_toString {id : Int} (h : Json.IsId id) : scoreId? (toString id) = some id := by
  rw [scoreId?, Json.leadingNumber?_toString (Json.fitsWord_of_isId h)]
  exact Json.id?_whole h

/-- **Scores are read if all of them are finite**, and else nothing is. -/
theorem scoresOfJson?_scoresToJson {scores : SortedMap Int Binary64}
    (h : ∀ entry ∈ scores.entries, Json.IsId entry.1) :
    scoresOfJson? (scoresToJson scores) =
      if scores.entries.all fun entry => entry.2.isFinite then some scores else none := by
  -- along the entries: each is read if its score is finite
  have hentries {entries : List (Int × Binary64)} (h : ∀ entry ∈ entries, Json.IsId entry.1) :
      (entries.map fun entry => (toString entry.1, Json.ofNumber entry.2)).mapM
          (fun member => do
            let id ← scoreId? member.1
            let score ← member.2.number?
            pure (id, score)) =
        if entries.all fun entry => entry.2.isFinite then some entries else none := by
    induction entries with
    | nil => rfl
    | cons entry more ih =>
      obtain ⟨hentry, hmore⟩ := List.forall_mem_cons.1 h
      rw [List.map_cons, List.mapM_cons, ih hmore]
      by_cases hfinite : entry.2.isFinite = true
      · simp only [scoreId?_toString hentry, Json.number?_ofNumber, List.all_cons, hfinite, if_true,
          Bool.true_and]
        split_ifs <;> rfl
      · simp only [scoreId?_toString hentry, Json.number?_ofNumber, List.all_cons, hfinite,
          Bool.false_and]
        rfl
  change (List.mapM _ _ >>= _) = _
  rw [hentries h]
  split_ifs
  · exact congrArg some scores.ofList_entries
  · rfl

theorem isExact_scoresToJson {scores : SortedMap Int Binary64}
    (h : ∀ entry ∈ scores.entries, entry.2.isFinite = true → entry.2.survivesJson = true) :
    (scoresToJson scores).IsExact :=
  Json.isExact_entries toString_int_injective fun entry hentry =>
    Json.isExact_ofNumber (h entry hentry)

theorem restNanos_le (span : Nat) : Span.restNanos span ≤ maxPage := by
  have hlt : Span.restNanos span < Span.perSecond := Nat.mod_lt span (by decide)
  have hle : Span.perSecond ≤ maxPage := by decide
  exact Nat.le_of_lt (Nat.lt_of_lt_of_le hlt hle)

/-- A span of time is the same in seconds and nanoseconds. -/
theorem spanOfJson?_spanToJson {span : Nat} (h : Span.wholeSeconds span ≤ maxCount) :
    spanOfJson? (spanToJson span) = some span := by
  have hspan : Span.seconds (Span.wholeSeconds span) + Span.restNanos span = span :=
    Nat.div_add_mod' span Span.perSecond
  have hnames : hasOnly ["secs", "nanos"] (spanToJson span) = true := rfl
  refine Json.bind_of_eq_some rfl ?_
  refine Json.bind_of_eq_some rfl (Json.bind_of_eq_some (Json.upTo?_ofNat h) ?_)
  refine Json.bind_of_eq_some rfl (Json.bind_of_eq_some (Json.upTo?_ofNat (restNanos_le span)) ?_)
  simp only [hspan, hnames, h, decide_true, Bool.and_self, if_true]
  rfl

theorem isExact_spanToJson {span : Nat} (h : Span.wholeSeconds span ≤ maxCount) :
    (spanToJson span).IsExact := by
  have hcount : maxPage ≤ maxCount := by decide
  have hdistinct : ["secs", "nanos"].Nodup := by decide
  refine Json.isExact_object ?_ hdistinct
  simp only [List.forall_mem_cons]
  exact ⟨Json.isExact_ofNat h, Json.isExact_ofNat ((restNanos_le span).trans hcount),
    fun _ h => nomatch h⟩

/-! ### Listings -/

namespace Listing

/-- **A listing of machine words.** -/
structure FitsWords (listing : Listing) : Prop where
  total : listing.total ≤ maxCount
  ids : ∀ id ∈ listing.ids, Json.IsId id
  scored : ∀ entry ∈ listing.scores.entries, Json.IsId entry.1
  latency : Span.wholeSeconds listing.latency ≤ maxCount
  page : listing.page ≤ maxPage
  pageSize : listing.pageSize ≤ maxPage
  maxPages : listing.maxPages ≤ maxCount

/-- Whether all scores are finite. -/
def allFinite (listing : Listing) : Bool :=
  listing.scores.entries.all fun entry => entry.2.isFinite

variable {listing : Listing}

/-- **The record of a listing** is read as the listing if all scores are finite, and else not at
all. -/
theorem ofJson?_toJson (h : listing.FitsWords) :
    ofJson? listing.toJson = if listing.allFinite then some listing else Option.none := by
  have hsource : Source.ofName? listing.source.name = some listing.source := by
    cases listing.source <;> rfl
  refine Json.bind_of_eq_some rfl ?_
  refine Json.bind_of_eq_some rfl (Json.bind_of_eq_some (Json.upTo?_ofNat h.total) ?_)
  refine Json.bind_of_eq_some rfl (Json.bind_of_eq_some (Json.list?_ofIds h.ids) ?_)
  refine Json.bind_of_eq_some rfl ?_
  rw [scoresOfJson?_scoresToJson h.scored, ← allFinite]
  split_ifs
  · refine Json.bind_of_eq_some rfl ?_
    refine Json.bind_of_eq_some rfl (Json.bind_of_eq_some (spanOfJson?_spanToJson h.latency) ?_)
    refine Json.bind_of_eq_some rfl (Json.bind_of_eq_some rfl ?_)
    refine Json.bind_of_eq_some rfl (Json.bind_of_eq_some hsource ?_)
    refine Json.bind_of_eq_some rfl (Json.bind_of_eq_some (Json.upTo?_ofNat h.page) ?_)
    refine Json.bind_of_eq_some rfl (Json.bind_of_eq_some (Json.upTo?_ofNat h.pageSize) ?_)
    exact Json.bind_of_eq_some rfl (Json.bind_of_eq_some (Json.upTo?_ofNat h.maxPages) rfl)
  · rfl

theorem isExact_toJson (h : listing.FitsWords)
    (hscores : ∀ entry ∈ listing.scores.entries,
      entry.2.isFinite = true → entry.2.survivesJson = true) : listing.toJson.IsExact := by
  have hcount : maxPage ≤ maxCount := by decide
  have hdistinct : fieldNames.Nodup := by decide
  refine Json.isExact_object ?_ hdistinct
  simp only [List.forall_mem_cons]
  exact ⟨Json.isExact_ofNat h.total, Json.isExact_ofIds h.ids, isExact_scoresToJson hscores,
    isExact_spanToJson h.latency, .bool _, .text _, Json.isExact_ofNat (h.page.trans hcount),
    Json.isExact_ofNat (h.pageSize.trans hcount), Json.isExact_ofNat h.maxPages,
    fun _ h => nomatch h⟩

/-- **What an external cache reads of what it keeps.** A listing of machine words is read as it was
written if all its scores are finite, and else nothing is read; every finite score has to survive
JSON. -/
theorem readBack_toText (h : listing.FitsWords)
    (hscores : ∀ entry ∈ listing.scores.entries,
      entry.2.isFinite = true → entry.2.survivesJson = true) :
    ofText? listing.toText = if listing.allFinite then some listing else Option.none := by
  rw [ofText?, toText, (isExact_toJson h hscores).ofText?_render]
  exact ofJson?_toJson h

/-- A page of a very large catalog, with scores below and above zero. -/
def rankedListing : Listing where
  total := maxCount
  ids := [minId, 7, 7]
  scores := SortedMap.ofList
    [(7, .finite false ⟨0x3FF8000000000000, by decide⟩),
     (minId, .finite true ⟨0x3FB999999999999A, by decide⟩)]
  latency := 1500000000
  fallback := false
  source := .cache
  page := 1
  pageSize := 12
  maxPages := 1537228672809129302

theorem readBack_rankedListing :
    rankedListing.FitsWords ∧
      (∀ entry ∈ rankedListing.scores.entries,
        entry.2.isFinite = true → entry.2.survivesJson = true) ∧
      ofText? rankedListing.toText = some rankedListing := by
  have hfits : rankedListing.FitsWords :=
    ⟨by decide, by decide, by decide +kernel, by decide, by decide, by decide, by decide⟩
  have hscores : ∀ entry ∈ rankedListing.scores.entries,
      entry.2.isFinite = true → entry.2.survivesJson = true := by decide +kernel
  refine ⟨hfits, hscores, (readBack_toText hfits hscores).trans (if_pos ?_)⟩
  decide +kernel

/-- A shop whose engine ranks a document above all others. -/
def boundlessShop : Shop Unit :=
  .answering (.found ⟨["id", "relevance"], [[.whole 7, .text "inf"]]⟩ 1)

/-- **A search may hand out a listing that does not survive an external cache**, though every finite
score of it does. -/
theorem not_forall_readBack_run :
    ¬∀ (shop : Shop Unit) (filter : Filter) (s : Session Unit),
      (∀ entry ∈ (shop.run filter s).1.scores.entries,
        entry.2.isFinite = true → entry.2.survivesJson = true) →
      ofText? (shop.run filter s).1.toText = some (shop.run filter s).1 := by
  intro hall
  have hscores : (boundlessShop.run Filter.products .unused).1.scores.entries =
      [(7, .infinite false)] := by decide +kernel
  have hread := hall boundlessShop Filter.products .unused (by rw [hscores]; decide)
  have hnothing : ofText? (boundlessShop.run Filter.products .unused).1.toText =
      Option.none := by decide +kernel
  cases hnothing.symm.trans hread

end Listing

end Storefront
