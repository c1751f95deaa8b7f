import Storefront.Filter.Normal
import Storefront.Proofs.Planner.Recovery

/-!
# What a key promises

A listing is found under a key by whoever has the same key, so a key promises that the engine would
have been asked the same and that the same would have been made of its answers. The key is the
digest of a page and a count, neither of which is limited to what is in stock, and yet the promise
is kept where everything in stock comes first and quite different statements are sent: all that
these depend on can be read back from the two (`Planner.asksAlike_of_keyText`).

`Planner.fetchPage_eq_of_key` is the promise, for any engine and with a record of all that it is
asked. That digests tell key texts apart is assumed of the two texts at hand, since it cannot hold
of all texts.
-/

namespace Storefront

open Digest

/-- Dialogues that ask alike are led alike, whoever is asked. -/
theorem Dialogue.Alike.run_eq {α : Type} {m : Type → Type} [Monad m] {dialogue other : Dialogue α}
    (h : dialogue.Alike other) (ask : String → ExceptT EngineFault m Answer) :
    dialogue.run ask = other.run ask := by
  induction h with
  | done result => rfl
  | ask htext _ ih =>
    rw [run, run, htext]
    exact bind_congr ih

/-- **A filter in normal form**, whatever its words have been widened to. -/
def Filter.IsNormal (filter : Filter) : Prop :=
  ∃ (defaultPageSize maxPageSize : Nat) (raw : Filter) (wording : Option Wording),
    filter = { raw.normalize defaultPageSize maxPageSize with wording := wording }

theorem Filter.isNormal_normalize (defaultPageSize maxPageSize : Nat) (raw : Filter) :
    (raw.normalize defaultPageSize maxPageSize).IsNormal :=
  ⟨defaultPageSize, maxPageSize, raw, (raw.normalize defaultPageSize maxPageSize).wording, rfl⟩

/-- A filter in normal form is on a page, and the page has room. -/
theorem Filter.IsNormal.one_le {filter : Filter} (h : filter.IsNormal) :
    1 ≤ filter.page ∧ 1 ≤ filter.pageSize := by
  obtain ⟨defaultPageSize, maxPageSize, raw, wording, rfl⟩ := h
  refine ⟨Nat.le_max_right _ _, ?_⟩
  change 1 ≤ normalPageSize _ _ _
  rw [normalPageSize]
  omega

namespace Planner

/-- The text that the key of a filter is the digest of. -/
def keyTextOf (planner : Planner) (filter : Filter) : String :=
  keyText (planner.plan filter).select.render (planner.plan filter).count.render
    filter.inStockFirst

/-- **Filters of one key are fetched alike**: they are on the same page of the same size, both with
everything in stock first or neither, and whatever the engine does, it is asked the same statements
in the same order for both, and the same rows or the same fault are made of its answers. -/
theorem fetchPage_eq_of_key {planner : Planner} {filter other : Filter} {index : String}
    (hfilter : filter.IsNormal) (hother : other.IsNormal)
    (hdigest : sha256 (planner.keyTextOf filter) = sha256 (planner.keyTextOf other) →
      planner.keyTextOf filter = planner.keyTextOf other)
    (hkey : (planner.plan filter).key index filter.inStockFirst =
      (planner.plan other).key index other.inStockFirst) :
    filter.inStockFirst = other.inStockFirst ∧ filter.page = other.page ∧
      filter.pageSize = other.pageSize ∧
      ∀ {σ : Type} (engine : Engine σ) (s : Witnessed σ),
        (planner.fetchPage engine.witnessed.asking filter).run s =
          (planner.fetchPage engine.witnessed.asking other).run s := by
  have halike : planner.AsksAlike filter other :=
    asksAlike_of_keyText (hdigest ((String.append_right_inj _).1 hkey))
  obtain ⟨hpage, hsize⟩ :=
    halike.page_eq hfilter.one_le.1 hother.one_le.1 hfilter.one_le.2 hother.one_le.2
  refine ⟨halike.inStockFirst, hpage, hsize, fun engine s => ?_⟩
  rw [fetchPage_eq_run, fetchPage_eq_run, halike.pageDialogue.run_eq]

/-- The third page of a category, everything in stock first. -/
def ofCategory : Filter :=
  Filter.normalize 12 100
    { Filter.products with category := some 5, page := 3, inStockFirst := true }

/-- The third page of a term of an attribute that is indexed in the field of the categories. -/
def ofTerm : Filter :=
  Filter.normalize 12 100
    { Filter.products with
      attributes := .ofList [(" category ", ⟨[5], .any⟩)], page := 3, inStockFirst := true }

/-- Two filters that differ and have one key. -/
theorem fetchPage_ofCategory_eq_ofTerm :
    ofCategory ≠ ofTerm ∧ ofCategory.IsNormal ∧ ofTerm.IsNormal ∧
      (products.plan ofCategory).key "products" ofCategory.inStockFirst =
        (products.plan ofTerm).key "products" ofTerm.inStockFirst ∧
      ∀ {σ : Type} (engine : Engine σ) (s : Witnessed σ),
        (products.fetchPage engine.witnessed.asking ofCategory).run s =
          (products.fetchPage engine.witnessed.asking ofTerm).run s := by
  have hcategory : ofCategory.IsNormal := Filter.isNormal_normalize 12 100 _
  have hterm : ofTerm.IsNormal := Filter.isNormal_normalize 12 100 _
  have htext : products.keyTextOf ofCategory = products.keyTextOf ofTerm := by decide +kernel
  have hkey : (products.plan ofCategory).key "products" ofCategory.inStockFirst =
      (products.plan ofTerm).key "products" ofTerm.inStockFirst :=
    congrArg (fun text => keyStem "products" ++ sha256 text) htext
  refine ⟨by decide +kernel, hcategory, hterm, hkey, ?_⟩
  exact (fetchPage_eq_of_key hcategory hterm (fun _ => htext) hkey).2.2.2

end Planner

end Storefront
