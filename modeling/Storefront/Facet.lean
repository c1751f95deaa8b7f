import Storefront.Engine.Basic
import Storefront.Planner

/-!
# Counting by term

Beside a listing a shop shows how many matches each term of a taxonomy has. The counts of a
taxonomy are taken with its own filter left out, so that choosing one color still shows the counts
of the others, and in one statement however many terms there are: the engine returns them as a
further result set.

There is no second source for counts. A taxonomy without a field, a fault of the engine or an
answer without counts leave the taxonomy without any.
-/

namespace Storefront

/-- The counts of one taxonomy. -/
structure FacetCounts where
  counts : SortedMap Int Nat
  /-- Whether a statement was sent, and if so whether its answer had counts. -/
  answered : Option Bool
deriving DecidableEq

namespace Filter

/-- The filter without what one taxonomy contributes to it. -/
def withoutTaxonomy (filter : Filter) (taxonomy : String) : Filter :=
  let base := filter.withoutAttribute taxonomy
  if taxonomy = Taxonomy.categories then { base with category := none }
  else if taxonomy = Taxonomy.tags then { base with tag := none }
  else base

end Filter

namespace Answer

/-- The counts in the last of several result sets. Without any match that set comes without its
columns. -/
def facetCounts? (answer : Answer) : Option (SortedMap Int Nat) :=
  if answer.sets.length < 2 then none
  else
    match answer.last? with
    | none => none
    | some set =>
      if set.rows.isEmpty then some ∅
      else
        match set.countsBy 0 Cell.id? with
        | .ok counts => some counts
        | .error _ => none

end Answer

namespace Planner

variable {m : Type → Type} [Monad m]

/-- **The counts of a taxonomy** among the matches of a filter, of at most `limit` terms. -/
def facetCounts (planner : Planner) (ask : String → m Reply) (limit : Nat) (filter : Filter)
    (taxonomy : String) : m FacetCounts := do
  match planner.schema.facetField? taxonomy with
  | none => return ⟨∅, none⟩
  | some field =>
    match ← ask (planner.facet filter field limit).render with
    | .error _ => return ⟨∅, some false⟩
    | .ok answer =>
      match answer.facetCounts? with
      | some counts => return ⟨counts, some true⟩
      | none => return ⟨∅, some false⟩

/-- **The counts of several taxonomies**, each without its own filter. -/
def facetCountsFor (planner : Planner) (ask : String → m Reply) (limit : Nat) (filter : Filter)
    (taxonomies : List String) : m (List (String × FacetCounts)) :=
  taxonomies.mapM fun taxonomy => do
    let counts ← planner.facetCounts ask limit (filter.withoutTaxonomy taxonomy) taxonomy
    return (taxonomy, counts)

end Planner

/-- The counts by taxonomy; of a taxonomy asked for twice the later ones. -/
def countsByTaxonomy (counted : List (String × FacetCounts)) :
    SortedMap String (SortedMap Int Nat) :=
  SortedMap.ofList (counted.map fun (taxonomy, facet) => (taxonomy, facet.counts))

end Storefront
